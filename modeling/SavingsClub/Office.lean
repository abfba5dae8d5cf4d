/-
The office: many schemes in one database.

Each operation names its scheme and is a transaction of its own, so one that
fails leaves no trace but the report of its failure. All schemes share one
ledger; the money of a scheme's round is held by an account named after the
scheme. The settings say how, so they have to be readable for everything that a
scheme's engine does.
-/
import SavingsClub.Database.Session
import SavingsClub.Engine
import SavingsClub.Settings

namespace SavingsClub

/-- Where the data is kept, and the settings. -/
structure Office where
  backend : Backend Database
  settings : Except SettingsFault Settings

namespace Office

/-- The office whose database can be reached. -/
def ofSettings (s : Settings) : Office := ⟨Database.backend, .ok s⟩

def engine (o : Office) (s : Settings) (id : Text) : Engine Database :=
  ⟨o.backend, s.custodyAccount id, id⟩

/-- What can be asked of the office. -/
inductive Step where
  | scheme (id : Text) (op : Operation)
  | history (id : Text)
  | ledger (c : LedgerCall)
  /-- Changes the record of a scheme by hand, past all rules. -/
  | amend (id : Text) (edit : Edit)
  deriving DecidableEq, Repr

/-- What a step answers, and the committed rows after it. -/
def step (o : Office) (db : Database) (now : Int) :
    Step → Except Failure Answer × Database
  | .scheme id op =>
    match o.settings with
    | .error f => (.error (.settings f), db)
    | .ok s =>
      let act := (o.engine s id).perform now op
      if op.isReading then db.peek act else db.reportedTransaction act
  | .history id => db.peek (.log <$> o.backend.history id)
  | .ledger c => db.transaction (c.performShowingBalance o.backend)
  | .amend id edit => db.transaction do o.backend.amend id edit; return .done

end Office

end SavingsClub
