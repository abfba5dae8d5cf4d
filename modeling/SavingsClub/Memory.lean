/-
A club kept in memory: the records by key, the ledger, and the events in the
order they happened.

Nothing is undone here: an operation that fails keeps the transfers it had made.
-/
import SavingsClub.Engine

namespace SavingsClub

/-- The data of a club. -/
structure Memory where
  schemes : Registry Text Scheme
  ledger : Ledger
  /-- The events, first to last; one log serves all keys. -/
  events : List Event
  deriving DecidableEq, Repr

namespace Memory

def empty : Memory := ⟨.empty, .empty, []⟩

/-- Changes the ledger unless the change is refused. -/
def keeping (f : Ledger → Except Fault Ledger) (m : Memory) :
    Except Failure Memory :=
  match f m.ledger with
  | .ok l => .ok { m with ledger := l }
  | .error e => .error (.fault e)

/-- The memory as a place that an engine works on. -/
def backend : Backend Memory where
  has key := Act.read fun m => m.schemes.has key
  get key := Act.read fun m => m.schemes.get? key
  set key s := Act.change fun m => { m with schemes := m.schemes.put key s }
  balance asset holder := Act.read fun m => m.ledger.balance asset holder
  mint asset holder amount :=
    Act.tryChange (keeping fun l => l.mint asset holder amount)
  transfer t := Act.tryChange (keeping fun l => l.transfer t)
  emit _ e := Act.change fun m => { m with events := m.events ++ [e] }
  log _ := Act.read fun m => m.events.map Event.entry

def engine (custody key : Text) : Engine Memory := ⟨backend, custody, key⟩

/-- What can be asked of a club with one scheme. -/
inductive Step where
  | scheme (op : Operation)
  | ledger (c : LedgerCall)
  /-- Changes the record by hand, past all rules. -/
  | amend (edit : Edit)
  deriving DecidableEq, Repr

/-- Takes a step at `now`. -/
def perform (custody key : Text) (now : Int) : Step → Act Memory Answer
  | .scheme op => (engine custody key).perform now op
  | .ledger c => c.perform backend
  | .amend edit => do backend.amend key edit; return .done

def run {α : Type} (m : Memory) (act : Act Memory α) :
    Except Failure α × Memory :=
  match act m with
  | .ok a m' => (.ok a, m')
  | .error f m' => (.error f, m')

/-- What a step answers, and the memory after it. -/
def step (custody key : Text) (m : Memory) (now : Int) (s : Step) :
    Except Failure Answer × Memory :=
  m.run (perform custody key now s)

end Memory

end SavingsClub
