/-
One call on the ledger, in memory and in the database.

# The two sides

Memory and database book a call alike where both hold the same of every account:
`Booked`. Either the call is made on both sides, with the same holdings after
it, or both refuse it in the same words and nothing changes. A mint answers the
new balance in the database, and nothing in memory (`LedgerCall.shown`).

# What the database wants more

It looks for the names of a call, and of a name that does not consist of
characters there is nothing to look for. Which name that is (`LedgerCall.torn?`)
hangs on what is refused before it is looked for. And it writes the new balances
in digits, so they must not be too long.
-/
import SavingsClub.Proofs.Mirror

namespace SavingsClub

-- ======================================================================= calls

namespace Memory

/-- What the ledger answers to a call, and the memory after it. -/
def call (m : Memory) (c : LedgerCall) : Except Failure Answer × Memory :=
  m.run (c.perform backend)

variable {m : Memory} {c : LedgerCall}

/-- What a call may come to, as for any step. -/
theorem effect_of_call (m : Memory) (c : LedgerCall) :
    Effect "" "" m 0 (.ledger c) (m.call c).1 (m.call c).2 := effect_of_ledger c

/-- A call that is refused does nothing. -/
theorem call_eq_of_error {f : Failure} (hf : (m.call c).1 = .error f) :
    (m.call c).2 = m := by
  have heffect := effect_of_call m c
  rw [hf] at heffect
  generalize (m.call c).2 = m' at heffect ⊢
  cases heffect with
  | refused => rfl

/-- A call changes the ledger and nothing else. -/
theorem call_frame (m : Memory) (c : LedgerCall) :
    (m.call c).2 = { m with ledger := (m.call c).2.ledger } := by
  have heffect := effect_of_call m c
  generalize (m.call c).1 = a, (m.call c).2 = m' at heffect ⊢
  cases heffect with
  | refused | told | minted | moved => rfl

theorem call_mint_ok {asset holder : Text} {amount : Int} {l : Ledger}
    (hl : m.ledger.mint asset holder amount = .ok l) :
    m.call (.mint asset holder amount) = (.ok .done, { m with ledger := l }) :=
  run_ok (Act.bind_ok (mint_ok hl) _)

theorem call_mint_error {asset holder : Text} {amount : Int} {f : Fault}
    (hf : m.ledger.mint asset holder amount = .error f) :
    m.call (.mint asset holder amount) = (.error (.fault f), m) :=
  run_error (Act.bind_error (mint_error hf) _)

theorem call_transfer_ok {t : Transfer} {l : Ledger}
    (hl : m.ledger.transfer t = .ok l) :
    m.call (.transfer t) = (.ok .done, { m with ledger := l }) :=
  run_ok (Act.bind_ok (transfer_ok hl) _)

theorem call_transfer_error {t : Transfer} {f : Fault}
    (hf : m.ledger.transfer t = .error f) :
    m.call (.transfer t) = (.error (.fault f), m) :=
  run_error (Act.bind_error (transfer_error hf) _)

end Memory

-- ================================================================== torn names

namespace LedgerCall

/-- What is the matter with the first name that the database looks for and
cannot. What is refused whatever the balances are looks for nobody, and a
recipient is looked for once there are funds. -/
def torn? (l : Ledger) : LedgerCall → Option Text.Tear
  | balance asset holder => [asset, holder].findSome? Text.tear?
  | mint asset holder amount =>
    match mintRejection? amount with
    | some _ => none
    | none => [asset, holder].findSome? Text.tear?
  | transfer t =>
    match t.rejection? with
    | some _ => none
    | none => ([t.asset, t.sender].findSome? Text.tear?).or
      (if l.balance t.asset t.sender < t.amount then none
        else [t.asset, t.recipient].findSome? Text.tear?)

/-- What the database answers where the memory answers `a` and has the ledger
`l` afterwards: a mint shows the new balance. -/
def shown (l : Ledger) : LedgerCall → Answer → Answer
  | mint asset holder _, _ => .amount (l.balance asset holder)
  | balance .., a | transfer _, a => a

end LedgerCall

namespace Database

variable {tear : Text.Tear} {db : Database} {m : Memory} {c : LedgerCall}
  {t : Transfer} {asset holder : Text} {amount : Int}

/-- A call that looks for a torn name fails there, and nothing changes. -/
theorem perform_of_torn (h : db.holdings = m.ledger.holdings)
    (hc : c.torn? m.ledger = some tear) :
    c.performShowingBalance backend db = .error (.unsearchable tear) db := by
  cases c with
  | balance asset holder =>
      exact Act.map_error (lookUp_error (search_of_torn hc) _) Answer.amount
  | mint asset holder amount =>
      cases hrejected : mintRejection? amount with
      | some r =>
          simp only [LedgerCall.torn?, hrejected] at hc
          cases hc
      | none =>
          simp only [LedgerCall.torn?, hrejected] at hc
          refine Act.bind_error (Act.tryChange_error
            (f := fun db : Database => db.mint asset holder amount) ?_) _
          unfold mint
          rw [hrejected, search_of_torn hc]
          rfl
  | transfer t =>
      cases hrejected : t.rejection? with
      | some r =>
          simp only [LedgerCall.torn?, hrejected] at hc
          cases hc
      | none =>
          simp only [LedgerCall.torn?, hrejected] at hc
          refine Act.bind_error
            (Act.tryChange_error (f := fun db : Database => db.transfer t) ?_) _
          unfold transfer
          rw [hrejected]
          rcases Option.or_eq_some_iff.mp hc with hsender
            | ⟨hsender, hrecipient⟩
          · rw [search_of_torn hsender]
            rfl
          · rw [search_of_whole hsender]
            show (if db.balance t.asset t.sender < t.amount then _ else _) = _
            rw [balance_eq_of_holdings h]
            split at hrecipient
            · cases hrecipient
            next hfunds =>
              rw [if_neg hfunds, search_of_torn hrecipient]
              rfl

end Database

-- ===================================================================== booking

open Database in
/-- A call comes to the same in memory and in the database: made on both sides,
or refused on both. -/
inductive Booked (m : Memory) (db : Database) (c : LedgerCall) : Prop where
  | made {a : Answer} {db' : Database} (hcall : (m.call c).1 = .ok a)
      (hrows : c.performShowingBalance backend db
        = .ok (c.shown (m.call c).2.ledger a) db')
      (hholdings : db'.holdings = (m.call c).2.ledger.holdings)
      (hschemes : db'.schemes = db.schemes) (hevents : db'.events = db.events)
  | refused {f : Fault} (hcall : m.call c = (.error (.fault f), m))
      (hrows : c.performShowingBalance backend db = .error (.fault f) db)

namespace Booked

variable {db : Database} {m : Memory} {c : LedgerCall} {t : Transfer}
  {asset holder : Text} {amount : Int}

theorem of_balance (h : db.holdings = m.ledger.holdings)
    (hsearch : Database.search [asset, holder] = .ok ()) :
    Booked m db (.balance asset holder) :=
  .made rfl (Act.map_ok (Database.backend_balance h hsearch) _) h rfl rfl

theorem of_mint (h : db.holdings = m.ledger.holdings)
    (hsearch : mintRejection? amount = none →
      Database.search [asset, holder] = .ok ())
    (hshort : ∀ l, m.ledger.mint asset holder amount = .ok l → l.Legible) :
    Booked m db (.mint asset holder amount) := by
  cases hl : m.ledger.mint asset holder amount with
  | error f =>
      have hrows : db.mint asset holder amount = .error (.fault f) :=
        Database.mint_error hl
      have hrefused := Act.tryChange_error
        (f := fun db : Database => db.mint asset holder amount) hrows
      exact .refused (Memory.call_mint_error hl) (Act.bind_error hrefused _)
  | ok l =>
      have hsearch := hsearch (if_neg (Int.not_le.mpr (Ledger.mint_eq_ok hl).1))
      obtain ⟨db', hdb', hholdings, hschemes, hevents⟩ :=
        Database.mint_ok h hsearch hl (hshort l hl)
      have hmade : Database.backend.mint asset holder amount db = .ok () db' :=
        Act.tryChange_ok (f := fun db : Database => db.mint asset holder amount)
          hdb'
      have hcall := Memory.call_mint_ok hl
      refine .made (congrArg Prod.fst hcall) ?_ (by rw [hcall]; exact hholdings)
        hschemes hevents
      rw [hcall]
      show (Database.backend.mint asset holder amount >>= fun _ => _) db = _
      rw [Act.bind_ok hmade]
      exact Act.bind_ok (Database.backend_balance hholdings hsearch) _

theorem of_transfer (h : db.holdings = m.ledger.holdings)
    (hsender : t.rejection? = none →
      Database.search [t.asset, t.sender] = .ok ())
    (hrecipient : t.rejection? = none →
      t.amount ≤ m.ledger.balance t.asset t.sender →
      Database.search [t.asset, t.recipient] = .ok ())
    (hshort : ∀ l, m.ledger.transfer t = .ok l → l.Legible) :
    Booked m db (.transfer t) := by
  cases hl : m.ledger.transfer t with
  | error f =>
      have hrefused := Act.tryChange_error
        (f := fun db : Database => db.transfer t)
        (Database.transfer_error h hsender hl)
      exact .refused (Memory.call_transfer_error hl) (Act.bind_error hrefused _)
  | ok l =>
      obtain ⟨hpos, hself, hfunds, -⟩ := Ledger.transfer_eq_ok hl
      have hrejected : t.rejection? = none := by
        unfold Transfer.rejection?
        rw [if_neg (Int.not_le.mpr hpos), if_neg hself]
      obtain ⟨db', hdb', hholdings, hschemes, hevents⟩ :=
        Database.transfer_ok h (hsender hrejected) (hrecipient hrejected hfunds)
          hl (hshort l hl)
      have hmade : Database.backend.transfer t db = .ok () db' :=
        Act.tryChange_ok (f := fun db : Database => db.transfer t) hdb'
      have hcall := Memory.call_transfer_ok hl
      refine .made (congrArg Prod.fst hcall) ?_ (by rw [hcall]; exact hholdings)
        hschemes hevents
      rw [hcall]
      exact Act.bind_ok hmade _

/-- A call that looks for no torn name is booked alike, if it leads to no
balance that is too long. -/
theorem of_whole (h : db.holdings = m.ledger.holdings)
    (hc : c.torn? m.ledger = none) (hshort : (m.call c).2.ledger.Legible) :
    Booked m db c := by
  cases c with
  | balance asset holder => exact of_balance h (Database.search_of_whole hc)
  | mint asset holder amount =>
      refine of_mint h (fun hrejected => ?_) fun l hl => ?_
      · simp only [LedgerCall.torn?, hrejected] at hc
        exact Database.search_of_whole hc
      · rw [Memory.call_mint_ok hl] at hshort
        exact hshort
  | transfer t =>
      have hnames : t.rejection? = none → _ := fun hrejected => by
        simp only [LedgerCall.torn?, hrejected] at hc
        exact Option.or_eq_none_iff.mp hc
      refine of_transfer h
        (fun hrejected => Database.search_of_whole (hnames hrejected).1)
        (fun hrejected hfunds => ?_) fun l hl => ?_
      · have hrecipient := (hnames hrejected).2
        rw [if_neg (Int.not_lt.mpr hfunds)] at hrecipient
        exact Database.search_of_whole hrecipient
      · rw [Memory.call_transfer_ok hl] at hshort
        exact hshort

end Booked

end SavingsClub
