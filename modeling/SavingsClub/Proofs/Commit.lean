/-
All or nothing in the database.

# What a transaction commits

An operation that returns has carried out a plan, and `Committed` says what is
then in the database: the plan's record, its transfers in every balance, its
events at the end of the log, and nothing else that was not there before.
Nothing is asked of the rows: whatever is in them, `carryOut` writes the whole
plan or fails (`committed_of_carryOut`).

# What a failure leaves

A failure can come before, between and after the transfers, when an account is
to be opened, and when the record is to be kept. Each leaves an action half
done, and none of the invariants of a club that has been kept by its operations
is there to say that it cannot happen. It is the transaction that gives up what
was done: `all_or_nothing`.
-/
import SavingsClub.Proofs.Grant
import SavingsClub.Proofs.Lockstep
import SavingsClub.Proofs.Settlement

namespace SavingsClub

namespace Database

variable {db db₁ db' : Database} {id : Text} {t : Transfer}

-- ==================================================================== the rows

/-- A balance that is put is one that can be written, and it is what is read
from then on. -/
theorem putBalance_eq_ok {asset holder : Text} {amount : Int}
    (h : db.putBalance asset holder amount = .ok db') :
    ∃ numeral, numeral.toInt = amount
      ∧ db' = db.setBalance asset holder numeral := by
  obtain ⟨numeral, hnumeral, hdb'⟩ := eq_ok_of_map h
  exact ⟨numeral, toInt_of_write hnumeral, hdb'⟩

theorem isWhole_of_search {names : List Text} {u : Unit}
    (h : search names = .ok u) :
    ∀ t ∈ names, t.isWhole = true := (search_eq_ok_iff names).mp h

/-- Whatever is answered under a name, the name consists of characters. -/
theorem isWhole_of_has {found : Bool} (h : backend.has id db = .ok found db₁) :
    id.isWhole = true := by
  obtain ⟨hsearch, -⟩ := lookUp_eq_ok (fun db => (db.scheme? id).isSome) h
  exact isWhole_of_search hsearch id List.mem_cons_self

theorem isWhole_of_get {found : Option Scheme}
    (h : backend.get id db = .ok found db₁) :
    id.isWhole = true := by
  obtain ⟨hsearch, -⟩ := lookUp_eq_ok (fun db => db.scheme? id) h
  exact isWhole_of_search hsearch id List.mem_cons_self

/-- A transfer that is made has looked up both holders and writes what both have
afterwards. -/
theorem transfer_eq_ok (h : db.transfer t = .ok db') :
    t.sender ≠ t.recipient ∧ t.sender.isWhole = true
      ∧ t.recipient.isWhole = true
      ∧ ∃ paid received : Numeral, paid.toInt
        = db.balance t.asset t.sender - t.amount
        ∧ received.toInt = db.balance t.asset t.recipient + t.amount
        ∧ db' = (db.setBalance t.asset t.sender paid).setBalance t.asset
          t.recipient received := by
  unfold transfer at h
  cases hrejected : t.rejection? with
  | some r =>
      rw [hrejected] at h
      cases h
  | none =>
      rw [hrejected] at h
      obtain ⟨u, hsender, h⟩ := eq_ok_of_bind h
      change (if _ then _ else _) = _ at h
      split at h
      · cases h
      obtain ⟨u', hrecipient, h⟩ := eq_ok_of_bind h
      obtain ⟨db₁, hdebit, h⟩ := eq_ok_of_bind h
      obtain ⟨paid, hpaid, rfl⟩ := putBalance_eq_ok hdebit
      obtain ⟨received, hreceived, hdb'⟩ := putBalance_eq_ok h
      refine ⟨?_, isWhole_of_search hsender _ (by simp),
        isWhole_of_search hrecipient _ (by simp), paid, received, hpaid,
        hreceived, hdb'⟩
      intro hself
      unfold Transfer.rejection? at hrejected
      split at hrejected <;> cases hrejected

/-- Every account has more by what a transfer adds to it, and nothing else is
written. -/
theorem balance_of_transfer (h : db.transfer t = .ok db') :
    (∀ asset holder, db'.balance asset holder
        = db.balance asset holder + t.net asset holder)
      ∧ db'.schemes = db.schemes ∧ db'.events = db.events := by
  obtain ⟨hself, -, -, paid, received, hpaid, hreceived, rfl⟩ :=
    transfer_eq_ok h
  refine ⟨?_, rfl, rfl⟩
  intro asset holder
  rw [balance_setBalance, balance_setBalance, hpaid, hreceived]
  unfold Transfer.net
  by_cases hrecipient : asset = t.asset ∧ holder = t.recipient
  · have hsender : ¬ (asset = t.asset ∧ holder = t.sender) := fun h =>
      hself (h.2.symm.trans hrecipient.2)
    rw [if_pos hrecipient, if_pos hrecipient, if_neg hsender, hrecipient.1,
      hrecipient.2]
    omega
  · rw [if_neg hrecipient, if_neg hrecipient]
    split
    case isTrue hsender =>
      rw [hsender.1, hsender.2]
      omega
    case isFalse => omega

/-- Transfers move what they say, and touch neither records nor logs. -/
theorem balance_of_transfers {ts : List Transfer} {u : Unit}
    (h : ts.forM backend.transfer db = .ok u db') :
    (∀ asset holder, db'.balance asset holder
        = db.balance asset holder + Transfer.total asset holder ts)
      ∧ db'.schemes = db.schemes ∧ db'.events = db.events := by
  induction ts generalizing db with
  | nil =>
      cases h
      exact ⟨fun asset holder => (Int.add_zero _).symm, rfl, rfl⟩
  | cons t ts ih =>
      obtain ⟨u', db₁, hfirst, hrest⟩ := Act.bind_eq_ok h
      obtain ⟨hbalances, hschemes, hevents⟩ := ih hrest
      obtain ⟨hbalances₁, hschemes₁, hevents₁⟩ :=
        balance_of_transfer
          (Act.tryChange_eq_ok (f := fun db : Database => db.transfer t) hfirst)
      refine ⟨?_, hschemes.trans hschemes₁, hevents.trans hevents₁⟩
      intro asset holder
      rw [hbalances, hbalances₁, Transfer.total_cons, Int.add_assoc]

/-- A record that is kept is kept under a name that consists of characters. -/
theorem keepScheme_eq_ok {s : Scheme} (h : db.keepScheme id s = .ok db') :
    id.isWhole = true ∧ ∃ hs, db' = db.putScheme id s hs := by
  obtain ⟨u, hid, h⟩ := eq_ok_of_bind h
  refine ⟨isWhole_of_search hid _ (by simp), ?_⟩
  split at h
  · cases h
  next hnone =>
    cases h
    exact ⟨fits_of_refusal? hnone, rfl⟩

/-- Events are put at the end of a scheme's log, and nothing else is written. -/
theorem log_of_emits {es : List Event} {u : Unit}
    (h : es.forM (backend.emit id) db = .ok u db') :
    (∀ other, db'.log other
        = db.log other ++ if id = other then es.map fun e =>
          e.entry.reread else [])
      ∧ db'.schemes = db.schemes ∧ db'.balances = db.balances := by
  induction es generalizing db with
  | nil =>
      cases h
      refine ⟨?_, rfl, rfl⟩
      intro other
      split <;> exact (List.append_nil _).symm
  | cons e es ih =>
      have hemit : backend.emit id e db = .ok () (db.addEvent id e) := rfl
      have hrest : es.forM (backend.emit id) (db.addEvent id e) = .ok u db' :=
        (Act.bind_ok hemit _).symm.trans h
      obtain ⟨hlog, hschemes, hbalances⟩ := ih hrest
      refine ⟨?_, hschemes, hbalances⟩
      intro other
      rw [hlog, log_addEvent, List.append_assoc]
      split <;> rfl

-- ================================================================= whole plans

/-- The whole of a plan for the scheme `id` is in the database, and nothing else
is new. -/
structure Committed (id : Text) (p : Plan Answer) (db db' : Database) :
    Prop where
  record : db'.scheme? id = some p.record.reread
  otherRecords : ∀ other, other ≠ id → db'.scheme? other = db.scheme? other
  balances : ∀ asset holder,
    db'.balance asset holder
    = db.balance asset holder + Transfer.total asset holder p.transfers
  log : db'.log id = db.log id ++ p.events.map fun e => e.entry.reread
  otherLogs : ∀ other, other ≠ id → db'.log other = db.log other

theorem scheme?_congr (h : db'.schemes = db.schemes) (other : Text) :
    db'.scheme? other = db.scheme? other := by
  unfold scheme?
  rw [h]

theorem balance_congr (h : db'.balances = db.balances) (asset holder : Text) :
    db'.balance asset holder = db.balance asset holder := by
  unfold balance
  rw [h]

theorem log_congr (h : db'.events = db.events) (other : Text) :
    db'.log other = db.log other := by
  unfold log
  rw [h]

/-- What is carried out without a failure is there as a whole. -/
theorem committed_of_carryOut {p : Plan Answer} {custody : Text} {a : Answer}
    (h : (⟨backend, custody, id⟩ : Engine Database).carryOut p db = .ok a db') :
    a = p.answer ∧ Committed id p db db' := by
  obtain ⟨db₁, db₂, htransfers, hset, hemits, hanswer, -⟩ :=
    Engine.carryOut_eq_ok h
  obtain ⟨hbalances, hschemes, hevents⟩ := balance_of_transfers htransfers
  obtain ⟨-, hfits, rfl⟩ := keepScheme_eq_ok
    (Act.tryChange_eq_ok (f := fun db : Database => db.keepScheme id p.record)
      hset)
  obtain ⟨hlog, hschemes₃, hbalances₃⟩ := log_of_emits hemits
  refine ⟨hanswer, ?_, ?_, ?_, ?_, ?_⟩
  · rw [scheme?_congr hschemes₃, scheme?_putScheme_self]
  · intro other hne
    rw [scheme?_congr hschemes₃, scheme?_putScheme_of_ne _ _ _ hne,
      scheme?_congr hschemes]
  · intro asset holder
    rw [balance_congr hbalances₃]
    exact hbalances asset holder
  · rw [hlog, if_pos rfl]
    exact congrArg (· ++ _) (log_congr hevents id)
  · intro other hne
    rw [hlog, if_neg (Ne.symm hne), List.append_nil]
    exact log_congr hevents other

end Database

-- ================================================================== operations

namespace Engine

variable {custody id : Text} {db db₁ db' : Database} {now : Int}
  {op : Operation} {a : Answer}

/-- A record that is found is found under a name that consists of characters. -/
theorem isWhole_of_load {s : Scheme}
    (h : (⟨Database.backend, custody, id⟩ : Engine Database).load db
      = .ok s db₁) :
    id.isWhole = true := by
  obtain ⟨found, db₂, hget, -⟩ := Act.bind_eq_ok h
  exact Database.isWhole_of_get hget

/-- An operation that returns from a change has looked the scheme up. -/
theorem isWhole_of_perform (hop : op.isReading = false)
    (h : (⟨Database.backend, custody, id⟩ : Engine Database).perform now op db
      = .ok a db') :
    id.isWhole = true := by
  cases op with
  | establish t =>
      obtain ⟨s, h, -⟩ := Act.map_eq_ok h
      obtain ⟨found, db₁, hhas, -⟩ := Act.bind_eq_ok h
      exact Database.isWhole_of_has hhas
  | contribute caller c =>
      obtain ⟨state, h, -⟩ := Act.map_eq_ok h
      obtain ⟨u, db₁, -, h⟩ := Act.bind_eq_ok h
      obtain ⟨s, db₂, hload, -⟩ := Act.bind_eq_ok h
      exact isWhole_of_load hload
  | closeRound caller =>
      obtain ⟨closure, h, -⟩ := Act.map_eq_ok h
      obtain ⟨s, db₁, hload, -⟩ := Act.bind_eq_ok h
      exact isWhole_of_load hload
  | getState | getScheme | getDefaulters => cases hop

/-- An operation that returns from a change was granted, and has carried out
what it was granted. -/
theorem carryOut_of_perform (hop : op.isReading = false)
    (h : (⟨Database.backend, custody, id⟩ : Engine Database).perform now op db
      = .ok a db') :
    ∃ p, op.Granted custody now (db.scheme? id) p
      ∧ (⟨Database.backend, custody, id⟩ : Engine Database).carryOut p db
        = .ok a db' := by
  have hid := isWhole_of_perform hop h
  have hperform :=
    (⟨Database.backend, custody, id⟩ : Engine Database).perform_eq db
    (db.scheme? id) (Database.backend_has db hid)
    (Database.backend_get db hid) now op
  rw [h] at hperform
  cases hr : op.ruling custody id now (db.scheme? id) with
  | error f =>
      rw [hr] at hperform
      cases hperform
  | ok r =>
      rw [hr] at hperform
      obtain ⟨p, rfl⟩ := Operation.act_of_not_isReading hop hr
      exact ⟨p, Operation.ruling_eq_act_iff.mp hr, hperform.symm⟩

/-- An operation that returns from a change was granted, and all of it is in the
database. -/
theorem committed_of_perform (hop : op.isReading = false)
    (h : (⟨Database.backend, custody, id⟩ : Engine Database).perform now op db
      = .ok a db') :
    ∃ p, op.Granted custody now (db.scheme? id) p ∧ a = p.answer
      ∧ Database.Committed id p db db' := by
  obtain ⟨p, hgranted, hdone⟩ := carryOut_of_perform hop h
  exact ⟨p, hgranted, Database.committed_of_carryOut hdone⟩

/-- What is read of a scheme is short enough for the report of a payment. -/
theorem reports_payment_of_scheme? {s : Scheme} (hs : db.scheme? id = some s) :
    [s.contributionAmount, s.currentRound].all isWritable = true := by
  have hfits := Database.fits_of_scheme? hs
  simp [hfits.amount, isWritable_of_fitsWord hfits.round]

/-- The payout that a round was complete for is refused after the payment has
been made. -/
theorem perform_of_payout_error {s : Scheme} {c : Text} {payer : s.Payer}
    {f : Failure} (hs : db.scheme? id = some s)
    (haccept : s.accept c now = .ok payer)
    (hlast : s.paidMembers.length + 1 = s.members.length)
    (hid : id.isWhole = true)
    (hpayment : db.transfer (s.payment custody c) = .ok db₁)
    (hpayout : db₁.transfer ((s.pay c).payout custody payer.members_ne_nil)
      = .error f) :
    (⟨Database.backend, custody, id⟩ : Engine Database).perform now
    (.contribute (some c) c) db
      = .error f db₁ := by
  -- the whole plan is granted before any money moves, so only the payout stands
  -- in its way
  obtain ⟨next, hnext⟩ := Scheme.advance_of_accept haccept hlast
  have hgranted : Operation.Granted custody now (some s)
      (.contribute (some c) c) _ :=
    .completes haccept hlast hnext
  have hperform :=
    (⟨Database.backend, custody, id⟩ : Engine Database).perform_eq db (some s)
    (hs ▸ Database.backend_has db hid) (hs ▸ Database.backend_get db hid) now
    (.contribute (some c) c)
  rw [Operation.ruling_eq_act_iff.mpr hgranted] at hperform
  have hmade : (Engine.mk Database.backend custody id).remit
    (s.paymentReported custody c) db
      = .ok () db₁ := by
    rw [remit_of_reported (r := s.paymentReported custody c)
      (reports_payment_of_scheme? hs)]
    exact Act.tryChange_ok
      (f := fun db : Database => db.transfer (s.payment custody c)) hpayment
  have hrefused : Database.backend.transfer
    ((s.pay c).payout custody payer.members_ne_nil) db₁
      = .error f db₁ :=
    Act.tryChange_error (f := fun db : Database =>
      db.transfer ((s.pay c).payout custody payer.members_ne_nil)) hpayout
  refine hperform.trans (Act.bind_error ?_ _)
  exact (Act.bind_ok hmade _).trans
    (Act.bind_error (Act.bind_error hrefused _) _)

end Engine

-- ================================================================ transactions

namespace Office

variable {s : Settings} {id : Text} {db : Database} {now : Int} {op : Operation}

/-- An operation that is no question is committed if it succeeds, and given up
with a report if it fails. -/
theorem step_of_change (hop : op.isReading = false) :
    (⟨Database.backend, .ok s⟩ : Office).step db now (.scheme id op)
      = match (⟨Database.backend, s.custodyAccount id,
        id⟩ : Engine Database).perform now op db with
        | .ok a db' => (.ok a, db')
        | .error f _ => (.error f.reported, db) := by
  show (if op.isReading then _ else db.reportedTransaction
    ((⟨Database.backend, s.custodyAccount id, id⟩ : Engine Database).perform
      now op)) = _
  rw [hop]
  show db.reportedTransaction _ = _
  unfold Database.reportedTransaction
  rw [Database.transaction_eq]
  cases (⟨Database.backend, s.custodyAccount id, id⟩ : Engine Database).perform
    now op db <;> rfl

/-- A custody account that consists of characters belongs to a scheme whose name
does. -/
theorem isWhole_of_custodyAccount (h : (s.custodyAccount id).isWhole = true) :
    id.isWhole = true := by
  unfold Text.isWhole at h ⊢
  change ((s.custodyPrefix ++ ":").points ++ id.points).all _ = true at h
  rw [List.all_append, Bool.and_eq_true] at h
  exact h.2

/-- A payout that is refused takes back the payment that was made for it. -/
theorem step_of_payout_error {found : Scheme} {c : Text} {payer : found.Payer}
    {paid : Database} {f : Failure} (hfound : db.scheme? id = some found)
    (haccept : found.accept c now = .ok payer)
    (hlast : found.paidMembers.length + 1 = found.members.length)
    (hpayment : db.transfer (found.payment (s.custodyAccount id) c) = .ok paid)
    (hpayout : paid.transfer
      ((found.pay c).payout (s.custodyAccount id) payer.members_ne_nil)
      = .error f) :
    (⟨Database.backend, .ok s⟩ : Office).step db now
    (.scheme id (.contribute (some c) c))
      = (.error f.reported, db) := by
  have hid := isWhole_of_custodyAccount (Database.transfer_eq_ok hpayment).2.2.1
  rw [step_of_change rfl,
    Engine.perform_of_payout_error hfound haccept hlast hid hpayment hpayout]

/-- Whatever rows there are, an operation on a scheme does all that it was
granted or nothing. If it fails, at whatever point, all rows are as they were,
and that is what the next operation finds. If it returns, it was granted on the
record in the database, and its record, its transfers and its events are all
there. In particular a payout that fails takes back the payment that was made
for it. -/
theorem all_or_nothing (settings : Except SettingsFault Settings) (id : Text)
    (db : Database) (now : Int) (op : Operation) (hop : op.isReading = false) :
    let after :=
      (⟨Database.backend, settings⟩ : Office).step db now (.scheme id op)
    (∀ f, after.1 = .error f → after.2 = db)
      ∧ (∀ a, after.1 = .ok a → ∃ s p, settings = .ok s
        ∧ op.Granted (s.custodyAccount id) now (db.scheme? id) p ∧ a = p.answer
        ∧ Database.Committed id p db after.2)
      ∧ ∀ (s : Settings) (found : Scheme) (c : Text) (payer : found.Payer)
        (paid : Database) (f : Failure), settings = .ok s →
        op = .contribute (some c) c → db.scheme? id = some found →
        found.accept c now = .ok payer →
        found.paidMembers.length + 1 = found.members.length →
        db.transfer (found.payment (s.custodyAccount id) c) = .ok paid →
        paid.transfer
        ((found.pay c).payout (s.custodyAccount id) payer.members_ne_nil)
          = .error f →
        after = (.error f.reported, db) := by
  intro after
  cases settings with
  | error e =>
      refine ⟨fun f hf => rfl, ?_, ?_⟩
      · intro a ha
        cases ha
      · intro s found c payer paid f hs
        cases hs
  | ok s =>
      have hafter : after = _ := step_of_change hop
      refine ⟨?_, ?_, ?_⟩
      · intro f hf
        rw [hafter] at hf ⊢
        split at hf
        · cases hf
        · rfl
      · intro a ha
        rw [hafter] at ha ⊢
        split at ha
        · next hdone =>
            cases ha
            obtain ⟨p, hgranted, hanswer, hcommitted⟩ :=
              Engine.committed_of_perform hop hdone
            exact ⟨s, p, rfl, hgranted, hanswer, hcommitted⟩
        · cases ha
      · intro s' found c payer paid f hs hop' hfound haccept hlast
          hpayment hpayout
        cases hs
        subst hop'
        exact step_of_payout_error hfound haccept hlast hpayment hpayout

theorem isWritable_small (n : Fin 100) : isWritable n.val = true :=
  isWritable_of_le (Int.natCast_nonneg _)
    (Int.ofNat_le.mpr (Nat.le_of_lt n.isLt)) (lt_digitLimit (by decide))

/-- A database in which one of two members has paid, with some small
balances. -/
def oneMissing (bo custody : Fin 100) : Database :=
  ⟨[.ofScheme "club" ⟨"ana", ["ana", "bo"], 5, "usd", 100, 50, 0, ["ana"], []⟩
      ⟨by decide +kernel, by decide +kernel, by decide +kernel,
        by decide +kernel⟩],
    [⟨"usd", "bo", .ofInt bo.val (isWritable_small bo)⟩,
      ⟨"usd", "scheme:club", .ofInt custody.val (isWritable_small custody)⟩],
    []⟩

/-- What is asked when the missing member pays. -/
def lastPayment : Step := .scheme "club" (.contribute (some "bo") "bo")

/-- The last payment of a round: the pot cannot be paid where bo's five are all
there is in custody, and can be where five more are. -/
theorem all_or_nothing_oneMissing :
    (oneMissing 5 0).transfer ⟨"usd", "bo", "scheme:club", 5⟩
        = .ok (oneMissing 0 5)
      ∧ (ofSettings .standard).step (oneMissing 5 0) 10 lastPayment
        = (.error (.fault (.insufficientFunds "scheme:club" 10 5)),
          oneMissing 5 0)
      ∧ ∃ p, Database.Committed "club" p (oneMissing 5 5)
        ((ofSettings .standard).step (oneMissing 5 5) 10 lastPayment).2 := by
  have hpayment : (oneMissing 5 0).transfer ⟨"usd", "bo", "scheme:club", 5⟩
      = .ok (oneMissing 0 5) := by
    decide +kernel
  have hrefused : (oneMissing 0 5).transfer ⟨"usd", "scheme:club", "ana", 10⟩
      = .error (.fault (.insufficientFunds "scheme:club" 10 5)) := by
    decide +kernel
  have hfound : (oneMissing 5 0).scheme? "club"
      = some ⟨"ana", ["ana", "bo"], 5, "usd", 100, 50, 0, ["ana"], []⟩ := by
    decide +kernel
  refine ⟨hpayment, ?_, ?_⟩
  · obtain ⟨-, -, hpayout⟩ := all_or_nothing (.ok .standard) "club"
      (oneMissing 5 0) 10 (.contribute (some "bo") "bo") rfl
    exact hpayout .standard _ "bo" ⟨"bo", by decide⟩ (oneMissing 0 5) _ rfl rfl
      hfound rfl rfl hpayment hrefused
  · obtain ⟨-, hreturns, -⟩ := all_or_nothing (.ok .standard) "club"
      (oneMissing 5 5) 10 (.contribute (some "bo") "bo") rfl
    have hanswer : ((ofSettings .standard).step (oneMissing 5 5) 10
      lastPayment).1
        = .ok (.state ⟨1, [], 110⟩) := by
      decide +kernel
    obtain ⟨s, p, -, -, -, hcommitted⟩ := hreturns _ hanswer
    exact ⟨p, hcommitted⟩

end Office

end SavingsClub
