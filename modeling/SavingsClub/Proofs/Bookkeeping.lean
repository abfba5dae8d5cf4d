/-
The ledger in a session on the database.

# The statement

`ledger_of_session`: whatever calls are made in a session that is open for long,
with commits and rollbacks between them, its rows show what the ledger in memory
holds after the calls that stand, and the committed rows what it holds after
those that are committed. A further call is answered alike by both, up to what a
mint shows, and no account ever has two rows.

# Why it holds

Both sides write an account in its place or else at the end, so the rows and the
ledger hold one and the same list (`Holds`). Each call keeps that
(`keeps_of_call`), and commits and rollbacks add nothing to it
(`Session.Mirrored.after`): rows that vanish by a rollback are opened again by
the next call that wants them, where the ledger after the calls that stand opens
them too.

# What it takes

A torn name is taken by the memory and not looked for by the database, and a
balance of 4301 digits is not written: `not_always_booked`.
-/
import SavingsClub.Proofs.Integrity
import SavingsClub.Proofs.Journal

namespace SavingsClub

-- ==================================================== one row for each account

/-- The account that a holding is in. -/
def Holding.account (h : Holding) : Account := ⟨h.asset, h.holder⟩

/-- The account that a row is for. -/
def BalanceRow.account (r : BalanceRow) : Account := ⟨r.asset, r.holder⟩

theorem Holding.nodup_write {hs : List Holding} (h : (hs.map account).Nodup)
    (asset holder : Text) (amount : Int) :
    ((write asset holder amount hs).map account).Nodup := by
  have hwanted : ∀ h : Holding, decide (h.account = ⟨asset, holder⟩)
      = decide (h.asset = asset ∧ h.holder = holder) :=
        fun h => by simp [account]
  have hkeys := Table.map_upsert account
    _ (fun a => decide (a = ⟨asset, holder⟩))
      (fun h => { h with amount := amount }) id ⟨asset, holder, 0⟩ hwanted
      (fun _ => rfl) hs
  unfold write
  rw [hkeys]
  exact Table.nodup_upsert _ h

/-- No account has two entries. -/
def Ledger.Distinct (l : Ledger) : Prop :=
  (l.holdings.map Holding.account).Nodup

theorem Ledger.Distinct.credit {l : Ledger} (h : l.Distinct)
    (asset holder : Text) (amount : Int) :
    (l.credit asset holder amount).Distinct := by
  unfold Distinct
  rw [holdings_credit]
  exact Holding.nodup_write h _ _ _

theorem Memory.distinct_of_calls (calls : List LedgerCall) :
    (afterCalls .empty calls).ledger.Distinct := by
  refine Course.keeps (P := fun m : Memory => m.ledger.Distinct) List.nodup_nil
    fun c _ m hm => ?_
  show (m.call c).2.ledger.Distinct
  have heffect := effect_of_call m c
  generalize (m.call c).1 = a, (m.call c).2 = m' at heffect ⊢
  cases heffect with
  | refused | told => exact hm
  | minted hl =>
      obtain ⟨-, rfl⟩ := Ledger.mint_eq_ok hl
      exact hm.credit _ _ _
  | moved hl =>
      obtain ⟨-, -, -, rfl⟩ := Ledger.transfer_eq_ok hl
      exact (hm.credit _ _ _).credit _ _ _

-- ==================================================================== the rows

namespace Database

/-- The rows show what a ledger holds, each account in one row. -/
structure Shows (db : Database) (l : Ledger) : Prop where
  statement : db.statement = l.statement
  balance : ∀ asset holder, db.balance asset holder = l.balance asset holder
  nodup : (db.balances.map BalanceRow.account).Nodup

theorem shows_of_holdings {db : Database} {l : Ledger}
    (h : db.holdings = l.holdings) (hl : l.Distinct) : db.Shows l where
  statement := by
    show Holding.statement db.holdings = Holding.statement l.holdings
    rw [h]
  balance := balance_eq_of_holdings h
  nodup := by
    have hkeys : db.balances.map BalanceRow.account
        = db.holdings.map Holding.account := by
      unfold holdings
      rw [List.map_map]
      rfl
    rw [hkeys, h]
    exact hl

end Database

namespace Session

open Database (backend)

/-- Calls on the ledger, performed on the rows of a session. -/
abbrev booking : LedgerCall → Act Database Answer :=
  LedgerCall.performShowingBalance backend

/-- What the ledger in memory holds after the calls that stand. -/
def Logged.standing (x : Logged LedgerCall) : Memory :=
  Memory.afterCalls .empty x.journal.calls

/-- The rows hold what the ledger holds after some calls, all of which it
grants. -/
structure Holds (calls : List LedgerCall) (db : Database) : Prop where
  granted : Memory.granted .empty calls = calls
  holdings : db.holdings = (Memory.afterCalls .empty calls).ledger.holdings

theorem holds_empty : Holds [] .empty := ⟨rfl, rfl⟩

variable {calls : List LedgerCall} {c : LedgerCall} {db : Database}
  {x : Logged LedgerCall}

theorem Holds.shows (h : Holds calls db) :
    db.Shows (Memory.afterCalls .empty calls).ledger :=
  Database.shows_of_holdings h.holdings (Memory.distinct_of_calls calls)

/-- A call leads to no balance that is too long to be written, unless it is one
that cannot be looked for anyway. -/
def Fits (x : Logged LedgerCall) : Step LedgerCall → Prop
  | .call c =>
    c.torn? x.standing.ledger = none → (x.standing.call c).2.ledger.Legible
  | .commit | .rollback => True

/-- Every call keeps the rows what the ledger is. -/
theorem keeps_of_call (h : Holds calls db)
    (hshort : c.torn? (Memory.afterCalls .empty calls).ledger = none →
      ((Memory.afterCalls .empty calls).call c).2.ledger.Legible) :
    Keeps Holds calls c (booking c db) := by
  cases htorn : c.torn? (Memory.afterCalls .empty calls).ledger with
  | some tear =>
      have hrows : booking c db = _ := Database.perform_of_torn h.holdings htorn
      rw [hrows]
      exact h
  | none =>
      cases Booked.of_whole h.holdings htorn (hshort htorn) with
      | made hcall hrows hholdings =>
          change booking c db = _ at hrows
          rw [hrows]
          -- the call stands, so it is one more that is granted
          refine ⟨?_, ?_⟩
          · rw [Memory.granted_snoc, h.granted, Memory.grants_of_ok hcall]
          · rw [Memory.afterCalls_snoc]
            exact hholdings
      | refused hcall hrows =>
          change booking c db = _ at hrows
          rw [hrows]
          exact h

/-- A call that looks for no torn name is answered as in memory, and its rows
show what the ledger is after it. -/
theorem step_call_of_whole (hx : Mirrored Holds x)
    (hc : c.torn? x.standing.ledger = none)
    (hshort : (x.standing.call c).2.ledger.Legible) :
    (x.session.step booking (.call c)).1
        = (x.standing.call c).1.map (c.shown (x.standing.call c).2.ledger)
      ∧ (x.session.step booking (.call c)).2.working.Shows
        (x.standing.call c).2.ledger
      ∧ (x.session.step booking (.call c)).2.committed
        = x.session.committed := by
  have hdistinct : (x.standing.call c).2.ledger.Distinct := by
    have hall := Memory.distinct_of_calls (x.journal.calls ++ [c])
    rw [Memory.afterCalls_snoc] at hall
    exact hall
  cases Booked.of_whole hx.working.holdings hc hshort with
  | made hcall hrows hholdings =>
      rw [step_call_ok hx.failed hrows]
      refine ⟨?_, Database.shows_of_holdings hholdings hdistinct, rfl⟩
      rw [Logged.standing, hcall]
      rfl
  | @refused f hcall hrows =>
      have hstep := step_call_error hx.failed (fun g => by simp) hrows
      have hcall' : x.standing.call c = (.error (.fault f), x.standing) := hcall
      rw [hstep, hcall']
      exact ⟨rfl, hx.working.shows, rfl⟩

-- ================================================================ all sessions

/-- Whatever is done in a session on an empty database, as long as no call leads
to a balance that is too long: its rows show what the ledger in memory holds
after the calls that stand, all of which are granted there, and the committed
rows what it holds after those that are committed. A further call is answered as
in memory, unless it looks for a torn name: then it fails and nothing has
changed. Commits and rollbacks succeed. -/
theorem ledger_of_session (steps : List (Step LedgerCall))
    (hfits : Logged.Along booking Fits (.start .empty) steps) :
    let x := (Logged.start .empty).after booking steps
    let m := Memory.afterCalls .empty x.journal.calls
    Memory.granted .empty x.journal.calls = x.journal.calls
      ∧ x.session.working.Shows m.ledger
      ∧ x.session.committed.Shows
        (Memory.afterCalls .empty x.journal.committed).ledger
      ∧ (∀ c tear, c.torn? m.ledger = some tear →
        x.session.step booking (.call c)
        = (.error (.unsearchable tear), x.session))
      ∧ (∀ c, c.torn? m.ledger = none → (m.call c).2.ledger.Legible →
        let r := x.session.step booking (.call c)
        r.1 = (m.call c).1.map (c.shown (m.call c).2.ledger)
          ∧ r.2.working.Shows (m.call c).2.ledger
            ∧ r.2.committed = x.session.committed)
      ∧ x.session.step booking .commit = (.ok .done, .start x.session.working)
      ∧ x.session.step booking .rollback
          = (.ok .done, .start x.session.committed) := by
  intro x m
  have hx : Mirrored Holds x :=
    (mirrored_start holds_empty).after
      (fun _ _ hx hfits => keeps_of_call hx.working hfits) hfits
  refine ⟨hx.working.granted, hx.working.shows, hx.committed.shows, ?_, ?_,
    step_commit hx.failed, rfl⟩
  · intro c tear htorn
    have hrows := Database.perform_of_torn hx.working.holdings htorn
    exact step_call_error hx.failed (fun g => by simp) hrows
  · intro c hc hshort
    exact step_call_of_whole hx hc hshort

/-- A session in which an account vanishes by a rollback and is opened again. -/
def reopening : List (Step LedgerCall) :=
  [.call (.mint "usd" "ana" 5), .commit, .call (.mint "usd" "bo" 7),
    .call (.transfer ⟨"usd", "ana", "cy", 6⟩), .rollback,
    .call (.mint "usd" ⟨[0xD800]⟩ 1), .call (.transfer ⟨"usd", "ana", "bo", 2⟩)]

theorem ledger_of_reopening :
    let x := (Logged.start .empty).after booking reopening
    Logged.Along booking Fits (.start .empty) reopening
      ∧ x.journal = ⟨[.mint "usd" "ana" 5], [.transfer ⟨"usd", "ana", "bo", 2⟩]⟩
      ∧ x.session.working.balance "usd" "bo" = 2
      ∧ x.session.committed.balance "usd" "bo" = 0
      ∧ (x.session.step booking (.call (.transfer ⟨"usd", "bo", "ana", 3⟩))).1
        = .error (.fault (.insufficientFunds "bo" 3 2))
      ∧ (x.session.step booking (.call (.mint "usd" "bo" 4))).1
          = .ok (.amount 6) := by
  intro x
  have hfits : Logged.Along booking Fits (.start .empty) reopening := by
    refine ⟨?_, trivial, ?_, ?_, trivial, ?_, ?_, trivial⟩
    · exact fun _ => Ledger.legible_of_entries (by decide +kernel)
    · exact fun _ => Ledger.legible_of_entries (by decide +kernel)
    · exact fun _ => Ledger.legible_of_entries (by decide +kernel)
    · exact fun _ => Ledger.legible_of_entries (by decide +kernel)
    · exact fun _ => Ledger.legible_of_entries (by decide +kernel)
  have hjournal : x.journal
      = ⟨[.mint "usd" "ana" 5], [.transfer ⟨"usd", "ana", "bo", 2⟩]⟩ := by
    decide +kernel
  obtain ⟨-, hworking, hcommitted, -, hcalls, -, -⟩ :=
    ledger_of_session reopening hfits
  change x.session.working.Shows
    (Memory.afterCalls .empty x.journal.calls).ledger at hworking
  change x.session.committed.Shows
    (Memory.afterCalls .empty x.journal.committed).ledger at hcommitted
  rw [hjournal] at hworking hcommitted
  refine ⟨hfits, hjournal,
    (hworking.balance "usd" "bo").trans (by decide +kernel),
    (hcommitted.balance "usd" "bo").trans (by decide +kernel), ?_, ?_⟩
  · have hshort : (x.standing.call
        (.transfer ⟨"usd", "bo", "ana", 3⟩)).2.ledger.Legible :=
      Ledger.legible_of_entries (by decide +kernel)
    exact (hcalls _ (by decide +kernel) hshort).1.trans (by decide +kernel)
  · have hshort : (x.standing.call (.mint "usd" "bo" 4)).2.ledger.Legible :=
      Ledger.legible_of_entries (by decide +kernel)
    exact (hcalls _ (by decide +kernel) hshort).1.trans (by decide +kernel)

/-- Names have to consist of characters, and balances must not be too long: the
memory takes a name that is torn and an amount of 4301 digits, and the database
takes neither. -/
theorem not_always_booked :
    let s := Session.start .empty
    let torn : LedgerCall := .mint "usd" ⟨[0xD800]⟩ 5
    let long : LedgerCall := .mint "usd" "ana" (Nat.pow 10 4300)
    (Memory.empty.call torn).1 = .ok .done
      ∧ (s.step booking (.call torn)).1 ≠ .ok (.amount 5)
      ∧ (Memory.empty.call long).1 = .ok .done
      ∧ (s.step booking (.call long)).1 ≠ .ok (.amount (Nat.pow 10 4300)) := by
  decide +kernel

end Session

end SavingsClub
