/-
The order in which members pay makes no difference.

# Rows of contributions

A row is several members paying one after the other, each in its own name and at
a reading of the clock of its own, with the round ending with the last of them
at the earliest (`WithinRound`).

# What a row takes

`Scheme.Payable` says what it takes for a row to go through, and no order of the
payers occurs in it: each of them must be able to pay by itself, as the record
and the ledger are before the row (`Able`), and if the row fills the round, the
round must be able to end at the last reading of the clock (`Endable`). That
this is all it takes (`settled_of_payable`), and that nothing less will do
(`payable_of_withinRound`), are inductions over the row. One payment changes
neither who else can pay nor what the end of the round takes, as long as the
round stays open (`Payable.after_first`, `Payable.cons`).

# What a row leaves behind

The record, the events and the transfers of a row are known in advance too
(`Settled`), and the payers' order shows in three places only: among those who
have paid, in what is told of the payments, and in the order of the transfers,
which add up to the same (`Transfer.total_perm`). So any other order goes
through as well and leaves the same behind up to order (`alike_in_any_order`),
from whatever memory the row began.
-/
import SavingsClub.Proofs.Contribution

namespace SavingsClub

/-- In which order transfers are made is of no account for what they add. -/
theorem Transfer.total_perm {ts ts' : List Transfer} (h : ts.Perm ts')
    (asset holder : Text) :
    total asset holder ts = total asset holder ts' := by
  induction h with
  | nil => rfl
  | cons t _ ih => rw [total_cons, total_cons, ih]
  | swap t t' ts =>
      simp only [total_cons]
      omega
  | trans _ _ ih ih' => exact ih.trans ih'

-- =============================================================== what it takes

namespace Scheme

/-- What it takes for a principal to be a payer and to have the money. -/
structure Able (s : Scheme) (custody : Text) (l : Ledger) (p : Text) :
    Prop where
  isMember : p ∈ s.members
  unpaid : p ∉ s.paidMembers
  amount_pos : 0 < s.contributionAmount
  outside : p ≠ custody
  funded : s.contributionAmount ≤ l.balance s.assetId p
  reportable : [s.contributionAmount, s.currentRound].all isWritable = true

/-- What it takes for the round to end at `now` with the last of `n`
contributions. -/
structure Endable (s : Scheme) (custody : Text) (l : Ledger) (n : Nat)
    (now : Int) : Prop where
  round : s.currentRound < maxRound
  deadline : now + s.roundDuration ≤ maxTime
  outside : Rotation.recipient? s.members s.currentRound ≠ some custody
  funded : Rotation.pot s.contributionAmount s.members.length
    ≤ l.balance s.assetId custody + n * s.contributionAmount
  reportable : [s.currentRound,
    Rotation.pot s.contributionAmount s.members.length,
    (s.nextRound now).roundDeadline].all isWritable = true

/-- What it takes for principals to pay in a row, in whatever order. -/
structure Payable (s : Scheme) (custody : Text) (l : Ledger) (ps : List Text)
    (readings : List Int) : Prop where
  nodup : ps.Nodup
  able : ∀ p ∈ ps, s.Able custody l p
  punctual : ∀ now ∈ readings, now ≤ s.roundDeadline
  room : s.members.length ≤ s.paidMembers.length
    ∨ s.paidMembers.length + ps.length ≤ s.members.length
  ends : s.paidMembers.length + ps.length = s.members.length →
    ∀ now ∈ readings.getLast?, s.Endable custody l ps.length now

/-- The record after a row of contributions, the last of them at `now`. -/
def afterRow (s : Scheme) (ps : List Text) (now : Int) : Scheme :=
  if s.paidMembers.length + ps.length = s.members.length then s.nextRound now
  else { s with paidMembers := s.paidMembers ++ ps }

/-- The round's recipient with the pot of all members, if `n` more contributions
fill the round. -/
def ending? (s : Scheme) (n : Nat) : Option (Text × Int) :=
  if s.paidMembers.length + n = s.members.length then
    (Rotation.recipient? s.members s.currentRound).map fun r =>
      (r, Rotation.pot s.contributionAmount s.members.length)
  else none

/-- What is paid out at the end of a row that fills the round. -/
def payouts (s : Scheme) (custody : Text) (n : Nat) : List Transfer :=
  (s.ending? n).toList.map fun (r, pot) => ⟨s.assetId, custody, r, pot⟩

/-- What is told of the round when it has ended, if it has. -/
def completions (s : Scheme) (ended : Option (Text × Int)) : List Event :=
  ended.toList.map fun (r, pot) => .roundCompleted s.currentRound r pot

/-- Two records that differ at most in the order of those who have paid. -/
def UpToOrder (s t : Scheme) : Prop :=
  s.paidMembers.Perm t.paidMembers ∧ t = { s with paidMembers := t.paidMembers }

variable {s : Scheme} {custody p : Text} {l l' : Ledger}
  {ps qs : List Text} {now : Int} {readings : List Int} {n : Nat}

/-- Those who are to pay may do so in any order. -/
theorem Payable.perm (h : s.Payable custody l ps readings)
    (hperm : ps.Perm qs) :
    s.Payable custody l qs readings where
  nodup := hperm.nodup_iff.mp h.nodup
  able q hq := h.able q (hperm.mem_iff.mpr hq)
  punctual := h.punctual
  room := hperm.length_eq ▸ h.room
  ends := hperm.length_eq ▸ h.ends

/-- Once the first has paid, one more has and one less is to pay. -/
theorem length_pay_add (s : Scheme) (p : Text) (n : Nat) :
    (s.pay p).paidMembers.length + n = s.paidMembers.length + (n + 1) := by
  rw [length_pay]
  omega

theorem afterRow_pay (s : Scheme) (p : Text) (ps : List Text) (now : Int) :
    (s.pay p).afterRow ps now = s.afterRow (p :: ps) now := by
  unfold afterRow
  have hpaid : (s.pay p).paidMembers ++ ps = s.paidMembers ++ p :: ps :=
    (List.append_cons s.paidMembers p ps).symm
  rw [length_pay_add, hpaid]
  rfl

theorem ending?_pay (s : Scheme) (p : Text) (n : Nat) :
    (s.pay p).ending? n = s.ending? (n + 1) := by
  unfold ending?
  rw [length_pay_add]
  rfl

theorem payouts_pay (s : Scheme) (custody p : Text) (n : Nat) :
    (s.pay p).payouts custody n = s.payouts custody (n + 1) := by
  unfold payouts
  rw [ending?_pay]
  rfl

theorem afterRow_perm (hperm : ps.Perm qs) (now : Int) :
    UpToOrder (s.afterRow ps now) (s.afterRow qs now) := by
  unfold afterRow
  rw [hperm.length_eq]
  split
  · exact ⟨.refl _, rfl⟩
  · exact ⟨hperm.append_left _, rfl⟩

/-- The round is counted on if the row ended it. -/
theorem currentRound_afterRow (hmembers : s.members ≠ []) (ps : List Text)
    (now : Int) :
    (s.afterRow ps now).currentRound
      = s.currentRound + if (s.ending? ps.length).isSome then 1 else 0 := by
  unfold afterRow ending? Rotation.recipient?
  rw [dif_pos hmembers]
  split
  · rfl
  · exact (Int.add_zero _).symm

theorem ending?_of_open (h : s.paidMembers.length + n ≠ s.members.length) :
    s.ending? n = none := if_neg h

/-- A payment leaves alone whoever is neither the payer nor in custody of the
money. -/
theorem balance_of_others {q : Text}
    (hl : l.transfer (s.payment custody p) = .ok l') (hpayer : q ≠ p)
    (hcustody : q ≠ custody) :
    l'.balance s.assetId q = l.balance s.assetId q := by
  rw [Ledger.balance_of_transfer hl]
  show _ - (if s.assetId = s.assetId ∧ q = p then s.contributionAmount else 0)
    + (if s.assetId = s.assetId ∧ q = custody then s.contributionAmount else 0)
      = _
  rw [if_neg fun h => hpayer h.2, if_neg fun h => hcustody h.2]
  omega

/-- A payment leaves everybody else as able to pay as before. -/
theorem able_pay_iff {q : Text}
    (hl : l.transfer (s.payment custody p) = .ok l') :
    (s.pay p).Able custody l' q ↔ q ≠ p ∧ s.Able custody l q := by
  have hunpaid : q ∉ (s.pay p).paidMembers ↔ q ∉ s.paidMembers ∧ q ≠ p := by
    show q ∉ s.paidMembers ++ [p] ↔ _
    rw [List.mem_append, List.mem_singleton, not_or]
  constructor
  · intro h
    obtain ⟨hnew, hne⟩ := hunpaid.mp h.unpaid
    exact ⟨hne, h.isMember, hnew, h.amount_pos, h.outside,
      balance_of_others hl hne h.outside ▸ h.funded, h.reportable⟩
  · rintro ⟨hne, h⟩
    exact ⟨h.isMember, hunpaid.mpr ⟨h.unpaid, hne⟩, h.amount_pos, h.outside,
      (balance_of_others hl hne h.outside).symm ▸ h.funded, h.reportable⟩

/-- What a payment puts into custody is there at the end of the round. -/
theorem endable_pay_iff (hl : l.transfer (s.payment custody p) = .ok l') :
    (s.pay p).Endable custody l' n now ↔ s.Endable custody l (n + 1) now := by
  have hbalance : l'.balance s.assetId custody + n * s.contributionAmount
      = l.balance s.assetId custody + ((n + 1 : Nat) : Int)
          * s.contributionAmount := by
    rw [balance_of_payment hl, Int.natCast_succ, Int.add_mul]
    omega
  constructor
  · intro h
    exact ⟨h.round, h.deadline, h.outside, hbalance ▸ h.funded, h.reportable⟩
  · intro h
    exact ⟨h.round, h.deadline, h.outside, hbalance.symm ▸ h.funded,
      h.reportable⟩

/-- One payment is a row by itself. -/
theorem payable_singleton :
    s.Payable custody l [p] [now]
      ↔ now ≤ s.roundDeadline ∧ s.Able custody l p
        ∧ (s.paidMembers.length + 1 = s.members.length →
          s.Endable custody l 1 now) := by
  constructor
  · intro h
    exact ⟨h.punctual now (List.mem_singleton_self now),
      h.able p (List.mem_singleton_self p), fun hlast => h.ends hlast now rfl⟩
  · rintro ⟨hdue, hable, hend⟩
    refine ⟨List.nodup_singleton p, ?_, ?_, ?_, ?_⟩
    · simpa using hable
    · simpa using hdue
    · rw [List.length_singleton]
      omega
    · simpa using hend

/-- After the first payment of a row the others make up a row of their own. -/
theorem Payable.after_first
    (h : s.Payable custody l (p :: ps) (now :: readings))
    (hreadings : readings ≠ [])
    (hl : l.transfer (s.payment custody p) = .ok l') :
    (s.pay p).Payable custody l' ps readings where
  nodup := (List.nodup_cons.mp h.nodup).2
  able q hq := by
    have hne : q ≠ p := fun heq => (List.nodup_cons.mp h.nodup).1 (heq ▸ hq)
    exact (able_pay_iff hl).mpr ⟨hne, h.able q (List.mem_cons_of_mem p hq)⟩
  punctual t ht := h.punctual t (List.mem_cons_of_mem now ht)
  room := by
    have hroom := h.room
    rw [List.length_cons] at hroom
    rw [length_pay_add, length_pay]
    show s.members.length ≤ _ ∨ _ ≤ s.members.length
    omega
  ends hfull t ht := by
    rw [length_pay_add] at hfull
    rw [← List.getLast?_cons_of_ne_nil hreadings] at ht
    exact (endable_pay_iff hl).mpr (h.ends hfull t ht)

/-- Somebody able to pay may go before a row if the round stays open. -/
theorem Payable.cons (hdue : now ≤ s.roundDeadline) (hable : s.Able custody l p)
    (hl : l.transfer (s.payment custody p) = .ok l') (hreadings : readings ≠ [])
    (hopen : s.paidMembers.length + 1 ≠ s.members.length)
    (h : (s.pay p).Payable custody l' ps readings) :
    s.Payable custody l (p :: ps) (now :: readings) where
  nodup := List.nodup_cons.mpr
    ⟨fun hp => ((able_pay_iff hl).mp (h.able p hp)).1 rfl, h.nodup⟩
  able q hq := by
    rcases List.mem_cons.mp hq with rfl | hq
    · exact hable
    · exact ((able_pay_iff hl).mp (h.able q hq)).2
  punctual t ht := by
    rcases List.mem_cons.mp ht with rfl | ht
    · exact hdue
    · exact h.punctual t ht
  room := by
    have hroom : s.members.length ≤ (s.pay p).paidMembers.length
        ∨ (s.pay p).paidMembers.length + ps.length ≤ s.members.length := h.room
    rw [length_pay_add, length_pay] at hroom
    rw [List.length_cons]
    omega
  ends hfull t ht := by
    rw [List.getLast?_cons_of_ne_nil hreadings] at ht
    exact (endable_pay_iff hl).mp
      (h.ends ((length_pay_add s p ps.length).trans hfull) t ht)

/-- If others are to pay after the first in a row, the first leaves the round
open. -/
theorem Payable.open_of_cons (h : s.Payable custody l (p :: ps) readings)
    (hps : ps ≠ []) :
    s.paidMembers.length + 1 ≠ s.members.length := by
  have hroom := h.room
  have hlength := List.length_pos_iff.mpr hps
  rw [List.length_cons] at hroom
  omega

-- ======================================================== one payment of a row

theorem Able.payment (h : s.Able custody l p) :
    ∃ l', l.transfer (s.payment custody p) = .ok l' :=
  Ledger.transfer_of_le h.amount_pos h.outside h.funded

theorem Able.accept_of_open (h : s.Able custody l p)
    (hdue : now ≤ s.roundDeadline)
    (hopen : s.paidMembers.length + 1 ≠ s.members.length) :
    s.accept p now = .ok ⟨p, h.isMember⟩ := by
  rw [accept_of_due (Int.not_lt.mpr hdue) h.isMember h.unpaid, if_neg hopen]

theorem Able.accept_of_last (h : s.Able custody l p)
    (hdue : now ≤ s.roundDeadline)
    (hlast : s.paidMembers.length + 1 = s.members.length)
    (hend : s.Endable custody l n now) :
    s.accept p now = .ok ⟨p, h.isMember⟩ := by
  rw [accept_of_due (Int.not_lt.mpr hdue) h.isMember h.unpaid, if_pos hlast,
    nextDeadline_of_room hend.round hend.deadline]
  rfl

theorem ending?_of_last (hlast : s.paidMembers.length + 1 = s.members.length)
    (hne : s.members ≠ []) (p : Text) :
    s.ending? 1 = some ((s.pay p).recipient hne, (s.pay p).pot) := by
  unfold ending? Rotation.recipient?
  rw [if_pos hlast, dif_pos hne, pot_pay_of_last hlast]
  rfl

/-- Once the last has paid, the pot can be paid out. -/
theorem Endable.payout (h : s.Endable custody l 1 now)
    (hable : s.Able custody l p)
    (hlast : s.paidMembers.length + 1 = s.members.length) (hne : s.members ≠ [])
    (hl : l.transfer (s.payment custody p) = .ok l') :
    ∃ l'', l'.transfer ((s.pay p).payout custody hne) = .ok l'' := by
  have hmembers : (0 : Int) < s.members.length := by omega
  have hfunded := h.funded
  have houtside := h.outside
  unfold Rotation.recipient? at houtside
  rw [dif_pos hne] at houtside
  refine Ledger.transfer_of_le ?_
    (fun heq => houtside (congrArg some heq.symm)) ?_
  · show 0 < (s.pay p).pot
    rw [pot_pay_of_last hlast]
    exact Int.mul_pos hable.amount_pos hmembers
  · show (s.pay p).pot ≤ l'.balance s.assetId custody
    rw [pot_pay_of_last hlast, balance_of_payment hl]
    omega

/-- A round whose pot was paid out and reported could end. -/
theorem endable_of_payout {next : Scheme} {l'' : Ledger} {hne : s.members ≠ []}
    (hlast : s.paidMembers.length + 1 = s.members.length)
    (hnext : (s.pay p).advance now = .ok next)
    (hl : l.transfer (s.payment custody p) = .ok l')
    (hl' : l'.transfer ((s.pay p).payout custody hne) = .ok l'')
    (hreport : [s.currentRound, (s.pay p).pot, next.roundDeadline].all
      isWritable = true) :
    s.Endable custody l 1 now := by
  obtain ⟨hround, hdeadline, rfl⟩ := advance_eq_ok hnext
  obtain ⟨-, hself, hfunds, -⟩ := Ledger.transfer_eq_ok hl'
  rw [pot_pay_of_last hlast] at hreport
  refine ⟨hround, hdeadline, ?_, ?_, hreport⟩
  · unfold Rotation.recipient?
    rw [dif_pos hne]
    exact fun heq => hself (Option.some.inj heq).symm
  · have hpot : (s.pay p).pot ≤ l'.balance s.assetId custody := hfunds
    rw [pot_pay_of_last hlast, balance_of_payment hl] at hpot
    omega

end Scheme

-- ======================================================================== rows

namespace Memory

variable {custody key p : Text} {m : Memory} {s : Scheme} {now : Int}
  {ps qs : List Text} {readings : List Int}

/-- Members who pay one after the other, each in its own name and at its own
reading of the clock. -/
def contributions (ps : List Text) (readings : List Int) : List Move :=
  ps.zipWith (fun p now => ⟨now, .scheme (.contribute (some p) p)⟩) readings

theorem contributions_cons :
    contributions (p :: ps) (now :: readings)
      = ⟨now, .scheme (.contribute (some p) p)⟩ :: contributions ps readings :=
        rfl

theorem contributions_ne_nil (hreadings : readings ≠ []) (hps : ps ≠ []) :
    contributions ps readings ≠ [] := by
  unfold contributions
  rw [Ne, List.zipWith_eq_nil_iff, not_or]
  exact ⟨hps, hreadings⟩

/-- Every move succeeds, and the round does not end before the last of them. -/
def WithinRound (custody key : Text) (m : Memory) : List Move → Prop
  | [] => True
  | mv :: moves =>
      let r := m.step custody key mv.now mv.step
      r.1.isOk = true
        ∧ (moves ≠ [] → (r.2.schemes.get? key).map Scheme.currentRound
          = (m.schemes.get? key).map Scheme.currentRound)
        ∧ WithinRound custody key r.2 moves

instance decidableWithinRound (custody key : Text) :
    (m : Memory) → (moves : List Move) →
    Decidable (WithinRound custody key m moves)
  | _, [] => inferInstanceAs (Decidable True)
  | m, mv :: moves =>
      have := decidableWithinRound custody key
        (m.step custody key mv.now mv.step).2 moves
      inferInstanceAs (Decidable (_ ∧ _ ∧ _))

/-- What a row of contributions leaves behind, the last of them made at
`now`. -/
structure Settled (custody key : Text) (m : Memory) (s : Scheme)
    (ps : List Text) (now : Int) (m' : Memory) : Prop where
  record : m'.schemes.get? key = some (s.afterRow ps now)
  transfers : m.ledger.transferAll
    (ps.map (s.payment custody) ++ s.payouts custody ps.length)
    = .ok m'.ledger
  events : m'.events
    = m.events ++ (ps.map s.receipt ++ s.completions (s.ending? ps.length))

/-- A payment that leaves the round open. -/
theorem step_of_able {l : Ledger} (hs : m.schemes.get? key = some s)
    (hable : s.Able custody m.ledger p) (hdue : now ≤ s.roundDeadline)
    (hopen : s.paidMembers.length + 1 ≠ s.members.length)
    (hl : m.ledger.transfer (s.payment custody p) = .ok l) :
    m.step custody key now (.scheme (.contribute (some p) p))
      = (.ok (.state (s.pay p).state),
        ⟨m.schemes.put key (s.pay p), l, m.events ++ [s.receipt p]⟩) :=
  step_of_open hs (hable.accept_of_open hdue hopen) hopen hl hable.reportable

/-- A single payment of somebody who is able to pay goes through. -/
theorem step_of_payable (hs : m.schemes.get? key = some s)
    (h : s.Payable custody m.ledger [p] [now]) :
    ∃ a l, m.step custody key now (.scheme (.contribute (some p) p))
        = (.ok a, ⟨m.schemes.put key (s.afterRow [p] now), l,
          m.events ++ ([s.receipt p] ++ s.completions (s.ending? 1))⟩)
      ∧ m.ledger.transferAll ([s.payment custody p] ++ s.payouts custody 1)
        = .ok l := by
  obtain ⟨hdue, hable, hend⟩ := Scheme.payable_singleton.mp h
  obtain ⟨l, hl⟩ := hable.payment
  unfold Scheme.payouts
  by_cases hlast : s.paidMembers.length + 1 = s.members.length
  · have hne := List.ne_nil_of_mem hable.isMember
    have hrecord : s.afterRow [p] now = s.nextRound now := if_pos hlast
    have haccept := hable.accept_of_last hdue hlast (hend hlast)
    obtain ⟨next, hadvance⟩ := Scheme.advance_of_accept haccept hlast
    obtain ⟨-, -, rfl⟩ := Scheme.advance_eq_ok hadvance
    have hnext : (s.pay p).advance now = .ok (s.nextRound now) := hadvance
    obtain ⟨l', hl'⟩ := (hend hlast).payout hable hlast hne hl
    have hstep := step_of_last hs haccept hlast hnext hl hl' hable.reportable
    rw [Scheme.pot_pay_of_last hlast] at hstep
    rw [if_pos (hend hlast).reportable] at hstep
    rw [hrecord, Scheme.ending?_of_last hlast hne p]
    exact ⟨_, l', hstep,
      (Ledger.transferAll_cons hl).trans (Ledger.transferAll_cons hl')⟩
  · have hrecord : s.afterRow [p] now = s.pay p := if_neg hlast
    rw [hrecord, Scheme.ending?_of_open hlast]
    exact ⟨_, l, step_of_able hs hable hdue hlast hl,
      Ledger.transferAll_cons hl⟩

/-- What it leaves behind is what a row of one leaves behind. -/
theorem settled_of_payable_singleton (hs : m.schemes.get? key = some s)
    (h : s.Payable custody m.ledger [p] [now]) :
    let r := m.step custody key now (.scheme (.contribute (some p) p))
    r.1.isOk = true ∧ Settled custody key m s [p] now r.2 := by
  obtain ⟨a, l, hstep, hl⟩ := step_of_payable hs h
  intro r
  have hr : r = _ := hstep
  rw [hr]
  exact ⟨rfl, Registry.get?_put_self .., hl, rfl⟩

/-- Whoever pays was able to. -/
theorem payable_of_isOk
    (h : (m.step custody key now (.scheme (.contribute (some p) p))).1.isOk
      = true) :
    ∃ s, m.schemes.get? key = some s ∧ s.Payable custody m.ledger
      [p] [now] := by
  obtain ⟨a, ha⟩ : ∃ a,
      (m.step custody key now (.scheme (.contribute (some p) p))).1
      = .ok a := by
    cases hanswer : (m.step custody key now
      (.scheme (.contribute (some p) p))).1 with
    | ok a => exact ⟨a, rfl⟩
    | error f =>
        rw [hanswer] at h
        cases h
  have hst : (Step.scheme (.contribute (some p) p)).amends = false := rfl
  have heffect := effect_of_ok custody hst ha
  generalize (m.step custody key now (.scheme (.contribute (some p) p))).2
    = m' at heffect
  cases heffect with
  | looked hop => cases hop
  | @paid c s payer l hs haccept hopen hl hreport =>
      obtain ⟨hdue, hmem, hunpaid, -⟩ := Scheme.accept_eq_ok haccept
      obtain ⟨hamount, hself, hfunds, -⟩ := Ledger.transfer_eq_ok hl
      exact ⟨s, hs, Scheme.payable_singleton.mpr
        ⟨hdue, ⟨hmem, hunpaid, hamount, hself, hfunds, hreport⟩,
          fun hlast => absurd hlast hopen⟩⟩
  | @completed c s next payer l l' hs haccept hlast hnext hl hl'
      hreport hreport' =>
      obtain ⟨hdue, hmem, hunpaid, -⟩ := Scheme.accept_eq_ok haccept
      obtain ⟨hamount, hself, hfunds, -⟩ := Ledger.transfer_eq_ok hl
      exact ⟨s, hs, Scheme.payable_singleton.mpr
        ⟨hdue, ⟨hmem, hunpaid, hamount, hself, hfunds, hreport⟩,
          fun _ => Scheme.endable_of_payout hlast hnext hl hl' hreport'⟩⟩

/-- A payment that leaves the round open, and then the row of the others. -/
theorem Settled.cons {l : Ledger} {m' : Memory}
    (hl : m.ledger.transfer (s.payment custody p) = .ok l)
    (h : Settled custody key
      ⟨m.schemes.put key (s.pay p), l, m.events ++ [s.receipt p]⟩ (s.pay p)
      ps now m') : Settled custody key m s (p :: ps) now m' where
  record := (s.afterRow_pay p ps now) ▸ h.record
  transfers := by
    have hrest := h.transfers
    rw [Scheme.payouts_pay] at hrest
    exact (Ledger.transferAll_cons hl).trans hrest
  events := by
    have hrest := h.events
    rw [Scheme.ending?_pay, List.append_assoc] at hrest
    exact hrest

/-- A row that everybody in it is able to take part in goes through, and what it
leaves behind is known. -/
theorem settled_of_payable (hlen : readings.length = ps.length) (hps : ps ≠ [])
    (hs : m.schemes.get? key = some s)
    (h : s.Payable custody m.ledger ps readings) :
    WithinRound custody key m (contributions ps readings)
      ∧ ∀ now ∈ readings.getLast?,
        Settled custody key m s ps now
          (after custody key m (contributions ps readings)) := by
  induction ps generalizing m s readings with
  | nil => exact absurd rfl hps
  | cons p ps ih =>
      obtain ⟨now, readings, rfl⟩ := List.exists_cons_of_length_eq_add_one hlen
      have hlen' : readings.length = ps.length := Nat.succ.inj hlen
      by_cases hne : ps = []
      · -- the last payment of the row
        subst hne
        obtain rfl := List.eq_nil_of_length_eq_zero hlen'
        obtain ⟨hok, hsettled⟩ := settled_of_payable_singleton hs h
        refine ⟨⟨hok, fun hnil => absurd rfl hnil, trivial⟩, ?_⟩
        rintro t ht
        cases ht
        exact hsettled
      · have hreadings : readings ≠ [] :=
          List.length_pos_iff.mp (hlen' ▸ List.length_pos_iff.mpr hne)
        have hopen := h.open_of_cons hne
        have hable := h.able p List.mem_cons_self
        obtain ⟨l, hl⟩ := hable.payment
        have hdue := h.punctual now List.mem_cons_self
        have hrest := h.after_first hreadings hl
        have hstep := step_of_able hs hable hdue hopen hl
        have hput := Registry.get?_put_self m.schemes key (s.pay p)
        obtain ⟨hwithin, hsettled⟩ := ih (m := ⟨m.schemes.put key (s.pay p), l,
          m.events ++ [s.receipt p]⟩) hlen' hne hput hrest
        rw [contributions_cons]
        refine ⟨⟨?_, fun _ => ?_, ?_⟩, fun t ht => ?_⟩
        · rw [hstep]
          rfl
        · rw [hstep, hput, hs]
          rfl
        · rw [hstep]
          exact hwithin
        · rw [after_cons, hstep]
          rw [List.getLast?_cons_of_ne_nil hreadings] at ht
          exact (hsettled t ht).cons hl

/-- Whoever pays in a row that goes through was able to as the row began. -/
theorem payable_of_withinRound (hlen : readings.length = ps.length)
    (hps : ps ≠ [])
    (h : WithinRound custody key m (contributions ps readings)) :
    ∃ s, m.schemes.get? key = some s
      ∧ s.Payable custody m.ledger ps readings := by
  induction ps generalizing m readings with
  | nil => exact absurd rfl hps
  | cons p ps ih =>
      obtain ⟨now, readings, rfl⟩ := List.exists_cons_of_length_eq_add_one hlen
      have hlen' : readings.length = ps.length := Nat.succ.inj hlen
      rw [contributions_cons] at h
      obtain ⟨hok, hround, hrest⟩ := h
      obtain ⟨s, hs, hfirst⟩ := payable_of_isOk hok
      by_cases hne : ps = []
      · subst hne
        obtain rfl := List.eq_nil_of_length_eq_zero hlen'
        exact ⟨s, hs, hfirst⟩
      · have hreadings : readings ≠ [] :=
          List.length_pos_iff.mp (hlen' ▸ List.length_pos_iff.mpr hne)
        obtain ⟨hdue, hable, -⟩ := Scheme.payable_singleton.mp hfirst
        obtain ⟨l, hl⟩ := hable.payment
        have hopen : s.paidMembers.length + 1 ≠ s.members.length := by
          -- otherwise the round would be over, and others are still to pay
          intro hlast
          obtain ⟨-, hsettled⟩ := settled_of_payable_singleton hs hfirst
          have hsame := hround (contributions_ne_nil hreadings hne)
          have hended : s.afterRow [p] now = s.nextRound now := if_pos hlast
          rw [hsettled.record, hs, hended] at hsame
          have hcount : s.currentRound + 1 = s.currentRound :=
            Option.some.inj hsame
          omega
        rw [step_of_able hs hable hdue hopen hl] at hrest
        obtain ⟨s', hs', hothers⟩ := ih hlen' hne hrest
        obtain rfl :=
          Option.some.inj ((Registry.get?_put_self ..).symm.trans hs')
        exact ⟨s, hs, .cons hdue hable hl hreadings hopen hothers⟩

-- ====================================================================== orders

/-- What two rows of the same payers leave alike: all but the order in which the
payers are entered and told of. -/
structure AlikeAfterRows (key : Text) (m : Memory) (ps qs : List Text)
    (m₁ m₂ : Memory) : Prop where
  record : Option.Rel Scheme.UpToOrder (m₁.schemes.get? key)
    (m₂.schemes.get? key)
  balances : ∀ asset holder, m₁.ledger.balance asset holder
    = m₂.ledger.balance asset holder
  /-- If the round ended, the same recipient was paid the same pot. -/
  events : ∀ s, m.schemes.get? key = some s → ∃ ended : Option (Text × Int),
    m₁.events = m.events ++ (ps.map s.receipt ++ s.completions ended)
      ∧ m₂.events = m.events ++ (qs.map s.receipt ++ s.completions ended)
      ∧ ∀ t, m₁.schemes.get? key = some t →
        t.currentRound = s.currentRound + if ended.isSome then 1 else 0

/-- Nothing happens in a row without payers. -/
theorem alikeAfterRows_nil (key : Text) (m : Memory) :
    AlikeAfterRows key m [] [] m m where
  record := by
    cases m.schemes.get? key with
    | none => exact .none
    | some s => exact .some ⟨.refl _, rfl⟩
  balances _ _ := rfl
  events s hs := by
    refine ⟨none, (List.append_nil _).symm, (List.append_nil _).symm,
      fun t ht => ?_⟩
    obtain rfl := Option.some.inj (hs.symm.trans ht)
    exact (Int.add_zero _).symm

/-- Rows of the same payers leave the same behind, up to order. -/
theorem Settled.alike {m₁ m₂ : Memory} (hs : m.schemes.get? key = some s)
    (hmembers : s.members ≠ []) (h₁ : Settled custody key m s ps now m₁)
    (h₂ : Settled custody key m s qs now m₂) (hperm : ps.Perm qs) :
    AlikeAfterRows key m ps qs m₁ m₂ where
  record := by
    rw [h₁.record, h₂.record]
    exact .some (Scheme.afterRow_perm hperm now)
  balances asset holder := by
    rw [Ledger.balance_of_transferAll h₁.transfers,
      Ledger.balance_of_transferAll h₂.transfers, hperm.length_eq,
      Transfer.total_perm ((hperm.map (s.payment custody)).append_right _)]
  events s' hs' := by
    obtain rfl := Option.some.inj (hs.symm.trans hs')
    refine ⟨s.ending? ps.length, h₁.events, hperm.length_eq ▸ h₂.events,
      fun t ht => ?_⟩
    obtain rfl := Option.some.inj (h₁.record.symm.trans ht)
    exact Scheme.currentRound_afterRow hmembers ps now

/-- Members who pay one after the other within a round might as well have paid
in any other order at the same readings of the clock: everybody's payment is
taken then too, and all that is left behind is alike. -/
theorem alike_in_any_order (custody key : Text) (m : Memory) (ps qs : List Text)
    (readings : List Int) (hlen : readings.length = ps.length)
    (hperm : ps.Perm qs)
    (h : WithinRound custody key m (contributions ps readings)) :
    WithinRound custody key m (contributions qs readings)
      ∧ AlikeAfterRows key m ps qs
        (after custody key m (contributions ps readings))
        (after custody key m (contributions qs readings)) := by
  by_cases hps : ps = []
  · subst hps
    obtain rfl := hperm.nil_eq
    exact ⟨trivial, alikeAfterRows_nil key m⟩
  have hqs : qs ≠ [] := fun hnil => hps (hnil ▸ hperm).eq_nil
  obtain ⟨s, hs, hpayable⟩ := payable_of_withinRound hlen hps h
  have hmembers : s.members ≠ [] := by
    obtain ⟨p, hp⟩ := List.exists_mem_of_ne_nil ps hps
    exact List.ne_nil_of_mem (hpayable.able p hp).isMember
  obtain ⟨now, hnow⟩ : ∃ now, now ∈ readings.getLast? := by
    have hreadings : readings ≠ [] :=
      List.length_pos_iff.mp (hlen ▸ List.length_pos_iff.mpr hps)
    exact ⟨_, List.getLast?_eq_getLast_of_ne_nil hreadings⟩
  obtain ⟨-, hsettled⟩ := settled_of_payable hlen hps hs hpayable
  obtain ⟨hwithin, hsettled'⟩ :=
    settled_of_payable (hlen.trans hperm.length_eq) hqs hs (hpayable.perm hperm)
  exact ⟨hwithin, (hsettled now hnow).alike hs hmembers
    (hsettled' now hnow) hperm⟩

/-- A club of three with the money for one round. -/
def fundedClub : List Move :=
  [⟨0, .ledger (.mint "usd" "ana" 5)⟩, ⟨0, .ledger (.mint "usd" "bo" 5)⟩,
    ⟨0, .ledger (.mint "usd" "cy" 5)⟩,
    ⟨0, .scheme
      (.establish ⟨"ana", ["ana", "bo", "cy"], .integer 5, "usd",
        .integer 100⟩)⟩]

theorem alike_in_any_order_fundedClub :
    let m := after "custody" "s" .empty fundedClub
    let m₁ := after "custody" "s" m
      (contributions ["ana", "bo", "cy"] [1, 2, 3])
    let m₂ := after "custody" "s" m
      (contributions ["cy", "ana", "bo"] [1, 2, 3])
    m₁.ledger.balance "usd" "ana" = 15 ∧ m₂.ledger.balance "usd" "ana" = 15
      ∧ AlikeAfterRows "s" m ["ana", "bo", "cy"] ["cy", "ana", "bo"] m₁ m₂ := by
  intro m m₁ m₂
  have hwithin : WithinRound "custody" "s" m
      (contributions ["ana", "bo", "cy"] [1, 2, 3]) := by
    decide +kernel
  have hperm : (["ana", "bo", "cy"] : List Text).Perm ["cy", "ana", "bo"] := by
    decide
  obtain ⟨-, halike⟩ :=
    alike_in_any_order "custody" "s" m _ _ [1, 2, 3] rfl hperm hwithin
  have hfirst : m₁.ledger.balance "usd" "ana" = 15 := by decide +kernel
  exact ⟨hfirst, (halike.balances "usd" "ana") ▸ hfirst, halike⟩

end Memory

end SavingsClub
