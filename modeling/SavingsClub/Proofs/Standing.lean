/-
Records in good standing, and the ways in which a record gives way to the next.

# The invariant

`Scheme.Sound` is what is true of the record of a scheme that has been run by
its operations alone: the terms keep the rules under which they were accepted,
nobody has paid twice or from outside, and at least one contribution is missing.
That last bound is strict, and everything about the end of a round hangs on it:
a contribution completes the round exactly when it is the one that was missing
(`Scheme.isComplete_pay`), so no round is ever complete and still open.

A reading of the clock has a bounded length, and a list a bounded number of
entries. If both are kept to, whatever is reported of a record in good standing
can be written (`Listed`).

# The changes

A record that is there changes in three ways only: a member pays, a member pays
and thereby opens the next round, the admin closes the round by force.
`Scheme.Progress` lists them, each with what it takes; `Sound.progress` and
`On.progress` say once what all of them keep.
-/
import Mathlib.Data.List.Perm.Subperm
import SavingsClub.Round

namespace SavingsClub

-- ======================================================================= terms

/-- The record is one of a scheme on these terms. -/
structure Scheme.On (s : Scheme) (t : Terms) : Prop where
  admin : s.admin = t.admin
  members : s.members = t.members
  amount : t.amount = .integer s.contributionAmount
  asset : s.assetId = t.asset
  duration : t.duration = .integer s.roundDuration

namespace Terms

variable {t : Terms}

/-- Who takes part in a scheme whose terms keep the rules. -/
theorem checkNames_eq_ok {u : Unit} (h : t.checkNames = .ok u) :
    t.members ≠ [] ∧ ("" : Text) ∉ t.members ∧ t.members.Nodup := by
  unfold checkNames at h
  split at h
  · cases h
  split at h
  · cases h
  split at h
  · cases h
  next hne =>
    split at h
    · cases h
    next hnamed =>
      split at h
      · cases h
      next hnodup => exact ⟨hne, hnamed, Decidable.of_not_not hnodup⟩

/-- What is paid into a scheme whose terms keep the rules. -/
theorem checkAmount_eq_ok {n : Int} (h : t.checkAmount = .ok n) :
    t.amount = .integer n ∧ 0 < n ∧ n ≤ maxAmount := by
  unfold checkAmount at h
  split at h
  · cases h
  next m hm =>
    split at h
    case isFalse => cases h
    case isTrue hrange =>
      cases h
      exact ⟨hm, hrange⟩

/-- How long the rounds of a scheme are whose terms keep the rules. -/
theorem checkDuration_eq_ok {n : Int} (h : t.checkDuration = .ok n) :
    t.duration = .integer n ∧ 0 < n ∧ n ≤ maxTime := by
  unfold checkDuration at h
  split at h
  · cases h
  next m hm =>
    split at h
    case isFalse => cases h
    case isTrue hrange =>
      cases h
      exact ⟨hm, hrange⟩

/-- What terms have been checked for. -/
theorem validate_eq_ok {n d : Int} (h : t.validate = .ok (n, d)) :
    t.checkNames = .ok () ∧ t.checkAmount = .ok n
      ∧ t.checkDuration = .ok d := by
  unfold validate at h
  cases hnames : t.checkNames with
  | error v => rw [hnames] at h; cases h
  | ok u =>
      rw [hnames] at h
      cases hamount : t.checkAmount with
      | error v => rw [hamount] at h; cases h
      | ok n' =>
          rw [hamount] at h
          cases hduration : t.checkDuration with
          | error v => rw [hduration] at h; cases h
          | ok d' =>
              rw [hduration] at h
              cases h
              exact ⟨rfl, rfl, rfl⟩

/-- The record of a scheme that begins: it is on its terms, and nothing has
happened in it. -/
theorem opening_eq_ok {now : Int} {s : Scheme} (h : t.opening now = .ok s) :
    s.On t ∧ t.validate = .ok (s.contributionAmount, s.roundDuration)
      ∧ s.roundDeadline = now + s.roundDuration ∧ s.roundDeadline ≤ maxTime
      ∧ s.currentRound = 0 ∧ s.paidMembers = [] ∧ s.defaulters = [] := by
  unfold opening at h
  cases hv : t.validate with
  | error v => rw [hv] at h; cases h
  | ok p =>
      obtain ⟨n, d⟩ := p
      obtain ⟨-, hn, hd⟩ := validate_eq_ok hv
      rw [hv] at h
      change (if _ then _ else _) = _ at h
      split at h
      · cases h
      next hlate =>
        cases h
        exact ⟨⟨rfl, rfl, (checkAmount_eq_ok hn).1, rfl,
          (checkDuration_eq_ok hd).1⟩, rfl, rfl, Int.not_lt.mp hlate,
          rfl, rfl, rfl⟩

end Terms

namespace Scheme

variable {s next : Scheme} {now : Int}

-- ====================================================================== rounds

/-- A contribution completes the round exactly if one is missing. -/
theorem isComplete_pay (s : Scheme) (contributor : Text) :
    Rotation.isComplete (s.pay contributor).members
      (s.pay contributor).paidMembers = true
      ↔ s.paidMembers.length + 1 = s.members.length := by
  simp [Rotation.isComplete, pay]

/-- What it takes to be taken as a payer. -/
theorem accept_eq_ok {contributor : Text} {payer : s.Payer}
    (h : s.accept contributor now = .ok payer) :
    now ≤ s.roundDeadline ∧ contributor ∈ s.members
      ∧ contributor ∉ s.paidMembers
      ∧ (s.paidMembers.length + 1 = s.members.length →
        ∃ d, s.nextDeadline now = .ok d) := by
  unfold accept at h
  split at h
  · cases h
  next hlate =>
    split at h
    case isFalse => cases h
    case isTrue hmem =>
      split at h
      · cases h
      next hpaid =>
        have hpaid' : contributor ∉ s.paidMembers := by
          simpa [hasPaid] using hpaid
        refine ⟨Int.not_lt.mp hlate, hmem, hpaid', fun hlast => ?_⟩
        rw [if_pos hlast] at h
        cases hd : s.nextDeadline now with
        | error f => rw [hd] at h; cases h
        | ok d => exact ⟨d, rfl⟩

/-- A round that has been found able to give way to the next still is after a
payment. -/
theorem advance_pay {d : Int} (h : s.nextDeadline now = .ok d)
    (contributor : Text) :
    ∃ next, (s.pay contributor).advance now = .ok next := by
  have hpay : (s.pay contributor).nextDeadline now = .ok d := h
  unfold advance
  rw [hpay]
  exact ⟨_, rfl⟩

/-- The record with the next round opened at `now`. -/
def nextRound (s : Scheme) (now : Int) : Scheme :=
  { s with
    currentRound := s.currentRound + 1
    paidMembers := []
    roundDeadline := now + s.roundDuration }

/-- What it takes for the next round to open. -/
theorem advance_eq_ok (h : s.advance now = .ok next) :
    s.currentRound < maxRound ∧ now + s.roundDuration ≤ maxTime
      ∧ next = s.nextRound now := by
  have hd := nextDeadline_of_advance h
  obtain ⟨hdeadline, hle⟩ := eq_of_nextDeadline hd
  have hround : s.currentRound < maxRound := by
    unfold nextDeadline at hd
    split at hd
    · cases hd
    next hlast => exact Int.not_le.mp hlast
  have hdeadline' : next.roundDeadline = now + s.roundDuration := hdeadline
  rw [hdeadline'] at hd hle
  unfold advance at h
  rw [hd] at h
  injection h with hnext
  exact ⟨hround, hle, hnext.symm⟩

-- ===================================================================== changes

/-- How a record that is there gives way to the next at `now`. -/
inductive Progress (now : Int) (s : Scheme) : Scheme → Prop where
  | stays : Progress now s s
  | pays {contributor : Text} {payer : s.Payer}
      (haccept : s.accept contributor now = .ok payer)
      (hopen : s.paidMembers.length + 1 ≠ s.members.length) :
      Progress now s (s.pay contributor)
  | completes {contributor : Text} {payer : s.Payer} {next : Scheme}
      (haccept : s.accept contributor now = .ok payer)
      (hlast : s.paidMembers.length + 1 = s.members.length)
      (hnext : (s.pay contributor).advance now = .ok next) : Progress now s next
  | closes {next : Scheme} (hdue : s.roundDeadline < now)
      (hnext :
        ({ s with defaulters := Rotation.defaulters s.members s.paidMembers } :
        Scheme).advance now = .ok next) : Progress now s next

/-- A change of the record keeps it on its terms. -/
theorem On.progress {t : Terms} (hs : s.On t) (h : Progress now s next) :
    next.On t := by
  obtain ⟨hadmin, hmembers, hamount, hasset, hduration⟩ := hs
  cases h with
  | stays => exact ⟨hadmin, hmembers, hamount, hasset, hduration⟩
  | pays => exact ⟨hadmin, hmembers, hamount, hasset, hduration⟩
  | completes haccept hlast hnext =>
      obtain ⟨-, -, rfl⟩ := advance_eq_ok hnext
      exact ⟨hadmin, hmembers, hamount, hasset, hduration⟩
  | closes hdue hnext =>
      obtain ⟨-, -, rfl⟩ := advance_eq_ok hnext
      exact ⟨hadmin, hmembers, hamount, hasset, hduration⟩

/-- Rounds are counted upwards, one at a time. -/
theorem Progress.currentRound (h : Progress now s next) :
    next.currentRound = s.currentRound
      ∨ next.currentRound = s.currentRound + 1 ∧ next.paidMembers = [] := by
  cases h with
  | stays => exact Or.inl rfl
  | pays => exact Or.inl rfl
  | completes haccept hlast hnext =>
      obtain ⟨-, -, rfl⟩ := advance_eq_ok hnext
      exact Or.inr ⟨rfl, rfl⟩
  | closes hdue hnext =>
      obtain ⟨-, -, rfl⟩ := advance_eq_ok hnext
      exact Or.inr ⟨rfl, rfl⟩

-- =============================================================== the invariant

/-- The record of a scheme that has been run by its operations alone. -/
structure Sound (s : Scheme) : Prop where
  members_ne_nil : s.members ≠ []
  members_nodup : s.members.Nodup
  members_named : ("" : Text) ∉ s.members
  amount : 0 < s.contributionAmount ∧ s.contributionAmount ≤ maxAmount
  duration : 0 < s.roundDuration ∧ s.roundDuration ≤ maxTime
  round : 0 ≤ s.currentRound ∧ s.currentRound ≤ maxRound
  deadline : s.roundDeadline ≤ maxTime
  paid_nodup : s.paidMembers.Nodup
  paid_mem : ∀ p ∈ s.paidMembers, p ∈ s.members
  paid_short : s.paidMembers.length < s.members.length
  defaulters_sublist : s.defaulters.Sublist s.members

/-- A scheme begins in good standing. -/
theorem sound_of_opening {t : Terms} (h : t.opening now = .ok s) : s.Sound := by
  obtain ⟨hon, hvalid, -, hle, hround, hpaid, hdefaulters⟩ :=
    Terms.opening_eq_ok h
  obtain ⟨hnames, hamount, hduration⟩ := Terms.validate_eq_ok hvalid
  obtain ⟨hne, hnamed, hnodup⟩ := Terms.checkNames_eq_ok hnames
  rw [← hon.members] at hne hnamed hnodup
  exact {
    members_ne_nil := hne
    members_nodup := hnodup
    members_named := hnamed
    amount := (Terms.checkAmount_eq_ok hamount).2
    duration := (Terms.checkDuration_eq_ok hduration).2
    round := by rw [hround]; decide
    deadline := hle
    paid_nodup := by rw [hpaid]; exact List.nodup_nil
    paid_mem := by rw [hpaid]; intro p hp; cases hp
    paid_short := by rw [hpaid]; exact List.length_pos_iff.mpr hne
    defaulters_sublist := by rw [hdefaulters]; exact List.nil_sublist _ }

/-- Nobody has paid twice when somebody has just paid. -/
theorem Sound.pay_nodup (hs : s.Sound) {contributor : Text}
    (hpaid : contributor ∉ s.paidMembers) :
    (s.pay contributor).paidMembers.Nodup := by
  show (s.paidMembers ++ [contributor]).Nodup
  rw [List.nodup_append]
  refine ⟨hs.paid_nodup, List.pairwise_singleton _ _, fun p hp q hq hpq => ?_⟩
  rw [List.mem_singleton] at hq
  exact hpaid (hq ▸ hpq ▸ hp)

/-- Nobody has paid from outside when a member has just paid. -/
theorem Sound.pay_mem (hs : s.Sound) {contributor : Text}
    (hmem : contributor ∈ s.members) :
    ∀ p ∈ (s.pay contributor).paidMembers, p ∈ s.members := by
  intro p hp
  rcases List.mem_append.mp hp with hold | hnew
  · exact hs.paid_mem p hold
  · rw [List.mem_singleton.mp hnew]
    exact hmem

/-- A payment is one more. -/
theorem length_pay (s : Scheme) (contributor : Text) :
    (s.pay contributor).paidMembers.length = s.paidMembers.length + 1 := by
  simp [pay]

/-- A payment that leaves another one missing keeps the standing. -/
theorem Sound.pay (hs : s.Sound) {contributor : Text} {payer : s.Payer}
    (haccept : s.accept contributor now = .ok payer)
    (hopen : s.paidMembers.length + 1 ≠ s.members.length) :
    (s.pay contributor).Sound := by
  obtain ⟨-, hmem, hpaid, -⟩ := accept_eq_ok haccept
  have hshort := hs.paid_short
  exact { hs with
    paid_nodup := hs.pay_nodup hpaid
    paid_mem := hs.pay_mem hmem
    paid_short := by
      rw [length_pay]
      show s.paidMembers.length + 1 < s.members.length
      omega }

/-- When the last contribution is in, everybody has paid. -/
theorem Sound.pay_perm (hs : s.Sound) {contributor : Text}
    (hmem : contributor ∈ s.members) (hpaid : contributor ∉ s.paidMembers)
    (hlast : s.paidMembers.length + 1 = s.members.length) :
    (s.pay contributor).paidMembers.Perm s.members := by
  refine (List.subperm_of_subset (hs.pay_nodup hpaid)
    (hs.pay_mem hmem)).perm_of_length_le ?_
  rw [length_pay]
  omega

theorem Sound.paid_perm (hs : s.Sound) {contributor : Text} {payer : s.Payer}
    (haccept : s.accept contributor now = .ok payer)
    (hlast : s.paidMembers.length + 1 = s.members.length) :
    (s.pay contributor).paidMembers.Perm s.members := by
  obtain ⟨-, hmem, hpaid, -⟩ := accept_eq_ok haccept
  exact hs.pay_perm hmem hpaid hlast

/-- The next round opens in good standing, whoever had paid in the last one and
whoever is entered as a defaulter, if only those entered are members in
order. -/
theorem Sound.advance (hs : s.Sound) {paid defaulters : List Text}
    (hdefaulters : defaulters.Sublist s.members)
    (hnext : ({ s with paidMembers := paid, defaulters := defaulters } :
      Scheme).advance now
      = .ok next) : next.Sound := by
  obtain ⟨hround, hle, rfl⟩ := advance_eq_ok hnext
  have h0 := hs.round.1
  exact { hs with
    round := ⟨by show 0 ≤ s.currentRound + 1; omega, hround⟩
    deadline := hle
    paid_nodup := List.nodup_nil
    paid_mem := fun p hp => by cases hp
    paid_short := List.length_pos_iff.mpr hs.members_ne_nil
    defaulters_sublist := hdefaulters }

/-- Every change of a record keeps its standing. -/
theorem Sound.progress (hs : s.Sound) (h : Progress now s next) :
    next.Sound := by
  cases h with
  | stays => exact hs
  | pays haccept hopen => exact hs.pay haccept hopen
  | completes haccept hlast hnext =>
      exact hs.advance hs.defaulters_sublist hnext
  | closes hdue hnext =>
      have hnext' : ({ s with
          paidMembers := s.paidMembers
          defaulters :=
            Rotation.defaulters s.members s.paidMembers } : Scheme).advance now
          = .ok next := hnext
      exact hs.advance List.filter_sublist hnext'

/-- No deadline is at the beginning of time or before it if no clock is before
it. -/
theorem Sound.deadline_pos (hs : s.Sound) (hnow : 0 ≤ now)
    (hdeadline : 1 ≤ s.roundDeadline) (h : Progress now s next) :
    1 ≤ next.roundDeadline := by
  have hduration := hs.duration.1
  cases h with
  | stays => exact hdeadline
  | pays => exact hdeadline
  | completes haccept hlast hnext =>
      obtain ⟨-, -, rfl⟩ := advance_eq_ok hnext
      show 1 ≤ now + s.roundDuration
      omega
  | closes hdue hnext =>
      obtain ⟨-, -, rfl⟩ := advance_eq_ok hnext
      show 1 ≤ now + s.roundDuration
      omega

-- ================================================================== in writing

theorem Sound.isWritable_amount (hs : s.Sound) :
    isWritable s.contributionAmount = true :=
  isWritable_of_le (Int.le_of_lt hs.amount.1) hs.amount.2 maxAmount_lt

theorem Sound.isWritable_round (hs : s.Sound) :
    isWritable s.currentRound = true :=
  isWritable_of_le hs.round.1 hs.round.2 (lt_digitLimit (by decide))

theorem Sound.reports_payment (hs : s.Sound) :
    [s.contributionAmount, s.currentRound].all isWritable = true := by
  simp [hs.isWritable_amount, hs.isWritable_round]

/-- The first deadline can be written if the reading of the clock that it counts
from is not too far back. -/
theorem isWritable_of_opening {t : Terms} (hnow : -(digitLimit : Int) < now)
    (h : t.opening now = .ok s) : isWritable s.roundDeadline = true := by
  have hsound := sound_of_opening h
  obtain ⟨-, -, hdeadline, hle, -⟩ := Terms.opening_eq_ok h
  rw [hdeadline] at hle ⊢
  exact Rotation.isWritable_deadline (Int.le_of_lt hsound.duration.1) hle hnow

/-- And so can every later one. -/
theorem isWritable_of_advance (hduration : 0 < s.roundDuration)
    (hnow : -(digitLimit : Int) < now) (h : s.advance now = .ok next) :
    isWritable next.roundDeadline = true := by
  obtain ⟨-, hle, rfl⟩ := advance_eq_ok h
  exact Rotation.isWritable_deadline (Int.le_of_lt hduration) hle hnow

/-- A record in good standing with no more members than a list can have. -/
structure Listed (s : Scheme) : Prop where
  sound : s.Sound
  length_le : s.members.length ≤ maxLength

theorem listed_of_opening {t : Terms} (hlength : t.members.length ≤ maxLength)
    (h : t.opening now = .ok s) : s.Listed := by
  obtain ⟨hon, -⟩ := Terms.opening_eq_ok h
  exact ⟨sound_of_opening h, hon.members ▸ hlength⟩

theorem Listed.progress (hs : s.Listed) (h : Progress now s next) :
    next.Listed := by
  refine ⟨hs.sound.progress h, ?_⟩
  cases h with
  | stays | pays => exact hs.length_le
  | completes haccept hlast hnext | closes hdue hnext =>
      obtain ⟨-, -, rfl⟩ := advance_eq_ok hnext
      exact hs.length_le

/-- With the contribution that was missing the pot is that of all members. -/
theorem pot_pay_of_last (hlast : s.paidMembers.length + 1 = s.members.length)
    (contributor : Text) :
    (s.pay contributor).pot
    = Rotation.pot s.contributionAmount s.members.length := by
  show Rotation.pot s.contributionAmount
    (s.pay contributor).paidMembers.length = _
  rw [length_pay, hlast]

/-- What all members pay can be written: it is at most the largest contribution
from as many members as a list can have. -/
theorem Listed.isWritable_pot (hs : s.Listed) :
    isWritable (Rotation.pot s.contributionAmount s.members.length) = true := by
  have hamount := hs.sound.amount
  have hlength : (s.members.length : Int) ≤ maxLength :=
    Int.ofNat_le.mpr hs.length_le
  have hle : Rotation.pot s.contributionAmount s.members.length
      ≤ maxAmount * maxLength :=
    Int.mul_le_mul hamount.2 hlength (Int.natCast_nonneg _) (by decide)
  exact isWritable_of_le
    (Int.mul_nonneg (Int.le_of_lt hamount.1) (Int.natCast_nonneg _)) hle
    (lt_digitLimit (by decide))

/-- Of all that is reported of a payout only the deadline of the round that
opens may be too long. -/
theorem Listed.reports_payout (hs : s.Listed) {contributor : Text}
    {deadline : Int} (hlast : s.paidMembers.length + 1 = s.members.length) :
    [s.currentRound, (s.pay contributor).pot, deadline].all isWritable
    = isWritable deadline := by
  simp [hs.sound.isWritable_round, pot_pay_of_last hlast, hs.isWritable_pot]

end Scheme

end SavingsClub
