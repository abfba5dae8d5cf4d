/-
What comes of a contribution.

# The rules, in order

`Scheme.objection?` states the rules for a contribution as they are documented,
the first that is broken being the one reported. It speaks of who has paid and
not of how many: the contribution ends the round if everybody else has paid
(`Awaits`). In a record in good standing that is the same as there being one
contribution missing (`Sound.awaits_iff`), which is what is counted.

# The outcome

`outcome_of_contribute`: in a club from which nobody has taken custody's money
by hand, a contribution that none of the rules is against succeeds, and there is
nothing else that it could be refused for. A payment that was missing is paid
out in the same step: what is in custody covers the pot (`Covered.payout`), so
paying out adds no refusal of its own.
-/
import SavingsClub.Proofs.Settlement
import SavingsClub.Proofs.Solvency
import SavingsClub.Proofs.Timing
import SavingsClub.Proofs.Turn

namespace SavingsClub

-- =================================================================== the rules

namespace Scheme

/-- Everybody else among the members has paid into the round. -/
def Awaits (s : Scheme) (c : Text) : Prop :=
  ∀ p ∈ s.members, p ≠ c → p ∈ s.paidMembers

instance (s : Scheme) (c : Text) : Decidable (s.Awaits c) :=
  inferInstanceAs (Decidable (∀ p ∈ s.members, p ≠ c → p ∈ s.paidMembers))

/-- The first rule about the round that a contribution at `now` breaks. -/
def declined? (s : Scheme) (c : Text) (now : Int) : Option Fault :=
  if s.roundDeadline < now then some (.deadlinePassed s.roundDeadline now)
  else if c ∉ s.members then some (.notAMember c)
  else if c ∈ s.paidMembers then some (.alreadyContributed c s.currentRound)
  else if s.Awaits c ∧ s.currentRound = maxRound then some .maxRoundsReached
  else if s.Awaits c ∧ maxTime < now + s.roundDuration then
    some (.invalidParameters (.deadlineOutside (now + s.roundDuration)))
  else none

/-- The first rule about the money that a contribution breaks if the contributor
has `available`. -/
def unpayable? (s : Scheme) (custody c : Text) (available : Int) :
    Option Fault :=
  if c = custody then some (.transferRejected (.toItself c))
  else if available < s.contributionAmount then
    some (.insufficientFunds c s.contributionAmount available)
  else none

/-- The first rule that a contribution breaks: those about the round come
first. -/
def objection? (s : Scheme) (custody c : Text) (now available : Int) :
    Option Fault :=
  (s.declined? c now).or (s.unpayable? custody c available)

variable {s : Scheme} {custody c : Text} {now available : Int} {f : Fault}

/-- Everybody else has paid if and only if one contribution is missing. -/
theorem Sound.awaits_iff (hs : s.Sound) (hmem : c ∈ s.members)
    (hpaid : c ∉ s.paidMembers) :
    s.Awaits c ↔ s.paidMembers.length + 1 = s.members.length := by
  refine ⟨fun h => ?_, fun hlast p hp hne => ?_⟩
  · -- the members differ, so if all of them are entered there are as many
    -- entries
    have hsubset : s.members ⊆ (s.pay c).paidMembers := by
      intro p hp
      by_cases hpc : p = c
      · exact List.mem_append_right _ (List.mem_singleton.mpr hpc)
      · exact List.mem_append_left _ (h p hp hpc)
    have hle := (List.subperm_of_subset hs.members_nodup hsubset).length_le
    have hshort := hs.paid_short
    rw [length_pay] at hle
    omega
  · -- the payers with the contributor are the members in another order
    have hpayers := (hs.pay_perm hmem hpaid hlast).mem_iff.mpr hp
    rcases List.mem_append.mp hpayers with hold | hnew
    · exact hold
    · exact absurd (List.mem_singleton.mp hnew) hne

theorem nextDeadline_of_maxRound (hround : s.currentRound = maxRound) :
    s.nextDeadline now = .error .maxRoundsReached := by
  unfold nextDeadline
  exact if_pos (Int.le_of_eq hround.symm)

theorem nextDeadline_of_late (hround : s.currentRound < maxRound)
    (hlate : maxTime < now + s.roundDuration) :
    s.nextDeadline now
      = .error (.invalidParameters
        (.deadlineOutside (now + s.roundDuration))) := by
  unfold nextDeadline
  rw [if_neg (Int.not_le.mpr hround)]
  exact if_pos hlate

theorem nextDeadline_of_room (hround : s.currentRound < maxRound)
    (hroom : now + s.roundDuration ≤ maxTime) :
    s.nextDeadline now = .ok (now + s.roundDuration) := by
  unfold nextDeadline
  rw [if_neg (Int.not_le.mpr hround)]
  exact if_neg (Int.not_lt.mpr hroom)

theorem accept_of_late (hlate : s.roundDeadline < now) :
    s.accept c now = .error (.deadlinePassed s.roundDeadline now) :=
      if_pos hlate

theorem accept_of_stranger (hdue : ¬ s.roundDeadline < now)
    (hmem : c ∉ s.members) :
    s.accept c now = .error (.notAMember c) := by
  unfold accept
  rw [if_neg hdue, dif_neg hmem]

theorem accept_of_paid (hdue : ¬ s.roundDeadline < now) (hmem : c ∈ s.members)
    (hpaid : c ∈ s.paidMembers) :
    s.accept c now = .error (.alreadyContributed c s.currentRound) := by
  have hdone : s.hasPaid c = true := decide_eq_true hpaid
  unfold accept
  rw [if_neg hdue, dif_pos hmem, if_pos hdone]

/-- A member who has not paid in time is taken, unless it is the last and no
round can follow. -/
theorem accept_of_due (hdue : ¬ s.roundDeadline < now) (hmem : c ∈ s.members)
    (hpaid : c ∉ s.paidMembers) :
    s.accept c now
      = if s.paidMembers.length + 1 = s.members.length then
          (s.nextDeadline now).map fun _ => ⟨c, hmem⟩
        else .ok ⟨c, hmem⟩ := by
  have hnot : ¬ s.hasPaid c = true := fun h => hpaid (of_decide_eq_true h)
  unfold accept
  rw [if_neg hdue, dif_pos hmem, if_neg hnot]

/-- A contribution is declined by the first rule about the round that it breaks,
and taken if it breaks none. -/
theorem Sound.accept_eq (hs : s.Sound) (c : Text) (now : Int) :
    match s.declined? c now with
    | some f => s.accept c now = .error f
    | none => ∃ payer, s.accept c now = .ok payer := by
  unfold declined?
  by_cases hlate : s.roundDeadline < now
  · rw [if_pos hlate]
    exact accept_of_late hlate
  rw [if_neg hlate]
  by_cases hmem : c ∈ s.members
  case neg =>
    rw [if_pos hmem]
    exact accept_of_stranger hlate hmem
  rw [if_neg (not_not_intro hmem)]
  by_cases hpaid : c ∈ s.paidMembers
  · rw [if_pos hpaid]
    exact accept_of_paid hlate hmem hpaid
  rw [if_neg hpaid, accept_of_due hlate hmem hpaid]
  by_cases hlast : s.Awaits c
  case neg =>
    rw [if_neg fun h => hlast h.1, if_neg fun h => hlast h.1,
      if_neg fun h => hlast ((hs.awaits_iff hmem hpaid).mpr h)]
    exact ⟨_, rfl⟩
  rw [if_pos ((hs.awaits_iff hmem hpaid).mp hlast)]
  by_cases hround : s.currentRound = maxRound
  · rw [if_pos ⟨hlast, hround⟩, nextDeadline_of_maxRound hround]
    rfl
  have hroom : s.currentRound < maxRound :=
    Int.lt_iff_le_and_ne.mpr ⟨hs.round.2, hround⟩
  rw [if_neg fun h => hround h.2]
  by_cases hend : maxTime < now + s.roundDuration
  · rw [if_pos ⟨hlast, hend⟩, nextDeadline_of_late hroom hend]
    rfl
  · rw [if_neg fun h => hend h.2,
      nextDeadline_of_room hroom (Int.not_lt.mp hend)]
    exact ⟨_, rfl⟩

/-- A payment is refused by the first rule about the money that it breaks, and
made if it breaks none. -/
theorem Sound.payment_eq (hs : s.Sound) (custody c : Text) (l : Ledger) :
    match s.unpayable? custody c (l.balance s.assetId c) with
    | some f => l.transfer (s.payment custody c) = .error f
    | none => ∃ l', l.transfer (s.payment custody c) = .ok l' := by
  have hamount : ¬ (s.payment custody c).amount ≤ 0 :=
    Int.not_le.mpr hs.amount.1
  rw [Ledger.transfer_eq, if_neg hamount]
  unfold unpayable? payment
  dsimp only
  by_cases hself : c = custody
  · rw [if_pos hself, if_pos hself]
  rw [if_neg hself, if_neg hself]
  by_cases hfunds : l.balance s.assetId c < s.contributionAmount
  · rw [if_pos hfunds, if_pos hfunds]
  · rw [if_neg hfunds, if_neg hfunds]
    exact ⟨_, rfl⟩

-- ==================================================================== in words

/-- The rule about the round that is broken can be put into words if the moments
can. -/
theorem Sound.speakable_of_declined (hs : s.Sound)
    (hdeadline : isWritable s.roundDeadline = true)
    (hnow : isWritable now = true) (h : s.declined? c now = some f) :
    f.isSpeakable = true := by
  unfold declined? at h
  by_cases hdue : s.roundDeadline < now
  · rw [if_pos hdue] at h
    cases h
    exact Fault.isSpeakable_of_two rfl hdeadline hnow
  rw [if_neg hdue] at h
  split at h
  · cases h
    rfl
  split at h
  · cases h
    exact Fault.isSpeakable_of_one rfl
      (isWritable_of_le hs.round.1 hs.round.2 (lt_digitLimit (by decide)))
  split at h
  · cases h
    rfl
  split at h
  next hlate =>
    cases h
    -- it is later than `now`, which can be written, and `now` is no later than
    -- a deadline
    have hlatest : isWritable (maxTime + maxTime) = true :=
      isWritable_of_le (by decide) (Int.le_refl _) (lt_digitLimit (by decide))
    have hle : now + s.roundDuration ≤ maxTime + maxTime :=
      Int.add_le_add (Int.le_trans (Int.not_lt.mp hdue) hs.deadline)
        hs.duration.2
    exact Fault.isSpeakable_of_one rfl (isWritable_of_between hnow
      (Int.le_add_of_nonneg_right (Int.le_of_lt hs.duration.1)) hle hlatest)
  · cases h

/-- What is wrong with the money can be put into words if the contributor is not
overdrawn. -/
theorem Sound.speakable_of_unpayable (hs : s.Sound) (havailable : 0 ≤ available)
    (h : s.unpayable? custody c available = some f) : f.isSpeakable = true := by
  unfold unpayable? at h
  split at h
  · cases h
    rfl
  split at h
  next hfunds =>
    cases h
    have hheld : available ≤ maxAmount :=
      Int.le_trans (Int.le_of_lt hfunds) hs.amount.2
    exact Fault.isSpeakable_of_two rfl
      (isWritable_of_le (Int.le_of_lt hs.amount.1) hs.amount.2 maxAmount_lt)
      (isWritable_of_le havailable hheld maxAmount_lt)
  · cases h

end Scheme

namespace Memory

variable {custody key c : Text} {m : Memory} {now : Int} {s : Scheme}
  {payer : s.Payer} {f : Fault} {moves : List Move}

-- =================================================================== the steps

/-- A contribution that is declined does nothing. -/
theorem step_of_declined (hs : m.schemes.get? key = some s)
    (haccept : s.accept c now = .error f) :
    m.step custody key now (.scheme (.contribute (some c) c))
      = (.error (.fault f), m) := by
  rw [step_scheme, hs, Operation.ruling_contribute,
    Scheme.contribution_of_refused haccept]
  rfl

/-- A contribution that is taken and cannot be paid does nothing. -/
theorem step_of_unpaid (hs : m.schemes.get? key = some s)
    (haccept : s.accept c now = .ok payer)
    (hf : m.ledger.transfer (s.payment custody c) = .error f) :
    m.step custody key now (.scheme (.contribute (some c) c))
      = (.error (.fault f), m) := by
  by_cases hlast : s.paidMembers.length + 1 = s.members.length
  · obtain ⟨next, hnext⟩ := Scheme.advance_of_accept haccept hlast
    exact (step_of_granted hs (.completes haccept hlast hnext)).trans
      (run_error (carryOut_error (remitting_error hf)))
  · exact (step_of_granted hs (.pays haccept hlast)).trans
      (run_error (carryOut_error (remitting_error hf)))

/-- Whatever a rule is against does nothing. -/
theorem step_of_objection (hm : Solvent custody key m)
    (hs : m.schemes.get? key = some s)
    (hf : s.objection? custody c now (m.ledger.balance s.assetId c) = some f) :
    m.step custody key now (.scheme (.contribute (some c) c))
      = (.error (.fault f), m) := by
  have hsound := (hm.covered s hs).sound
  have haccept := hsound.accept_eq c now
  have hpayment := hsound.payment_eq custody c m.ledger
  rcases Option.or_eq_some_iff.mp hf with hdeclined | ⟨htaken, hunpayable⟩
  · rw [hdeclined] at haccept
    exact step_of_declined hs haccept
  · rw [htaken] at haccept
    rw [hunpayable] at hpayment
    obtain ⟨payer, haccept⟩ := haccept
    exact step_of_unpaid hs haccept hpayment

/-- After readings of the clock that can be written so can the deadline. -/
theorem isWritable_deadline_of_run
    (hmoves : ∀ mv ∈ moves, mv.step.amends = false)
    (hs : (after custody key .empty moves).schemes.get? key = some s)
    (hsound : s.Sound) (hclock : ∀ mv ∈ moves, isWritable mv.now = true) :
    isWritable s.roundDeadline = true := by
  obtain ⟨opened, hlast, hdeadline⟩ := opening_of_run hmoves hs
  obtain ⟨mv, hmv, hnow⟩ := now_of_mem_openings (List.mem_of_getLast? hlast)
  have hopened : isWritable opened = true := by
    rw [show opened = mv.now from hnow]
    exact hclock mv hmv
  have hle := hsound.deadline
  rw [hdeadline] at hle ⊢
  exact Rotation.isWritable_deadline (Int.le_of_lt hsound.duration.1) hle
    (neg_digitLimit_lt hopened)

-- ================================================================= the outcome

/-- A record has been kept, transfers have been made and events told, and
nothing else is new. -/
structure Enacted (key : Text) (record : Scheme) (ts : List Transfer)
    (es : List Event) (m m' : Memory) : Prop where
  schemes : m'.schemes = m.schemes.put key record
  transfers : m'.ledger.transfers = m.ledger.transfers ++ ts
  balances : ∀ asset holder,
    m'.ledger.balance asset holder
    = m.ledger.balance asset holder + Transfer.total asset holder ts
  events : m'.events = m.events ++ es

theorem enacted_of_transferAll {record : Scheme} {ts : List Transfer}
    {es : List Event} {l : Ledger} (hl : m.ledger.transferAll ts = .ok l) :
    Enacted key record ts es m
      ⟨m.schemes.put key record, l, m.events ++ es⟩ where
  schemes := rfl
  transfers := Ledger.transfers_of_transferAll hl
  balances := Ledger.balance_of_transferAll hl
  events := rfl

/-- What a contribution comes to that no rule is against: what is answered, and
the memory after it. The amount is in custody, and the contributor is entered as
the last to have paid. If everybody else had paid, the pot has moved on to the
member whose turn it is, and the next round is open instead. -/
def Contributed (custody key c : Text) (now : Int) (s : Scheme) (m : Memory)
    (r : Except Failure Answer × Memory) : Prop :=
  let payment : Transfer := ⟨s.assetId, c, custody, s.contributionAmount⟩
  let receipt : Event :=
    .contributionReceived s.currentRound c s.contributionAmount
  if s.Awaits c then
    let next := { s with
      currentRound := s.currentRound + 1
      paidMembers := []
      roundDeadline := now + s.roundDuration }
    let pot := s.contributionAmount * s.members.length
    ∃ recipient, s.members[(s.currentRound % (s.members.length : Int)).toNat]?
      = some recipient
      ∧ r.1 = .ok (.state next.state)
      ∧ Enacted key next [payment, ⟨s.assetId, custody, recipient, pot⟩]
        [receipt, .roundCompleted s.currentRound recipient pot] m r.2
  else
    let next := { s with paidMembers := s.paidMembers ++ [c] }
    r.1 = .ok (.state next.state) ∧ Enacted key next [payment] [receipt] m r.2

theorem contributed_of_open {l : Ledger} (hsound : s.Sound)
    (hs : m.schemes.get? key = some s) (haccept : s.accept c now = .ok payer)
    (hopen : s.paidMembers.length + 1 ≠ s.members.length)
    (hothers : ¬ s.Awaits c)
    (hl : m.ledger.transfer (s.payment custody c) = .ok l) :
    Contributed custody key c now s m
      (m.step custody key now (.scheme (.contribute (some c) c))) := by
  unfold Contributed
  rw [if_neg hothers, step_of_open hs haccept hopen hl hsound.reports_payment]
  exact ⟨rfl, enacted_of_transferAll (Ledger.transferAll_cons hl)⟩

/-- What is in custody covers the pot, so the payment that was missing is also
paid out. -/
theorem contributed_of_last {l : Ledger} (hlisted : s.Listed)
    (hcovered : s.Covered custody m.ledger) (hnow : isWritable now = true)
    (hs : m.schemes.get? key = some s) (haccept : s.accept c now = .ok payer)
    (hlast : s.paidMembers.length + 1 = s.members.length) (hawaits : s.Awaits c)
    (hl : m.ledger.transfer (s.payment custody c) = .ok l) :
    Contributed custody key c now s m
      (m.step custody key now (.scheme (.contribute (some c) c))) := by
  obtain ⟨next, hnext⟩ := Scheme.advance_of_accept haccept hlast
  obtain ⟨l', hl'⟩ := hcovered.payout haccept hlast hl
  have hdeadline :=
    Scheme.isWritable_of_advance (s := s.pay c) hlisted.sound.duration.1
      (neg_digitLimit_lt hnow) hnext
  have hstep :=
    step_of_last hs haccept hlast hnext hl hl' hlisted.sound.reports_payment
  rw [hlisted.reports_payout hlast, if_pos hdeadline] at hstep
  have hpot : (s.pay c).pot = s.contributionAmount * s.members.length :=
    Scheme.pot_pay_of_last hlast c
  have hpaidOut : l.transferAll [(s.pay c).payout custody payer.members_ne_nil]
      = .ok l' :=
    Ledger.transferAll_cons hl'
  have hmade := (Ledger.transferAll_cons hl).trans hpaidOut
  obtain ⟨-, -, rfl⟩ := Scheme.advance_eq_ok hnext
  unfold Contributed
  rw [if_pos hawaits, hstep, ← hpot]
  exact ⟨(s.pay c).recipient payer.members_ne_nil,
    Rotation.getElem?_recipient s.currentRound payer.members_ne_nil, rfl,
    enacted_of_transferAll hmade⟩

/-- Whatever no rule is against is done. -/
theorem contributed_of_no_objection (hm : Solvent custody key m)
    (hlisted : s.Listed) (hnow : isWritable now = true)
    (hs : m.schemes.get? key = some s)
    (hnone : s.objection? custody c now (m.ledger.balance s.assetId c) = none) :
    Contributed custody key c now s m
      (m.step custody key now (.scheme (.contribute (some c) c))) := by
  have hsound := hlisted.sound
  have haccept := hsound.accept_eq c now
  have hpayment := hsound.payment_eq custody c m.ledger
  obtain ⟨htaken, hpayable⟩ := Option.or_eq_none_iff.mp hnone
  rw [htaken] at haccept
  rw [hpayable] at hpayment
  obtain ⟨payer, haccept⟩ := haccept
  obtain ⟨l, hl⟩ := hpayment
  obtain ⟨-, hmem, hpaid, -⟩ := Scheme.accept_eq_ok haccept
  have hawaits := hsound.awaits_iff hmem hpaid
  by_cases hlast : s.Awaits c
  · exact contributed_of_last hlisted (hm.covered s hs) hnow hs haccept
      (hawaits.mp hlast) hlast hl
  · exact contributed_of_open hsound hs haccept
      (fun h => hlast (hawaits.mpr h)) hlast hl

end Memory

end SavingsClub
