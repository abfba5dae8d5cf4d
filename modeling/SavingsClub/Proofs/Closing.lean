/-
What comes of closing a round by force.

# The rules, in order

`Scheme.unclosable?` states the rules for closing a round as they are
documented, the first that is broken being the one reported. In a record in good
standing they are what is checked (`Sound.closing_eq`), whoever is entered as a
defaulter on the way.

# Payers and defaulters

Nobody has paid twice or from outside, so whoever has paid and whoever is
entered as a defaulter are together the members
(`Rotation.paid_append_defaulters_perm`), and at least one contribution is
missing as long as a round is open, so somebody is entered.

# The reason in words

A refusal names the numbers that it is about, and there are words for it if
these can be written. Of the numbers here only a deadline that would be too late
is later than the reading of the clock, so it may be too long to be written
where the reading is not (`not_always_stated`).

A closure itself is reported with the reading, after the record has been kept
and before anything is told. Where the reading is too long the round is closed
then, and that is all.
-/
import SavingsClub.Proofs.Audit
import SavingsClub.Proofs.Contribution

namespace SavingsClub

namespace Rotation

/-- Whoever has paid and whoever has not are the members, if nobody has paid
twice or from outside. -/
theorem paid_append_defaulters_perm {members paid : List Text}
    (hmembers : members.Nodup) (hpaid : paid.Nodup)
    (hmem : ∀ p ∈ paid, p ∈ members) :
    (paid ++ defaulters members paid).Perm members := by
  have hpayers : paid.Perm (members.filter (· ∈ paid)) := by
    rw [List.perm_ext_iff_of_nodup hpaid (hmembers.filter _)]
    intro p
    rw [List.mem_filter, decide_eq_true_iff]
    exact ⟨fun hp => ⟨hmem p hp, hp⟩, And.right⟩
  have hothers : defaulters members paid = members.filter fun p =>
      !decide (p ∈ paid) := by
    unfold defaulters
    simp only [decide_not]
  rw [hothers]
  exact (hpayers.append_right _).trans (List.filter_append_perm _ members)

end Rotation

-- =================================================================== the rules

namespace Scheme

/-- The first rule that closing the round at `now` breaks. -/
def unclosable? (s : Scheme) (now : Int) : Option Fault :=
  if now ≤ s.roundDeadline then some (.deadlineNotYetPassed s.roundDeadline now)
  else if s.currentRound = maxRound then some .maxRoundsReached
  else if maxTime < now + s.roundDuration then
    some (.invalidParameters (.deadlineOutside (now + s.roundDuration)))
  else none

/-- The record after its round was closed at `now`: the next round is open, and
whoever had not paid is entered as a defaulter, in member order and in place of
those entered before. -/
def afterClosing (s : Scheme) (now : Int) : Scheme :=
  { s with
    currentRound := s.currentRound + 1
    paidMembers := []
    roundDeadline := now + s.roundDuration
    defaulters := s.members.filter (· ∉ s.paidMembers) }

variable {s : Scheme} {now : Int} {f : Fault}

theorem closing_of_early (h : now ≤ s.roundDeadline) :
    s.closing now = .error (.deadlineNotYetPassed s.roundDeadline now) :=
      if_pos h

theorem advance_of_stuck (h : s.nextDeadline now = .error f) :
    s.advance now = .error f := by
  unfold advance
  rw [h]
  rfl

theorem advance_of_room (hround : s.currentRound < maxRound)
    (hroom : now + s.roundDuration ≤ maxTime) :
    s.advance now = .ok (s.nextRound now) := by
  unfold advance
  rw [nextDeadline_of_room hround hroom]
  rfl

/-- Once it is due, closing a round is refused for what the next round is
refused for. -/
theorem closing_of_stuck (hdue : ¬ now ≤ s.roundDeadline)
    (h : s.nextDeadline now = .error f) :
    s.closing now = .error f := by
  have hadvance :
    ({ s with defaulters := Rotation.defaulters s.members s.paidMembers } :
      Scheme).advance now = .error f := advance_of_stuck h
  unfold closing
  rw [if_neg hdue]
  show (_ >>= _) = Except.error f
  rw [hadvance]
  rfl

/-- Closing a round is refused for the first rule that it breaks, and if it
breaks none the next round opens. -/
theorem Sound.closing_eq (hs : s.Sound) (now : Int) :
    match s.unclosable? now with
    | some f => s.closing now = .error f
    | none => s.roundDeadline < now
      ∧ ({ s with defaulters := Rotation.defaulters s.members s.paidMembers } :
        Scheme).advance now
        = .ok (s.afterClosing now) := by
  unfold unclosable?
  by_cases hdue : now ≤ s.roundDeadline
  · rw [if_pos hdue]
    exact closing_of_early hdue
  rw [if_neg hdue]
  by_cases hround : s.currentRound = maxRound
  · rw [if_pos hround]
    exact closing_of_stuck hdue (nextDeadline_of_maxRound hround)
  rw [if_neg hround]
  have hcounter : s.currentRound < maxRound := by
    have hle := hs.round.2
    omega
  by_cases hlate : maxTime < now + s.roundDuration
  · rw [if_pos hlate]
    exact closing_of_stuck hdue (nextDeadline_of_late hcounter hlate)
  · rw [if_neg hlate]
    exact ⟨Int.not_le.mp hdue, advance_of_room hcounter (Int.not_lt.mp hlate)⟩

/-- There are words for a refusal if the moments can be written, but for a
deadline that would be too late and cannot be written. -/
theorem unspeakable_iff_of_unclosable
    (hdeadline : isWritable s.roundDeadline = true)
    (hnow : isWritable now = true) (h : s.unclosable? now = some f) :
    f.isSpeakable = false
      ↔ f = .invalidParameters (.deadlineOutside (now + s.roundDuration))
        ∧ isWritable (now + s.roundDuration) = false := by
  unfold unclosable? at h
  split at h
  · cases h
    have hwords : (Fault.deadlineNotYetPassed s.roundDeadline now).isSpeakable
        = true :=
      Fault.isSpeakable_of_two rfl hdeadline hnow
    rw [hwords]
    exact ⟨(nomatch ·), fun ⟨he, _⟩ => nomatch he⟩
  split at h
  · cases h
    exact ⟨(nomatch ·), fun ⟨he, _⟩ => nomatch he⟩
  split at h
  · cases h
    rw [Fault.isSpeakable_eq_of_one rfl]
    exact ⟨fun hlong => ⟨rfl, hlong⟩, And.right⟩
  · cases h

end Scheme

-- ================================================================= the outcome

namespace Memory

variable {custody key : Text} {m : Memory} {now : Int} {s : Scheme} {f : Fault}
  {moves : List Move}

theorem step_of_unclosable (hs : m.schemes.get? key = some s)
    (hf : s.closing now = .error f) :
    m.step custody key now (.scheme (.closeRound (some s.admin)))
      = (.error (.fault f), m) := by
  rw [step_scheme, hs, Operation.ruling_closeRound, hf]
  rfl

/-- What closing a round comes to that no rule is against: what is answered, and
the memory after it. No money has moved, and payers and defaulters are together
the members. -/
def Closed (key : Text) (now : Int) (s : Scheme) (m : Memory)
    (r : Except Failure Answer × Memory) : Prop :=
  let next := s.afterClosing now
  r.1 = .ok (.closure ⟨s.currentRound, next.defaulters, next.state⟩)
    ∧ r.2 = ⟨m.schemes.put key next, m.ledger,
      m.events ++ [.roundClosed s.currentRound next.defaulters]⟩
    ∧ next.defaulters ≠ [] ∧ (s.paidMembers ++ next.defaulters).Perm s.members
    ∧ s.paidMembers.Disjoint next.defaulters

/-- Whatever no rule is against is done, if the reading of the clock can be
written. -/
theorem closed_of_no_objection (hsound : s.Sound)
    (hs : m.schemes.get? key = some s) (hnone : s.unclosable? now = none)
    (hnow : isWritable now = true) :
    Closed key now s m
      (m.step custody key now (.scheme (.closeRound (some s.admin)))) := by
  have hclosing := hsound.closing_eq now
  rw [hnone] at hclosing
  obtain ⟨hdue, hnext⟩ := hclosing
  have hreport : [s.currentRound, now].all isWritable = true := by
    simp [hsound.isWritable_round, hnow]
  have hstep : m.step custody key now (.scheme (.closeRound (some s.admin)))
      = _ :=
    (step_of_granted hs (.closes hdue hnext)).trans
      (run_ok (carryOut_ok rfl hreport))
  rw [hstep]
  refine ⟨rfl, rfl, Rotation.defaulters_ne_nil hsound.members_nodup
    hsound.paid_short, Rotation.paid_append_defaulters_perm hsound.members_nodup
    hsound.paid_nodup hsound.paid_mem, ?_⟩
  intro p hpaid hdefaulter
  exact of_decide_eq_true (List.mem_filter.mp hdefaulter).2 hpaid

/-- At a reading that is too long to be written the round is closed all the
same, and nothing is told or answered. -/
theorem step_of_untold_closing (hsound : s.Sound)
    (hs : m.schemes.get? key = some s) (hnone : s.unclosable? now = none)
    (hnow : isWritable now = false) :
    m.step custody key now (.scheme (.closeRound (some s.admin)))
      = (.error .unspeakable,
        { m with schemes := m.schemes.put key (s.afterClosing now) }) := by
  have hclosing := hsound.closing_eq now
  rw [hnone] at hclosing
  obtain ⟨hdue, hnext⟩ := hclosing
  have hreport : [s.currentRound, now].all isWritable = false := by
    simp [hnow]
  exact (step_of_granted hs (.closes hdue hnext)).trans
    (run_error (carryOut_untold rfl hreport))

/-- What comes of closing the round of a club whose record nobody has changed by
hand. It is refused for want of a record, or else for the caller, or else for
the first rule that it breaks, and then nothing has changed. There are words for
the reason, if the readings of the clock can be written, unless it is a deadline
that cannot. If no rule is broken, the round is closed; it is told and answered
so if the reading of the clock can be written. -/
theorem outcome_of_closing (custody key : Text) (moves : List Move)
    (hmoves : ∀ mv ∈ moves, mv.step.amends = false) (now : Int)
    (caller : Option Text) :
    let m := after custody key .empty moves
    let r := m.step custody key now (.scheme (.closeRound caller))
    (m.schemes.get? key = none → r = (.error (.fault (.notInitialized key)), m))
      ∧ ∀ s, m.schemes.get? key = some s →
        (caller ≠ some s.admin →
          r = (.error (.fault (.unauthorized s.admin)), m))
        ∧ (caller = some s.admin →
          match s.unclosable? now with
          | none =>
              if isWritable now = true then Closed key now s m r
              else r = (.error .unspeakable,
                { m with schemes := m.schemes.put key (s.afterClosing now) })
          | some f => r = (.error (.fault f), m)
            ∧ ((∀ mv ∈ moves, isWritable mv.now = true) →
              isWritable now = true →
              (f.isSpeakable = false
                ↔ f = .invalidParameters
                  (.deadlineOutside (now + s.roundDuration))
                  ∧ isWritable (now + s.roundDuration) = false))) := by
  intro m r
  refine ⟨fun hnone => ?_, fun s hs => ⟨fun hcaller => ?_, ?_⟩⟩
  · show m.step custody key now (.scheme (.closeRound caller)) = _
    rw [step_scheme, hnone]
    rfl
  · show m.step custody key now (.scheme (.closeRound caller)) = _
    rw [step_scheme, hs, Operation.ruling_closeRound_of_ne hcaller]
  · rintro rfl
    have hsound := sound_after hmoves hs
    have hclosing := hsound.closing_eq now
    cases hobjection : s.unclosable? now with
    | none =>
        dsimp only
        by_cases hnow : isWritable now = true
        · rw [if_pos hnow]
          exact closed_of_no_objection hsound hs hobjection hnow
        · rw [if_neg hnow]
          exact step_of_untold_closing hsound hs hobjection
            (Bool.eq_false_iff.mpr hnow)
    | some f =>
        rw [hobjection] at hclosing
        refine ⟨step_of_unclosable hs hclosing, fun hclock hnow => ?_⟩
        have hdeadline := isWritable_deadline_of_run hmoves hs hsound hclock
        exact Scheme.unspeakable_iff_of_unclosable hdeadline hnow hobjection

theorem record_of_halfPaid :
    (after "custody" "s" .empty halfPaid).schemes.get? "s"
      = some ⟨"ana", ["ana", "bo"], 5, "usd", 100, 101, 0, ["ana"], []⟩ := by
  decide +kernel

theorem outcome_of_closing_halfPaid :
    let m := after "custody" "s" .empty halfPaid
    (∀ mv ∈ halfPaid, mv.step.amends = false)
      ∧ m.step "custody" "s" 102 (.scheme (.closeRound (some "bo")))
        = (.error (.fault (.unauthorized "ana")), m)
      ∧ m.step "custody" "s" 101 (.scheme (.closeRound (some "ana")))
        = (.error (.fault (.deadlineNotYetPassed 101 101)), m)
      ∧ (m.step "custody" "s" 102 (.scheme (.closeRound (some "ana")))).1
        = .ok (.closure ⟨0, ["bo"], ⟨1, [], 202⟩⟩) := by
  intro m
  have hmoves : ∀ mv ∈ halfPaid, mv.step.amends = false :=
    fun mv hmv => (halfPaid_spares mv hmv).1
  have hs : m.schemes.get? "s" = some _ := record_of_halfPaid
  obtain ⟨-, hstranger⟩ :=
    outcome_of_closing "custody" "s" halfPaid hmoves 102 (some "bo")
  obtain ⟨-, hearly⟩ :=
    outcome_of_closing "custody" "s" halfPaid hmoves 101 (some "ana")
  obtain ⟨-, hdue⟩ :=
    outcome_of_closing "custody" "s" halfPaid hmoves 102 (some "ana")
  have hclosed := (hdue _ hs).2 rfl
  change (if isWritable 102 = true then Closed _ _ _ _ _ else _) at hclosed
  rw [if_pos (by decide +kernel)] at hclosed
  exact ⟨hmoves, (hstranger _ hs).1 (by decide),
    ((hearly _ hs).2 rfl).1, hclosed.1⟩

/-- At the last reading of the clock that can be written a round cannot be
closed, and there are no words for the reason: the deadline that is to be named
is too long. -/
theorem not_always_stated :
    let m := after "custody" "s" .empty halfPaid
    let now : Int := digitLimit - 1
    isWritable now = true
      ∧ ∃ f, m.step "custody" "s" now (.scheme (.closeRound (some "ana")))
        = (.error (.fault f), m)
        ∧ f = .invalidParameters (.deadlineOutside (now + 100))
            ∧ f.isSpeakable = false := by
  intro m now
  have hs : m.schemes.get? "s" = some _ := record_of_halfPaid
  have hmax := maxTime_lt
  have hbig : 101 < maxTime := by decide
  have hclosing :=
    (sound_after (fun mv hmv => (halfPaid_spares mv hmv).1) hs).closing_eq now
  have hlate : Scheme.unclosable?
    ⟨"ana", ["ana", "bo"], 5, "usd", 100, 101, 0, ["ana"], []⟩ now
      = some (.invalidParameters (.deadlineOutside (now + 100))) := by
    unfold Scheme.unclosable?
    rw [if_neg (show ¬ now ≤ 101 by omega), if_neg (by decide),
      if_pos (show maxTime < now + 100 by omega)]
  rw [hlate] at hclosing
  have hlong : isWritable (now + 100) = false := isWritable_of_long (by omega)
  exact ⟨isWritable_last, _, step_of_unclosable hs hclosing, rfl,
    (Fault.isSpeakable_eq_of_one rfl).trans hlong⟩

end Memory

end SavingsClub
