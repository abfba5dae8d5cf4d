/-
What comes of proposing a scheme.

# The rules, in order

A proposal may break several rules at once. `Proposal.violations` lists all that
it breaks, in the order in which the rules are documented, each looked at by
itself: whether a deadline is too late is asked of every integer, in range or
not. The rules are tried one after the other and the first that is broken ends
the trial, so what a proposal is refused for is the head of that list
(`Proposal.opening_terms`); `firstOf` carries this from one rule to the next
(`firstOf_append`).

# The outcome

A scheme is begun once: where there is a record nothing is asked of the
proposal. Where there is none it is begun exactly if the list is empty, on the
terms that were proposed (`outcome_of_founding`). A scheme that is begun is
reported with its first deadline, after its record has been kept and before
anything is told; where that deadline is too long the record is all there is.

# The reason in words

As for closing a round, the deadline that would be too late is the one number
that may be too long to be written where everything that was proposed is not
(`not_always_named`).
-/
import SavingsClub.Proofs.Effect
import SavingsClub.Proofs.Reading

namespace SavingsClub

-- =================================================================== the rules

/-- What somebody proposes for a scheme. Anything at all may be given for the
two numbers. -/
structure Proposal where
  admin : Text
  members : List Text
  amount : Json
  asset : Text
  duration : Json

/-- A rule that is broken if a condition holds. -/
def brokenIf (c : Prop) [Decidable c] (v : Violation) : List Violation :=
  if c then [v] else []

/-- A trial that ends at the first rule that is broken. -/
def firstOf : List Violation → Except Violation Unit
  | [] => .ok ()
  | v :: _ => .error v

theorem firstOf_append (vs ws : List Violation) :
    firstOf (vs ++ ws) = (firstOf vs >>= fun _ => firstOf ws) := by
  cases vs <;> rfl

theorem firstOf_brokenIf (c : Prop) [Decidable c] (v : Violation) :
    firstOf (brokenIf c v) = if c then .error v else .ok () := by
  unfold brokenIf
  split <;> rfl

/-- The rules about a number up to `bound` that a value breaks: it must be an
integer, and in range. -/
def numberViolations (j : Json) (bound : Int) (mistyped : Violation)
    (outside : Int → Violation) :
    List Violation :=
  match j with
  | .integer n => brokenIf (¬ (0 < n ∧ n ≤ bound)) (outside n)
  | _ => [mistyped]

/-- A number is let through if it breaks none of the rules about it. -/
theorem firstOf_numberViolations (j : Json) (bound : Int) (mistyped : Violation)
    (outside : Int → Violation) :
    firstOf (numberViolations j bound mistyped outside)
      = ((match Quantity.ofJson j with
        | .mistyped => .error mistyped
        | .integer n =>
            if 0 < n ∧ n ≤ bound then .ok n else .error (outside n) :
          Except Violation Int).map fun _ => ()) := by
  cases j with
  | integer n =>
      show firstOf (brokenIf (¬ (0 < n ∧ n ≤ bound)) (outside n))
        = (if 0 < n ∧ n ≤ bound then Except.ok n else .error (outside n)).map _
      rw [firstOf_brokenIf, ite_not]
      split <;> rfl
  | null | bool | decimal | nonFinite | string | array | object => rfl

namespace Proposal

/-- The terms that a proposal comes to. -/
def terms (p : Proposal) : Terms where
  admin := p.admin
  members := p.members
  amount := .ofJson p.amount
  asset := p.asset
  duration := .ofJson p.duration

/-- The rules about names that a proposal breaks. -/
def nameViolations (p : Proposal) : List Violation :=
  brokenIf (p.admin = "") .adminEmpty
    ++ (brokenIf (p.asset = "") .assetEmpty
    ++ (brokenIf (p.members = []) .membersEmpty
    ++ (brokenIf (("" : Text) ∈ p.members) .memberEmpty
    ++ brokenIf (¬ p.members.Nodup) .membersRepeat)))

/-- The rules about the contribution that a proposal breaks. -/
def amountViolations (p : Proposal) : List Violation :=
  numberViolations p.amount (Int.pow 2 127 - 1) .amountMistyped .amountOutside

/-- The rules about the length of a round that a proposal breaks. -/
def durationViolations (p : Proposal) : List Violation :=
  numberViolations p.duration (Int.pow 2 64 - 1) .durationMistyped
    .durationOutside

/-- The rule about the end of the first round that a proposal breaks at
`now`. -/
def deadlineViolations (p : Proposal) (now : Int) : List Violation :=
  match p.duration with
  | .integer d =>
    brokenIf (Int.pow 2 64 - 1 < now + d) (.deadlineOutside (now + d))
  | _ => []

/-- All rules that a proposal breaks at `now`, in order. -/
def violations (p : Proposal) (now : Int) : List Violation :=
  p.nameViolations
    ++ (p.amountViolations
      ++ (p.durationViolations ++ p.deadlineViolations now))

/-- The record of a scheme that begins with a proposal at `now`, the numbers
being `amount` and `duration`. -/
def record (p : Proposal) (now amount duration : Int) : Scheme where
  admin := p.admin
  members := p.members
  contributionAmount := amount
  assetId := p.asset
  roundDuration := duration
  roundDeadline := now + duration
  currentRound := 0
  paidMembers := []
  defaulters := []

variable {p : Proposal} {now : Int}

theorem checkNames_terms (p : Proposal) :
    p.terms.checkNames = firstOf p.nameViolations := by
  unfold Terms.checkNames nameViolations terms
  simp only [firstOf_append, firstOf_brokenIf]
  split_ifs <;> rfl

theorem checkAmount_terms (p : Proposal) :
    (p.terms.checkAmount.map fun _ => ()) = firstOf p.amountViolations :=
  (firstOf_numberViolations p.amount _ _ _).symm

theorem checkDuration_terms (p : Proposal) :
    (p.terms.checkDuration.map fun _ => ()) = firstOf p.durationViolations :=
  (firstOf_numberViolations p.duration _ _ _).symm

/-- A proposal is refused for the first rule that it breaks. -/
theorem opening_terms (p : Proposal) (now : Int) :
    ((p.terms.opening now).map fun _ => ()) = firstOf (p.violations now) := by
  have hamounts := p.checkAmount_terms
  have hdurations := p.checkDuration_terms
  unfold violations
  rw [firstOf_append, firstOf_append, firstOf_append, ← checkNames_terms]
  unfold Terms.opening Terms.validate
  cases p.terms.checkNames with
  | error v => rfl
  | ok u =>
      cases hamount : p.terms.checkAmount with
      | error v =>
          rw [hamount] at hamounts
          rw [← hamounts]
          rfl
      | ok n =>
          cases hduration : p.terms.checkDuration with
          | error v =>
              rw [hamount] at hamounts
              rw [hduration] at hdurations
              rw [← hamounts, ← hdurations]
              rfl
          | ok d =>
              have hd : p.duration = .integer d :=
                Quantity.ofJson_eq_integer
                  (Terms.checkDuration_eq_ok hduration).1
              rw [hamount] at hamounts
              rw [hduration] at hdurations
              rw [← hamounts, ← hdurations]
              unfold deadlineViolations
              rw [hd]
              show Except.map _
                  (if maxTime < now + d
                    then .error (.deadlineOutside (now + d)) else _)
                = firstOf (brokenIf (maxTime < now + d)
                  (.deadlineOutside (now + d)))
              rw [firstOf_brokenIf]
              split <;> rfl

theorem opening_of_violation {v : Violation} {vs : List Violation}
    (h : p.violations now = v :: vs) : p.terms.opening now = .error v := by
  have hopening := p.opening_terms now
  rw [h] at hopening
  cases hrecord : p.terms.opening now with
  | ok s =>
      rw [hrecord] at hopening
      cases hopening
  | error w =>
      rw [hrecord] at hopening
      cases hopening
      rfl

/-- A proposal that breaks no rule is begun with. -/
theorem opening_of_proper (h : p.violations now = []) :
    ∃ n d, p.amount = .integer n ∧ p.duration = .integer d
      ∧ p.terms.opening now = .ok (p.record now n d) := by
  have hopening := p.opening_terms now
  rw [h] at hopening
  cases hrecord : p.terms.opening now with
  | error v =>
      rw [hrecord] at hopening
      cases hopening
  | ok s =>
      obtain ⟨hon, -, hdeadline, -, hround, hpaid, hdefaulters⟩ :=
        Terms.opening_eq_ok hrecord
      refine ⟨s.contributionAmount, s.roundDuration,
        Quantity.ofJson_eq_integer hon.amount,
        Quantity.ofJson_eq_integer hon.duration, congrArg Except.ok ?_⟩
      show (⟨s.admin, s.members, s.contributionAmount, s.assetId,
        s.roundDuration, s.roundDeadline, s.currentRound, s.paidMembers,
        s.defaulters⟩ : Scheme) = _
      rw [hon.admin, hon.members, hon.asset, hdeadline, hround, hpaid,
        hdefaulters]
      rfl

-- =================================================================== the words

theorem mem_brokenIf {c : Prop} [Decidable c] {v w : Violation} :
    v ∈ brokenIf c w ↔ c ∧ v = w := by
  unfold brokenIf
  split
  next hc => simp [hc]
  next hc => simp [hc]

/-- Whatever breaks a rule about a number is said of the number or of its
type. -/
theorem eq_of_mem_numberViolations {j : Json} {bound : Int}
    {v mistyped : Violation} {outside : Int → Violation}
    (h : v ∈ numberViolations j bound mistyped outside) :
    v = mistyped ∨ ∃ n, j = .integer n ∧ v = outside n := by
  unfold numberViolations at h
  split at h
  next n => exact Or.inr ⟨n, rfl, (mem_brokenIf.mp h).2⟩
  next => exact Or.inl (List.mem_singleton.mp h)

/-- There are words for whatever rule a proposal breaks, if its numbers can be
written, but for a deadline that would be too late and cannot be written. -/
theorem unspeakable_iff_of_mem
    (hamount : ∀ n, p.amount = .integer n → isWritable n = true)
    (hduration : ∀ d, p.duration = .integer d → isWritable d = true)
    {v : Violation} (h : v ∈ p.violations now) :
    (Fault.invalidParameters v).isSpeakable = false
      ↔ ∃ deadline, v = .deadlineOutside deadline
        ∧ isWritable deadline = false := by
  -- all rules but the last one
  have hspoken : (Fault.invalidParameters v).isSpeakable = true →
      (∀ d, v ≠ .deadlineOutside d) →
      ((Fault.invalidParameters v).isSpeakable = false
        ↔ ∃ deadline, v = .deadlineOutside deadline
            ∧ isWritable deadline = false) := by
    intro hwords hother
    rw [hwords]
    exact ⟨(nomatch ·), fun ⟨d, hd, _⟩ => absurd hd (hother d)⟩
  unfold violations at h
  simp only [List.mem_append] at h
  rcases h with hname | hamounts | hdurations | hdeadline
  · unfold nameViolations at hname
    simp only [List.mem_append, mem_brokenIf] at hname
    rcases hname with ⟨-, rfl⟩ | ⟨-, rfl⟩ | ⟨-, rfl⟩ | ⟨-, rfl⟩ | ⟨-, rfl⟩ <;>
      exact hspoken rfl nofun
  · rcases eq_of_mem_numberViolations hamounts with rfl | ⟨n, hn, rfl⟩
    · exact hspoken rfl nofun
    · exact hspoken (Fault.isSpeakable_of_one rfl (hamount n hn)) nofun
  · rcases eq_of_mem_numberViolations hdurations with rfl | ⟨d, hd, rfl⟩
    · exact hspoken rfl nofun
    · exact hspoken (Fault.isSpeakable_of_one rfl (hduration d hd)) nofun
  · unfold deadlineViolations at hdeadline
    split at hdeadline
    next d hd =>
      obtain ⟨-, rfl⟩ := mem_brokenIf.mp hdeadline
      rw [Fault.isSpeakable_eq_of_one rfl]
      exact ⟨fun hlong => ⟨_, rfl, hlong⟩,
        fun ⟨_, heq, hlong⟩ => by cases heq; exact hlong⟩
    next => cases hdeadline

end Proposal

-- ================================================================= the outcome

namespace Memory

variable {custody key : Text} {m : Memory} {now : Int}

/-- A proposal that breaks no rule is begun with. It is told and answered so if
the deadline of the first round can be written; where it cannot, the record is
kept and nothing else happens. -/
theorem step_of_proper {p : Proposal} (hnone : m.schemes.get? key = none)
    (hproper : p.violations now = []) :
    ∃ n d, p.amount = .integer n ∧ p.duration = .integer d
      ∧ m.step custody key now (.scheme (.establish p.terms))
        = if isWritable (now + d) = true then
            (.ok (.scheme (p.record now n d)),
              ⟨m.schemes.put key (p.record now n d), m.ledger,
                m.events ++ [.schemeInitialized p.admin p.members n p.asset d
                  (now + d)]⟩)
          else
            (.error .unspeakable,
              { m with schemes := m.schemes.put key (p.record now n d) }) := by
  obtain ⟨n, d, hamount, hduration, hopening⟩ :=
    Proposal.opening_of_proper hproper
  refine ⟨n, d, hamount, hduration, ?_⟩
  have hstep : m.step custody key now (.scheme (.establish p.terms)) = _ :=
    step_of_granted hnone (.founds hopening)
  have hwritten := (Scheme.sound_of_opening hopening).isWritable_amount
  change isWritable n = true at hwritten
  rw [hstep]
  cases hdeadline : isWritable (now + d) with
  | true =>
      have hreport : [n, now + d].all isWritable = true := by
        simp [hwritten, hdeadline]
      exact run_ok (carryOut_ok rfl hreport)
  | false =>
      have hreport : [n, now + d].all isWritable = false := by simp [hdeadline]
      exact run_error (carryOut_untold rfl hreport)

/-- What comes of proposing a scheme. Where there is a record nothing is
changed, whatever is proposed; where there is none, a proposal that breaks rules
is refused for the first of them and nothing is changed either. A proposal that
breaks none is begun with as it stands, and that is told and answered if the
deadline can be written. -/
theorem outcome_of_founding (custody key : Text) (m : Memory) (now : Int)
    (p : Proposal) :
    let r := m.step custody key now (.scheme (.establish p.terms))
    (∀ s, m.schemes.get? key = some s →
      r = (.error (.fault (.alreadyInitialized key)), m))
      ∧ (m.schemes.get? key = none →
        match p.violations now with
        | v :: _ => r = (.error (.fault (.invalidParameters v)), m)
          ∧ ((∀ n, p.amount = .integer n → isWritable n = true) →
            (∀ d, p.duration = .integer d → isWritable d = true) →
            ((Fault.invalidParameters v).isSpeakable = false
              ↔ ∃ deadline, v = .deadlineOutside deadline
                ∧ isWritable deadline = false))
        | [] => ∃ n d, p.amount = .integer n ∧ p.duration = .integer d
          ∧ r = if isWritable (now + d) = true then
              (.ok (.scheme (p.record now n d)),
                ⟨m.schemes.put key (p.record now n d), m.ledger,
                  m.events ++ [.schemeInitialized p.admin p.members n p.asset d
                    (now + d)]⟩)
            else
              (.error .unspeakable, { m with
                schemes := m.schemes.put key (p.record now n d) })) := by
  intro r
  refine ⟨fun s hs => ?_, fun hnone => ?_⟩
  · show m.step custody key now _ = _
    rw [step_scheme, hs]
    rfl
  cases hbroken : p.violations now with
  | cons v vs =>
      refine ⟨?_, fun hamount hduration => ?_⟩
      · show m.step custody key now _ = _
        rw [step_scheme, hnone]
        simp only [Operation.ruling, Terms.founding,
          Proposal.opening_of_violation hbroken]
        rfl
      · exact Proposal.unspeakable_iff_of_mem hamount hduration
          (hbroken ▸ List.mem_cons_self : v ∈ p.violations now)
  | nil => exact step_of_proper hnone hbroken

theorem outcome_of_founding_amiss :
    let amiss : Proposal :=
      ⟨"ana", ["ana", "bo"], .bool true, "usd", .integer 0⟩
    let proper : Proposal :=
      ⟨"ana", ["ana", "bo"], .integer 5, "usd", .integer 100⟩
    let m :=
      (Memory.empty.step "custody" "s" 1 (.scheme (.establish proper.terms))).2
    Memory.empty.step "custody" "s" 1 (.scheme (.establish amiss.terms))
        = (.error (.fault (.invalidParameters .amountMistyped)), .empty)
      ∧ m.schemes.get? "s" = some (proper.record 1 5 100)
      ∧ m.step "custody" "s" 1 (.scheme (.establish amiss.terms))
        = (.error (.fault (.alreadyInitialized "s")), m) := by
  intro amiss proper m
  obtain ⟨-, hamiss⟩ := outcome_of_founding "custody" "s" .empty 1 amiss
  obtain ⟨-, hproper⟩ := outcome_of_founding "custody" "s" .empty 1 proper
  obtain ⟨n, d, hn, hd, hbegun⟩ := hproper rfl
  cases hn
  cases hd
  have hs : m.schemes.get? "s" = some (proper.record 1 5 100) := by
    show (step "custody" "s" .empty 1
      (.scheme (.establish proper.terms))).2.schemes.get? "s" = _
    rw [hbegun, if_pos (by decide +kernel)]
    exact Registry.get?_put_self ..
  obtain ⟨hagain, -⟩ := outcome_of_founding "custody" "s" m 1 amiss
  exact ⟨(hamiss rfl).1, hs, hagain _ hs⟩

/-- At the last reading of the clock that can be written a scheme is refused for
its first deadline, and there are no words for the reason. -/
theorem not_always_named :
    let p : Proposal := ⟨"ana", ["ana", "bo"], .integer 5, "usd", .integer 100⟩
    let now : Int := digitLimit - 1
    isWritable now = true
      ∧ ∃ f, Memory.empty.step "custody" "s" now (.scheme (.establish p.terms))
          = (.error (.fault f), .empty)
        ∧ f = .invalidParameters (.deadlineOutside (now + 100))
            ∧ f.isSpeakable = false := by
  intro p now
  have hmax := maxTime_lt
  have hlate : p.terms.opening now = .error (.deadlineOutside (now + 100)) :=
    if_pos (show maxTime < now + 100 by omega)
  have hstep : Memory.empty.step "custody" "s" now
    (.scheme (.establish p.terms))
      = (.error (.fault (.invalidParameters (.deadlineOutside (now + 100)))),
          .empty) := by
    rw [step_scheme]
    simp only [Memory.empty, Registry.get?_empty, Operation.ruling,
      Terms.founding, hlate]
    rfl
  have hlong : isWritable (now + 100) = false := isWritable_of_long (by omega)
  exact ⟨isWritable_last, _, hstep, rfl,
    (Fault.isSpeakable_eq_of_one rfl).trans hlong⟩

end Memory

end SavingsClub
