/-
What an operation may come to, as a list.

A ruling is a computation. `Operation.Granted` lists its outcomes one by one:
for each plan that can be decided on, the record it is decided on, what was
asked, and all that the plan holds. `Operation.ruling_eq_act_iff` says that the
list is complete and has nothing on it that is not decided. Whatever is to be
shown of every plan is shown of the four on the list.

# How completeness is shown

Operation by operation. A ruling is a chain of checks, and each check is either
the reason of a refusal, in which case there is no plan, or it says something of
the record that the plan needs. What the checks of a contribution have to say is
in the evidence that `Scheme.accept` returns; whether the contribution is the
last one of its round then decides which of the two plans it is. The record that
the last one leads to is there for the taking (`Scheme.advance_of_accept`), so
that no case is left over in which a contribution is taken and no plan made.
-/
import SavingsClub.Proofs.Ruling

namespace SavingsClub

/-- A computation that succeeds has succeeded in both of its parts. -/
theorem eq_ok_of_bind {ε α β : Type} {x : Except ε α}
    {k : α → Except ε β} {b : β} (h : (x >>= k) = .ok b) :
    ∃ a, x = .ok a ∧ k a = .ok b := by
  cases x with
  | ok a => exact ⟨a, rfl, h⟩
  | error f => cases h

/-- A computation that fails has failed in its first part, or in what follows
it. -/
theorem eq_error_of_bind {ε α β : Type} {x : Except ε α}
    {k : α → Except ε β} {e : ε} (h : (x >>= k) = .error e) :
    x = .error e ∨ ∃ a, x = .ok a ∧ k a = .error e := by
  cases x with
  | ok a => exact Or.inr ⟨a, rfl, h⟩
  | error e' =>
      cases h
      exact Or.inl rfl

/-- A result that was put into another form is there in its own. -/
theorem eq_ok_of_map {ε α β : Type} {x : Except ε α} {f : α → β} {b : β}
    (h : x.map f = .ok b) :
    ∃ a, x = .ok a ∧ b = f a := by
  cases x with
  | ok a =>
      cases h
      exact ⟨a, rfl, rfl⟩
  | error e => cases h

namespace Operation

/-- A plan that is decided on at `now`, given the record that was found and what
was asked. -/
inductive Granted (custody : Text) (now : Int) :
    Option Scheme → Operation → Plan Answer → Prop where
  /-- There is no record yet, and the terms are fit to begin one. -/
  | founds {t : Terms} {s : Scheme} (hs : t.opening now = .ok s) :
      Granted custody now none (.establish t) {
        remittances := []
        record := s
        reported := [s.contributionAmount, s.roundDeadline]
        events := [.schemeInitialized s.admin s.members
          s.contributionAmount s.assetId s.roundDuration s.roundDeadline]
        answer := .scheme s }
  /-- A member pays, and somebody else has not paid yet. -/
  | pays {c : Text} {s : Scheme} {payer : s.Payer}
      (haccept : s.accept c now = .ok payer)
      (hopen : s.paidMembers.length + 1 ≠ s.members.length) :
      Granted custody now (some s) (.contribute (some c) c) {
        remittances := [s.paymentReported custody c]
        record := s.pay c
        events := [s.receipt c]
        answer := .state (s.pay c).state }
  /-- The last member pays: the pot goes to whose turn it is, and the next round
  opens. -/
  | completes {c : Text} {s next : Scheme} {payer : s.Payer}
      (haccept : s.accept c now = .ok payer)
      (hlast : s.paidMembers.length + 1 = s.members.length)
      (hnext : (s.pay c).advance now = .ok next) :
      Granted custody now (some s) (.contribute (some c) c) {
        remittances := [s.paymentReported custody c,
          (s.pay c).payoutReported custody payer.members_ne_nil next]
        record := next
        events := [s.receipt c, (s.pay c).completion payer.members_ne_nil]
        answer := .state next.state }
  /-- The admin ends a round whose deadline is over, whoever has paid. -/
  | closes {s next : Scheme} (hdue : s.roundDeadline < now)
      (hnext :
        ({ s with defaulters := Rotation.defaulters s.members s.paidMembers } :
        Scheme).advance now = .ok next) :
      Granted custody now (some s) (.closeRound (some s.admin)) {
        remittances := []
        record := next
        reported := [s.currentRound, now]
        events := [.roundClosed s.currentRound
          (Rotation.defaulters s.members s.paidMembers)]
        answer := .closure ⟨s.currentRound,
          Rotation.defaulters s.members s.paidMembers, next.state⟩ }

variable {custody key : Text} {now : Int} {found : Option Scheme}
  {op : Operation} {p : Plan Answer}

/-- A scheme is begun where there is none, if its terms are fit. -/
theorem granted_of_establish {t : Terms}
    (h : (establish t).ruling custody key now found = .ok (.act p)) :
    Granted custody now found (.establish t) p := by
  cases found with
  | some s => cases h
  | none =>
      simp only [ruling, Terms.founding] at h
      cases hs : t.opening now with
      | error v =>
          rw [hs] at h
          cases h
      | ok s =>
          rw [hs] at h
          cases h
          exact .founds hs

/-- A contribution is taken from the member who makes it, and from nobody else
for them. -/
theorem granted_of_contribute {caller : Option Text} {c : Text}
    (h : (contribute caller c).ruling custody key now found = .ok (.act p)) :
    Granted custody now found (.contribute caller c) p := by
  by_cases hcaller : caller = some c
  case neg =>
      rw [ruling_contribute_of_ne hcaller] at h
      cases h
  subst hcaller
  cases found with
  | none =>
      simp only [ruling, authorize_self] at h
      cases h
  | some s =>
      rw [ruling_contribute] at h
      cases haccept : s.accept c now with
      | error f =>
          rw [Scheme.contribution_of_refused haccept] at h
          cases h
      | ok payer =>
          -- the checks are over, and what is left to tell is whether the round
          -- is complete
          by_cases hlast : s.paidMembers.length + 1 = s.members.length
          · obtain ⟨next, hnext⟩ := Scheme.advance_of_accept haccept hlast
            rw [Scheme.contribution_of_last haccept hlast hnext] at h
            cases h
            exact .completes haccept hlast hnext
          · rw [Scheme.contribution_of_open haccept hlast] at h
            cases h
            exact .pays haccept hlast

/-- A round is closed by the admin, once its deadline is over. -/
theorem granted_of_closeRound {caller : Option Text}
    (h : (closeRound caller).ruling custody key now found = .ok (.act p)) :
    Granted custody now found (.closeRound caller) p := by
  cases found with
  | none => cases h
  | some s =>
      by_cases hcaller : caller = some s.admin
      case neg =>
          rw [ruling_closeRound_of_ne hcaller] at h
          cases h
      subst hcaller
      rw [ruling_closeRound] at h
      -- the moment is looked at before the round that is to open is
      by_cases hdue : now ≤ s.roundDeadline
      case pos =>
          rw [Scheme.closing, if_pos hdue] at h
          cases h
      rw [Scheme.closing, if_neg hdue] at h
      cases hnext :
        ({ s with defaulters := Rotation.defaulters s.members s.paidMembers } :
          Scheme).advance now with
      | error f =>
          simp only [hnext] at h
          cases h
      | ok next =>
          simp only [hnext] at h
          cases h
          exact .closes (Int.not_le.mp hdue) hnext

/-- The plans that are decided on are those on the list. -/
theorem ruling_eq_act_iff :
    op.ruling custody key now found = .ok (.act p)
      ↔ Granted custody now found op p := by
  refine ⟨?_, ?_⟩
  · intro h
    cases op with
    | establish t => exact granted_of_establish h
    | contribute caller c => exact granted_of_contribute h
    | closeRound caller => exact granted_of_closeRound h
    | getState | getScheme | getDefaulters =>
        obtain ⟨a, ha⟩ := look_of_isReading rfl h
        cases ha
  · intro h
    cases h with
    | founds hs =>
        simp only [ruling, Terms.founding, hs]
        rfl
    | pays haccept hopen =>
        rw [ruling_contribute, Scheme.contribution_of_open haccept hopen]
        rfl
    | completes haccept hlast hnext =>
        rw [ruling_contribute, Scheme.contribution_of_last haccept hlast hnext]
        rfl
    | closes hdue hnext =>
        rw [ruling_closeRound, Scheme.closing, if_neg (Int.not_le.mpr hdue)]
        simp only [hnext]
        rfl

/-- What is not only looked at is planned. -/
theorem act_of_not_isReading {r : Ruling} (hop : op.isReading = false)
    (h : op.ruling custody key now found = .ok r) : ∃ p, r = .act p := by
  cases op with
  | establish t =>
      cases found with
      | some s => cases h
      | none =>
          obtain ⟨p, -, hr⟩ := eq_ok_of_map h
          exact ⟨_, hr⟩
  | contribute caller c =>
      obtain ⟨u, -, h⟩ := eq_ok_of_bind h
      obtain ⟨s, -, h⟩ := eq_ok_of_bind h
      obtain ⟨p, -, hr⟩ := eq_ok_of_map h
      exact ⟨_, hr⟩
  | closeRound caller =>
      obtain ⟨s, -, h⟩ := eq_ok_of_bind h
      obtain ⟨u, -, h⟩ := eq_ok_of_bind h
      obtain ⟨p, -, hr⟩ := eq_ok_of_map h
      exact ⟨_, hr⟩
  | getState | getScheme | getDefaulters => cases hop

/-- What is only looked at was a question. -/
theorem isReading_of_look {a : Answer}
    (h : op.ruling custody key now found = .ok (.look a)) :
    op.isReading = true := by
  by_contra hop
  obtain ⟨p, hp⟩ := act_of_not_isReading (Bool.eq_false_iff.mpr hop) h
  cases hp

end Operation

end SavingsClub
