/-
Operations split into what is ruled and what is done.

# The ruling

An operation looks the record up, and from then on all that it decides is a
function of the record, the caller and the moment: `Operation.ruling`. Either it
is refused, or something is answered, or a plan is to be carried out. No backend
occurs in a ruling, so whatever is proved of rulings holds of the club in memory
and of the club in the database alike.

# The main statement

`Engine.perform_eq`: on every backend that finds the record, an operation does
what the ruling on that record says and nothing else. A contribution needs an
argument for this, because it pays before it finds the round complete
(`Engine.contribute_eq`): what is asked after the payment is what
`Scheme.accept` had asked before it, so between the two transfers of a
completing contribution nothing is refused.
-/
import SavingsClub.Engine
import SavingsClub.Proofs.Standing

namespace SavingsClub

-- ================================================================== the ruling

/-- A plan with another form of its answer. -/
def Plan.map {α β : Type} (f : α → β) (p : Plan α) : Plan β where
  remittances := p.remittances
  record := p.record
  reported := p.reported
  events := p.events
  answer := f p.answer

/-- What an operation comes to if it is not refused. -/
inductive Ruling where
  /-- Nothing is done. -/
  | look (a : Answer)
  | act (p : Plan Answer)

/-- The record found under a key, which must be there. -/
def known (key : Text) (found : Option Scheme) : Except Fault Scheme :=
  match found with
  | some s => .ok s
  | none => .error (.notInitialized key)

/-- What is decided about an operation at `now`, given the record that was
found. -/
def Operation.ruling (custody key : Text) (now : Int) (found : Option Scheme) :
    Operation → Except Fault Ruling
  | .establish t =>
      match found with
      | some _ => .error (.alreadyInitialized key)
      | none => (t.founding now).map fun p => .act (p.map .scheme)
  | .contribute caller contributor => do
      authorize caller contributor
      let s ← known key found
      (s.contribution custody contributor now).map fun p => .act (p.map .state)
  | .closeRound caller => do
      let s ← known key found
      authorize caller s.admin
      (s.closing now).map fun p => .act (p.map .closure)
  | .getState => (known key found).map fun s => .look (.state s.state)
  | .getScheme => (known key found).map fun s => .look (.scheme s)
  | .getDefaulters => (known key found).map fun s => .look (.names s.defaulters)

theorem authorize_self (principal : Text) :
    authorize (some principal) principal = .ok () :=
  if_pos rfl

theorem authorize_of_ne {caller : Option Text} {principal : Text}
    (h : caller ≠ some principal) :
    authorize caller principal = .error (.unauthorized principal) := if_neg h

namespace Operation

variable {custody key c : Text} {now : Int} {s : Scheme} {found : Option Scheme}

theorem ruling_contribute :
    (contribute (some c) c).ruling custody key now (some s)
      = (s.contribution custody c now).map fun p => .act (p.map .state) := by
  simp only [ruling, authorize_self]
  rfl

theorem ruling_contribute_of_ne {caller : Option Text} (h : caller ≠ some c) :
    (contribute caller c).ruling custody key now found
    = .error (.unauthorized c) := by
  simp only [ruling, authorize_of_ne h]
  rfl

theorem ruling_closeRound :
    (closeRound (some s.admin)).ruling custody key now (some s)
      = (s.closing now).map fun p => .act (p.map .closure) := by
  simp only [ruling, known]
  show authorize (some s.admin) s.admin >>= _ = _
  rw [authorize_self]
  rfl

theorem ruling_closeRound_of_ne {caller : Option Text}
    (h : caller ≠ some s.admin) :
    (closeRound caller).ruling custody key now (some s)
    = .error (.unauthorized s.admin) := by
  simp only [ruling, known]
  show authorize caller s.admin >>= _ = _
  rw [authorize_of_ne h]
  rfl

theorem look_of_isReading {op : Operation} {r : Ruling}
    (hop : op.isReading = true) (hr : op.ruling custody key now found = .ok r) :
    ∃ a, r = .look a := by
  cases op with
  | establish t => cases hop
  | contribute caller c => cases hop
  | closeRound caller => cases hop
  | getState | getScheme | getDefaulters =>
      cases found with
      | none => cases hr
      | some s =>
          cases hr
          exact ⟨_, rfl⟩

end Operation

-- ======================================================= the plan of a payment

namespace Scheme

variable {s next : Scheme} {payer : s.Payer} {custody c : Text} {now : Int}

theorem contribution_of_refused {f : Fault}
    (haccept : s.accept c now = .error f) :
    s.contribution custody c now = .error f := by
  unfold contribution
  rw [haccept]
  rfl

/-- A payment that leaves another one missing is all that a contribution is. -/
theorem contribution_of_open (haccept : s.accept c now = .ok payer)
    (hopen : s.paidMembers.length + 1 ≠ s.members.length) :
    s.contribution custody c now = .ok {
      remittances := [s.paymentReported custody c]
      record := s.pay c
      events := [s.receipt c]
      answer := (s.pay c).state } := by
  have hcomplete : ¬ Rotation.isComplete (s.pay c).members (s.pay c).paidMembers
      = true :=
    fun h => hopen ((s.isComplete_pay c).mp h)
  unfold contribution
  rw [haccept]
  exact if_neg hcomplete

/-- The payment that was missing also ends the round. -/
theorem contribution_of_last (haccept : s.accept c now = .ok payer)
    (hlast : s.paidMembers.length + 1 = s.members.length)
    (hnext : (s.pay c).advance now = .ok next) :
    s.contribution custody c now = .ok {
      remittances := [s.paymentReported custody c,
        (s.pay c).payoutReported custody payer.members_ne_nil next]
      record := next
      events := [s.receipt c, (s.pay c).completion payer.members_ne_nil]
      answer := next.state } := by
  have hcomplete := (s.isComplete_pay c).mpr hlast
  unfold contribution
  rw [haccept]
  show (if _ then _ else _) = _
  rw [if_pos hcomplete, hnext]
  rfl

/-- A payment that was missing can only be taken if the next round opens after
it. -/
theorem advance_of_accept (haccept : s.accept c now = .ok payer)
    (hlast : s.paidMembers.length + 1 = s.members.length) :
    ∃ next, (s.pay c).advance now = .ok next := by
  obtain ⟨d, hd⟩ := (accept_eq_ok haccept).2.2.2 hlast
  exact advance_pay hd c

end Scheme

-- ================================================================== the engine

namespace Engine

variable {σ α β : Type} (e : Engine σ)

/-- A contribution is a plan that is carried out: the round that is found
complete after the payment was found able to end before it. -/
theorem contribute_eq (now : Int) (caller : Option Text) (contributor : Text) :
    e.contribute now caller contributor = (do
      Act.check (authorize caller contributor)
      let s ← e.load
      let plan ← Act.check (s.contribution e.custody contributor now)
      e.carryOut plan) := by
  unfold contribute
  refine congrArg (bind _)
    (funext fun _ => congrArg (bind _) (funext fun s => ?_))
  have hcheck : ∀ {γ δ : Type} (a : γ) (k : γ → Act σ δ),
      (Act.check (Except.ok a) >>= k) = k a :=
    fun _ _ => rfl
  cases haccept : s.accept contributor now with
  | error f =>
      rw [Scheme.contribution_of_refused haccept]
      rfl
  | ok payer =>
      rw [hcheck]
      by_cases hlast : s.paidMembers.length + 1 = s.members.length
      · -- the advance after the payment asks what was asked before it
        obtain ⟨next, hnext⟩ := Scheme.advance_of_accept haccept hlast
        rw [Scheme.contribution_of_last haccept hlast hnext, hcheck]
        unfold carryOut
        simp only [(s.isComplete_pay contributor).mpr hlast, if_true, payOut,
          hnext, hcheck, List.forM, bind_assoc, pure_bind, Act.report_nil]
      · have hcomplete : Rotation.isComplete (s.pay contributor).members
            (s.pay contributor).paidMembers = false := by
          rw [Bool.eq_false_iff]
          exact fun h => hlast ((s.isComplete_pay contributor).mp h)
        rw [Scheme.contribution_of_open haccept hlast, hcheck]
        unfold carryOut
        simp only [hcomplete, Bool.false_eq_true, if_false, List.forM,
          bind_assoc, pure_bind, Act.report_nil]

/-- Does what a ruling says. -/
def follow : Ruling → Act σ Answer
  | .look a => pure a
  | .act p => e.carryOut p

/-- The form of a plan's answer makes no difference to how it is carried out. -/
theorem carryOut_map (f : α → β) (p : Plan α) :
    e.carryOut (p.map f) = f <$> e.carryOut p := by
  unfold carryOut Plan.map
  simp only [map_bind, map_pure]

/-- A plan that is decided on is carried out as a ruling. -/
theorem follow_plan (f : α → Answer) (x : Except Fault (Plan α)) (st : σ) :
    (f <$> (Act.check x >>= e.carryOut)) st
      = match x.map fun p => Ruling.act (p.map f) with
        | .error g => .error (.fault g) st
        | .ok r => e.follow r st := by
  cases x with
  | error g => rfl
  | ok p =>
      show (f <$> e.carryOut p) st = e.carryOut (p.map f) st
      rw [carryOut_map]

/-- A record that the backend finds is what an operation goes by. -/
theorem load_eq {st : σ} {found : Option Scheme}
    (hget : e.backend.get e.key st = .ok found st) :
    e.load st = (Act.check (known e.key found) : Act σ Scheme) st := by
  show EStateM.bind (e.backend.get e.key) _ st = _
  unfold EStateM.bind
  rw [hget]
  cases found <;> rfl

/-- An operation does what is ruled on the record that the backend finds. -/
theorem perform_eq (st : σ) (found : Option Scheme)
    (hhas : e.backend.has e.key st = .ok found.isSome st)
    (hget : e.backend.get e.key st = .ok found st) (now : Int)
    (op : Operation) :
    e.perform now op st
      = match op.ruling e.custody e.key now found with
        | .error f => .error (.fault f) st
        | .ok r => e.follow r st := by
  have hload := e.load_eq hget
  cases op with
  | establish t =>
      show (Answer.scheme <$> e.establish now t) st = _
      unfold establish
      rw [map_bind, Act.bind_ok hhas]
      cases found with
      | some s => rfl
      | none => exact e.follow_plan .scheme (t.founding now) st
  | contribute caller contributor =>
      show (Answer.state <$> e.contribute now caller contributor) st = _
      rw [contribute_eq, map_bind]
      simp only [Operation.ruling]
      cases authorize caller contributor with
      | error f => rfl
      | ok u =>
          show (Answer.state <$> (e.load >>= _)) st = _
          rw [map_bind]
          cases found with
          | none => exact Act.bind_error hload _
          | some s =>
              rw [Act.bind_ok (a := s) hload]
              exact e.follow_plan .state
                (s.contribution e.custody contributor now) st
  | closeRound caller =>
      show (Answer.closure <$> e.closeRound now caller) st = _
      unfold closeRound
      rw [map_bind]
      simp only [Operation.ruling]
      cases found with
      | none => exact Act.bind_error hload _
      | some s =>
          rw [Act.bind_ok (a := s) hload, map_bind]
          show _ = match authorize caller s.admin >>= _ with
            | .error f => EStateM.Result.error (Failure.fault f) st
            | .ok r => e.follow r st
          cases authorize caller s.admin with
          | error f => rfl
          | ok u => exact e.follow_plan .closure (s.closing now) st
  | getState =>
      show (Answer.state <$> e.state) st = _
      unfold state
      rw [map_bind]
      cases found with
      | none => exact Act.bind_error hload _
      | some s => exact Act.bind_ok hload _
  | getScheme =>
      show (Answer.scheme <$> e.load) st = _
      cases found with
      | none => exact Act.map_error hload _
      | some s => exact Act.map_ok hload _
  | getDefaulters =>
      show (Answer.names <$> e.defaulters) st = _
      unfold defaulters
      rw [map_bind]
      cases found with
      | none => exact Act.bind_error hload _
      | some s => exact Act.bind_ok hload _

end Engine

end SavingsClub
