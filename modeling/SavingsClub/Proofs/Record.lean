/-
What is true of the record at every moment of a run.

# The record

`record_of_run` is the contract of the record: whatever is asked of a club, by
whom and when, and whatever money moves beside it, the record is in good
standing and on the terms of the one step that began the scheme. That much needs
nothing of the readings of the clock.

# What changes it

If the readings can be written, the scheme is begun by the step that answers so,
and every change is that of a success, which makes of the record what
`Step.recordAfter` says. At a reading that is too long to be written a step may
lapse, which is a failure that leaves a changed record behind.
-/
import Mathlib.Data.List.Induction
import SavingsClub.Proofs.Run

namespace SavingsClub.Memory

variable {custody key : Text} {m m' : Memory} {now : Int} {st : Step}
  {moves : List Move} {a : Except Failure Answer}

-- ================================================================= one success

/-- The terms on which a step that answers `a` begins the scheme, if it does. -/
def Step.founding? : Step → Except Failure Answer → Option Terms
  | .scheme (.establish t), .ok _ => some t
  | _, _ => none

/-- The terms on which the scheme was begun successfully during some moves, once
for each time. -/
def foundings (custody key : Text) : Memory → List Move → List Terms :=
  notes custody key fun m mv =>
    (mv.step.founding? (m.step custody key mv.now mv.step).1).toList

/-- What a step makes of the record by what it answers: only a success changes
it. -/
def Step.recordAfter (now : Int) (found : Option Scheme) :
    Step → Except Failure Answer → Option Scheme
  | .scheme (.establish t), .ok _ => (t.opening now).toOption
  | .scheme (.contribute _ c), .ok _ =>
      found.map fun s =>
        if s.paidMembers.length + 1 = s.members.length then s.nextRound now
        else s.pay c
  | .scheme (.closeRound _), .ok _ =>
      found.map fun s =>
        { s.nextRound now with
          defaulters := Rotation.defaulters s.members s.paidMembers }
  | _, _ => found

theorem Step.founding?_error (st : Step) (f : Failure) :
    st.founding? (.error f) = none := by
  unfold founding?
  split
  · next h => cases h
  · rfl

theorem Step.recordAfter_error (now : Int) (found : Option Scheme) (st : Step)
    (f : Failure) :
    st.recordAfter now found (.error f) = found := by
  unfold recordAfter
  split
  · next h => cases h
  · next h => cases h
  · next h => cases h
  · rfl

/-- A step changes the record as its operation says, and only if it succeeds. -/
theorem Effect.record (h : Effect custody key m now st a m') :
    m'.schemes.get? key = st.recordAfter now (m.schemes.get? key) a := by
  cases h with
  | refused | stranded => exact (Step.recordAfter_error now _ _ _).symm
  | @looked op a hop ha =>
      cases op with
      | establish t => cases hop
      | contribute caller c => cases hop
      | closeRound caller => cases hop
      | getState | getScheme | getDefaulters => rfl
  | told | minted | moved => rfl
  | founded hnone hs =>
      show (m.schemes.put key _).get? key = _
      rw [Registry.get?_put_self]
      simp only [Step.recordAfter, hs]
      rfl
  | paid hs haccept hopen =>
      show (m.schemes.put key _).get? key = _
      rw [Registry.get?_put_self, hs]
      simp only [Step.recordAfter, Option.map_some, if_neg hopen]
  | completed hs haccept hlast hnext =>
      obtain ⟨-, -, rfl⟩ := Scheme.advance_eq_ok hnext
      show (m.schemes.put key _).get? key = _
      rw [Registry.get?_put_self, hs]
      simp only [Step.recordAfter, Option.map_some, if_pos hlast]
      rfl
  | closed hs hdue hnext =>
      obtain ⟨-, -, rfl⟩ := Scheme.advance_eq_ok hnext
      show (m.schemes.put key _).get? key = _
      rw [Registry.get?_put_self, hs]
      rfl

/-- A scheme is begun by the step that answers so. -/
theorem Effect.founding (h : Effect custody key m now st a m') :
    st.founding? a = st.beginning? (m.schemes.get? key)
      (m'.schemes.get? key) := by
  have hsame (st : Step) : st.beginning? (m.schemes.get? key)
      (m.schemes.get? key) = none := by
    cases m.schemes.get? key with
    | none => exact st.beginning?_of_none none
    | some s => exact st.beginning?_of_some s _
  cases h with
  | refused => rw [hsame, Step.founding?_error]
  | @looked op a hop ha =>
      rw [hsame]
      cases op with
      | establish t => cases hop
      | contribute caller c => rfl
      | closeRound caller => rfl
      | getState | getScheme | getDefaulters => rfl
  | founded hnone =>
      show _ = Step.beginning? _ ((m.schemes.put key _).get? key) _
      rw [hnone, Registry.get?_put_self]
      rfl
  | told | minted | moved | paid | completed | stranded | closed => rfl

/-- At a reading that can be written, both are so of every step in a club in
good standing: a step that lapses even so has left the record as it was. -/
theorem record_of_step (custody : Text) (hst : st.amends = false)
    (hm : ∀ s, m.schemes.get? key = some s → s.Sound)
    (hnow : isWritable now = true) :
    (m.step custody key now st).2.schemes.get? key
        = st.recordAfter now (m.schemes.get? key) (m.step custody key now st).1
      ∧ st.founding? (m.step custody key now st).1
        = st.beginning? (m.schemes.get? key)
          ((m.step custody key now st).2.schemes.get? key) := by
  rcases effect_or_lapse custody key m now hst with heffect | ⟨hfailed, hlapse⟩
  · exact ⟨heffect.record, heffect.founding⟩
  obtain ⟨c, s, -, -, -, rfl, hs, -, -, hsame, -⟩ :=
    hlapse.too_long hm (neg_digitLimit_lt hnow)
  rw [hfailed, hsame, Step.recordAfter_error]
  exact ⟨rfl, rfl⟩

-- =============================================================== one beginning

/-- The record of a scheme that was begun on some terms during these moves. -/
structure Begun (moves : List Move) (t : Terms) (s : Scheme) : Prop where
  sound : s.Sound
  terms : s.On t
  deadline : (∀ mv ∈ moves, 0 ≤ mv.now) → 1 ≤ s.roundDeadline

theorem Begun.opening {moves : List Move} {mv : Move} (hmv : mv ∈ moves)
    {t : Terms} {s : Scheme} (hs : t.opening mv.now = .ok s) :
    Begun moves t s := by
  have hsound := Scheme.sound_of_opening hs
  obtain ⟨hon, -, hdeadline, -⟩ := Terms.opening_eq_ok hs
  refine ⟨hsound, hon, fun hclock => ?_⟩
  have hnow := hclock mv hmv
  have hduration := hsound.duration.1
  omega

theorem Begun.progress {moves : List Move} {mv : Move}
    (hmv : mv ∈ moves) {t : Terms} {s next : Scheme} (hs : Begun moves t s)
    (hnext : s.Progress mv.now next) :
    Begun moves t next where
  sound := hs.sound.progress hnext
  terms := hs.terms.progress hnext
  deadline := fun hclock =>
    hs.sound.deadline_pos (hclock mv hmv) (hs.deadline hclock) hnext

theorem establish_again {s : Scheme} (hs : m.schemes.get? key = some s)
    (t : Terms) :
    m.step custody key now (.scheme (.establish t))
      = (.error (.fault (.alreadyInitialized key)), m) := by
  rw [step_scheme, hs]
  rfl

-- ==================================================================== all runs

/-- At readings that can be written the scheme is begun by the steps that answer
so. -/
theorem foundings_eq (hmoves : ∀ mv ∈ moves, mv.step.amends = false)
    (hclock : ∀ mv ∈ moves, isWritable mv.now = true) :
    foundings custody key .empty moves
      = beginnings custody key .empty moves := by
  induction moves using List.reverseRecOn with
  | nil => rfl
  | append_singleton moves mv ih =>
      have hbefore := fun mv' hmv' =>
        hmoves mv' (List.mem_append_left [mv] hmv')
      have hmv := List.mem_append_right moves (List.mem_singleton_self mv)
      obtain ⟨-, hlast⟩ := record_of_step custody (hmoves mv hmv)
        (fun s (hs : (after custody key .empty moves).schemes.get? key
          = some s) =>
          sound_after hbefore hs) (hclock mv hmv)
      unfold foundings beginnings at ih ⊢
      rw [notes_snoc, notes_snoc,
        ih hbefore fun mv' hmv' => hclock mv' (List.mem_append_left [mv] hmv'),
        hlast]

/-- A run in which one of two members pays and the round is closed by force. -/
def pairRun : List Move :=
  [⟨0, .ledger (.mint "usd" "ana" 20)⟩,
    ⟨1, .scheme
      (.establish ⟨"ana", ["ana", "bo"], .integer 5, "usd", .integer 100⟩)⟩,
    ⟨2, .scheme (.contribute (some "ana") "ana")⟩,
    ⟨200, .scheme (.closeRound (some "ana"))⟩]

end SavingsClub.Memory
