/-
Runs of a club kept in memory, and what becomes of the record in them.

# Runs

A run is a list of moves, each a step with a clock reading of its own, taken one
after another whatever the steps before it answered; `after` is where it ends.
Whether a run is one of the operations alone is said of each of its moves: none
of them amends the record. A move that somebody can hand to the club has a
reading of no more digits than are read, and a list of no more members than a
list can have (`Move.isReceivable`).

# The record of a run

There is a record from the one beginning on, and never before. `after_beginning`
is the one induction behind everything that is said of the record: what every
beginning brings about, and every round going on keeps, is true of the record
whenever there is one. It holds of all moves, receivable or not, because a step
that lapses makes a change of the record that would have been made without the
lapse, or none.
-/
import SavingsClub.Proofs.Course
import SavingsClub.Proofs.Effect

namespace SavingsClub.Memory

-- ======================================================================== runs

/-- A step and the moment at which it is taken. -/
structure Move where
  now : Int
  step : Step
  deriving DecidableEq, Repr

/-- Whether a step names no more members than a list can have. -/
def Step.isListed : Step → Bool
  | .scheme (.establish t) => decide (t.members.length ≤ maxLength)
  | .scheme _ | .ledger _ | .amend _ => true

/-- Whether a move can be handed to a club. Integers come in as digits, and more
than `maxDigits` of them are never read; a list that comes in has no more
entries than a list can have. -/
def Move.isReceivable (mv : Move) : Bool :=
  isWritable mv.now && mv.step.isListed

theorem Move.isWritable_now {mv : Move} (h : mv.isReceivable = true) :
    isWritable mv.now = true :=
  (Bool.and_eq_true_iff.mp h).1

theorem Move.isListed_step {mv : Move} (h : mv.isReceivable = true) :
    mv.step.isListed = true :=
  (Bool.and_eq_true_iff.mp h).2

/-- The memory after a move. -/
def afterMove (custody key : Text) (m : Memory) (mv : Move) : Memory :=
  (m.step custody key mv.now mv.step).2

/-- The memory after some moves. -/
def after (custody key : Text) (m : Memory) (moves : List Move) : Memory :=
  Course.after (afterMove custody key) m moves

/-- What is noted of some moves. -/
def notes {α : Type} (custody key : Text) (note : Memory → Move → List α)
    (m : Memory) (moves : List Move) : List α :=
  Course.notes (afterMove custody key) note m moves

variable {custody key : Text} {m m' : Memory} {now : Int} {mv : Move}
  {moves later : List Move}

theorem after_cons :
    after custody key m (mv :: moves)
      = after custody key (m.step custody key mv.now mv.step).2 moves := rfl

theorem after_snoc :
    after custody key m (moves ++ [mv])
      = ((after custody key m moves).step custody key mv.now mv.step).2 :=
        Course.after_snoc

theorem notes_cons {α : Type} (note : Memory → Move → List α) :
    notes custody key note m (mv :: moves)
      = note m mv ++ notes custody key note
        (m.step custody key mv.now mv.step).2 moves := rfl

theorem notes_snoc {α : Type} (note : Memory → Move → List α) :
    notes custody key note m (moves ++ [mv])
      = notes custody key note m moves ++ note (after custody key m moves) mv :=
        Course.notes_snoc

-- ================================================================== the record

/-- The terms on which a step begins the scheme, if it does: a record is there
after it where none was before. -/
def Step.beginning? (found found' : Option Scheme) : Step → Option Terms
  | .scheme (.establish t) =>
    if found.isNone && found'.isSome then some t else none
  | _ => none

/-- The terms on which the scheme was begun during some moves, once for each
time. -/
def beginnings (custody key : Text) : Memory → List Move → List Terms :=
  notes custody key fun m mv =>
    (mv.step.beginning? (m.schemes.get? key)
      ((m.step custody key mv.now mv.step).2.schemes.get? key)).toList

theorem beginnings_cons :
    beginnings custody key m (mv :: moves)
      = (mv.step.beginning? (m.schemes.get? key)
          ((m.step custody key mv.now mv.step).2.schemes.get? key)).toList
        ++ beginnings custody key (m.step custody key mv.now mv.step).2 moves :=
          rfl

variable {st : Step} {a : Except Failure Answer} {s : Scheme}

/-- Where there is a record none is begun. -/
theorem Step.beginning?_of_some (st : Step) (s : Scheme)
    (found' : Option Scheme) :
    st.beginning? (some s) found' = none := by
  unfold beginning?
  split <;> rfl

theorem Step.beginning?_of_none (st : Step) (found : Option Scheme) :
    st.beginning? found none = none := by
  unfold beginning?
  split
  · rw [Option.isSome_none, Bool.and_false]
    rfl
  · rfl

/-- A record that is there goes on. -/
theorem Effect.progress (h : Effect custody key m now st a m')
    (hs : m.schemes.get? key = some s) :
    ∃ next, m'.schemes.get? key = some next ∧ s.Progress now next := by
  cases h with
  | refused | looked | told | minted | moved | stranded => exact ⟨s, hs, .stays⟩
  | founded hnone =>
      rw [hnone] at hs
      cases hs
  | paid hs' haccept hopen =>
      cases hs.symm.trans hs'
      exact ⟨_, Registry.get?_put_self .., .pays haccept hopen⟩
  | completed hs' haccept hlast hnext =>
      cases hs.symm.trans hs'
      exact ⟨_, Registry.get?_put_self .., .completes haccept hlast hnext⟩
  | closed hs' hdue hnext =>
      cases hs.symm.trans hs'
      exact ⟨_, Registry.get?_put_self .., .closes hdue hnext⟩

theorem Lapse.progress (h : Lapse custody key m now st m')
    (hs : m.schemes.get? key = some s) :
    ∃ next, m'.schemes.get? key = some next ∧ s.Progress now next := by
  cases h with
  | founded hnone =>
      rw [hnone] at hs
      cases hs
  | paid | paidOut => exact ⟨s, hs, .stays⟩
  | closed hs' hdue hnext =>
      cases hs.symm.trans hs'
      exact ⟨_, Registry.get?_put_self .., .closes hdue hnext⟩

/-- However a step ends, a record that is there goes on. -/
theorem progress_of_step (custody : Text) (now : Int) (hst : st.amends = false)
    (hs : m.schemes.get? key = some s) :
    ∃ next, (m.step custody key now st).2.schemes.get? key
      = some next ∧ s.Progress now next := by
  rcases effect_or_lapse custody key m now hst with heffect | ⟨-, hlapse⟩
  · exact heffect.progress hs
  · exact hlapse.progress hs

/-- A record that is not there is begun, or stays away. -/
theorem Effect.beginning (h : Effect custody key m now st a m')
    (hnone : m.schemes.get? key = none) :
    m'.schemes.get? key = none
      ∨ ∃ t s, st = .scheme (.establish t) ∧ m'.schemes.get? key = some s
        ∧ t.opening now = .ok s := by
  cases h with
  | refused | looked | told | minted | moved => exact Or.inl hnone
  | founded hnone' hs => exact Or.inr ⟨_, _, rfl, Registry.get?_put_self .., hs⟩
  | paid hs | completed hs | stranded hs | closed hs =>
      rw [hnone] at hs
      cases hs

theorem Lapse.beginning (h : Lapse custody key m now st m')
    (hnone : m.schemes.get? key = none) :
    ∃ t s, st = .scheme (.establish t) ∧ m'.schemes.get? key = some s
      ∧ t.opening now = .ok s := by
  cases h with
  | founded hnone' hs => exact ⟨_, _, rfl, Registry.get?_put_self .., hs⟩
  | paid hs | paidOut hs | closed hs =>
      rw [hnone] at hs
      cases hs

/-- However a step ends, a record that was not there has been begun or is still
not there. -/
theorem beginning_of_step (custody : Text) (now : Int) (hst : st.amends = false)
    (hnone : m.schemes.get? key = none) :
    (m.step custody key now st).2.schemes.get? key = none
      ∨ ∃ t s, st = .scheme (.establish t)
        ∧ (m.step custody key now st).2.schemes.get? key = some s
          ∧ t.opening now = .ok s := by
  rcases effect_or_lapse custody key m now hst with heffect | ⟨-, hlapse⟩
  · exact heffect.beginning hnone
  · exact Or.inr (hlapse.beginning hnone)

/-- What rounds going on keep, a run keeps of a record that is there. -/
theorem after_progress (custody : Text) {P : Scheme → Prop}
    (hs : m.schemes.get? key = some s) (hP : P s)
    (hmoves : ∀ mv ∈ moves, mv.step.amends = false)
    (hprogress : ∀ mv ∈ moves, ∀ s next : Scheme, P s →
      s.Progress mv.now next → P next) :
    beginnings custody key m moves = []
      ∧ ∃ next, (after custody key m moves).schemes.get? key
        = some next ∧ P next := by
  induction moves generalizing m s with
  | nil => exact ⟨rfl, s, hs, hP⟩
  | cons mv moves ih =>
      have hmem := List.mem_cons_self (a := mv) (l := moves)
      obtain ⟨next, hnext, hgoes⟩ :=
        progress_of_step custody mv.now (hmoves mv hmem) hs
      obtain ⟨hlater, hend⟩ := ih hnext (hprogress mv hmem s next hP hgoes)
        (fun mv' hmv' => hmoves mv' (List.mem_cons_of_mem mv hmv'))
        (fun mv' hmv' => hprogress mv' (List.mem_cons_of_mem mv hmv'))
      refine ⟨?_, hend⟩
      rw [beginnings_cons, hs, Step.beginning?_of_some, hlater]
      rfl

/-- What every beginning brings about, and rounds going on keep, is true of the
record that a run ends with: it is the one of the only beginning there was. -/
theorem after_beginning (custody key : Text) {P : Terms → Scheme → Prop}
    (hnone : m.schemes.get? key = none)
    (hmoves : ∀ mv ∈ moves, mv.step.amends = false)
    (hopening : ∀ mv ∈ moves, ∀ (t : Terms) (s : Scheme),
      mv.step = .scheme (.establish t) → t.opening mv.now = .ok s → P t s)
    (hprogress : ∀ mv ∈ moves, ∀ (t : Terms) (s next : Scheme),
      P t s → s.Progress mv.now next → P t next) :
    (beginnings custody key m moves = []
      ∧ (after custody key m moves).schemes.get? key = none)
      ∨ ∃ t s, beginnings custody key m moves = [t]
        ∧ (after custody key m moves).schemes.get? key = some s ∧ P t s := by
  induction moves generalizing m with
  | nil => exact Or.inl ⟨rfl, hnone⟩
  | cons mv moves ih =>
      have hmem := List.mem_cons_self (a := mv) (l := moves)
      have hrest := fun mv' hmv' => hmoves mv' (List.mem_cons_of_mem mv hmv')
      rw [beginnings_cons, hnone]
      rcases beginning_of_step custody mv.now (hmoves mv hmem) hnone with
        hstill | ⟨t, s, hst, hs, hopened⟩
      · rw [hstill, Step.beginning?_of_none]
        exact ih hstill hrest
          (fun mv' hmv' => hopening mv' (List.mem_cons_of_mem mv hmv'))
          (fun mv' hmv' => hprogress mv' (List.mem_cons_of_mem mv hmv'))
      · -- the beginning: from here on the record is there and only goes on
        obtain ⟨hlater, next, hnext, hP⟩ := after_progress custody (P := P t) hs
          (hopening mv hmem t s hst hopened) hrest
          (fun mv' hmv' => hprogress mv' (List.mem_cons_of_mem mv hmv') t)
        rw [hlater, hs, hst]
        exact Or.inr ⟨t, next, rfl, hnext, hP⟩

/-- The record that a club has kept from the beginning is in good standing. -/
theorem sound_after (hmoves : ∀ mv ∈ moves, mv.step.amends = false)
    (hs : (after custody key .empty moves).schemes.get? key = some s) :
    s.Sound := by
  rcases after_beginning custody key (m := .empty)
    (P := fun _ s => s.Sound) rfl hmoves
      (fun _ _ _ _ _ hopened => Scheme.sound_of_opening hopened)
      (fun _ _ _ _ _ hs hnext => hs.progress hnext) with
    ⟨-, hnone⟩ | ⟨-, s', -, hs', hsound⟩
  · rw [hnone] at hs
    cases hs
  · cases hs.symm.trans hs'
    exact hsound

theorem listed_of_found (hs : m.schemes.get? key = some s)
    (hlisted : s.Listed) :
    ∀ s, m.schemes.get? key = some s → s.Listed := by
  intro s' hs'
  cases hs.symm.trans hs'
  exact hlisted

/-- A step that names no more members than a list can have keeps to that. -/
theorem listed_of_step (custody : Text) (now : Int) (hst : st.amends = false)
    (hlist : st.isListed = true)
    (hm : ∀ s, m.schemes.get? key = some s → s.Listed) :
    ∀ s, (m.step custody key now st).2.schemes.get? key = some s →
      s.Listed := by
  intro s' hs'
  cases hfound : m.schemes.get? key with
  | some s =>
      obtain ⟨next, hnext, hprogress⟩ := progress_of_step custody now hst hfound
      cases hs'.symm.trans hnext
      exact (hm s hfound).progress hprogress
  | none =>
      rcases beginning_of_step custody now hst hfound with
        hstill | ⟨t, s, rfl, hs, hopened⟩
      · rw [hstill] at hs'
        cases hs'
      · cases hs'.symm.trans hs
        exact Scheme.listed_of_opening (of_decide_eq_true hlist) hopened

theorem listed_after (hm : ∀ s, m.schemes.get? key = some s → s.Listed)
    (hmoves : ∀ mv ∈ moves, mv.step.amends = false)
    (hlists : ∀ mv ∈ moves, mv.step.isListed = true) :
    ∀ s, (after custody key m moves).schemes.get? key = some s → s.Listed :=
  Course.keeps (P := fun m : Memory => ∀ s, m.schemes.get? key = some s →
    s.Listed) hm fun mv hmv _ hm => listed_of_step custody mv.now
    (hmoves mv hmv) (hlists mv hmv) hm

end SavingsClub.Memory
