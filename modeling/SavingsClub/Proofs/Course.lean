/-
Courses: a state that goes on from move to move.

Clubs, offices, sessions, locks: whatever goes on here takes one move after the
other, whatever came of the moves before. `after` is where it has got to, and
`notes` is what has been noted on the way, move by move. Both are given by what
a single move does, and what is said of them here holds whatever that is: a
course can be cut in two (`after_append`, `notes_append`), and what each move
keeps is kept all along (`keeps`). Where it matters how far the course has got,
a condition on the moves is either said of every cut of the course
(`keeps_along`) or carried along it (`Along`).
-/
namespace SavingsClub.Course

variable {σ μ α : Type} {next : σ → μ → σ} {note : σ → μ → List α}
  {s : σ} {mv : μ} {moves rest : List μ}

/-- Where some moves lead. -/
def after (next : σ → μ → σ) (s : σ) (moves : List μ) : σ := moves.foldl next s

/-- What is noted of some moves, in order. -/
def notes (next : σ → μ → σ) (note : σ → μ → List α) (s : σ) : List μ → List α
  | [] => []
  | mv :: moves => note s mv ++ notes next note (next s mv) moves

theorem after_cons :
    after next s (mv :: moves) = after next (next s mv) moves := rfl

theorem after_append :
    after next s (moves ++ rest) = after next (after next s moves) rest :=
  List.foldl_append

theorem after_snoc :
    after next s (moves ++ [mv]) = next (after next s moves) mv := after_append

/-- What every move keeps is kept by all of them. -/
theorem keeps {P : σ → Prop} (h : P s)
    (hmove : ∀ mv ∈ moves, ∀ s, P s → P (next s mv)) :
    P (after next s moves) :=
  List.foldlRecOn moves next h fun s hs mv hmv => hmove mv hmv s hs

/-- What every move keeps where the moves before it lead is kept by all of
them. -/
theorem keeps_along {P : σ → Prop} (h : P s)
    (hmove : ∀ before mv rest, moves = before ++ mv :: rest →
      P (after next s before) →
      P (next (after next s before) mv)) : P (after next s moves) := by
  induction moves generalizing s with
  | nil => exact h
  | cons mv moves ih =>
      rw [after_cons]
      refine ih (hmove [] mv moves rfl h) ?_
      intro before mv' rest hsplit
      exact hmove (mv :: before) mv' rest (congrArg (mv :: ·) hsplit)

/-- Something is true of every move where the moves before it have led. -/
def Along (next : σ → μ → σ) (C : σ → μ → Prop) (s : σ) : List μ → Prop
  | [] => True
  | mv :: moves => C s mv ∧ Along next C (next s mv) moves

/-- What is true of a move wherever it is made is true of it along any
course. -/
theorem along_of_forall {C : σ → μ → Prop} (h : ∀ mv ∈ moves, ∀ s, C s mv) :
    Along next C s moves := by
  induction moves generalizing s with
  | nil => trivial
  | cons mv moves ih =>
      exact ⟨h mv List.mem_cons_self s,
        ih fun mv' hmv' => h mv' (List.mem_cons_of_mem mv hmv')⟩

/-- What a move keeps under a condition is kept by all moves along which the
condition holds. -/
theorem keeps_of_along {P : σ → Prop} {C : σ → μ → Prop} (h : P s)
    (hmove : ∀ s mv, P s → C s mv → P (next s mv))
    (hmoves : Along next C s moves) :
    P (after next s moves) := by
  induction moves generalizing s with
  | nil => exact h
  | cons mv moves ih => exact ih (hmove s mv h hmoves.1) hmoves.2

/-- What is noted of a course that is cut in two is noted of its two parts. -/
theorem notes_append :
    notes next note s (moves ++ rest)
      = notes next note s moves
        ++ notes next note (after next s moves) rest := by
  induction moves generalizing s with
  | nil => rfl
  | cons mv moves ih =>
      rw [List.cons_append, notes, ih, notes, after_cons, List.append_assoc]

theorem notes_snoc :
    notes next note s (moves ++ [mv])
      = notes next note s moves ++ note (after next s moves) mv := by
  rw [notes_append, notes, notes, List.append_nil]

/-- Whatever is noted is noted of one of the moves. -/
theorem exists_of_mem_notes {a : α} (ha : a ∈ notes next note s moves) :
    ∃ mv ∈ moves, ∃ s, a ∈ note s mv := by
  induction moves generalizing s with
  | nil => cases ha
  | cons mv moves ih =>
      rcases List.mem_append.mp ha with ha | ha
      · exact ⟨mv, List.mem_cons_self, s, ha⟩
      · obtain ⟨mv', hmv', hnoted⟩ := ih ha
        exact ⟨mv', List.mem_cons_of_mem mv hmv', hnoted⟩

end SavingsClub.Course
