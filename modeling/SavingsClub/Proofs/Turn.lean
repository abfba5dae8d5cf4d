/-
Whose turns the rounds of a cycle are.

The turn of a round hangs on its number only, and numbers that differ by the
number of members give the same turn. So as many rounds as there are members,
whatever the first of them is, go through the members in their order, starting
with the one whose turn the first is and going on at the beginning after the
last (`turns_cycle`). Every member's turn comes up as often in them as the
member stands in the list (`turns_perm`). Numbers below zero are counted from
the end: the place is the remainder that is not negative, so nothing changes at
zero (`recipients_of_cycle`).
-/
import Mathlib.Data.List.Rotate
import SavingsClub.Rotation

namespace SavingsClub.Rotation

variable {members : List Text}

/-- The turn of a round is at the place that its number leaves when divided by
the members. -/
theorem getElem?_recipient (round : Int) (h : members ≠ []) :
    members[(round % (members.length : Int)).toNat]?
      = some (recipient members round h) := by
  have hplace := place_lt (List.length_pos_iff.mpr h) round
  exact List.getElem?_eq_getElem hplace

/-- The place of a round is its remainder, also for a number below zero. -/
theorem natCast_place {n : Nat} (hn : 0 < n) (round : Int) :
    ((place n round : Nat) : Int) = round % n := by
  have hn' : (0 : Int) < n := by omega
  exact Int.toNat_of_nonneg (Int.emod_nonneg round (Int.ne_of_gt hn'))

/-- A place further on is counted from the beginning again after the last. -/
theorem place_add {n : Nat} (hn : 0 < n) (round : Int) (i : Nat) :
    place n (round + i) = (i + place n round) % n := by
  have hcast : ((place n (round + i) : Nat) : Int)
      = ((i + place n round) % n : Nat) := by
    rw [Int.natCast_emod, Int.natCast_add, natCast_place hn, natCast_place hn,
      Int.add_emod_emod, Int.add_comm (i : Int)]
  exact Int.ofNat_inj.mp hcast

/-- Whole cycles further on or back the place is the same. -/
theorem place_add_mul (n : Nat) (round k : Int) :
    place n (round + k * n) = place n round := by
  unfold place
  rw [Int.add_mul_emod_self_right]

/-- Whose turn a round is hangs on its place only. -/
theorem recipient?_congr {r r' : Int}
    (h : place members.length r = place members.length r') :
    recipient? members r = recipient? members r' := by
  unfold recipient? recipient
  simp only [h]

/-- Whose turns some rounds are, from `first` on. -/
def turns (members : List Text) (h : members ≠ []) (first : Int)
    (rounds : Nat) : List Text :=
  (List.range rounds).map fun (i : Nat) => recipient members (first + i) h

theorem turns_succ (h : members ≠ []) (first : Int) (rounds : Nat) :
    turns members h first (rounds + 1)
      = turns members h first rounds
        ++ [recipient members (first + rounds) h] := by
  unfold turns
  rw [List.range_succ, List.map_append]
  rfl

theorem length_turns (h : members ≠ []) (first : Int) (rounds : Nat) :
    (turns members h first rounds).length = rounds := by
  unfold turns
  rw [List.length_map, List.length_range]

theorem getElem_turns (h : members ≠ []) (first : Int) (rounds i : Nat)
    (hi : i < (turns members h first rounds).length) :
    (turns members h first rounds)[i] = recipient members (first + i) h := by
  unfold turns at hi ⊢
  rw [List.getElem_map, List.getElem_range]

/-- The turns of as many rounds as there are members are the members, from the
first turn on. -/
theorem turns_cycle (h : members ≠ []) (first : Int) :
    turns members h first members.length
      = members.rotate (place members.length first) := by
  refine List.ext_getElem ?_ ?_
  · rw [length_turns, List.length_rotate]
  · intro i hi hi'
    rw [getElem_turns, List.getElem_rotate]
    unfold recipient
    rw [List.get_eq_getElem]
    congr 1
    exact place_add (List.length_pos_iff.mpr h) first i

/-- Everybody's turn comes up once for each time that they are a member. -/
theorem turns_perm (h : members ≠ []) (first : Int) :
    (turns members h first members.length).Perm members := by
  rw [turns_cycle]
  exact List.rotate_perm members _

theorem map_recipient? (h : members ≠ []) (first : Int) (rounds : Nat) :
    (List.range rounds).map (fun i : Nat => recipient? members (first + i))
      = (turns members h first rounds).map some := by
  unfold turns
  rw [List.map_map]
  refine List.map_congr_left fun i _ => ?_
  exact dif_pos h

/-- The recipients of as many rounds in a row as there are members, from any
round on, are the members rotated to the left by the remainder of that round,
and so the same members in another order. Any number of whole cycles further on
or back the recipient is the same. -/
theorem recipients_of_cycle (h : members ≠ []) (first : Int) :
    let n := members.length
    let m := place n first
    let recipients := (List.range n).map fun i : Nat =>
      recipient? members (first + i)
    (m : Int) = first % n ∧ m < n
      ∧ recipients = (members.rotate m).map some
      ∧ recipients.Perm (members.map some)
      ∧ ∀ k : Int, recipient? members (first + k * n)
          = recipient? members first := by
  intro n m recipients
  have hn : 0 < n := List.length_pos_iff.mpr h
  have hrecipients : recipients = (turns members h first n).map some :=
    map_recipient? h first n
  refine ⟨natCast_place hn first, place_lt hn first, ?_, ?_, fun k => ?_⟩
  · rw [hrecipients, turns_cycle]
  · rw [hrecipients]
    exact (turns_perm h first).map some
  · exact recipient?_congr (place_add_mul n first k)

/-- A member who stands twice in the list, and rounds from below zero on. -/
theorem recipients_of_doubleMember :
    let members : List Text := ["ana", "bo", "ana"]
    members ≠ []
      ∧ (List.range 3).map (fun i : Nat => recipient? members (-4 + i))
        = (["ana", "ana", "bo"] : List Text).map some
      ∧ recipient? members (-4 + 5 * 3) = recipient? members (-4) := by
  intro members
  have hne : members ≠ [] := by decide
  obtain ⟨-, -, hcycle, -, hperiod⟩ := recipients_of_cycle hne (-4)
  exact ⟨hne, hcycle.trans (by decide), hperiod 5⟩

end SavingsClub.Rotation
