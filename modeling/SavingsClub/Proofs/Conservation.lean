/-
What transfers come to over many holders.

What a transfer adds to one account it takes from another. So over any holders
among whom are all that send or receive (`parties`), transfers together come to
nothing, however many there are and whoever they are between (`sum_total`).
-/
import Mathlib.Algebra.BigOperators.Group.Finset.Basic
import Mathlib.Algebra.BigOperators.Group.Finset.Piecewise
import SavingsClub.Proofs.Settlement

namespace SavingsClub

namespace Transfer

variable {asset : Text} {t : Transfer} {ts : List Transfer} {S : Finset Text}

/-- Who sends or receives something. -/
def parties (ts : List Transfer) : Finset Text :=
  (ts.flatMap fun t => [t.sender, t.recipient]).toFinset

/-- Whoever sends or receives takes part. -/
theorem mem_parties (ht : t ∈ ts) :
    t.sender ∈ parties ts ∧ t.recipient ∈ parties ts := by
  unfold parties
  rw [List.mem_toFinset, List.mem_toFinset, List.mem_flatMap, List.mem_flatMap]
  exact ⟨⟨t, ht, List.mem_cons_self⟩, ⟨t, ht, .tail _ List.mem_cons_self⟩⟩

/-- Whoever takes no part gains and loses nothing. -/
theorem total_of_not_mem {p : Text} (hp : p ∉ parties ts) :
    total asset p ts = 0 := by
  apply total_eq_zero
  intro t ht
  obtain ⟨hsender, hrecipient⟩ := mem_parties ht
  apply net_of_holder_ne
  · rintro rfl
    exact hp hsender
  · rintro rfl
    exact hp hrecipient

/-- What a transfer adds to one account it takes from another. -/
theorem sum_net (hsender : t.sender ∈ S) (hrecipient : t.recipient ∈ S) :
    ∑ p ∈ S, t.net asset p = 0 := by
  unfold net
  rw [Finset.sum_sub_distrib]
  by_cases hasset : asset = t.asset
  · simp [hasset, hsender, hrecipient]
  · simp [hasset]

theorem sum_total (h : ∀ t ∈ ts, t.sender ∈ S ∧ t.recipient ∈ S) :
    ∑ p ∈ S, total asset p ts = 0 := by
  induction ts with
  | nil => simp
  | cons t ts ih =>
      obtain ⟨hsender, hrecipient⟩ := h t List.mem_cons_self
      simp only [total_cons]
      rw [Finset.sum_add_distrib, sum_net hsender hrecipient,
        ih fun t' ht' => h t' (.tail t ht')]
      rfl

end Transfer

end SavingsClub
