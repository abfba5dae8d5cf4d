/-
Rows of a table, in the order in which they were inserted.
-/
namespace SavingsClub.Table

/-- Changes the first row that is looked for; if there is none, inserts `blank`
and changes that. -/
def upsert {ρ : Type} (wanted : ρ → Bool) (change : ρ → ρ) (blank : ρ) :
    List ρ → List ρ
  | [] => [change blank]
  | r :: rs =>
    if wanted r then change r :: rs else r :: upsert wanted change blank rs

/-- The first wanted row after an upsert is the changed one, if the change
leaves it wanted. -/
theorem find?_upsert_self {ρ : Type} (wanted : ρ → Bool)
    (change : ρ → ρ) (blank : ρ) (hblank : wanted (change blank))
    (hchange : ∀ r, wanted r → wanted (change r)) (rows : List ρ) :
    (upsert wanted change blank rows).find? wanted =
      some (change ((rows.find? wanted).getD blank)) := by
  induction rows with
  | nil => simp [upsert, hblank]
  | cons r rs ih => by_cases h : wanted r <;> simp [upsert, h, hchange, ih]

/-- An upsert leaves the search for other rows as it was, if it makes no row an
other one. -/
theorem find?_upsert_of_not {ρ : Type} (wanted other : ρ → Bool)
    (change : ρ → ρ) (blank : ρ) (hblank : other (change blank) = false)
    (hchange : ∀ r, wanted r → other r = false ∧ other (change r) = false)
    (rows : List ρ) :
    (upsert wanted change blank rows).find? other = rows.find? other := by
  induction rows with
  | nil => simp [upsert, hblank]
  | cons r rs ih =>
    by_cases h : wanted r
    · simp [upsert, h, hchange r h]
    · by_cases ho : other r <;> simp [upsert, h, ho, ih]

/-- An upsert of rows is one of what the rows show, if the change can be seen
there. -/
theorem map_upsert {ρ σ : Type} (f : ρ → σ) (wanted : ρ → Bool)
    (wanted' : σ → Bool) (change : ρ → ρ) (change' : σ → σ) (blank : ρ)
    (hwanted : ∀ r, wanted' (f r) = wanted r)
    (hchange : ∀ r, f (change r) = change' (f r)) (rows : List ρ) :
    (upsert wanted change blank rows).map f
    = upsert wanted' change' (f blank) (rows.map f) := by
  induction rows with
  | nil => simp [upsert, hchange]
  | cons r rs ih =>
      by_cases h : wanted r <;> simp [upsert, h, hwanted, hchange, ih]

/-- Among the keys that rows go by, an upsert writes one over itself or adds it
as a new one. -/
theorem nodup_upsert {κ : Type} [DecidableEq κ] (k : κ) {keys : List κ}
    (h : keys.Nodup) :
    (upsert (· = k) id k keys).Nodup := by
  have hmem : ∀ (keys : List κ) (j : κ), j ∈ upsert (· = k) id k keys →
      j = k ∨ j ∈ keys := by
    intro keys j hj
    induction keys with
    | nil => exact Or.inl (List.mem_singleton.mp hj)
    | cons i keys ih =>
      by_cases hi : i = k
      · simp only [upsert, hi, decide_true, if_true] at hj
        exact Or.inr (hi ▸ hj)
      · simp only [upsert, hi, decide_false, Bool.false_eq_true, if_false] at hj
        rcases List.mem_cons.mp hj with rfl | hj
        · exact Or.inr List.mem_cons_self
        · exact (ih hj).imp_right (List.mem_cons_of_mem i)
  induction keys with
  | nil => exact List.nodup_cons.mpr ⟨List.not_mem_nil, List.nodup_nil⟩
  | cons i keys ih =>
    obtain ⟨hi, hkeys⟩ := List.nodup_cons.mp h
    by_cases hk : i = k
    · simp only [upsert, hk, decide_true, if_true]
      exact hk ▸ h
    · simp only [upsert, hk, decide_false, Bool.false_eq_true, if_false]
      refine List.nodup_cons.mpr ⟨fun hin => ?_, ih hkeys⟩
      rcases hmem keys i hin with rfl | hold
      · exact hk rfl
      · exact hi hold

end SavingsClub.Table
