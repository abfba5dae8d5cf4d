/-
What transfers made one after another come to.

`Ledger.transferAll` makes them in order, up to the first that is refused. If
none is, they all stand in the ledger's record of transfers
(`transfers_of_transferAll`), and every account has more or less by the sum of
what each of them adds to it (`balance_of_transferAll`). So whoever knows which
transfers were made knows what they did to every balance.
-/
import SavingsClub.Proofs.Balance

namespace SavingsClub

namespace Transfer

/-- What a transfer adds to what an account has. -/
def net (asset holder : Text) (t : Transfer) : Int :=
  (if asset = t.asset ∧ holder = t.recipient then t.amount else 0)
    - (if asset = t.asset ∧ holder = t.sender then t.amount else 0)

theorem net_mk (asset holder sender recipient : Text) (amount : Int) :
    net asset holder ⟨asset, sender, recipient, amount⟩
      = (if holder = recipient then amount else 0)
        - (if holder = sender then amount else 0) := by
  unfold net
  simp only [true_and]

/-- Whoever moves one asset moves no other. -/
theorem net_of_asset_ne {asset : Text} {t : Transfer} (holder : Text)
    (h : asset ≠ t.asset) :
    net asset holder t = 0 := by
  unfold net
  simp [h]

/-- A transfer leaves alone whoever neither sends nor receives. -/
theorem net_of_holder_ne {holder : Text} {t : Transfer} (asset : Text)
    (hsender : holder ≠ t.sender) (hrecipient : holder ≠ t.recipient) :
    net asset holder t = 0 := by
  unfold net
  simp [hsender, hrecipient]

/-- What transfers together add to what an account has. -/
def total (asset holder : Text) : List Transfer → Int
  | [] => 0
  | t :: ts => t.net asset holder + total asset holder ts

variable (asset holder : Text)

@[simp] theorem total_nil : total asset holder [] = 0 := rfl

@[simp] theorem total_cons (t : Transfer) (ts : List Transfer) :
    total asset holder (t :: ts)
      = t.net asset holder + total asset holder ts := rfl

@[simp] theorem total_append (ts ts' : List Transfer) :
    total asset holder (ts ++ ts')
      = total asset holder ts + total asset holder ts' := by
  induction ts with
  | nil => exact (Int.zero_add _).symm
  | cons t ts ih =>
      rw [List.cons_append, total_cons, total_cons, ih, Int.add_assoc]

/-- Transfers that each leave an account alone leave it alone together. -/
theorem total_eq_zero {asset holder : Text} {ts : List Transfer}
    (h : ∀ t ∈ ts, net asset holder t = 0) : total asset holder ts = 0 := by
  induction ts with
  | nil => rfl
  | cons t ts ih =>
      rw [total_cons, h t List.mem_cons_self,
        ih fun t' ht' => h t' (List.mem_cons_of_mem t ht'), Int.add_zero]

theorem total_of_asset_ne {asset : Text} {ts : List Transfer} (holder : Text)
    (h : ∀ t ∈ ts, asset ≠ t.asset) : total asset holder ts = 0 :=
  total_eq_zero fun t ht => net_of_asset_ne holder (h t ht)

end Transfer

namespace Ledger

variable {l l' : Ledger} {t : Transfer} {ts : List Transfer}

/-- Makes transfers in order, up to the first that is refused. -/
def transferAll (l : Ledger) (ts : List Transfer) : Except Fault Ledger :=
  ts.foldlM transfer l

/-- The first of several transfers is made before the others. -/
theorem transferAll_cons_eq_ok (h : l.transferAll (t :: ts) = .ok l') :
    ∃ l₁, l.transfer t = .ok l₁ ∧ l₁.transferAll ts = .ok l' := by
  unfold transferAll at h
  rw [List.foldlM_cons] at h
  cases hl : l.transfer t with
  | error f =>
      rw [hl] at h
      cases h
  | ok l₁ =>
      rw [hl] at h
      exact ⟨l₁, rfl, h⟩

theorem transferAll_cons {l₁ : Ledger} (hl : l.transfer t = .ok l₁) :
    l.transferAll (t :: ts) = l₁.transferAll ts := by
  unfold transferAll
  rw [List.foldlM_cons, hl]
  rfl

theorem transferAll_append {l₁ : Ledger} {ts' : List Transfer}
    (h : l.transferAll ts = .ok l₁) (h' : l₁.transferAll ts' = .ok l') :
    l.transferAll (ts ++ ts') = .ok l' := by
  unfold transferAll at h ⊢
  rw [List.foldlM_append, h]
  exact h'

/-- A transfer is entered as the last. -/
theorem transfers_of_transfer (h : l.transfer t = .ok l') :
    l'.transfers = l.transfers ++ [t] := by
  obtain ⟨-, -, -, rfl⟩ := transfer_eq_ok h
  rfl

/-- All transfers that are made are entered in order. -/
theorem transfers_of_transferAll (h : l.transferAll ts = .ok l') :
    l'.transfers = l.transfers ++ ts := by
  induction ts generalizing l with
  | nil =>
      cases h
      rw [List.append_nil]
  | cons t ts ih =>
      obtain ⟨l₁, hl, hrest⟩ := transferAll_cons_eq_ok h
      rw [ih hrest, transfers_of_transfer hl, List.append_assoc]
      rfl

/-- Every account has more by what the transfers together add to it. -/
theorem balance_of_transferAll (h : l.transferAll ts = .ok l')
    (asset holder : Text) :
    l'.balance asset holder
      = l.balance asset holder + Transfer.total asset holder ts := by
  induction ts generalizing l with
  | nil =>
      cases h
      rw [Transfer.total_nil, Int.add_zero]
  | cons t ts ih =>
      obtain ⟨l₁, hl, hrest⟩ := transferAll_cons_eq_ok h
      rw [ih hrest, balance_of_transfer hl, Transfer.total_cons]
      unfold Transfer.net
      omega

/-- Whoever sends in a transfer that is made is not the one who receives. -/
theorem sender_ne_recipient (h : l.transferAll ts = .ok l') :
    ∀ t ∈ ts, t.sender ≠ t.recipient := by
  induction ts generalizing l with
  | nil =>
      intro t ht
      cases ht
  | cons t ts ih =>
      obtain ⟨l₁, hl, hrest⟩ := transferAll_cons_eq_ok h
      obtain ⟨-, hself, -, -⟩ := transfer_eq_ok hl
      intro t' ht'
      rcases List.mem_cons.mp ht' with rfl | ht'
      · exact hself
      · exact ih hrest t' ht'

end Ledger

end SavingsClub
