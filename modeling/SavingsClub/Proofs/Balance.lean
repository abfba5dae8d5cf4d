/-
What mints and transfers do to the balances.

A ledger is read through `Ledger.balance` alone here: `mint_eq` and
`transfer_eq` say what a change is refused for, `balance_of_mint` and
`balance_of_transfer` what one that is not refused does to every balance, and
`transfer_of_le` when a transfer is not refused. No balance of a ledger that
began empty is below 0 (`Backed`), whatever was asked of it.
-/
import SavingsClub.Ledger

namespace SavingsClub.Ledger

variable {l l' : Ledger} {t : Transfer}

/-- A transfer is refused for its amount, or else for going nowhere, or else for
want of funds, or made. -/
theorem transfer_eq (l : Ledger) (t : Transfer) :
    l.transfer t
      = if t.amount ≤ 0 then
        .error (.transferRejected (.transferNotPositive t.amount))
        else if t.sender = t.recipient
          then .error (.transferRejected (.toItself t.sender))
        else if l.balance t.asset t.sender < t.amount then
          .error (.insufficientFunds t.sender t.amount
            (l.balance t.asset t.sender))
        else .ok { (l.credit t.asset t.sender (-t.amount)).credit t.asset
          t.recipient t.amount with
          transfers := l.transfers ++ [t] } := by
  unfold transfer Transfer.rejection?
  by_cases hamount : t.amount ≤ 0
  · rw [if_pos hamount, if_pos hamount]
  rw [if_neg hamount, if_neg hamount]
  by_cases hself : t.sender = t.recipient
  · rw [if_pos hself, if_pos hself]
  · rw [if_neg hself, if_neg hself]

/-- What it takes to make a transfer, and the ledger after it. -/
theorem transfer_eq_ok (h : l.transfer t = .ok l') :
    0 < t.amount ∧ t.sender ≠ t.recipient
      ∧ t.amount ≤ l.balance t.asset t.sender
      ∧ l' = { (l.credit t.asset t.sender (-t.amount)).credit t.asset
        t.recipient t.amount with
        transfers := l.transfers ++ [t] } := by
  rw [transfer_eq] at h
  split at h
  · cases h
  next hamount =>
    split at h
    · cases h
    next hself =>
      split at h
      · cases h
      next hfunds =>
        cases h
        exact ⟨Int.not_le.mp hamount, hself, Int.not_lt.mp hfunds, rfl⟩

/-- A transfer of a positive amount between two holders is made if the sender
has the amount. -/
theorem transfer_of_le (hamount : 0 < t.amount) (hself : t.sender ≠ t.recipient)
    (hfunds : t.amount ≤ l.balance t.asset t.sender) :
    ∃ l', l.transfer t = .ok l' := by
  rw [transfer_eq, if_neg (Int.not_le.mpr hamount), if_neg hself,
    if_neg (Int.not_lt.mpr hfunds)]
  exact ⟨_, rfl⟩

/-- The sender of a transfer has less by its amount and the recipient more. -/
theorem balance_of_transfer (h : l.transfer t = .ok l') (asset holder : Text) :
    l'.balance asset holder
      = l.balance asset holder
        - (if asset = t.asset ∧ holder = t.sender then t.amount else 0)
        + (if asset = t.asset ∧ holder = t.recipient then t.amount else 0) := by
  obtain ⟨-, -, -, rfl⟩ := transfer_eq_ok h
  show ((l.credit t.asset t.sender (-t.amount)).credit t.asset t.recipient
    t.amount).balance asset holder = _
  rw [balance_credit, balance_credit]
  split <;> split <;> omega

/-- A mint is refused for its amount, or made. -/
theorem mint_eq (l : Ledger) (asset holder : Text) (amount : Int) :
    l.mint asset holder amount
      = if amount ≤ 0 then .error (.transferRejected (.mintNotPositive amount))
        else .ok (l.credit asset holder amount) := by
  unfold mint mintRejection?
  by_cases hamount : amount ≤ 0
  · rw [if_pos hamount, if_pos hamount]
  · rw [if_neg hamount, if_neg hamount]

/-- A mint creates a positive amount and moves nothing. -/
theorem mint_eq_ok {asset holder : Text} {amount : Int}
    (h : l.mint asset holder amount = .ok l') :
    0 < amount ∧ l' = l.credit asset holder amount := by
  rw [mint_eq] at h
  split at h
  · cases h
  next hamount =>
    cases h
    exact ⟨Int.not_le.mp hamount, rfl⟩

theorem balance_of_mint {asset holder : Text} {amount : Int}
    (h : l.mint asset holder amount = .ok l') (a p : Text) :
    l'.balance a p = l.balance a p + if a = asset ∧ p = holder then amount
      else 0 := by
  obtain ⟨-, rfl⟩ := mint_eq_ok h
  exact balance_credit l asset holder amount a p

-- ================================================================ no overdraft

/-- Nobody has less than nothing. -/
def Backed (l : Ledger) : Prop := ∀ asset holder, 0 ≤ l.balance asset holder

theorem backed_empty : Backed empty := fun _ _ => Int.le_refl 0

theorem Backed.mint (hl : l.Backed) {asset holder : Text} {amount : Int}
    (h : l.mint asset holder amount = .ok l') : l'.Backed := by
  intro a p
  have hold := hl a p
  have hpos := (mint_eq_ok h).1
  rw [balance_of_mint h]
  split <;> omega

theorem Backed.transfer (hl : l.Backed) (h : l.transfer t = .ok l') :
    l'.Backed := by
  intro a p
  have hold := hl a p
  obtain ⟨hpos, -, hfunds, -⟩ := transfer_eq_ok h
  rw [balance_of_transfer h]
  by_cases hsender : a = t.asset ∧ p = t.sender
  · obtain ⟨rfl, rfl⟩ := hsender
    split <;> split <;> omega
  · rw [if_neg hsender]
    split <;> omega

end SavingsClub.Ledger
