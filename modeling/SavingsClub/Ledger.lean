/-
The ledger: who holds how much of which asset.

Money comes into being by a mint and moves by a transfer; both want a positive
amount, a transfer wants two different holders and a sender who has the amount.
The ledger of this module is kept in memory together with the list of the
transfers that were made. A holder without an entry holds 0.
-/
import SavingsClub.Fault
import SavingsClub.Registry

namespace SavingsClub

structure Account where
  asset : Text
  holder : Text
  deriving DecidableEq, Repr

/-- A movement of money from one holder to another. -/
structure Transfer where
  asset : Text
  sender : Text
  recipient : Text
  amount : Int
  deriving DecidableEq, Repr

structure Holding where
  asset : Text
  holder : Text
  amount : Int
  deriving DecidableEq, Repr

namespace Holding

/-- The order of holdings: by asset, then by holder, character by character. -/
def precedes (a b : Holding) : Bool :=
  a.asset < b.asset || (a.asset == b.asset && !decide (b.holder < a.holder))

/-- The holdings that are not zero, in order. -/
def statement (l : List Holding) : List Holding :=
  (l.filter (·.amount ≠ 0)).mergeSort precedes

end Holding

namespace Transfer

/-- Why a transfer is refused whatever the balances are. -/
def rejection? (t : Transfer) : Option Rejection :=
  if t.amount ≤ 0 then some (.transferNotPositive t.amount)
  else if t.sender = t.recipient then some (.toItself t.sender)
  else none

end Transfer

/-- Why a mint is refused. -/
def mintRejection? (amount : Int) : Option Rejection :=
  if amount ≤ 0 then some (.mintNotPositive amount) else none

/-- The balances, and the transfers that led to them. -/
structure Ledger where
  balances : Registry Account Int
  /-- The transfers that were made, first to last. -/
  transfers : List Transfer
  deriving DecidableEq, Repr

namespace Ledger

def empty : Ledger := ⟨.empty, []⟩

/-- What a holder has of an asset. -/
def balance (l : Ledger) (asset holder : Text) : Int :=
  (l.balances.get? ⟨asset, holder⟩).getD 0

/-- Adds to what an account holds. -/
def credit (l : Ledger) (asset holder : Text) (amount : Int) : Ledger :=
  { l with
    balances := l.balances.put ⟨asset, holder⟩
      (l.balance asset holder + amount) }

def mint (l : Ledger) (asset holder : Text) (amount : Int) :
    Except Fault Ledger :=
  match mintRejection? amount with
  | some r => .error (.transferRejected r)
  | none => .ok (l.credit asset holder amount)

/-- Makes a transfer and records it. -/
def transfer (l : Ledger) (t : Transfer) : Except Fault Ledger :=
  match t.rejection? with
  | some r => .error (.transferRejected r)
  | none =>
    let available := l.balance t.asset t.sender
    if available < t.amount then
      .error (.insufficientFunds t.sender t.amount available)
    else
      let moved := (l.credit t.asset t.sender (-t.amount)).credit t.asset
        t.recipient t.amount
      .ok { moved with transfers := l.transfers ++ [t] }

/-- The accounts that have an entry, with what is in them. -/
def holdings (l : Ledger) : List Holding :=
  l.balances.entries.map fun e => ⟨e.1.asset, e.1.holder, e.2⟩

/-- Every balance that is not zero, in order. -/
def statement (l : Ledger) : List Holding := Holding.statement l.holdings

/-- What a credit does to the balances. -/
theorem balance_credit (l : Ledger) (asset holder : Text) (amount : Int)
    (a h : Text) :
    (l.credit asset holder amount).balance a h =
      l.balance a h + if a = asset ∧ h = holder then amount else 0 := by
  by_cases e : a = asset ∧ h = holder
  · obtain ⟨rfl, rfl⟩ := e
    simp [credit, balance]
  · have : (⟨a, h⟩ : Account) ≠ ⟨asset, holder⟩ := by
      simpa using e
    simp [credit, balance, Registry.get?_put_of_ne _ _ this, e]

end Ledger

end SavingsClub
