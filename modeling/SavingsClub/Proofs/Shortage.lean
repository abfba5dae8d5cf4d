/-
Why a contribution is refused for want of funds.

Of all that can stop a contribution only a transfer asks what somebody has, and
it asks that of its sender. So whenever the answer is that somebody has too
little, the contribution had been granted, and it is a transfer of the plan that
was refused (`Engine.short_of_contribute`), its sender being the one who has too
little (`Database.short_of_transfer`).
-/
import SavingsClub.Proofs.Refusal

namespace SavingsClub

variable {holder : Text} {required available : Int}

/-- A transfer is refused for want of funds if its sender has too little, and is
not the recipient too. -/
theorem Database.short_of_transfer {db : Database} {t : Transfer}
    (h : db.transfer t
      = .error (.fault (.insufficientFunds holder required available))) :
    holder = t.sender ∧ t.sender ≠ t.recipient
      ∧ db.balance t.asset t.sender < t.amount := by
  cases refused_of_transfer h with
  | short hself hfunds => exact ⟨rfl, hself, hfunds⟩

/-- What is refused on the record is no matter of funds. -/
theorem Operation.Refused.ne_short {key : Text} {now : Int}
    {found : Option Scheme} {op : Operation} :
    ¬ op.Refused key now found
      (.insufficientFunds holder required available) := by
  intro h
  cases h with
  | declined hdeclines =>
      cases hdeclines with
      | last hdue hmember hpaid hlast hstuck => cases hstuck
  | stuck hdue hstuck => cases hstuck

/-- A contribution comes to want of funds in the transfers that it was
granted. -/
theorem Engine.short_of_contribute {db db' : Database} {id custody c : Text}
    {caller : Option Text} {now : Int}
    (h : (⟨Database.backend, custody, id⟩ : Engine Database).perform now
      (.contribute caller c) db
      = .error (.fault (.insufficientFunds holder required available)) db') :
    ∃ p, (Operation.contribute caller c).Granted custody now (db.scheme? id) p
      ∧ p.transfers.forM Database.backend.transfer db
        = .error (.fault (.insufficientFunds holder required available)) db' :=
  (fault_of_perform h).resolve_left Operation.Refused.ne_short

end SavingsClub
