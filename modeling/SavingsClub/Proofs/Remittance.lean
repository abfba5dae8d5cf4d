/-
Plans as they are carried out, reports included.

# Reports between the effects

A report changes nothing and can only fail, so a plan whose reports can all be
made comes to its transfers, its record and its events alone. The lemmas here
say what is left of that when a report may fail: whatever succeeds has been
reported (`carryOut_eq_ok`), and whatever fails otherwise than over a report has
failed in one of the effects (`carryOut_eq_error`).

They hold on every backend. What a failed report leaves behind is a matter of
the backend: the memory keeps what was done before it, and the database gives
that up.
-/
import SavingsClub.Engine

namespace SavingsClub

namespace Act

variable {σ : Type} {named : List Int} {st st' : σ}

/-- A report that has been made has changed nothing. -/
theorem report_eq_ok {u : Unit}
    (h : (report named : Act σ Unit) st = .ok u st') :
    named.all isWritable = true ∧ st' = st := by
  cases hnamed : named.all isWritable with
  | true =>
      rw [report_ok hnamed] at h
      cases h
      exact ⟨rfl, rfl⟩
  | false =>
      rw [report_error hnamed] at h
      cases h

theorem report_eq_error {f : Failure}
    (h : (report named : Act σ Unit) st = .error f st') :
    named.all isWritable = false ∧ f = .unspeakable := by
  cases hnamed : named.all isWritable with
  | true =>
      rw [report_ok hnamed] at h
      cases h
  | false =>
      rw [report_error hnamed] at h
      cases h
      exact ⟨rfl, rfl⟩

end Act

namespace Engine

variable {σ α : Type} {e : Engine σ} {st st' : σ} {r : Remittance}
  {rs : List Remittance} {p : Plan α}

-- ================================================================ one transfer

/-- A transfer that can be reported is all that is left of it and its report. -/
theorem remit_of_reported (h : r.reported.all isWritable = true) :
    e.remit r = e.backend.transfer r.transfer := by
  unfold remit
  rw [Act.report_ok h, bind_pure_unit]

theorem remit_eq_ok {u : Unit} (h : e.remit r st = .ok u st') :
    e.backend.transfer r.transfer st = .ok () st'
      ∧ r.reported.all isWritable = true := by
  obtain ⟨u', st₁, hmade, hreport⟩ := Act.bind_eq_ok h
  obtain ⟨hnamed, rfl⟩ := Act.report_eq_ok hreport
  exact ⟨hmade, hnamed⟩

/-- A transfer that is made and cannot be reported stays made. -/
theorem remit_of_unreported
    (hmade : e.backend.transfer r.transfer st = .ok () st')
    (h : r.reported.all isWritable = false) :
    e.remit r st = .error .unspeakable st' := by
  refine (Act.bind_ok hmade _).trans ?_
  rw [Act.report_error h]
  rfl

-- =============================================================== all transfers

/-- Transfers that have all been made have all been reported. -/
theorem forM_remit_eq_ok {u : Unit} (h : rs.forM e.remit st = .ok u st') :
    (rs.map Remittance.transfer).forM e.backend.transfer st = .ok () st'
      ∧ (rs.all fun r => r.reported.all isWritable) = true := by
  induction rs generalizing st with
  | nil =>
      cases h
      exact ⟨rfl, rfl⟩
  | cons r rs ih =>
      obtain ⟨u', st₁, hfirst, hrest⟩ := Act.bind_eq_ok h
      obtain ⟨hmade, hreported⟩ := remit_eq_ok hfirst
      obtain ⟨hothers, hall⟩ := ih hrest
      refine ⟨(Act.bind_ok hmade _).trans hothers, ?_⟩
      rw [List.all_cons, hreported, hall]
      rfl

/-- Where not all transfers are made it is for a report, or for one of the
transfers. -/
theorem forM_remit_eq_error {f : Failure}
    (h : rs.forM e.remit st = .error f st') :
    f = .unspeakable
      ∨ (rs.map Remittance.transfer).forM e.backend.transfer st
        = .error f st' := by
  induction rs generalizing st with
  | nil => cases h
  | cons r rs ih =>
      rcases Act.bind_eq_error h with hfirst | ⟨u, st₁, hfirst, hrest⟩
      · rcases Act.bind_eq_error hfirst with hrefused | ⟨u, st₁, -, hreport⟩
        · exact Or.inr (Act.bind_error hrefused _)
        · exact Or.inl (Act.report_eq_error hreport).2
      · exact (ih hrest).imp_right (Act.bind_ok (remit_eq_ok hfirst).1 _).trans

-- ====================================================================== a plan

/-- A plan that is carried out: its transfers, its record and its events, each
in turn, and all of it reported. -/
theorem carryOut_eq_ok {a : α} (h : e.carryOut p st = .ok a st') :
    ∃ st₁ st₂, p.transfers.forM e.backend.transfer st = .ok () st₁
      ∧ e.backend.set e.key p.record st₁ = .ok () st₂
      ∧ p.events.forM (e.backend.emit e.key) st₂ = .ok () st' ∧ a = p.answer
      ∧ p.reportsTransfers = true ∧ p.reportsRecord = true := by
  obtain ⟨u₁, st₁, hremitted, hrest⟩ := Act.bind_eq_ok h
  obtain ⟨hmade, hreported⟩ := forM_remit_eq_ok hremitted
  obtain ⟨u₂, st₂, hkept, hrest⟩ := Act.bind_eq_ok hrest
  obtain ⟨u₃, st₃, hreport, hend⟩ := Act.bind_eq_ok hrest
  obtain ⟨hrecord, rfl⟩ := Act.report_eq_ok hreport
  obtain ⟨u₄, st₄, htold, hanswer⟩ := Act.bind_eq_ok hend
  cases hanswer
  exact ⟨st₁, st₃, hmade, hkept, htold, rfl, hreported, hrecord⟩

/-- A plan that is not carried out has failed over a report or in one of its
effects. -/
theorem carryOut_eq_error {f : Failure} (h : e.carryOut p st = .error f st') :
    f = .unspeakable ∨ p.transfers.forM e.backend.transfer st = .error f st'
      ∨ (∃ st₁, e.backend.set e.key p.record st₁ = .error f st')
      ∨ ∃ st₂, p.events.forM (e.backend.emit e.key) st₂ = .error f st' := by
  rcases Act.bind_eq_error h with hmade | ⟨u₁, st₁, -, h⟩
  · exact (forM_remit_eq_error hmade).imp_right Or.inl
  rcases Act.bind_eq_error h with hkept | ⟨u₂, st₂, -, h⟩
  · exact Or.inr (Or.inr (Or.inl ⟨st₁, hkept⟩))
  rcases Act.bind_eq_error h with hreport | ⟨u₃, st₃, -, h⟩
  · exact Or.inl (Act.report_eq_error hreport).2
  rcases Act.bind_eq_error h with htold | ⟨u₄, st₄, -, hanswer⟩
  · exact Or.inr (Or.inr (Or.inr ⟨st₃, htold⟩))
  · cases hanswer

end Engine

end SavingsClub
