/-
Everything that a step can do to a club kept in memory.

# One case for each thing that can happen

`Effect` lists what a step other than a change by hand may answer and leave
behind, each case with all that it takes and all that it does. No proof about
runs looks into an operation again: whatever is true of them is shown case by
case. One case is that of a completing contribution whose pot could not be paid
(`stranded`). It is in the list because a step can start from any memory at all;
that a club never gets where it applies is a matter of its runs.

# Where a step lapses

Nothing is undone in memory, so a report that cannot be written leaves what was
done before it: transfers without a record, or a record that nothing is told of.
`Lapse` lists these ends, and `effect_or_lapse` says that there is no third
list.

A club whose record is in good standing lapses in two ways only. Either the
reading of the clock is too long, or the pot is, which takes more members than a
list can have (`Lapse.too_long`). So with readings that can be written and lists
as they are, every step has one of the effects (`effect_of_step`).
-/
import SavingsClub.Memory
import SavingsClub.Proofs.Balance
import SavingsClub.Proofs.Grant
import SavingsClub.Proofs.Remittance

namespace SavingsClub.Memory

variable {custody key : Text} {m : Memory} {now : Int}

/-- A change of the record by hand. -/
def Step.amends : Step → Bool
  | .amend _ => true
  | .scheme _ | .ledger _ => false

-- =================================================================== the lists

/-- What a step may answer, and what it may make of the memory. -/
inductive Effect (custody key : Text) (m : Memory) (now : Int) :
    Step → Except Failure Answer → Memory → Prop where
  /-- Nothing is done. -/
  | refused {st : Step} {f : Failure} : Effect custody key m now st (.error f) m
  /-- A question about the scheme is answered. -/
  | looked {op : Operation} {a : Answer} (hop : op.isReading = true)
      (ha : op.ruling custody key now (m.schemes.get? key) = .ok (.look a)) :
      Effect custody key m now (.scheme op) (.ok a) m
  /-- A balance is told, also to those who have none. -/
  | told {asset holder : Text} :
      Effect custody key m now (.ledger (.balance asset holder))
        (.ok (.amount (m.ledger.balance asset holder))) m
  /-- Money comes in. -/
  | minted {asset holder : Text} {amount : Int} {l : Ledger}
      (hl : m.ledger.mint asset holder amount = .ok l) :
      Effect custody key m now (.ledger (.mint asset holder amount)) (.ok .done)
        { m with ledger := l }
  /-- Money moves between two accounts, custody accounts or not. -/
  | moved {t : Transfer} {l : Ledger} (hl : m.ledger.transfer t = .ok l) :
      Effect custody key m now (.ledger (.transfer t)) (.ok .done)
        { m with ledger := l }
  /-- The scheme is begun. -/
  | founded {t : Terms} {s : Scheme} (hnone : m.schemes.get? key = none)
      (hs : t.opening now = .ok s)
      (hreport :
        [s.contributionAmount, s.roundDeadline].all isWritable = true) :
      Effect custody key m now (.scheme (.establish t)) (.ok (.scheme s))
        ⟨m.schemes.put key s, m.ledger,
          m.events ++ [.schemeInitialized s.admin s.members
          s.contributionAmount s.assetId s.roundDuration s.roundDeadline]⟩
  /-- A contribution that leaves another one missing. -/
  | paid {c : Text} {s : Scheme} {payer : s.Payer} {l : Ledger}
      (hs : m.schemes.get? key = some s) (haccept : s.accept c now = .ok payer)
      (hopen : s.paidMembers.length + 1 ≠ s.members.length)
      (hl : m.ledger.transfer (s.payment custody c) = .ok l)
      (hreport : [s.contributionAmount, s.currentRound].all isWritable = true) :
      Effect custody key m now (.scheme (.contribute (some c) c))
        (.ok (.state (s.pay c).state))
        ⟨m.schemes.put key (s.pay c), l, m.events ++ [s.receipt c]⟩
  /-- The contribution that was missing. -/
  | completed {c : Text} {s next : Scheme} {payer : s.Payer} {l l' : Ledger}
      (hs : m.schemes.get? key = some s) (haccept : s.accept c now = .ok payer)
      (hlast : s.paidMembers.length + 1 = s.members.length)
      (hnext : (s.pay c).advance now = .ok next)
      (hl : m.ledger.transfer (s.payment custody c) = .ok l)
      (hl' : l.transfer ((s.pay c).payout custody payer.members_ne_nil)
        = .ok l')
      (hreport : [s.contributionAmount, s.currentRound].all isWritable = true)
      (hreport' : [s.currentRound, (s.pay c).pot, next.roundDeadline].all
        isWritable = true) :
      Effect custody key m now (.scheme (.contribute (some c) c))
        (.ok (.state next.state))
        ⟨m.schemes.put key next, l',
          m.events ++ [s.receipt c, (s.pay c).completion payer.members_ne_nil]⟩
  /-- The contribution that was missing is paid, and the pot cannot be. -/
  | stranded {c : Text} {s next : Scheme} {payer : s.Payer}
      {l : Ledger} {f : Fault} (hs : m.schemes.get? key = some s)
      (haccept : s.accept c now = .ok payer)
      (hlast : s.paidMembers.length + 1 = s.members.length)
      (hnext : (s.pay c).advance now = .ok next)
      (hl : m.ledger.transfer (s.payment custody c) = .ok l)
      (hf : l.transfer ((s.pay c).payout custody payer.members_ne_nil)
        = .error f) :
      Effect custody key m now (.scheme (.contribute (some c) c))
        (.error (.fault f)) { m with ledger := l }
  /-- A round is closed after its deadline: what was paid in it stays in
  custody. -/
  | closed {s next : Scheme} (hs : m.schemes.get? key = some s)
      (hdue : s.roundDeadline < now)
      (hnext :
        ({ s with defaulters := Rotation.defaulters s.members s.paidMembers } :
        Scheme).advance now = .ok next)
      (hreport : [s.currentRound, now].all isWritable = true) :
      Effect custody key m now (.scheme (.closeRound (some s.admin)))
        (.ok (.closure ⟨s.currentRound,
          Rotation.defaulters s.members s.paidMembers, next.state⟩))
        ⟨m.schemes.put key next, m.ledger,
          m.events ++ [.roundClosed s.currentRound
            (Rotation.defaulters s.members s.paidMembers)]⟩

/-- What a step leaves behind that ends with a report that cannot be written. -/
inductive Lapse (custody key : Text) (m : Memory) (now : Int) :
    Step → Memory → Prop where
  /-- The scheme is begun, and nothing is told of it. -/
  | founded {t : Terms} {s : Scheme} (hnone : m.schemes.get? key = none)
      (hs : t.opening now = .ok s)
      (hreport :
        [s.contributionAmount, s.roundDeadline].all isWritable = false) :
      Lapse custody key m now (.scheme (.establish t))
        { m with schemes := m.schemes.put key s }
  /-- The contribution is paid, and not entered. -/
  | paid {c : Text} {s : Scheme} {payer : s.Payer} {l : Ledger}
      (hs : m.schemes.get? key = some s) (haccept : s.accept c now = .ok payer)
      (hl : m.ledger.transfer (s.payment custody c) = .ok l)
      (hreport :
        [s.contributionAmount, s.currentRound].all isWritable = false) :
      Lapse custody key m now (.scheme (.contribute (some c) c))
        { m with ledger := l }
  /-- The pot is paid out, and the round that it belongs to stays open. -/
  | paidOut {c : Text} {s next : Scheme} {payer : s.Payer} {l l' : Ledger}
      (hs : m.schemes.get? key = some s) (haccept : s.accept c now = .ok payer)
      (hlast : s.paidMembers.length + 1 = s.members.length)
      (hnext : (s.pay c).advance now = .ok next)
      (hl : m.ledger.transfer (s.payment custody c) = .ok l)
      (hl' : l.transfer ((s.pay c).payout custody payer.members_ne_nil)
        = .ok l')
      (hreport : [s.currentRound, (s.pay c).pot, next.roundDeadline].all
        isWritable = false) :
      Lapse custody key m now (.scheme (.contribute (some c) c))
        { m with ledger := l' }
  /-- The round is closed, and nothing is told of it. -/
  | closed {s next : Scheme} (hs : m.schemes.get? key = some s)
      (hdue : s.roundDeadline < now)
      (hnext :
        ({ s with defaulters := Rotation.defaulters s.members s.paidMembers } :
        Scheme).advance now = .ok next)
      (hreport : [s.currentRound, now].all isWritable = false) :
      Lapse custody key m now (.scheme (.closeRound (some s.admin)))
        { m with schemes := m.schemes.put key next }

-- ============================================================ one backend call

/-- What the ledger makes of a change is what is kept. -/
theorem keeping_ok {f : Ledger → Except Fault Ledger} {l : Ledger}
    (h : f m.ledger = .ok l) :
    keeping f m = .ok { m with ledger := l } := by
  unfold keeping
  rw [h]

theorem keeping_error {f : Ledger → Except Fault Ledger} {e : Fault}
    (h : f m.ledger = .error e) :
    keeping f m = .error (.fault e) := by
  unfold keeping
  rw [h]

theorem transfer_ok {t : Transfer} {l : Ledger}
    (hl : m.ledger.transfer t = .ok l) :
    backend.transfer t m = .ok () { m with ledger := l } :=
  Act.tryChange_ok (keeping_ok hl)

theorem transfer_error {t : Transfer} {f : Fault}
    (hf : m.ledger.transfer t = .error f) :
    backend.transfer t m = .error (.fault f) m :=
  Act.tryChange_error (keeping_error hf)

theorem mint_ok {asset holder : Text} {amount : Int} {l : Ledger}
    (hl : m.ledger.mint asset holder amount = .ok l) :
    backend.mint asset holder amount m = .ok () { m with ledger := l } :=
  Act.tryChange_ok (keeping_ok hl)

theorem mint_error {asset holder : Text} {amount : Int} {f : Fault}
    (hf : m.ledger.mint asset holder amount = .error f) :
    backend.mint asset holder amount m = .error (.fault f) m :=
  Act.tryChange_error
    (keeping_error (f := fun l => l.mint asset holder amount) hf)

/-- Events are told one after the other, at the end of the log. -/
theorem emit_all (es : List Event) (m : Memory) :
    es.forM (backend.emit key) m
      = .ok () { m with events := m.events ++ es } := by
  induction es generalizing m with
  | nil =>
      rw [List.append_nil]
      rfl
  | cons e es ih =>
      have hemit : backend.emit key e m
        = .ok () { m with events := m.events ++ [e] } := rfl
      show (backend.emit key e >>= fun _ => es.forM (backend.emit key)) m = _
      rw [Act.bind_ok hemit, ih]
      simp only [List.append_assoc, List.singleton_append]

-- ====================================================================== a plan

section Plans

variable {r : Remittance} {rs : List Remittance} {l : Ledger} {f : Failure}
  {m' : Memory}

/-- The transfers of a plan as the engine of the memory makes them. -/
def remitting (custody key : Text) (rs : List Remittance) : Act Memory Unit :=
  rs.forM (engine custody key).remit

/-- A transfer that is made and reported leaves the others to be made. -/
theorem remitting_cons (hl : m.ledger.transfer r.transfer = .ok l)
    (hreport : r.reported.all isWritable = true) :
    remitting custody key (r :: rs) m
      = remitting custody key rs { m with ledger := l } := by
  have hmade : (engine custody key).remit r m
      = .ok () { m with ledger := l } := by
    rw [Engine.remit_of_reported hreport]
    exact transfer_ok hl
  exact Act.bind_ok hmade _

/-- A transfer that cannot be made is the last one that is tried. -/
theorem remitting_error {f : Fault}
    (hf : m.ledger.transfer r.transfer = .error f) :
    remitting custody key (r :: rs) m = .error (.fault f) m :=
  Act.bind_error (Act.bind_error (transfer_error hf) _) _

/-- A transfer that is made and cannot be reported stays made. -/
theorem remitting_unreported (hl : m.ledger.transfer r.transfer = .ok l)
    (hreport : r.reported.all isWritable = false) :
    remitting custody key (r :: rs) m
      = .error .unspeakable { m with ledger := l } :=
  Act.bind_error (Engine.remit_of_unreported (transfer_ok hl) hreport) _

variable {α : Type} {p : Plan α}

/-- Up to its report a plan makes its transfers and keeps its record. -/
theorem carryOut_upto
    (ht : remitting custody key p.remittances m
      = .ok () { m with ledger := l }) :
    (engine custody key).carryOut p m
      = (do
        Act.report p.reported
        p.events.forM (backend.emit key)
        return p.answer : Act Memory α)
            ⟨m.schemes.put key p.record, l, m.events⟩ := by
  have hset : backend.set key p.record { m with ledger := l }
      = .ok () ⟨m.schemes.put key p.record, l, m.events⟩ := rfl
  exact (Act.bind_ok ht _).trans (Act.bind_ok hset _)

/-- A plan whose transfers are made and whose record can be reported is carried
out to its end. -/
theorem carryOut_ok
    (ht : remitting custody key p.remittances m = .ok () { m with ledger := l })
    (hreport : p.reportsRecord = true) : (engine custody key).carryOut p m
      = .ok p.answer ⟨m.schemes.put key p.record, l, m.events ++ p.events⟩ := by
  rw [carryOut_upto ht, Act.report_ok hreport]
  exact Act.bind_ok (emit_all p.events _) _

/-- What goes wrong with the transfers is where the plan ends. -/
theorem carryOut_error
    (ht : remitting custody key p.remittances m = .error f m') :
    (engine custody key).carryOut p m = .error f m' :=
  Act.bind_error ht _

/-- A record that cannot be reported stays, and nothing is told. -/
theorem carryOut_untold
    (ht : remitting custody key p.remittances m = .ok () { m with ledger := l })
    (hreport : p.reportsRecord = false) :
    (engine custody key).carryOut p m
      = .error .unspeakable ⟨m.schemes.put key p.record, l, m.events⟩ := by
  rw [carryOut_upto ht, Act.report_error hreport]
  rfl

end Plans

/-- A step on the scheme is what is ruled on the record under the key. -/
theorem step_scheme (custody key : Text) (m : Memory) (now : Int)
    (op : Operation) :
    m.step custody key now (.scheme op)
      = match op.ruling custody key now (m.schemes.get? key) with
        | .error f => (.error (.fault f), m)
        | .ok r => m.run ((engine custody key).follow r) := by
  have hperform :=
    (engine custody key).perform_eq m (m.schemes.get? key) rfl rfl now op
  have hcustody : (engine custody key).custody = custody := rfl
  have hkey : (engine custody key).key = key := rfl
  rw [hcustody, hkey] at hperform
  show m.run ((engine custody key).perform now op) = _
  unfold run
  rw [hperform]
  cases op.ruling custody key now (m.schemes.get? key) <;> rfl

variable {α : Type}

theorem run_ok {act : Act Memory α} {a : α} {m' : Memory}
    (h : act m = .ok a m') :
    m.run act = (.ok a, m') := by
  unfold run
  rw [h]

theorem run_error {act : Act Memory α} {f : Failure} {m' : Memory}
    (h : act m = .error f m') :
    m.run act = (.error f, m') := by
  unfold run
  rw [h]

-- =================================================================== all steps

section Steps

variable {op : Operation} {p : Plan Answer} {found : Option Scheme}
  {l l' : Ledger} {c : Text} {s next : Scheme} {payer : s.Payer}

/-- What is granted is carried out. -/
theorem step_of_granted (hfound : m.schemes.get? key = found)
    (h : op.Granted custody now found p) :
    m.step custody key now (.scheme op)
      = m.run ((engine custody key).carryOut p) := by
  rw [step_scheme, hfound, Operation.ruling_eq_act_iff.mpr h]
  rfl

/-- The payment that leaves another one missing. -/
theorem step_of_open (hs : m.schemes.get? key = some s)
    (haccept : s.accept c now = .ok payer)
    (hopen : s.paidMembers.length + 1 ≠ s.members.length)
    (hl : m.ledger.transfer (s.payment custody c) = .ok l)
    (hreport : [s.contributionAmount, s.currentRound].all isWritable = true) :
    m.step custody key now (.scheme (.contribute (some c) c))
      = (.ok (.state (s.pay c).state),
        ⟨m.schemes.put key (s.pay c), l, m.events ++ [s.receipt c]⟩) :=
  (step_of_granted hs (.pays haccept hopen)).trans
    (run_ok (carryOut_ok
      (remitting_cons (r := s.paymentReported custody c) hl hreport) rfl))

/-- The payment that was missing, paid and paid out. -/
theorem step_of_last (hs : m.schemes.get? key = some s)
    (haccept : s.accept c now = .ok payer)
    (hlast : s.paidMembers.length + 1 = s.members.length)
    (hnext : (s.pay c).advance now = .ok next)
    (hl : m.ledger.transfer (s.payment custody c) = .ok l)
    (hl' : l.transfer ((s.pay c).payout custody payer.members_ne_nil) = .ok l')
    (hreport : [s.contributionAmount, s.currentRound].all isWritable = true) :
    m.step custody key now (.scheme (.contribute (some c) c))
      = if [s.currentRound, (s.pay c).pot, next.roundDeadline].all isWritable
        = true then
          (.ok (.state next.state), ⟨m.schemes.put key next, l',
            m.events ++ [s.receipt c,
              (s.pay c).completion payer.members_ne_nil]⟩)
        else (.error .unspeakable, { m with ledger := l' }) := by
  have hstep : m.step custody key now (.scheme (.contribute (some c) c)) = _ :=
    step_of_granted hs (.completes haccept hlast hnext)
  have hpaid : remitting custody key [s.paymentReported custody c,
      (s.pay c).payoutReported custody payer.members_ne_nil next] m = _ :=
    remitting_cons hl hreport
  rw [hstep]
  by_cases hreport' : [s.currentRound, (s.pay c).pot, next.roundDeadline].all
    isWritable = true
  · rw [if_pos hreport']
    exact run_ok (carryOut_ok (hpaid.trans (remitting_cons hl' hreport')) rfl)
  · rw [if_neg hreport']
    exact run_error (carryOut_error
      (hpaid.trans (remitting_unreported hl' (Bool.eq_false_iff.mpr hreport'))))

end Steps

/-- A step has one of the effects, or it ends with a report that cannot be
written. -/
def Ends (custody key : Text) (m : Memory) (now : Int) (st : Step)
    (r : Except Failure Answer × Memory) : Prop :=
  Effect custody key m now st r.1 r.2
    ∨ r.1 = .error .unspeakable ∧ Lapse custody key m now st r.2

theorem Effect.ends {st : Step} {r : Except Failure Answer × Memory}
    {a : Except Failure Answer} {m' : Memory}
    (h : Effect custody key m now st a m') (hr : r = (a, m')) :
    Ends custody key m now st r := by
  subst hr
  exact Or.inl h

theorem Lapse.ends {st : Step} {r : Except Failure Answer × Memory}
    {m' : Memory} (h : Lapse custody key m now st m')
    (hr : r = (.error .unspeakable, m')) :
    Ends custody key m now st r := by
  subst hr
  exact Or.inr ⟨rfl, h⟩

/-- A contribution that is taken is paid, entered and told of, up to a transfer
or a report that fails. -/
theorem ends_of_accept {c : Text} {s : Scheme} {payer : s.Payer}
    (hs : m.schemes.get? key = some s) (haccept : s.accept c now = .ok payer) :
    Ends custody key m now (.scheme (.contribute (some c) c))
      (m.step custody key now (.scheme (.contribute (some c) c))) := by
  have hstep {p : Plan Answer}
      (h : (Operation.contribute (some c) c).Granted custody now (some s) p) :
      m.step custody key now (.scheme (.contribute (some c) c))
        = m.run ((engine custody key).carryOut p) := step_of_granted hs h
  cases hl : m.ledger.transfer (s.payment custody c) with
  | error f =>
      -- whether or not the contribution is the one that was missing
      by_cases hlast : s.paidMembers.length + 1 = s.members.length
      · obtain ⟨next, hnext⟩ := Scheme.advance_of_accept haccept hlast
        exact Effect.refused.ends
          ((hstep (.completes haccept hlast hnext)).trans
            (run_error (carryOut_error (remitting_error hl))))
      · exact Effect.refused.ends ((hstep (.pays haccept hlast)).trans
          (run_error (carryOut_error (remitting_error hl))))
  | ok l =>
    cases hreport : [s.contributionAmount, s.currentRound].all isWritable with
    | false =>
        refine (Lapse.paid hs haccept hl hreport).ends ?_
        by_cases hlast : s.paidMembers.length + 1 = s.members.length
        · obtain ⟨next, hnext⟩ := Scheme.advance_of_accept haccept hlast
          exact (hstep (.completes haccept hlast hnext)).trans
            (run_error (carryOut_error (remitting_unreported hl hreport)))
        · exact (hstep (.pays haccept hlast)).trans
            (run_error (carryOut_error (remitting_unreported hl hreport)))
    | true =>
      by_cases hlast : s.paidMembers.length + 1 = s.members.length
      case neg =>
        exact (Effect.paid hs haccept hlast hl hreport).ends
          (step_of_open hs haccept hlast hl hreport)
      obtain ⟨next, hnext⟩ := Scheme.advance_of_accept haccept hlast
      cases hl' : l.transfer
        ((s.pay c).payout custody payer.members_ne_nil) with
      | error f =>
          refine (Effect.stranded hs haccept hlast hnext hl hl').ends ?_
          refine (hstep (.completes haccept hlast hnext)).trans
            (run_error (carryOut_error ?_))
          exact (remitting_cons hl hreport).trans (remitting_error hl')
      | ok l' =>
          have hdone := step_of_last hs haccept hlast hnext hl hl' hreport
          split at hdone
          next hreport' =>
            exact (Effect.completed hs haccept hlast hnext hl hl' hreport
              hreport').ends hdone
          next hreport' =>
            exact (Lapse.paidOut hs haccept hlast hnext hl hl'
              (Bool.eq_false_iff.mpr hreport')).ends hdone

/-- A plan that is carried out up to its end, or up to a transfer or a report
that fails. -/
theorem ends_of_granted {op : Operation} {p : Plan Answer}
    {found : Option Scheme} (hfound : m.schemes.get? key = found)
    (h : op.Granted custody now found p) :
    Ends custody key m now (.scheme op)
      (m.step custody key now (.scheme op)) := by
  have hstep := step_of_granted hfound h
  cases h with
  | @founds t s hs =>
      cases hreport : [s.contributionAmount, s.roundDeadline].all
        isWritable with
      | true =>
          exact (Effect.founded hfound hs hreport).ends
            (hstep.trans (run_ok (carryOut_ok rfl hreport)))
      | false =>
          exact (Lapse.founded hfound hs hreport).ends
            (hstep.trans (run_error (carryOut_untold rfl hreport)))
  | pays haccept hopen => exact ends_of_accept hfound haccept
  | completes haccept hlast hnext => exact ends_of_accept hfound haccept
  | @closes s next hdue hnext =>
      cases hreport : [s.currentRound, now].all isWritable with
      | true =>
          exact (Effect.closed hfound hdue hnext hreport).ends
            (hstep.trans (run_ok (carryOut_ok rfl hreport)))
      | false =>
          exact (Lapse.closed hfound hdue hnext hreport).ends
            (hstep.trans (run_error (carryOut_untold rfl hreport)))

/-- An operation on the scheme is refused, answers a question, or carries out
what it is granted. -/
theorem ends_of_scheme (op : Operation) :
    Ends custody key m now (.scheme op)
      (m.step custody key now (.scheme op)) := by
  have hstep := step_scheme custody key m now op
  cases hr : op.ruling custody key now (m.schemes.get? key) with
  | error f =>
      rw [hr] at hstep
      exact Effect.refused.ends hstep
  | ok r =>
      rw [hr] at hstep
      cases r with
      | look a =>
          exact (Effect.looked (Operation.isReading_of_look hr) hr).ends hstep
      | act p => exact ends_of_granted rfl (Operation.ruling_eq_act_iff.mp hr)

theorem Effect.of_step {st : Step} {a : Except Failure Answer} {m' : Memory}
    (h : Effect custody key m now st a m')
    (hstep : m.step custody key now st = (a, m')) :
    Effect custody key m now st (m.step custody key now st).1
      (m.step custody key now st).2 := by
  rw [hstep]
  exact h

/-- Calls on the ledger are not reported, so none of them lapses. -/
theorem effect_of_ledger (call : LedgerCall) :
    Effect custody key m now (.ledger call)
      (m.step custody key now (.ledger call)).1
      (m.step custody key now (.ledger call)).2 := by
  cases call with
  | balance asset holder => exact .told
  | mint asset holder amount =>
      cases hl : m.ledger.mint asset holder amount with
      | error f =>
          exact Effect.refused.of_step
            (run_error (Act.bind_error (mint_error hl) _))
      | ok l =>
          exact (Effect.minted hl).of_step (run_ok (Act.bind_ok (mint_ok hl) _))
  | transfer t =>
      cases hl : m.ledger.transfer t with
      | error f =>
          exact Effect.refused.of_step
            (run_error (Act.bind_error (transfer_error hl) _))
      | ok l =>
          exact (Effect.moved hl).of_step
            (run_ok (Act.bind_ok (transfer_ok hl) _))

/-- Whatever a step comes to that is no change by hand, it is on one of the two
lists. -/
theorem effect_or_lapse (custody key : Text) (m : Memory)
    (now : Int) {st : Step} (hst : st.amends = false) :
    Ends custody key m now st (m.step custody key now st) := by
  cases st with
  | amend edit => cases hst
  | ledger call => exact Or.inl (effect_of_ledger call)
  | scheme op => exact ends_of_scheme op

/-- A step that succeeds has not lapsed. -/
theorem effect_of_ok (custody : Text) {st : Step} {a : Answer}
    (hst : st.amends = false) (h : (m.step custody key now st).1 = .ok a) :
    Effect custody key m now st (.ok a) (m.step custody key now st).2 := by
  rcases effect_or_lapse custody key m now hst with heffect | ⟨hfailed, -⟩
  · exact h ▸ heffect
  · rw [h] at hfailed
    cases hfailed

-- =================================================================== no lapses

/-- In a club in good standing a step that lapses at a reading not too far back
has paid out a pot that is too long to be written. -/
theorem Lapse.too_long {st : Step} {m' : Memory}
    (h : Lapse custody key m now st m')
    (hm : ∀ s, m.schemes.get? key = some s → s.Sound)
    (hnow : -(digitLimit : Int) < now) :
    ∃ (c : Text) (s : Scheme) (payer : s.Payer) (l l' : Ledger),
      st = .scheme (.contribute (some c) c) ∧ m.schemes.get? key = some s
        ∧ s.accept c now = .ok payer
          ∧ s.paidMembers.length + 1 = s.members.length
        ∧ m'.schemes = m.schemes
          ∧ m.ledger.transfer (s.payment custody c) = .ok l
        ∧ l.transfer ((s.pay c).payout custody payer.members_ne_nil) = .ok l'
        ∧ isWritable (s.pay c).pot = false := by
  cases h with
  | founded hnone hs hreport =>
      simp [(Scheme.sound_of_opening hs).isWritable_amount,
        Scheme.isWritable_of_opening hnow hs] at hreport
  | paid hs haccept hl hreport =>
      -- the amount and the round are of the record, and a sound record holds
      -- nothing too long
      simp [(hm _ hs).isWritable_amount, (hm _ hs).isWritable_round] at hreport
  | @paidOut c s next payer l l' hs haccept hlast hnext hl hl' hreport =>
      have hdeadline := Scheme.isWritable_of_advance (s := s.pay c)
        (hm _ hs).duration.1 hnow hnext
      have hpot : isWritable (s.pay c).pot = false := by
        simpa [(hm _ hs).isWritable_round, hdeadline] using hreport
      exact ⟨c, s, payer, l, l', rfl, hs, haccept, hlast, rfl, hl, hl', hpot⟩
  | @closed s next hs hdue hnext hreport =>
      -- the round that opens has a deadline, so the moment is not too late
      -- either
      have hduration := (hm _ hs).duration.1
      have hle : now + s.roundDuration ≤ maxTime :=
        (Scheme.advance_eq_ok hnext).2.1
      have hwritable : isWritable now = true :=
        isWritable_of_not_long hnow (by omega) maxTime_lt
      simp [(hm _ hs).isWritable_round, hwritable] at hreport

/-- In a club in good standing with no more members than a list can have, a step
at a reading that can be written has one of the effects. -/
theorem effect_of_step (custody : Text) {key : Text} {m : Memory}
    {now : Int} {st : Step} (hm : ∀ s, m.schemes.get? key = some s → s.Listed)
    (hst : st.amends = false) (hnow : isWritable now = true) :
    Effect custody key m now st (m.step custody key now st).1
      (m.step custody key now st).2 := by
  rcases effect_or_lapse custody key m now hst with heffect | ⟨-, hlapse⟩
  · exact heffect
  obtain ⟨c, s, -, -, -, -, hs, -, hlast, -, -, -, hpot⟩ :=
    hlapse.too_long (fun s hs => (hm s hs).sound) (neg_digitLimit_lt hnow)
  rw [Scheme.pot_pay_of_last hlast, (hm s hs).isWritable_pot] at hpot
  cases hpot

end SavingsClub.Memory
