/-
The log of a run as a chain of entries.

# Chronicles

A chronicle leads from one record to a later one, entry by entry, and is
everything that is told on the way (`Scheme.Chronicle`). `chronicle_after` and
`chronicle_of_founding` are the two inductions behind everything that is said of
logs: what a run adds to the log is a chronicle of the record, from the moment
at which there is one. What a chronicle tells is then a matter of its entries,
and no more of steps, moves or money.

# The transfers of the operations

`ownTransfers` are the transfers that stand in the ledger because an operation
made them, whatever was transferred by hand in between. In a solvent club they
are those behind the chronicle, and if nothing else moves money, they lead from
the one ledger to the other.
-/
import SavingsClub.Proofs.Entry

namespace SavingsClub

-- ================================================================== chronicles

namespace Scheme

/-- What is told while a record goes on, entry by entry, from `start`. -/
inductive Chronicle (start : Scheme) : Scheme → List Event → Prop where
  | start : Chronicle start start []
  | entry {s next : Scheme} {now : Int} {log told : List Event}
      (h : Chronicle start s log) (hentry : s.Entry now next told) :
      Chronicle start next (log ++ told)

variable {start s next : Scheme} {now : Int} {log told : List Event}

/-- An entry may also come first. -/
theorem Entry.chronicle (hentry : s.Entry now next told)
    (h : next.Chronicle start log) :
    s.Chronicle start (told ++ log) := by
  induction h with
  | start =>
      rw [List.append_nil]
      exact Chronicle.start.entry hentry
  | entry h hentry' ih =>
      rw [← List.append_assoc]
      exact ih.entry hentry'

theorem Chronicle.sound (h : start.Chronicle s log) (hstart : start.Sound) :
    s.Sound := by
  induction h with
  | start => exact hstart
  | entry h hentry ih => exact ih.progress hentry.progress

/-- The terms do not change. -/
theorem Chronicle.founded (h : start.Chronicle s log) (deadline : Int) :
    s.founded deadline = start.founded deadline := by
  induction h with
  | start => rfl
  | entry h hentry ih => exact (hentry.founded deadline).trans ih

theorem Entry.assetId (h : s.Entry now next told) :
    next.assetId = s.assetId := by
  obtain ⟨-, -, -, hasset, -⟩ := Event.schemeInitialized.inj (h.founded 0)
  exact hasset

end Scheme

-- ======================================================================== runs

namespace Memory

variable {custody key : Text} {m m' : Memory} {now : Int} {st : Step}
  {a : Except Failure Answer} {moves : List Move} {s : Scheme}

/-- The transfers that stand in the ledger because a step was an operation. -/
def Step.ownTransfers (m m' : Memory) (st : Step) : List Transfer :=
  if st.isOperation then m'.ledger.transfers.drop m.ledger.transfers.length
  else []

/-- The transfers that the scheme's operations made during some moves. -/
def ownTransfers (custody key : Text) : Memory → List Move → List Transfer :=
  notes custody key fun m mv =>
    mv.step.ownTransfers m (m.step custody key mv.now mv.step).2

theorem ownTransfers_cons {mv : Move} :
    ownTransfers custody key m (mv :: moves)
      = mv.step.ownTransfers m (m.step custody key mv.now mv.step).2
        ++ ownTransfers custody key (m.step custody key mv.now mv.step).2
          moves := rfl

theorem Step.ownTransfers_of_ledger_eq
    (hledger : st.isOperation = true → m'.ledger = m.ledger) :
    st.ownTransfers m m' = [] := by
  unfold ownTransfers
  split
  case isTrue hst => rw [hledger hst, List.drop_length]
  case isFalse => rfl

theorem Step.ownTransfers_of_transferAll {ts : List Transfer}
    (hop : st.isOperation = true → m.ledger.transferAll ts = .ok m'.ledger)
    (hnone : st.isOperation = false → ts = []) : st.ownTransfers m m' = ts := by
  unfold ownTransfers
  cases hst : st.isOperation with
  | false => exact (hnone hst).symm
  | true =>
      rw [if_pos rfl, Ledger.transfers_of_transferAll (hop hst), List.drop_left]

/-- What a run adds to the log of a record is a chronicle. In a solvent club the
operations make the transfers behind it; where there are only operations, these
lead to the ledger at the end. -/
theorem chronicle_after (custody : Text) (hs : m.schemes.get? key = some s)
    (hlisted : s.Listed) (hmoves : ∀ mv ∈ moves, mv.step.amends = false)
    (hreceived : ∀ mv ∈ moves, mv.isReceivable = true) :
    ∃ next told, (after custody key m moves).schemes.get? key = some next
      ∧ (after custody key m moves).events = m.events ++ told
        ∧ s.Chronicle next told
      ∧ (Solvent custody key m → (∀ mv ∈ moves, mv.step.Spares custody) →
        ownTransfers custody key m moves
          = told.filterMap (Event.transfer? s.assetId custody)
          ∧ ((∀ mv ∈ moves, mv.step.isOperation = true) →
            m.ledger.transferAll
              (told.filterMap (Event.transfer? s.assetId custody))
              = .ok (after custody key m moves).ledger)) := by
  induction moves generalizing m s with
  | nil =>
      exact ⟨s, [], hs, (List.append_nil _).symm, .start,
        fun _ _ => ⟨rfl, fun _ => rfl⟩⟩
  | cons mv moves ih =>
      have hmem := List.mem_cons_self (a := mv) (l := moves)
      have heffect := effect_of_step custody (listed_of_found hs hlisted)
        (hmoves mv hmem) (Move.isWritable_now (hreceived mv hmem))
      obtain ⟨s₁, told₁, hs₁, htold₁, hentry, hsettles, hsilent⟩ :=
        heffect.entry hs
      obtain ⟨next, told, hnext, htold, hchronicle, hown⟩ :=
        ih hs₁ (hlisted.progress hentry.progress)
          (fun mv' hmv' => hmoves mv' (List.mem_cons_of_mem mv hmv'))
          (fun mv' hmv' => hreceived mv' (List.mem_cons_of_mem mv hmv'))
      refine ⟨next, told₁ ++ told, hnext, ?_, hentry.chronicle hchronicle, ?_⟩
      · rw [after_cons, htold, htold₁, List.append_assoc]
      intro hm hspares
      have hm₁ := heffect.solvent hm fun s₀ _ => (hspares mv hmem).2 s₀.assetId
      obtain ⟨hown, hledger⟩ := hown hm₁ fun mv' hmv' =>
        hspares mv' (List.mem_cons_of_mem mv hmv')
      rw [hentry.assetId] at hown hledger
      rw [List.filterMap_append]
      refine ⟨?_, ?_⟩
      · rw [ownTransfers_cons, hown,
          Step.ownTransfers_of_transferAll (hsettles hm)]
        intro hst
        rw [hsilent hst]
        rfl
      · intro hops
        exact Ledger.transferAll_append (hsettles hm (hops mv hmem))
          (hledger fun mv' hmv' => hops mv' (List.mem_cons_of_mem mv hmv'))

/-- What a run adds to the log where there is no record is nothing, or a
founding and the chronicle of what was founded. -/
theorem chronicle_of_founding (hnone : m.schemes.get? key = none)
    (hmoves : ∀ mv ∈ moves, mv.step.amends = false)
    (hreceived : ∀ mv ∈ moves, mv.isReceivable = true) :
    ((after custody key m moves).schemes.get? key = none
        ∧ (after custody key m moves).events = m.events
          ∧ ownTransfers custody key m moves = [])
      ∨ ∃ mv ∈ moves, ∃ (t : Terms) (s next : Scheme) (told : List Event),
        t.opening mv.now = .ok s
          ∧ (after custody key m moves).schemes.get? key = some next
          ∧ (after custody key m moves).events
            = m.events ++ s.founded s.roundDeadline :: told
          ∧ s.Chronicle next told
          ∧ (Solvent custody key m → (∀ mv ∈ moves, mv.step.Spares custody) →
            ownTransfers custody key m moves
              = told.filterMap (Event.transfer? s.assetId custody)) := by
  induction moves generalizing m with
  | nil => exact Or.inl ⟨hnone, rfl, rfl⟩
  | cons mv moves ih =>
      have hmem := List.mem_cons_self (a := mv) (l := moves)
      have hrest := fun mv' hmv' => hmoves mv' (List.mem_cons_of_mem mv hmv')
      have hlater := fun mv' hmv' =>
        hreceived mv' (List.mem_cons_of_mem mv hmv')
      have hreceivable := hreceived mv hmem
      have hnothing : ∀ s, m.schemes.get? key = some s → s.Listed :=
          fun s hs => by
        rw [hnone] at hs
        cases hs
      have heffect := effect_of_step custody hnothing (hmoves mv hmem)
        (Move.isWritable_now hreceivable)
      rcases heffect.prologue hnone with
        ⟨hstill, hsame, hledger⟩ | ⟨t, s, hs, hs₁, htold₁, hledger⟩
      · have hown₁ := Step.ownTransfers_of_ledger_eq hledger
        rcases ih hstill hrest hlater with
          ⟨hend, hlog, hown⟩
            | ⟨mv', hmv', t, s, next, told, hs, hnext, htold, hchronicle, hown⟩
        · refine Or.inl ⟨hend, hlog.trans hsame, ?_⟩
          rw [ownTransfers_cons, hown₁, hown]
          rfl
        · refine Or.inr ⟨mv', List.mem_cons_of_mem mv hmv', t, s, next, told,
            hs, hnext, ?_, hchronicle, ?_⟩
          · rw [after_cons, htold, hsame]
          intro hm hspares
          have hm₁ := heffect.solvent hm fun s₀ _ =>
            (hspares mv hmem).2 s₀.assetId
          rw [ownTransfers_cons, hown₁, hown hm₁ fun mv' hmv' =>
            hspares mv' (List.mem_cons_of_mem mv hmv')]
          rfl
      · -- the founding: from here on the record is there
        have hown₁ : mv.step.ownTransfers m
            (m.step custody key mv.now mv.step).2 = [] :=
          Step.ownTransfers_of_ledger_eq fun _ => hledger
        obtain ⟨next, told, hnext, htold, hchronicle, hown⟩ :=
          chronicle_after custody hs₁
            (listed_of_step custody mv.now (hmoves mv hmem)
              (Move.isListed_step hreceivable) hnothing s hs₁) hrest hlater
        refine Or.inr ⟨mv, hmem, t, s, next, told, hs, hnext, ?_,
          hchronicle, ?_⟩
        · rw [after_cons, htold, htold₁, List.append_assoc]
          rfl
        intro hm hspares
        have hm₁ := heffect.solvent hm fun s₀ _ =>
          (hspares mv hmem).2 s₀.assetId
        obtain ⟨hown, -⟩ :=
          hown hm₁ fun mv' hmv' => hspares mv' (List.mem_cons_of_mem mv hmv')
        rw [ownTransfers_cons, hown₁, hown]
        rfl

end Memory

end SavingsClub
