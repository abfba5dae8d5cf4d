/-
What a step writes into the log, and the money behind it.

# Entries

`Scheme.Entry` lists the ways in which a record gives way to the next together
with what is told of each: nothing, a contribution, a contribution and the end
of the round that it completes, or an end by force. `Effect.entry` says that a
step adds one of these to the log, whatever the state of the ledger, so nothing
that is shown of logs has to look into an operation again.

# The money

Behind a contribution that is told there is its payment, behind a completed
round its payout, and behind the other events there is nothing:
`Event.transfer?`. In a solvent club an operation makes exactly the transfers
behind what it tells, in that order. Solvency is needed because a payment whose
round cannot be paid out would stand in the ledger and in no log.
-/
import SavingsClub.Proofs.Settlement
import SavingsClub.Proofs.Solvency

namespace SavingsClub

-- ===================================================================== entries

namespace Scheme

/-- What is told of a scheme that begins, with the deadline of its first
round. -/
def founded (s : Scheme) (deadline : Int) : Event :=
  .schemeInitialized s.admin s.members s.contributionAmount s.assetId
    s.roundDuration deadline

/-- How a record that is there gives way to the next at `now`, and what is told
of it. -/
inductive Entry (now : Int) (s : Scheme) : Scheme → List Event → Prop where
  | nothing : Entry now s s []
  | paid {contributor : Text} {payer : s.Payer}
      (haccept : s.accept contributor now = .ok payer)
      (hopen : s.paidMembers.length + 1 ≠ s.members.length) :
      Entry now s (s.pay contributor) [s.receipt contributor]
  | completed {contributor : Text} {payer : s.Payer} {next : Scheme}
      (haccept : s.accept contributor now = .ok payer)
      (hlast : s.paidMembers.length + 1 = s.members.length)
      (hnext : (s.pay contributor).advance now = .ok next) :
      Entry now s next
        [s.receipt contributor,
          (s.pay contributor).completion payer.members_ne_nil]
  | closed {next : Scheme} (hdue : s.roundDeadline < now)
      (hnext :
        ({ s with defaulters := Rotation.defaulters s.members s.paidMembers } :
        Scheme).advance now = .ok next) :
      Entry now s next
        [.roundClosed s.currentRound
          (Rotation.defaulters s.members s.paidMembers)]

variable {s next : Scheme} {now : Int} {told : List Event}

/-- What is told is told of a change of the record. -/
theorem Entry.progress (h : Entry now s next told) : s.Progress now next := by
  cases h with
  | nothing => exact .stays
  | paid haccept hopen => exact .pays haccept hopen
  | completed haccept hlast hnext => exact .completes haccept hlast hnext
  | closed hdue hnext => exact .closes hdue hnext

/-- The terms that were told when the scheme began are those of every later
record. -/
theorem Entry.founded (h : Entry now s next told) (deadline : Int) :
    next.founded deadline = s.founded deadline := by
  cases h with
  | nothing | paid => rfl
  | completed haccept hlast hnext | closed hdue hnext =>
      obtain ⟨-, -, rfl⟩ := advance_eq_ok hnext
      rfl

end Scheme

/-- The transfer behind an event. -/
def Event.transfer? (asset custody : Text) : Event → Option Transfer
  | .contributionReceived _ contributor amount =>
    some ⟨asset, contributor, custody, amount⟩
  | .roundCompleted _ recipient pot => some ⟨asset, custody, recipient, pot⟩
  | .schemeInitialized .. | .roundClosed .. => none

namespace Memory

variable {custody key : Text} {m m' : Memory} {now : Int} {st : Step}
  {a : Except Failure Answer} {s : Scheme}

/-- A step that is one of the scheme's own operations. -/
def Step.isOperation : Step → Bool
  | .scheme _ => true
  | .ledger _ | .amend _ => false

theorem Step.amends_of_isOperation (hst : st.isOperation = true) :
    st.amends = false := by
  cases st with
  | scheme op => rfl
  | ledger call => cases hst
  | amend edit => cases hst

/-- An operation is no transfer by hand. -/
theorem Step.not_debits_of_isOperation (hst : st.isOperation = true)
    (asset holder : Text) :
    ¬ st.Debits asset holder := by
  cases st with
  | scheme op => exact id
  | ledger call => cases hst
  | amend edit => cases hst

-- ==================================================================== one step

/-- A step adds an entry to the log and makes the change of the record that the
entry tells of. In a solvent club an operation makes the transfers behind the
entry, and no others; a step that is no operation tells nothing. -/
theorem Effect.entry (h : Effect custody key m now st a m')
    (hs : m.schemes.get? key = some s) :
    ∃ next told, m'.schemes.get? key = some next ∧ m'.events = m.events ++ told
      ∧ s.Entry now next told
      ∧ (Solvent custody key m → st.isOperation = true →
        m.ledger.transferAll
          (told.filterMap (Event.transfer? s.assetId custody))
          = .ok m'.ledger)
      ∧ (st.isOperation = false → told = []) := by
  have hsame : m.events = m.events ++ [] := (List.append_nil _).symm
  cases h with
  | refused | looked =>
      exact ⟨s, [], hs, hsame, .nothing, fun _ _ => rfl, fun _ => rfl⟩
  | told | minted | moved =>
      refine ⟨s, [], hs, hsame, .nothing, ?_, fun _ => rfl⟩
      intro hm hst
      cases hst
  | founded hnone =>
      rw [hnone] at hs
      cases hs
  | @paid c s' payer l hs' haccept hopen hl =>
      cases hs.symm.trans hs'
      refine ⟨_, _, Registry.get?_put_self .., rfl, .paid haccept hopen, ?_,
        fun hst => by cases hst⟩
      intro hm hst
      show m.ledger.transferAll [s.payment custody c] = .ok l
      rw [Ledger.transferAll_cons hl]
      rfl
  | @completed c s' next payer l l' hs' haccept hlast hnext hl hl' =>
      cases hs.symm.trans hs'
      refine ⟨_, _, Registry.get?_put_self .., rfl,
        .completed haccept hlast hnext, ?_, fun hst => by cases hst⟩
      intro hm hst
      show m.ledger.transferAll
        [s.payment custody c, (s.pay c).payout custody payer.members_ne_nil]
        = .ok l'
      rw [Ledger.transferAll_cons hl, Ledger.transferAll_cons hl']
      rfl
  | stranded hs' haccept hlast hnext hl hf =>
      -- a solvent club does not get here: it would have left money behind
      refine ⟨s, [], hs, hsame, .nothing, ?_, fun _ => rfl⟩
      intro hm hst
      rw [hm.eq_of_error (.stranded hs' haccept hlast hnext hl hf)]
      rfl
  | closed hs' hdue hnext =>
      cases hs.symm.trans hs'
      exact ⟨_, _, Registry.get?_put_self .., rfl, .closed hdue hnext,
        fun _ _ => rfl, fun hst => by cases hst⟩

/-- Where there is no record, a step founds the scheme and tells of it, or tells
nothing. Neither moves money. -/
theorem Effect.prologue (h : Effect custody key m now st a m')
    (hnone : m.schemes.get? key = none) :
    (m'.schemes.get? key = none ∧ m'.events = m.events
        ∧ (st.isOperation = true → m'.ledger = m.ledger))
      ∨ ∃ (t : Terms) (s : Scheme), t.opening now = .ok s
        ∧ m'.schemes.get? key = some s
        ∧ m'.events = m.events ++ [s.founded s.roundDeadline]
          ∧ m'.ledger = m.ledger := by
  cases h with
  | refused | looked | told => exact Or.inl ⟨hnone, rfl, fun _ => rfl⟩
  | minted | moved => exact Or.inl ⟨hnone, rfl, fun hst => by cases hst⟩
  | founded hnone' hs =>
      exact Or.inr ⟨_, _, hs, Registry.get?_put_self .., rfl, rfl⟩
  | paid hs | completed hs | stranded hs | closed hs =>
      rw [hnone] at hs
      cases hs

end Memory

end SavingsClub
