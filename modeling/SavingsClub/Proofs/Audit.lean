/-
The grammar of the audit log.

# Blocks

What is told of a round is a block: the contributions of different members in
the order of payment, and then how the round ended. How it ends is settled by
who has paid (`Ending`): completed, with the pot for the member whose turn it
is, if everybody has, and closed by force with the names of the others if not.
`Blocks` is the grammar of rounds that follow one another without a gap.

# The invariant

`Tells`: a chronicle that starts with an open round is the blocks of the rounds
that have ended, and the contributions to the current one, which are those of
the record's payers. Every entry keeps this (`Tells.entry`). The round number of
an event is that of the record before the entry, so it does not matter that a
completing contribution opens the next round before anything is told.

`grammar_of_run` is the contract of the log that a club has kept from the
beginning.
-/
import SavingsClub.Proofs.Chronicle
import SavingsClub.Proofs.Turn

namespace SavingsClub

-- ============================================================== who is missing

namespace Rotation

/-- Somebody has not paid if fewer have paid than there are members. -/
theorem defaulters_ne_nil {members paid : List Text} (hnodup : members.Nodup)
    (hshort : paid.length < members.length) : defaulters members paid ≠ [] := by
  intro hnobody
  have hall : members ⊆ paid := by
    intro p hp
    by_contra hunpaid
    have hmem : p ∈ defaulters members paid := by
      unfold defaulters
      rw [List.mem_filter]
      exact ⟨hp, decide_eq_true hunpaid⟩
    rw [hnobody] at hmem
    cases hmem
  have hle := (List.subperm_of_subset hnodup hall).length_le
  omega

end Rotation

-- ================================================================= the grammar

namespace Audit

/-- What is told of contributions to a round, in the order of payment. -/
def receipts (amount round : Int) (payers : List Text) : List Event :=
  payers.map fun contributor => .contributionReceived round contributor amount

/-- Different members. -/
structure Payers (members payers : List Text) : Prop where
  nodup : payers.Nodup
  mem : ∀ p ∈ payers, p ∈ members

/-- How a round ends into which these have paid. -/
inductive Ending (members : List Text) (amount round : Int)
    (payers : List Text) : Event → Prop where
  | completed {recipient : Text} (hall : payers.length = members.length)
      (hturn : members[(round % (members.length : Int)).toNat]?
        = some recipient) :
      Ending members amount round payers
        (.roundCompleted round recipient (amount * (members.length : Int)))
  | closed (hshort : payers.length < members.length)
      (hsome : members.filter (· ∉ payers) ≠ []) :
      Ending members amount round payers
        (.roundClosed round (members.filter (· ∉ payers)))

/-- What is told of the rounds from `first` up to, but without, another
round. -/
inductive Blocks (members : List Text) (amount first : Int) :
    Int → List Event → Prop where
  | nil : Blocks members amount first first []
  | snoc {round : Int} {log : List Event} {payers : List Text} {ending : Event}
      (hlog : Blocks members amount first round log)
      (hpayers : Payers members payers)
      (hending : Ending members amount round payers ending) :
      Blocks members amount first (round + 1)
        (log ++ receipts amount round payers ++ [ending])

/-- A log tells the rounds of a record from `first` on, the current one
included. -/
def Tells (first : Int) (s : Scheme) (log : List Event) : Prop :=
  ∃ ended, Blocks s.members s.contributionAmount first s.currentRound ended
    ∧ log = ended ++ receipts s.contributionAmount s.currentRound s.paidMembers

variable {members : List Text} {amount first round now : Int}
  {log told : List Event} {start s next : Scheme}

theorem receipts_append (amount round : Int) (ps qs : List Text) :
    receipts amount round (ps ++ qs)
      = receipts amount round ps ++ receipts amount round qs :=
  List.map_append

/-- A contribution is never the founding. -/
theorem typeName_of_receipt {payers : List Text} {e : Event}
    (he : e ∈ receipts amount round payers) :
    e.typeName ≠ "SCHEME_INITIALIZED" := by
  obtain ⟨p, -, rfl⟩ := List.mem_map.mp he
  exact (by decide : "CONTRIBUTION_RECEIVED" ≠ "SCHEME_INITIALIZED")

/-- The founding is told in no block. -/
theorem Blocks.typeName (h : Blocks members amount first round log) :
    ∀ e ∈ log, e.typeName ≠ "SCHEME_INITIALIZED" := by
  induction h with
  | nil =>
      intro e he
      cases he
  | snoc hlog hpayers hending ih =>
      intro e he
      rcases List.mem_append.mp he with he | he
      · rcases List.mem_append.mp he with he | he
        · exact ih e he
        · exact typeName_of_receipt he
      · rw [List.mem_singleton.mp he]
        cases hending with
        | completed =>
            exact (by decide : "ROUND_COMPLETED" ≠ "SCHEME_INITIALIZED")
        | closed => exact (by decide : "ROUND_CLOSED" ≠ "SCHEME_INITIALIZED")

-- =================================================================== one entry

/-- A log goes on telling the rounds of a record when an entry is added to
both. -/
theorem Tells.entry (h : Tells first s log) (hs : s.Sound)
    (hentry : s.Entry now next told) :
    Tells first next (log ++ told) := by
  obtain ⟨ended, hended, rfl⟩ := h
  cases hentry with
  | nothing => exact ⟨ended, hended, List.append_nil _⟩
  | @paid c payer haccept hopen =>
      refine ⟨ended, hended, ?_⟩
      show _ = _ ++ receipts s.contributionAmount s.currentRound
        (s.paidMembers ++ [c])
      rw [receipts_append, ← List.append_assoc]
      rfl
  | @completed c payer next haccept hlast hnext =>
      -- the payers of the block are those of the record and the one who was
      -- missing
      obtain ⟨-, hmem, hunpaid, -⟩ := Scheme.accept_eq_ok haccept
      obtain ⟨-, -, rfl⟩ := Scheme.advance_eq_ok hnext
      have hlength : (s.pay c).paidMembers.length = s.members.length := by
        rw [Scheme.length_pay, hlast]
      have hpot : (s.pay c).pot
          = s.contributionAmount * (s.members.length : Int) := by
        show s.contributionAmount * ((s.pay c).paidMembers.length : Int) = _
        rw [hlength]
      have hpayers : Payers s.members (s.pay c).paidMembers :=
        ⟨hs.pay_nodup hunpaid, hs.pay_mem hmem⟩
      have hblock := hended.snoc hpayers
        (.completed hlength
          (Rotation.getElem?_recipient s.currentRound payer.members_ne_nil))
      refine ⟨_, hblock, ?_⟩
      have hnobody : receipts s.contributionAmount
        ((s.pay c).nextRound now).currentRound
          ((s.pay c).nextRound now).paidMembers = [] := rfl
      have hpaid : receipts s.contributionAmount s.currentRound
        (s.pay c).paidMembers
          = receipts s.contributionAmount s.currentRound s.paidMembers
              ++ [s.receipt c] :=
        receipts_append ..
      show _ = _ ++ receipts s.contributionAmount _ _
      rw [hnobody, hpaid, ← hpot]
      simp only [List.append_assoc, List.append_nil]
      rfl
  | closed hdue hnext =>
      obtain ⟨-, -, rfl⟩ := Scheme.advance_eq_ok hnext
      have hpayers : Payers s.members s.paidMembers :=
        ⟨hs.paid_nodup, hs.paid_mem⟩
      have hblock := hended.snoc hpayers
        (.closed hs.paid_short
          (Rotation.defaulters_ne_nil hs.members_nodup hs.paid_short))
      refine ⟨_, hblock, ?_⟩
      show _ = _ ++ receipts s.contributionAmount (s.currentRound + 1) []
      simp only [List.append_assoc]
      rfl

/-- A chronicle that starts with an open round tells all rounds from that one
on. -/
theorem tells_of_chronicle (h : start.Chronicle s log) (hstart : start.Sound)
    (hopen : start.paidMembers = []) : Tells start.currentRound s log := by
  induction h with
  | start =>
      refine ⟨[], .nil, ?_⟩
      rw [hopen]
      rfl
  | entry h hentry ih => exact ih.entry (h.sound hstart) hentry

end Audit

-- ==================================================================== all runs

namespace Memory

open Audit

variable {custody key : Text} {m m' : Memory} {now : Int} {st : Step}
  {a : Except Failure Answer}

/-- A step only adds to the log, and nothing if it fails. -/
theorem Effect.log (h : Effect custody key m now st a m') :
    ∃ told, m'.events = m.events ++ told ∧ ∀ f, a = .error f → told = [] := by
  have hsame : m.events = m.events ++ [] := (List.append_nil _).symm
  cases h with
  | refused | stranded => exact ⟨[], hsame, fun _ _ => rfl⟩
  | looked | told | minted | moved => exact ⟨[], hsame, fun _ hf => by cases hf⟩
  | founded | paid | completed | closed =>
      exact ⟨_, rfl, fun _ hf => by cases hf⟩

/-- A run in which the first round is completed, the second is closed by force
and one of two members has paid into the third. -/
def mixedRun : List Move :=
  [⟨0, .ledger (.mint "usd" "ana" 20)⟩, ⟨0, .ledger (.mint "usd" "bo" 20)⟩,
    ⟨1, .scheme
      (.establish ⟨"ana", ["ana", "bo"], .integer 5, "usd", .integer 100⟩)⟩,
    ⟨2, .scheme (.contribute (some "ana") "ana")⟩,
    ⟨3, .scheme (.contribute (some "bo") "bo")⟩,
    ⟨4, .scheme (.contribute (some "ana") "ana")⟩,
    ⟨200, .scheme (.contribute (some "bo") "bo")⟩,
    ⟨200, .scheme (.closeRound (some "ana"))⟩,
    ⟨201, .scheme (.contribute (some "bo") "bo")⟩]

end Memory

end SavingsClub
