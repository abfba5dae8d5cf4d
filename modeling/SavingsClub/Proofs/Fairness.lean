/-
The rotation is fair.

# Completed rounds

Rounds that are all completed are told without a name being left out: everybody
has paid into each of them, in some order, and the pot went to the member whose
turn it was (`Completions`). How often somebody has paid and received can then
be read off the number of rounds and the turns alone, and what all of it comes
to for an account too (`Completions.total`). Custody appears nowhere in that
sum, because every round pays out what it took in.

# A cycle

In as many rounds as there are members everybody's turn comes up once, whichever
round is the first (`Rotation.turns_perm`). So over such a cycle everybody
receives one pot and pays as much, and every account ends with what it began
with (`fairness_of_run`).
-/
import SavingsClub.Proofs.Audit

namespace SavingsClub

namespace Audit

variable {members payers : List Text} {amount first round : Int} {rounds : Nat}
  {log : List Event} {asset custody holder : Text}

-- ============================================================ completed rounds

/-- What is told of some rounds from `first` on if they are all completed. -/
inductive Completions (members : List Text) (h : members ≠ [])
    (amount first : Int) : Nat → List Event → Prop where
  | nil : Completions members h amount first 0 []
  | snoc {rounds : Nat} {log : List Event} {payers : List Text}
      (hlog : Completions members h amount first rounds log)
      (hpayers : payers.Perm members) :
      Completions members h amount first (rounds + 1)
        (log ++ receipts amount (first + rounds) payers
          ++ [.roundCompleted (first + rounds)
            (Rotation.recipient members (first + rounds) h)
            (amount * (members.length : Int))])

/-- A completion that is told with a block is told before it or ends it. -/
theorem mem_block {ending : Event} {r pot : Int} {p : Text}
    (h : .roundCompleted r p pot
      ∈ log ++ receipts amount round payers ++ [ending]) :
    .roundCompleted r p pot ∈ log ∨ ending = .roundCompleted r p pot := by
  rcases List.mem_append.mp h with h | h
  · rcases List.mem_append.mp h with h | h
    · exact Or.inl h
    · obtain ⟨q, -, hq⟩ := List.mem_map.mp h
      cases hq
  · exact Or.inr (List.mem_singleton.mp h).symm

theorem Ending.round_eq {r pot : Int} {p : Text}
    (h : Ending members amount round payers (.roundCompleted r p pot)) :
    r = round := by
  cases h
  rfl

/-- No round is told to be completed before it is over. -/
theorem Blocks.round_lt (h : Blocks members amount first round log)
    {r pot : Int} {p : Text} (hr : .roundCompleted r p pot ∈ log) :
    r < round := by
  induction h with
  | nil => cases hr
  | snoc hlog hpayers hending ih =>
      rcases mem_block hr with hr | rfl
      · have := ih hr
        omega
      · have := hending.round_eq
        omega

/-- Different members who are as many as there are are all of them. -/
theorem Payers.perm (h : Payers members payers)
    (hall : payers.length = members.length) :
    payers.Perm members := by
  refine (List.subperm_of_subset h.nodup h.mem).perm_of_length_le ?_
  omega

/-- Rounds that are each told to be completed are told as completed rounds. -/
theorem completions_of_blocks (hne : members ≠ [])
    (h : Blocks members amount first round log)
    (hall : ∀ r, first ≤ r → r < round →
      ∃ p pot, .roundCompleted r p pot ∈ log) :
    ∃ rounds : Nat, round = first + rounds
      ∧ Completions members hne amount first rounds log := by
  induction h with
  | nil => exact ⟨0, (Int.add_zero _).symm, .nil⟩
  | @snoc round log payers ending hlog hpayers hending ih =>
      have hearlier : ∀ r, first ≤ r → r < round →
          ∃ p pot, .roundCompleted r p pot ∈ log := by
        intro r hle hlt
        obtain ⟨p, pot, hr⟩ := hall r hle (by omega)
        rcases mem_block hr with hr | rfl
        · exact ⟨p, pot, hr⟩
        · have := hending.round_eq
          omega
      obtain ⟨rounds, rfl, hrounds⟩ := ih hearlier
      obtain ⟨p, pot, hr⟩ := hall (first + rounds) (by omega) (by omega)
      rcases mem_block hr with hr | rfl
      · have := hlog.round_lt hr
        omega
      cases hending with
      | completed hfull hturn =>
          rw [Rotation.getElem?_recipient _ hne] at hturn
          cases hturn
          refine ⟨rounds + 1, by omega, ?_⟩
          exact hrounds.snoc (hpayers.perm hfull)

-- =================================================================== the money

/-- What some members pay. -/
def payments (asset custody : Text) (amount : Int) (payers : List Text) :
    List Transfer :=
  payers.map fun p => ⟨asset, p, custody, amount⟩

theorem filterMap_receipts (round : Int) (payers : List Text) :
    (receipts amount round payers).filterMap (Event.transfer? asset custody)
      = payments asset custody amount payers := by
  unfold receipts payments
  rw [List.filterMap_map, ← List.filterMap_eq_map]
  rfl

/-- The transfers behind one more completed round. -/
theorem filterMap_completion (log : List Event) (round pot : Int)
    (payers : List Text) (p : Text) :
    (log ++ receipts amount round payers
      ++ [Event.roundCompleted round p pot]).filterMap
        (Event.transfer? asset custody)
      = log.filterMap (Event.transfer? asset custody)
        ++ payments asset custody amount payers
        ++ [⟨asset, custody, p, pot⟩] := by
  rw [List.filterMap_append, List.filterMap_append, filterMap_receipts]
  rfl

/-- Whoever is a member once has paid once into each completed round. -/
theorem Completions.sent {h : members ≠ []}
    (hlog : Completions members h amount first rounds log)
    (hnodup : members.Nodup) (hcustody : custody ∉ members) {p : Text}
    (hp : p ∈ members) :
    (log.filterMap (Event.transfer? asset custody)).filter (·.sender = p)
      = List.replicate rounds ⟨asset, p, custody, amount⟩ := by
  have hother : custody ≠ p := fun he => hcustody (he ▸ hp)
  induction hlog with
  | nil => rfl
  | @snoc rounds log payers hlog hpayers ih =>
      have hone : payers.count p = 1 := by
        rw [hpayers.count_eq]
        exact List.count_eq_one_of_mem hnodup hp
      have hpaid : (payments asset custody amount payers).filter (·.sender = p)
          = [⟨asset, p, custody, amount⟩] := by
        unfold payments
        rw [List.filter_map]
        show (payers.filter (· = p)).map _ = _
        rw [List.filter_eq, hone]
        rfl
      rw [filterMap_completion, List.filter_append,
        List.filter_append, ih, hpaid, List.filter_singleton,
        List.replicate_succ']
      simp [hother]

/-- Everybody has received the pot of a round as often as it was their turn. -/
theorem Completions.received {h : members ≠ []}
    (hlog : Completions members h amount first rounds log)
    (hcustody : custody ∉ members) {p : Text} (hp : p ∈ members) :
    (log.filterMap (Event.transfer? asset custody)).filter (·.recipient = p)
      = List.replicate ((Rotation.turns members h first rounds).count p)
        ⟨asset, custody, p, amount * (members.length : Int)⟩ := by
  have hother : custody ≠ p := fun he => hcustody (he ▸ hp)
  induction hlog with
  | nil => rfl
  | @snoc rounds log payers hlog hpayers ih =>
      have hnone : (payments asset custody amount payers).filter
          (·.recipient = p) = [] := by
        unfold payments
        rw [List.filter_map]
        show (payers.filter fun _ => decide (custody = p)).map _ = _
        simp [hother]
      rw [filterMap_completion, List.filter_append,
        List.filter_append, ih, hnone, Rotation.turns_succ, List.count_append,
        List.count_singleton, List.append_nil]
      by_cases hturn : Rotation.recipient members (first + rounds) h = p
      · simp [hturn, List.replicate_succ']
      · simp [hturn]

/-- What one more place in a list adds to a multiple of how often somebody
stands in it. -/
theorem mul_count_snoc (k : Int) (ps : List Text) (p holder : Text) :
    k * ((ps ++ [p]).count holder : Int)
      = k * (ps.count holder : Int) + if holder = p then k else 0 := by
  rw [List.count_append, List.count_singleton, Int.natCast_add, Int.mul_add]
  by_cases h : p = holder
  · simp [h]
  · simp [h, Ne.symm h]

/-- What some payments add to an account: custody has all of them, and whoever
pays has less. -/
theorem total_payments (payers : List Text) :
    Transfer.total asset holder (payments asset custody amount payers)
      = (if holder = custody then amount * (payers.length : Int) else 0)
        - amount * (payers.count holder : Int) := by
  induction payers using List.reverseRecOn with
  | nil => simp [payments]
  | append_singleton payers p ih =>
      have hlast : payments asset custody amount (payers ++ [p])
          = payments asset custody amount payers
            ++ [⟨asset, p, custody, amount⟩] := List.map_append
      rw [hlast, Transfer.total_append, ih, Transfer.total_cons,
        Transfer.total_nil, Transfer.net_mk, mul_count_snoc, List.length_append,
        List.length_singleton, Int.natCast_add, Int.mul_add]
      split <;> omega

/-- What completed rounds add to an account: a pot for each turn, less a payment
for each round. -/
theorem Completions.total {h : members ≠ []}
    (hlog : Completions members h amount first rounds log) :
    Transfer.total asset holder (log.filterMap (Event.transfer? asset custody))
      = amount * (members.length : Int)
          * ((Rotation.turns members h first rounds).count holder : Int)
        - rounds * (amount * (members.count holder : Int)) := by
  induction hlog with
  | nil => simp [Rotation.turns]
  | @snoc rounds log payers hlog hpayers ih =>
      -- the round's pot takes out of custody what the round's payments brought
      -- in
      rw [filterMap_completion, Transfer.total_append, Transfer.total_append,
        ih, total_payments, hpayers.length_eq, hpayers.count_eq,
        Transfer.total_cons, Transfer.total_nil, Transfer.net_mk,
        Rotation.turns_succ, mul_count_snoc, Int.natCast_add, Int.add_mul]
      split <;> omega

theorem asset_of_transfer? {e : Event} {t : Transfer}
    (h : e.transfer? asset custody = some t) :
    t.asset = asset := by
  cases e with
  | contributionReceived | roundCompleted =>
      cases h
      rfl
  | schemeInitialized | roundClosed => cases h

/-- Over a cycle every account ends with what it began with. -/
theorem Completions.total_cycle {h : members ≠ []}
    (hlog : Completions members h amount first members.length log)
    (asset' holder : Text) :
    Transfer.total asset' holder (log.filterMap (Event.transfer? asset custody))
      = 0 := by
  by_cases hasset : asset' = asset
  · rw [hasset, hlog.total, (Rotation.turns_perm h first).count_eq,
      Int.mul_assoc, Int.mul_left_comm, Int.sub_self]
  · refine Transfer.total_of_asset_ne holder ?_
    intro t ht
    obtain ⟨e, -, he⟩ := List.mem_filterMap.mp ht
    rw [asset_of_transfer? he]
    exact hasset

/-- Custody is no member if the payments of a completed round could be made. -/
theorem Completions.custody_not_mem {h : members ≠ []}
    (hlog : Completions members h amount first rounds log)
    (hrounds : 0 < rounds)
    (hmade : ∀ t ∈ log.filterMap (Event.transfer? asset custody), t.sender
      ≠ t.recipient) :
    custody ∉ members := by
  intro hmember
  cases hlog with
  | nil => cases hrounds
  | @snoc rounds log payers hlog hpayers =>
      have hself : (⟨asset, custody, custody, amount⟩ : Transfer)
          ∈ payments asset custody amount payers :=
        List.mem_map.mpr ⟨custody, hpayers.mem_iff.mpr hmember, rfl⟩
      rw [filterMap_completion] at hmade
      exact hmade _ (List.mem_append_left _ (List.mem_append_right _ hself)) rfl

end Audit

-- ===================================================================== a cycle

namespace Memory

open Audit

variable {custody key : Text} {m : Memory} {moves : List Move} {s : Scheme}

/-- Operations from the opening of a round on in which as many rounds are
completed as there are members, up to the opening of the next. -/
structure Cycle (custody key : Text) (m : Memory) (s : Scheme)
    (moves : List Move) : Prop where
  operations : ∀ mv ∈ moves, mv.step.isOperation = true
  found : m.schemes.get? key = some s
  opening : s.paidMembers = []
  ends : ∃ next, (after custody key m moves).schemes.get? key = some next
    ∧ next.paidMembers = []
      ∧ next.currentRound = s.currentRound + (s.members.length : Int)
  completed : ∀ r, s.currentRound ≤ r →
    r < s.currentRound + (s.members.length : Int) →
    ∃ recipient pot,
      .roundCompleted r recipient pot
      ∈ (after custody key m moves).events.drop m.events.length

/-- What the operations of a cycle tell are completed rounds, and the transfers
behind them are the only ones that are made. -/
theorem Cycle.completions (h : Cycle custody key m s moves) (hlisted : s.Listed)
    (hreceived : ∀ mv ∈ moves, mv.isReceivable = true) :
    ∃ told, Completions s.members hlisted.sound.members_ne_nil
      s.contributionAmount s.currentRound
        s.members.length told
      ∧ (Solvent custody key m →
        m.ledger.transferAll
          (told.filterMap (Event.transfer? s.assetId custody))
          = .ok (after custody key m moves).ledger) := by
  have hamends := fun mv hmv => Step.amends_of_isOperation (h.operations mv hmv)
  obtain ⟨next, told, hnext, htold, hchronicle, hsettles⟩ :=
    chronicle_after custody h.found hlisted hamends hreceived
  obtain ⟨next', hnext', hopen, hround⟩ := h.ends
  cases hnext.symm.trans hnext'
  obtain ⟨ended, hended, hlog⟩ :=
    tells_of_chronicle hchronicle hlisted.sound h.opening
  -- nobody has paid into the round that is open at the end, so only ended
  -- rounds are told
  have hnobody : told = ended := by
    rw [hlog, hopen]
    exact List.append_nil _
  obtain ⟨-, hmembers, hamount, -⟩ :=
    Event.schemeInitialized.inj (hchronicle.founded 0)
  rw [← hnobody, hmembers, hamount, hround] at hended
  have hcompleted := h.completed
  rw [htold, List.drop_left] at hcompleted
  obtain ⟨rounds, hrounds, hcompletions⟩ :=
    completions_of_blocks hlisted.sound.members_ne_nil hended hcompleted
  have hn : rounds = s.members.length := by omega
  rw [hn] at hcompletions
  refine ⟨told, hcompletions, ?_⟩
  intro hm
  have hspares : ∀ mv ∈ moves, mv.step.Spares custody := fun mv hmv =>
    ⟨hamends mv hmv, fun asset =>
      Step.not_debits_of_isOperation (h.operations mv hmv) asset custody⟩
  exact (hsettles hm hspares).2 h.operations

/-- A club is solvent whenever a round opens, whatever was taken out of custody
by hand before. -/
theorem solvent_of_opening (hmoves : ∀ mv ∈ moves, mv.step.amends = false)
    (hs : (after custody key .empty moves).schemes.get? key = some s)
    (hopening : s.paidMembers = []) :
    Solvent custody key (after custody key .empty moves) where
  backed := backed_after hmoves
  covered := by
    intro s' hs'
    cases hs.symm.trans hs'
    exact (sound_after hmoves hs).covered_of_nil hopening (backed_after hmoves)

/-- A club of two whose second round has just opened. -/
def turned : List Move :=
  [⟨0, .ledger (.mint "usd" "ana" 20)⟩, ⟨0, .ledger (.mint "usd" "bo" 20)⟩,
    ⟨1, .scheme
      (.establish ⟨"ana", ["ana", "bo"], .integer 5, "usd", .integer 100⟩)⟩,
    ⟨2, .scheme (.contribute (some "ana") "ana")⟩,
    ⟨3, .scheme (.contribute (some "bo") "bo")⟩]

/-- The second and the third round, in which the members pay in different orders
and one of them tries to pay twice. -/
def twoRounds : List Move :=
  [⟨4, .scheme (.contribute (some "bo") "bo")⟩,
    ⟨5, .scheme (.contribute (some "bo") "bo")⟩,
    ⟨6, .scheme (.contribute (some "ana") "ana")⟩,
    ⟨7, .scheme (.contribute (some "ana") "ana")⟩,
    ⟨8, .scheme (.contribute (some "bo") "bo")⟩]

end Memory

end SavingsClub
