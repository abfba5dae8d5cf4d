/-
What custody holds, to the last unit.

# The account

While nobody but the scheme moves money into or out of custody, what custody
holds above what it held when the scheme was founded is what has been paid into
the current round and what was paid into the rounds that were closed by force
(`heldBack`): `custody_of_run`. The equation is kept step by step
(`Effect.account`): a payment is on both sides, a payout takes from custody
exactly what the record forgets, and a closure by force moves the payments of
the round from the one sum to the other. That the payout is never refused is
where solvency comes in.

# What it says about rounds

`heldBack` only grows, so nothing is ever paid out of it. And it does not grow
while a round lasts, so a round that is completed leaves custody with what it
had when the round opened.
-/
import SavingsClub.Proofs.Solvency

namespace SavingsClub.Memory

-- =========================================================== what is held back

/-- Whose contributions a step leaves in custody for good. -/
def Step.holdsBack (found : Option Scheme) :
    Step → Except Failure Answer → List Text
  | .scheme (.closeRound _), .ok _ => (found.map Scheme.paidMembers).getD []
  | _, _ => []

/-- How many contributions were paid, during some moves, into rounds that were
then closed by force. -/
def heldBack (custody key : Text) (m : Memory) (moves : List Move) : Nat :=
  (notes custody key (fun m mv => mv.step.holdsBack (m.schemes.get? key)
    (m.step custody key mv.now mv.step).1) m moves).length

/-- A step that leaves custody to the scheme. -/
def Step.Avoids (custody asset : Text) (st : Step) : Prop :=
  st.amends = false ∧ ¬ st.Credits asset custody ∧ ¬ st.Debits asset custody

instance (custody asset : Text) (st : Step) :
    Decidable (st.Avoids custody asset) :=
  inferInstanceAs (Decidable (_ ∧ _ ∧ _))

variable {custody key : Text} {m m' : Memory} {now : Int} {st : Step}
  {a : Except Failure Answer} {moves rest : List Move} {s next : Scheme}

theorem Step.holdsBack_error (found : Option Scheme) (st : Step) (f : Failure) :
    st.holdsBack found (.error f) = [] := by
  unfold holdsBack
  split
  · next h => cases h
  · rfl

theorem Step.holdsBack_of_isReading {op : Operation} (hop : op.isReading = true)
    (found : Option Scheme) (a : Except Failure Answer) :
    (Step.scheme op).holdsBack found a = [] := by
  cases op with
  | closeRound caller => cases hop
  | establish t | contribute caller c | getState | getScheme | getDefaulters =>
      rfl

-- ==================================================================== one step

/-- The account of custody before and after a step: what is there beyond the pot
changes by what is held back, and only when the round does. -/
structure Accounts (custody : Text) (m m' : Memory) (s next : Scheme)
    (held : Nat) : Prop where
  asset : next.assetId = s.assetId
  amount : next.contributionAmount = s.contributionAmount
  round : next.currentRound = s.currentRound ∧ held = 0
    ∨ s.currentRound < next.currentRound
  balance : m'.ledger.balance s.assetId custody - next.pot
    = m.ledger.balance s.assetId custody - s.pot + s.contributionAmount * held

theorem Accounts.same (hbalance : m'.ledger.balance s.assetId custody
    = m.ledger.balance s.assetId custody) : Accounts custody m m' s s 0 where
  asset := rfl
  amount := rfl
  round := Or.inl ⟨rfl, rfl⟩
  balance := by
    rw [hbalance]
    show _ = _ + s.contributionAmount * 0
    omega

/-- Every step of a solvent club keeps the account of custody. -/
theorem Effect.account (h : Effect custody key m now st a m')
    (hm : Solvent custody key m) (hs : m.schemes.get? key = some s)
    (hst : st.Avoids custody s.assetId) :
    ∃ next, m'.schemes.get? key = some next
      ∧ Accounts custody m m' s
        next (st.holdsBack (m.schemes.get? key) a).length := by
  obtain ⟨-, hcredit, hdebit⟩ := hst
  cases h with
  | refused =>
      rw [Step.holdsBack_error]
      exact ⟨s, hs, .same rfl⟩
  | looked hop ha =>
      rw [Step.holdsBack_of_isReading hop]
      exact ⟨s, hs, .same rfl⟩
  | told => exact ⟨s, hs, .same rfl⟩
  | @minted asset holder amount l hl =>
      refine ⟨s, hs, .same ?_⟩
      show l.balance _ _ = _
      rw [Ledger.balance_of_mint hl,
        if_neg fun h => hcredit ⟨h.1.symm, h.2.symm⟩, Int.add_zero]
  | @moved t l hl =>
      refine ⟨s, hs, .same ?_⟩
      show l.balance _ _ = _
      rw [Ledger.balance_of_transfer hl,
        if_neg fun h => hdebit ⟨h.1.symm, h.2.symm⟩,
        if_neg fun h => hcredit ⟨h.1.symm, h.2.symm⟩]
      omega
  | founded hnone =>
      rw [hnone] at hs
      cases hs
  | @paid c s' payer l hs' haccept hopen hl =>
      -- the payment is in custody and in the pot
      cases hs.symm.trans hs'
      refine ⟨s.pay c, Registry.get?_put_self .., rfl, rfl,
        Or.inl ⟨rfl, rfl⟩, ?_⟩
      have hbalance := Scheme.balance_of_payment hl
      show l.balance _ _ - _ = _ + s.contributionAmount * 0
      rw [hbalance, Scheme.pot_pay]
      omega
  | @completed c s' next payer l l' hs' haccept hlast hnext hl hl' =>
      -- custody pays out exactly the pot that the record forgets
      cases hs.symm.trans hs'
      obtain ⟨-, -, rfl⟩ := Scheme.advance_eq_ok hnext
      refine ⟨_, Registry.get?_put_self .., rfl, rfl,
        Or.inr (Int.lt_succ _), ?_⟩
      have hbalance := Scheme.balance_of_payment hl
      have hbalance' : l'.balance s.assetId custody = _ :=
        Scheme.balance_of_payout (s := s.pay c) hl'
      have hpot : ((s.pay c).nextRound now).pot = 0 := Scheme.pot_of_nil rfl
      show l'.balance _ _ - _ = _ + s.contributionAmount * 0
      rw [hbalance', hpot, Scheme.pot_pay]
      show l.balance s.assetId custody - _ - _ = _
      rw [hbalance]
      omega
  | stranded hs' haccept hlast hnext hl hf =>
      rw [hm.eq_of_error (.stranded hs' haccept hlast hnext hl hf),
        Step.holdsBack_error]
      exact ⟨s, hs, .same rfl⟩
  | closed hs' hdue hnext =>
      -- no money moves, but the pot of the round is now held back
      cases hs.symm.trans hs'
      obtain ⟨-, -, rfl⟩ := Scheme.advance_eq_ok hnext
      refine ⟨_, Registry.get?_put_self .., rfl, rfl,
        Or.inr (Int.lt_succ _), ?_⟩
      rw [hs]
      show m.ledger.balance _ _ - Scheme.pot _
        = _ + s.contributionAmount * (s.paidMembers.length : Int)
      rw [Scheme.pot_of_nil rfl]
      show _ = _ - s.pot + s.pot
      omega

-- ==================================================================== all runs

theorem Accounts.trans {m'' : Memory} {s' : Scheme} {held held' : Nat}
    (h : Accounts custody m m' s s' held)
    (h' : Accounts custody m' m'' s' next held') :
    Accounts custody m m'' s next (held + held') where
  asset := h'.asset.trans h.asset
  amount := h'.amount.trans h.amount
  round := by
    rcases h.round with ⟨hround, hheld⟩ | hround <;>
      rcases h'.round with ⟨hround', hheld'⟩ | hround' <;> omega
  balance := by
    have hold := h.balance
    have hnew := h'.balance
    rw [h.asset, h.amount] at hnew
    rw [hnew, hold, Int.natCast_add, Int.mul_add]
    omega

/-- A run that leaves custody to the scheme keeps the account of custody. -/
theorem account_of_run (hm : Solvent custody key m)
    (hs : m.schemes.get? key = some s) (hlisted : s.Listed)
    (hmoves : ∀ mv ∈ moves, mv.step.Avoids custody s.assetId
      ∧ mv.isReceivable = true) :
    Solvent custody key (after custody key m moves)
      ∧ ∃ next, (after custody key m moves).schemes.get? key = some next
        ∧ Accounts custody m (after custody key m moves) s next
          (heldBack custody key m moves) := by
  induction moves generalizing m s with
  | nil => exact ⟨hm, s, hs, .same rfl⟩
  | cons mv moves ih =>
      obtain ⟨havoids, hreceived⟩ := hmoves mv (List.mem_cons_self ..)
      have hfound := listed_of_found hs hlisted
      have heffect :=
        effect_of_step custody hfound havoids.1 (Move.isWritable_now hreceived)
      obtain ⟨s', hs', haccounts⟩ := heffect.account hm hs havoids
      have hm' := heffect.solvent hm fun s₀ hs₀ => by
        cases hs.symm.trans hs₀
        exact havoids.2.2
      have hlisted' := listed_of_step custody mv.now havoids.1
        (Move.isListed_step hreceived) hfound s' hs'
      obtain ⟨hend, next, hnext, haccounts'⟩ :=
          ih hm' hs' hlisted' fun mv' hmv' => by
        rw [haccounts.asset]
        exact hmoves mv' (List.mem_cons_of_mem mv hmv')
      rw [heldBack, notes_cons, List.length_append]
      exact ⟨hend, next, hnext, haccounts.trans haccounts'⟩

/-- A step that opens a round by a contribution leaves in custody what was there
before anybody had paid into the round that it completes. -/
theorem account_of_completion (hm : Solvent custody key m)
    (hs : m.schemes.get? key = some s) {caller : Option Text} {c : Text}
    (hnext : (m.step custody key now
      (.scheme (.contribute caller c))).2.schemes.get? key
      = some next) (hround : next.currentRound ≠ s.currentRound) :
    (m.step custody key now (.scheme (.contribute caller c))).2.ledger.balance
    s.assetId custody
      = m.ledger.balance s.assetId custody - s.pot := by
  have hst : (Step.scheme (.contribute caller c)).Avoids custody s.assetId :=
    ⟨rfl, id, id⟩
  have hends := effect_or_lapse custody key m now hst.1
  generalize m.step custody key now (.scheme (.contribute caller c))
    = r at hnext hends ⊢
  obtain ⟨a, m'⟩ := r
  rcases hends with heffect | ⟨-, hlapse⟩
  case inr =>
    -- a contribution that lapses opens no round
    exfalso
    cases hlapse with
    | paid | paidOut =>
        cases hs.symm.trans hnext
        exact hround rfl
  obtain ⟨next', hnext', haccounts⟩ := heffect.account hm hs hst
  obtain ⟨next'', hnext'', hprogress⟩ := heffect.progress hs
  cases hnext.symm.trans hnext'
  cases hnext.symm.trans hnext''
  rcases hprogress.currentRound with hsame | ⟨-, hpaid⟩
  · exact absurd hsame hround
  · have hbalance := haccounts.balance
    rw [Scheme.pot_of_nil hpaid] at hbalance
    have hheld : (Step.scheme (.contribute caller c)).holdsBack
        (m.schemes.get? key) a = [] := by
      cases a <;> rfl
    rw [hheld] at hbalance
    have hzero : s.contributionAmount * (([] : List Text).length : Int) = 0 :=
      Int.mul_zero _
    omega

/-- A round that is completed leaves in custody what was there when it
opened. -/
theorem account_of_round {s' : Scheme} (hm : Solvent custody key m)
    (hs : m.schemes.get? key = some s) (hlisted : s.Listed)
    (hpaid : s.paidMembers = [])
    (hrest : ∀ mv ∈ rest, mv.step.Avoids custody s.assetId
      ∧ mv.isReceivable = true)
    (hs' : (after custody key m rest).schemes.get? key = some s')
    (hround : s'.currentRound = s.currentRound)
    {caller : Option Text} {c : Text}
    (hnext : ((after custody key m rest).step custody key now
      (.scheme (.contribute caller c))).2.schemes.get? key = some next)
    (hround' : next.currentRound ≠ s.currentRound) :
    ((after custody key m rest).step custody key now
        (.scheme (.contribute caller c))).2.ledger.balance s.assetId custody
      = m.ledger.balance s.assetId custody := by
  obtain ⟨hend, s₁, hs₁, haccounts⟩ := account_of_run hm hs hlisted hrest
  cases hs'.symm.trans hs₁
  have hdone := account_of_completion hend hs' hnext (hround.symm ▸ hround')
  rw [haccounts.asset] at hdone
  have hbalance := haccounts.balance
  -- nothing was held back on the way, because the round has stayed the same
  rcases haccounts.round with ⟨-, hheld⟩ | hlater
  · rw [hheld, Scheme.pot_of_nil hpaid] at hbalance
    have hzero : s.contributionAmount * ((0 : Nat) : Int) = 0 := Int.mul_zero _
    rw [hdone, hbalance, hzero]
    omega
  · omega

/-- A step that begins the scheme moves no money and leaves a solvent club. -/
theorem founded_of_ok {t : Terms} {ans : Answer} (hm : m.ledger.Backed)
    (hfound : (m.step custody key now (.scheme (.establish t))).1 = .ok ans) :
    Solvent custody key (m.step custody key now (.scheme (.establish t))).2
      ∧ (m.step custody key now (.scheme (.establish t))).2.ledger = m.ledger
      ∧ ∃ s, (m.step custody key now (.scheme (.establish t))).2.schemes.get?
        key = some s
        ∧ t.opening now = .ok s := by
  have hst : (Step.scheme (.establish t)).amends = false := rfl
  have hends := effect_or_lapse custody key m now hst
  generalize m.step custody key now (.scheme (.establish t))
    = r at hfound hends ⊢
  obtain ⟨a, m'⟩ := r
  change a = .ok ans at hfound
  subst hfound
  rcases hends with heffect | ⟨hfailed, -⟩
  case inr => cases hfailed
  cases heffect with
  | looked hop => cases hop
  | @founded t s hnone hs =>
      obtain ⟨-, -, -, -, -, hpaid, -⟩ := Terms.opening_eq_ok hs
      have hcovered : s.Covered custody m.ledger :=
        (Scheme.sound_of_opening hs).covered_of_nil hpaid hm
      exact ⟨⟨hm, covered_put hcovered⟩, rfl, _, Registry.get?_put_self .., hs⟩

end SavingsClub.Memory
