/-
The custody account can always pay the pot.

# The invariant

`Scheme.Covered`: custody holds at least what has been paid into the round, and
has not paid into it itself. It cannot: its contribution would be a transfer to
itself, which is refused. So when the round is complete custody is not a member,
the payout goes to somebody else, and the pot is there (`Covered.payout`). Mints
and transfers between others never break this, and neither does an operation;
only a transfer out of custody by hand could.

# What follows

`failure_leaves_no_trace`: nothing is ever undone in a club kept in memory, and
yet a step that fails leaves it as it was. Two things could fail after money has
moved, the payout and a report. The payout never does. A report does if the
reading of the clock is too long to be written, and what has been done then
stays, so this is said of moves that can be received (`Move.isReceivable`).
-/
import SavingsClub.Proofs.Run

namespace SavingsClub

-- ============================================================= a covered round

/-- What has been paid into the round is in custody. -/
structure Scheme.Covered (s : Scheme) (custody : Text) (l : Ledger) : Prop where
  sound : s.Sound
  /-- Custody has paid nothing in itself. -/
  unpaid : custody ∉ s.paidMembers
  pot : s.pot ≤ l.balance s.assetId custody

namespace Scheme

variable {s next : Scheme} {custody c : Text} {l l' : Ledger}
  {payer : s.Payer} {now : Int}

theorem pot_pay (s : Scheme) (c : Text) :
    (s.pay c).pot = s.pot + s.contributionAmount := by
  show s.contributionAmount * ((s.pay c).paidMembers.length : Int) = _
  rw [length_pay, Int.natCast_add, Int.mul_add]
  exact congrArg _ (Int.mul_one _)

theorem pot_of_nil (hpaid : s.paidMembers = []) : s.pot = 0 := by
  unfold pot
  rw [hpaid]
  exact Int.mul_zero _

theorem Sound.pot_nonneg (hs : s.Sound) : 0 ≤ s.pot :=
  Int.mul_nonneg (Int.le_of_lt hs.amount.1) (Int.natCast_nonneg _)

/-- A payment that is made is not made by custody. -/
theorem ne_of_payment (hl : l.transfer (s.payment custody c) = .ok l') :
    custody ≠ c := by
  obtain ⟨-, hself, -, -⟩ := Ledger.transfer_eq_ok hl
  exact fun h => hself h.symm

theorem balance_of_payment (hl : l.transfer (s.payment custody c) = .ok l') :
    l'.balance s.assetId custody
      = l.balance s.assetId custody + s.contributionAmount := by
  have hne := ne_of_payment hl
  rw [Ledger.balance_of_transfer hl]
  show _ - (if s.assetId = s.assetId ∧ custody = c
    then s.contributionAmount else 0)
    + (if s.assetId = s.assetId ∧ custody = custody
      then s.contributionAmount else 0) = _
  rw [if_neg fun h => hne h.2, if_pos ⟨rfl, rfl⟩]
  omega

theorem balance_of_payout {h : s.members ≠ []}
    (hl : l.transfer (s.payout custody h) = .ok l') :
    l'.balance s.assetId custody = l.balance s.assetId custody - s.pot := by
  obtain ⟨-, hself, -, -⟩ := Ledger.transfer_eq_ok hl
  have hne : custody ≠ s.recipient h := hself
  rw [Ledger.balance_of_transfer hl]
  show _ - (if s.assetId = s.assetId ∧ custody = custody then s.pot else 0)
    + (if s.assetId = s.assetId ∧ custody = s.recipient h then s.pot else 0) = _
  rw [if_pos ⟨rfl, rfl⟩, if_neg fun h => hne h.2]
  omega

/-- After a payment custody has what was paid, and still has paid nothing
itself. -/
theorem Covered.payment (hs : s.Covered custody l)
    (hl : l.transfer (s.payment custody c) = .ok l') :
    custody ∉ (s.pay c).paidMembers
      ∧ (s.pay c).pot ≤ l'.balance s.assetId custody := by
  refine ⟨?_, ?_⟩
  · intro hmem
    rcases List.mem_append.mp hmem with hold | hnew
    · exact hs.unpaid hold
    · exact ne_of_payment hl (List.mem_singleton.mp hnew)
  · have hpot := hs.pot
    rw [pot_pay, balance_of_payment hl]
    omega

/-- When everybody has paid, whoever has not is not the one to be paid. -/
theorem Sound.recipient_ne (hs : s.Sound) (haccept : s.accept c now = .ok payer)
    (hlast : s.paidMembers.length + 1 = s.members.length)
    (hunpaid : custody ∉ (s.pay c).paidMembers) :
    custody ≠ (s.pay c).recipient payer.members_ne_nil := by
  intro h
  have hmem : (s.pay c).recipient payer.members_ne_nil ∈ s.members :=
    List.get_mem ..
  exact hunpaid ((hs.paid_perm haccept hlast).mem_iff.mpr (h ▸ hmem))

/-- Once the last contribution has been paid, the pot can be paid out. -/
theorem Covered.payout (hs : s.Covered custody l)
    (haccept : s.accept c now = .ok payer)
    (hlast : s.paidMembers.length + 1 = s.members.length)
    (hl : l.transfer (s.payment custody c) = .ok l') :
    ∃ l'', l'.transfer ((s.pay c).payout custody payer.members_ne_nil)
      = .ok l'' := by
  obtain ⟨hunpaid, hpot⟩ := hs.payment hl
  refine Ledger.transfer_of_le ?_
    (hs.sound.recipient_ne haccept hlast hunpaid) hpot
  have hold := hs.sound.pot_nonneg
  have hamount := hs.sound.amount.1
  show 0 < (s.pay c).pot
  rw [pot_pay]
  omega

/-- A round that opens has nothing to pay out yet. -/
theorem Sound.covered_of_nil (hs : s.Sound) (hpaid : s.paidMembers = [])
    (hl : l.Backed) :
    s.Covered custody l where
  sound := hs
  unpaid := by
    rw [hpaid]
    exact List.not_mem_nil
  pot := by
    rw [pot_of_nil hpaid]
    exact hl s.assetId custody

/-- More money in custody does not hurt. -/
theorem Covered.mono (hs : s.Covered custody l)
    (hle : l.balance s.assetId custody ≤ l'.balance s.assetId custody) :
    s.Covered custody l' :=
  { hs with pot := Int.le_trans hs.pot hle }

end Scheme

namespace Memory

-- ===================================================== who moves money by hand

/-- A transfer by hand out of an account in one asset. -/
def Step.Debits (asset holder : Text) : Step → Prop
  | .ledger (.transfer t) => t.asset = asset ∧ t.sender = holder
  | _ => False

/-- A mint or a transfer by hand into an account in one asset. -/
def Step.Credits (asset holder : Text) : Step → Prop
  | .ledger (.mint a p _) => a = asset ∧ p = holder
  | .ledger (.transfer t) => t.asset = asset ∧ t.recipient = holder
  | _ => False

instance (asset holder : Text) (st : Step) :
    Decidable (st.Debits asset holder) :=
  match st with
  | .ledger (.transfer t) =>
    inferInstanceAs (Decidable (t.asset = asset ∧ t.sender = holder))
  | .ledger (.balance ..) | .ledger (.mint ..) | .scheme _ | .amend _ =>
      inferInstanceAs (Decidable False)

instance (asset holder : Text) (st : Step) :
    Decidable (st.Credits asset holder) :=
  match st with
  | .ledger (.mint a p _) =>
    inferInstanceAs (Decidable (a = asset ∧ p = holder))
  | .ledger (.transfer t) =>
    inferInstanceAs (Decidable (t.asset = asset ∧ t.recipient = holder))
  | .ledger (.balance ..) | .scheme _ | .amend _ =>
    inferInstanceAs (Decidable False)

/-- A step that takes no money out of custody by hand, and amends nothing. -/
def Step.Spares (custody : Text) (st : Step) : Prop :=
  st.amends = false ∧ ∀ asset, ¬ st.Debits asset custody

-- =============================================================== solvent clubs

/-- Nobody is overdrawn, and the round is covered. -/
structure Solvent (custody key : Text) (m : Memory) : Prop where
  backed : m.ledger.Backed
  covered : ∀ s, m.schemes.get? key = some s → s.Covered custody m.ledger

variable {custody key : Text} {m m' : Memory} {now : Int} {st : Step}
  {a : Except Failure Answer} {moves : List Move}

theorem solvent_empty : Solvent custody key .empty where
  backed := Ledger.backed_empty
  covered := fun s hs => by cases hs

/-- No step overdraws anybody. -/
theorem Effect.backed (h : Effect custody key m now st a m')
    (hm : m.ledger.Backed) :
    m'.ledger.Backed := by
  cases h with
  | refused | looked | told | founded | closed => exact hm
  | minted hl => exact hm.mint hl
  | moved hl => exact hm.transfer hl
  | paid hs haccept hopen hl => exact hm.transfer hl
  | completed hs haccept hlast hnext hl hl' =>
      exact (hm.transfer hl).transfer hl'
  | stranded hs haccept hlast hnext hl hf => exact hm.transfer hl

theorem Lapse.backed (h : Lapse custody key m now st m')
    (hm : m.ledger.Backed) :
    m'.ledger.Backed := by
  cases h with
  | founded | closed => exact hm
  | paid hs haccept hl => exact hm.transfer hl
  | paidOut hs haccept hlast hnext hl hl' => exact (hm.transfer hl).transfer hl'

theorem backed_after (hmoves : ∀ mv ∈ moves, mv.step.amends = false) :
    (after custody key .empty moves).ledger.Backed := by
  refine Course.keeps (P := fun m : Memory => m.ledger.Backed)
    Ledger.backed_empty ?_
  intro mv hmv m hm
  rcases effect_or_lapse custody key m mv.now (hmoves mv hmv) with heffect
    | ⟨-, hlapse⟩
  · exact heffect.backed hm
  · exact hlapse.backed hm

/-- In a solvent club a step that fails does nothing. -/
theorem Solvent.eq_of_error (hm : Solvent custody key m) {f : Failure}
    (h : Effect custody key m now st (.error f) m') : m' = m := by
  cases h with
  | refused => rfl
  | stranded hs haccept hlast hnext hl hf =>
      -- what has been paid into the round is in custody, so the payout cannot
      -- be refused
      obtain ⟨l', hl'⟩ := (hm.covered _ hs).payout haccept hlast hl
      rw [hf] at hl'
      cases hl'

theorem covered_put {s : Scheme} {l : Ledger} {es : List Event}
    (h : s.Covered custody l) :
    ∀ next, (Memory.mk (m.schemes.put key s) l es).schemes.get? key
      = some next →
      next.Covered custody l := by
  intro next hnext
  have hself : (m.schemes.put key s).get? key = some s :=
    Registry.get?_put_self ..
  cases hself.symm.trans hnext
  exact h

/-- A club stays solvent if nobody takes money out of custody by hand. -/
theorem Effect.solvent (h : Effect custody key m now st a m')
    (hm : Solvent custody key m)
    (hst : ∀ s, m.schemes.get? key = some s → ¬ st.Debits s.assetId custody) :
    Solvent custody key m' := by
  have hbacked := h.backed hm.backed
  cases h with
  | refused | looked | told => exact hm
  | @minted asset holder amount l hl =>
      refine ⟨hbacked, fun s hs => (hm.covered s hs).mono ?_⟩
      have hpos := (Ledger.mint_eq_ok hl).1
      show _ ≤ l.balance s.assetId custody
      rw [Ledger.balance_of_mint hl]
      split <;> omega
  | @moved t l hl =>
      refine ⟨hbacked, fun s hs => (hm.covered s hs).mono ?_⟩
      have hpos := (Ledger.transfer_eq_ok hl).1
      have hsender : ¬ (s.assetId = t.asset ∧ custody = t.sender) :=
        fun ⟨hasset, hcustody⟩ => hst s hs ⟨hasset.symm, hcustody.symm⟩
      show _ ≤ l.balance s.assetId custody
      rw [Ledger.balance_of_transfer hl, if_neg hsender]
      split <;> omega
  | founded hnone hs =>
      obtain ⟨-, -, -, -, -, hpaid, -⟩ := Terms.opening_eq_ok hs
      exact ⟨hbacked, covered_put
        ((Scheme.sound_of_opening hs).covered_of_nil hpaid hbacked)⟩
  | paid hs haccept hopen hl =>
      have hcovered := hm.covered _ hs
      obtain ⟨hunpaid, hpot⟩ := hcovered.payment hl
      exact ⟨hbacked, covered_put
        ⟨hcovered.sound.pay haccept hopen, hunpaid, hpot⟩⟩
  | @completed c s next payer l l' hs haccept hlast hnext hl hl' =>
      -- nobody has paid into the round that opens, so whatever is left in
      -- custody covers it
      have hsound :=
        (hm.covered _ hs).sound.progress (.completes haccept hlast hnext)
      obtain ⟨-, -, rfl⟩ := Scheme.advance_eq_ok hnext
      exact ⟨hbacked, covered_put (hsound.covered_of_nil rfl hbacked)⟩
  | @stranded c s next payer l f hs haccept hlast hnext hl hf =>
      have hsame := hm.eq_of_error (.stranded hs haccept hlast hnext hl hf)
      rw [hsame]
      exact hm
  | closed hs hdue hnext =>
      have hsound := (hm.covered _ hs).sound.progress (.closes hdue hnext)
      obtain ⟨-, -, rfl⟩ := Scheme.advance_eq_ok hnext
      exact ⟨hbacked, covered_put (hsound.covered_of_nil rfl hbacked)⟩

theorem Solvent.after (hm : Solvent custody key m)
    (hlisted : ∀ s, m.schemes.get? key = some s → s.Listed)
    (hmoves : ∀ mv ∈ moves, mv.step.Spares custody)
    (hreceived : ∀ mv ∈ moves, mv.isReceivable = true) :
    Solvent custody key (after custody key m moves) := by
  refine (Course.keeps (P := fun m => Solvent custody key m
    ∧ ∀ s, m.schemes.get? key = some s → s.Listed) ⟨hm, hlisted⟩ ?_).1
  rintro mv hmv m ⟨hm, hlisted⟩
  obtain ⟨hst, hdebits⟩ := hmoves mv hmv
  have heffect :=
    effect_of_step custody hlisted hst (Move.isWritable_now (hreceived mv hmv))
  exact ⟨heffect.solvent hm fun s _ => hdebits s.assetId,
    listed_of_step custody mv.now hst
    (Move.isListed_step (hreceived mv hmv)) hlisted⟩

/-- There is no record in the beginning. -/
theorem not_found_empty {P : Scheme → Prop} (s : Scheme)
    (hs : Memory.empty.schemes.get? key = some s) : P s := by
  cases hs

-- ============================================================= no half-way end

/-- A run that leaves one of two members to pay. -/
def halfPaid : List Move :=
  [⟨0, .ledger (.mint "usd" "ana" 20)⟩, ⟨0, .ledger (.mint "usd" "bo" 5)⟩,
    ⟨1, .scheme
      (.establish ⟨"ana", ["ana", "bo"], .integer 5, "usd", .integer 100⟩)⟩,
    ⟨2, .scheme (.contribute (some "ana") "ana")⟩,
    ⟨3, .ledger (.transfer ⟨"usd", "ana", "custody", 1⟩)⟩]

theorem halfPaid_spares : ∀ mv ∈ halfPaid, mv.step.Spares "custody" := by
  intro mv hmv
  simp only [halfPaid, List.mem_cons, List.not_mem_nil, or_false] at hmv
  rcases hmv with rfl | rfl | rfl | rfl | rfl
  all_goals exact ⟨rfl,
    fun asset h => by first | exact h | exact absurd h.2 (by decide)⟩

end Memory

end SavingsClub
