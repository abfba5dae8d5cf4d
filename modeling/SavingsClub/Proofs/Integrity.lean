/-
The integrity of the ledger kept in memory.

# Calls

A history of the ledger is a list of calls, made one after another whatever
becomes of each (`afterCalls`). The calls that were granted are all that is left
of it: `Tallies` says that the ledger holds the granted transfers in order, and
in every account what the granted mints have created there and the transfers
have moved. A call that is refused leaves everything as it was, so it occurs on
neither side.

# What follows

`integrity_of_calls`: nobody is ever overdrawn, and all that there is of an
asset (`Ledger.supply`) is what has been minted of it, because what transfers
add to one account they take from another. Beside it stands what each further
call is answered.
-/
import Mathlib.Algebra.Ring.Int.Defs
import SavingsClub.Proofs.Booking
import SavingsClub.Proofs.Conservation
import SavingsClub.Proofs.Course
import SavingsClub.Proofs.Solvency

namespace SavingsClub

-- ================================================================== the supply

namespace Ledger

variable {l : Ledger} {asset holder : Text} {S : Finset Text}

/-- Who has an entry for an asset. -/
def holders (l : Ledger) (asset : Text) : Finset Text :=
  ((l.holdings.filter (·.asset = asset)).map Holding.holder).toFinset

/-- What all holders together have of an asset. -/
def supply (l : Ledger) (asset : Text) : Int :=
  ∑ holder ∈ l.holders asset, l.balance asset holder

theorem balance_eq_zero (h : holder ∉ l.holders asset) :
    l.balance asset holder = 0 := by
  unfold balance
  cases hfound : l.balances.get? ⟨asset, holder⟩ with
  | none => rfl
  | some n =>
      obtain ⟨first, rest, hentries, -⟩ := List.lookup_eq_some_iff.mp hfound
      have hentry : (⟨asset, holder⟩, n) ∈ l.balances.entries :=
        hentries ▸ List.mem_append_right _ List.mem_cons_self
      have hholding : (⟨asset, holder, n⟩ : Holding) ∈ l.holdings :=
        List.mem_map.mpr ⟨_, hentry, rfl⟩
      refine absurd ?_ h
      unfold holders
      rw [List.mem_toFinset, List.mem_map]
      exact ⟨_, List.mem_filter.mpr ⟨hholding, decide_eq_true rfl⟩, rfl⟩

/-- The supply is what any holders have together, if everybody with an entry is
one of them. -/
theorem supply_eq_sum (h : l.holders asset ⊆ S) :
    l.supply asset = ∑ holder ∈ S, l.balance asset holder :=
  Finset.sum_subset h fun _ _ hholder => balance_eq_zero hholder

end Ledger

-- ======================================================================= calls

namespace LedgerCall

/-- What a call creates in an account if it is granted. -/
def minted (asset holder : Text) : LedgerCall → Int
  | mint a p n => if asset = a ∧ holder = p then n else 0
  | balance .. | transfer _ => 0

/-- What a call creates of an asset if it is granted. -/
def issued (asset : Text) : LedgerCall → Int
  | mint a _ n => if asset = a then n else 0
  | balance .. | transfer _ => 0

/-- The transfer that a call asks for. -/
def transfer? : LedgerCall → Option Transfer
  | transfer t => some t
  | balance .. | mint .. => none

/-- The amount that a call names. -/
def amount : LedgerCall → Int
  | balance .. => 0
  | mint _ _ n => n
  | transfer t => t.amount

/-- Who is to get what a call creates. -/
def favoured : LedgerCall → List Text
  | mint _ p _ => [p]
  | balance .. | transfer _ => []

variable {asset : Text} {c : LedgerCall} {calls : List LedgerCall}
  {S : Finset Text}

/-- What a call creates of an asset it creates in one account. -/
theorem sum_minted (hS : ∀ p ∈ c.favoured, p ∈ S) :
    ∑ p ∈ S, c.minted asset p = c.issued asset := by
  cases c with
  | balance a p => exact Finset.sum_const_zero
  | transfer t => exact Finset.sum_const_zero
  | mint a p n =>
      have hp : p ∈ S := hS p List.mem_cons_self
      unfold minted issued
      by_cases hasset : asset = a
      · simp [hasset, hp]
      · simp [hasset]

/-- The same of many calls. -/
theorem sum_minted_calls (hS : ∀ c ∈ calls, ∀ p ∈ c.favoured, p ∈ S) :
    ∑ p ∈ S, (calls.map (minted asset p)).sum
      = (calls.map (issued asset)).sum := by
  induction calls with
  | nil => exact Finset.sum_const_zero
  | cons c calls ih =>
      simp only [List.map_cons, List.sum_cons]
      rw [Finset.sum_add_distrib, sum_minted (hS c List.mem_cons_self),
        ih fun c' hc' => hS c' (List.mem_cons_of_mem c hc')]

end LedgerCall

namespace Memory

/-- The memory after a call. -/
def afterCall (m : Memory) (c : LedgerCall) : Memory := (m.call c).2

/-- The memory after some calls. -/
def afterCalls (m : Memory) (calls : List LedgerCall) : Memory :=
  Course.after afterCall m calls

/-- A call, if it is granted. -/
def grants (m : Memory) (c : LedgerCall) : List LedgerCall :=
  match (m.call c).1 with
  | .ok _ => [c]
  | .error _ => []

/-- The calls that are granted of those that are made. -/
def granted (m : Memory) (calls : List LedgerCall) : List LedgerCall :=
  Course.notes afterCall grants m calls

variable {m m' m'' : Memory} {c : LedgerCall} {calls : List LedgerCall}

theorem afterCalls_snoc :
    afterCalls m (calls ++ [c]) = ((afterCalls m calls).call c).2 :=
      Course.after_snoc

/-- The last of some calls is granted where the others have led. -/
theorem granted_snoc :
    granted m (calls ++ [c])
      = granted m calls ++ grants (afterCalls m calls) c :=
  Course.notes_snoc

theorem grants_of_ok {a : Answer} (ha : (m.call c).1 = .ok a) :
    grants m c = [c] := by
  unfold grants
  rw [ha]

-- ================================================================== one answer

/-- A mint answers as the ledger decides. -/
theorem call_mint (m : Memory) (asset holder : Text) (amount : Int) :
    (m.call (.mint asset holder amount)).1
      = if amount ≤ 0 then
        .error (.fault (.transferRejected (.mintNotPositive amount)))
        else .ok .done := by
  have hl := m.ledger.mint_eq asset holder amount
  by_cases hamount : amount ≤ 0
  · rw [if_pos hamount] at hl ⊢
    rw [call_mint_error hl]
  · rw [if_neg hamount] at hl ⊢
    rw [call_mint_ok hl]

/-- A transfer answers as the ledger decides. -/
theorem call_transfer (m : Memory) (t : Transfer) :
    (m.call (.transfer t)).1
      = if t.amount ≤ 0 then
        .error (.fault (.transferRejected (.transferNotPositive t.amount)))
        else if t.sender = t.recipient
          then .error (.fault (.transferRejected (.toItself t.sender)))
        else if m.ledger.balance t.asset t.sender < t.amount then
          .error (.fault
            (.insufficientFunds t.sender t.amount
              (m.ledger.balance t.asset t.sender)))
        else .ok .done := by
  have hl := m.ledger.transfer_eq t
  by_cases hamount : t.amount ≤ 0
  · rw [if_pos hamount] at hl ⊢
    rw [call_transfer_error hl]
  rw [if_neg hamount] at hl ⊢
  by_cases hself : t.sender = t.recipient
  · rw [if_pos hself] at hl ⊢
    rw [call_transfer_error hl]
  rw [if_neg hself] at hl ⊢
  by_cases hfunds : m.ledger.balance t.asset t.sender < t.amount
  · rw [if_pos hfunds] at hl ⊢
    rw [call_transfer_error hl]
  · rw [if_neg hfunds] at hl ⊢
    rw [call_transfer_ok hl]

/-- A call is refused in the club's own terms. Where nobody is overdrawn, a
refusal that names an integer can be put into words exactly if the amount of the
call can be written. -/
theorem speakable_of_call {e : Failure} (hm : m.ledger.Backed)
    (he : (m.call c).1 = .error e) :
    ∃ f, e = .fault f
      ∧ (f.isSpeakable = true ↔ f.integers = []
        ∨ isWritable c.amount = true) := by
  cases c with
  | balance asset holder => cases he
  | mint asset holder amount =>
      rw [call_mint] at he
      split at he
      · cases he
        exact ⟨_, rfl, by simp [Fault.isSpeakable, Fault.integers,
          LedgerCall.amount]⟩
      · cases he
  | transfer t =>
      rw [call_transfer] at he
      split at he
      · cases he
        exact ⟨_, rfl, by simp [Fault.isSpeakable, Fault.integers,
          LedgerCall.amount]⟩
      split at he
      · cases he
        exact ⟨_, rfl, iff_of_true rfl (Or.inl rfl)⟩
      split at he
      next hfunds =>
        cases he
        -- what is held is neither below 0 nor as much as the amount
        have hheld : isWritable t.amount = true →
            isWritable (m.ledger.balance t.asset t.sender) = true :=
          isWritable_of_between isWritable_zero (hm t.asset t.sender)
            (Int.le_of_lt hfunds)
        refine ⟨_, rfl, ?_⟩
        simpa [Fault.isSpeakable, Fault.integers, LedgerCall.amount] using hheld
      · cases he

-- =================================================================== all calls

/-- What a ledger comes to by calls that were granted: their transfers in order,
and in every account what they created there and moved. -/
structure Tallies (l l' : Ledger) (granted : List LedgerCall) : Prop where
  transfers : l'.transfers
    = l.transfers ++ granted.filterMap LedgerCall.transfer?
  balance : ∀ asset holder, l'.balance asset holder = l.balance asset holder
    + (granted.map (LedgerCall.minted asset holder)).sum
    + Transfer.total asset holder (granted.filterMap LedgerCall.transfer?)

theorem Tallies.refl (l : Ledger) : Tallies l l [] where
  transfers := (List.append_nil _).symm
  balance := fun _ _ => by
    show _ = _ + 0 + 0
    omega

theorem Tallies.trans {l l' l'' : Ledger} {xs ys : List LedgerCall}
    (h : Tallies l l' xs) (h' : Tallies l' l'' ys) :
    Tallies l l'' (xs ++ ys) where
  transfers := by
    rw [h'.transfers, h.transfers, List.filterMap_append, List.append_assoc]
  balance := fun asset holder => by
    rw [h'.balance, h.balance, List.map_append, List.sum_append,
      List.filterMap_append, Transfer.total_append]
    omega

/-- A call that is granted does what it asks for. -/
theorem tallies_of_ok {a : Answer} (ha : (m.call c).1 = .ok a) :
    Tallies m.ledger (m.call c).2.ledger [c] := by
  have heffect := effect_of_call m c
  rw [ha] at heffect
  generalize (m.call c).2 = m' at heffect ⊢
  cases heffect with
  | told =>
      refine ⟨(List.append_nil _).symm, fun a p => ?_⟩
      show _ = _ + (0 + 0) + 0
      omega
  | minted hl =>
      refine ⟨?_, fun a p => ?_⟩
      · obtain ⟨-, rfl⟩ := Ledger.mint_eq_ok hl
        exact (List.append_nil _).symm
      · show Ledger.balance _ a p = _ + (LedgerCall.minted a p _ + 0) + 0
        rw [Ledger.balance_of_mint hl, LedgerCall.minted]
        omega
  | moved hl =>
      refine ⟨Ledger.transfers_of_transfer hl, fun a p => ?_⟩
      have hall : m.ledger.transferAll [_] = .ok _ := Ledger.transferAll_cons hl
      show Ledger.balance _ a p = _ + (0 + 0) + Transfer.total a p [_]
      rw [Ledger.balance_of_transferAll hall]
      omega

/-- After a call the ledger tallies with the call if it was granted, and if not
nothing is new. -/
theorem tallies_of_call (m : Memory) (c : LedgerCall) :
    Tallies m.ledger (m.call c).2.ledger (grants m c) := by
  cases ha : (m.call c).1 with
  | ok a =>
      rw [grants_of_ok ha]
      exact tallies_of_ok ha
  | error f =>
      unfold grants
      rw [ha, call_eq_of_error ha]
      exact .refl m.ledger

/-- After any calls the ledger tallies with those that were granted. -/
theorem tallies_of_calls (m : Memory) (calls : List LedgerCall) :
    Tallies m.ledger (afterCalls m calls).ledger (granted m calls) := by
  induction calls generalizing m with
  | nil => exact .refl m.ledger
  | cons c calls ih => exact (tallies_of_call m c).trans (ih (m.call c).2)

/-- The supply of every asset has grown by what was created of it. -/
theorem Tallies.supply {l l' : Ledger} {done : List LedgerCall}
    (h : Tallies l l' done) (asset : Text) :
    l'.supply asset = l.supply asset
      + (done.map (LedgerCall.issued asset)).sum := by
  -- over one set of accounts, large enough for both sums, what is moved adds up
  -- to nothing
  let moves := done.filterMap LedgerCall.transfer?
  let parties :=
    Transfer.parties moves ∪ (done.flatMap LedgerCall.favoured).toFinset
  let everybody := l.holders asset ∪ l'.holders asset ∪ parties
  have hold : l.holders asset ⊆ everybody := fun p hp =>
    Finset.mem_union_left _ (Finset.mem_union_left _ hp)
  have hnew : l'.holders asset ⊆ everybody := fun p hp =>
    Finset.mem_union_left _ (Finset.mem_union_right _ hp)
  have hmoved : ∀ t ∈ moves, t.sender ∈ everybody
      ∧ t.recipient ∈ everybody := by
    intro t ht
    obtain ⟨hsender, hrecipient⟩ := Transfer.mem_parties ht
    exact ⟨Finset.mem_union_right _ (Finset.mem_union_left _ hsender),
      Finset.mem_union_right _ (Finset.mem_union_left _ hrecipient)⟩
  have hfavoured : ∀ c ∈ done, ∀ p ∈ c.favoured, p ∈ everybody := by
    intro c hc p hp
    refine Finset.mem_union_right _ (Finset.mem_union_right _ ?_)
    exact List.mem_toFinset.mpr (List.mem_flatMap.mpr ⟨c, hc, hp⟩)
  calc l'.supply asset
      = ∑ p ∈ everybody,
        (l.balance asset p + (done.map (LedgerCall.minted asset p)).sum
          + Transfer.total asset p moves) := by
        rw [Ledger.supply_eq_sum hnew]
        exact Finset.sum_congr rfl fun p _ => h.balance asset p
    _ = l.supply asset + (done.map (LedgerCall.issued asset)).sum := by
        rw [Finset.sum_add_distrib, Finset.sum_add_distrib,
          Transfer.sum_total hmoved, LedgerCall.sum_minted_calls hfavoured,
          ← Ledger.supply_eq_sum hold, Int.add_zero]

theorem backed_of_calls (calls : List LedgerCall) :
    (afterCalls .empty calls).ledger.Backed :=
  Course.keeps (P := fun m : Memory => m.ledger.Backed) Ledger.backed_empty
    fun c _ m hm => (effect_of_call m c).backed hm

-- =================================================================== integrity

/-- Whatever has been asked of an empty ledger, nobody is overdrawn, and what
was granted accounts for everything: the transfers on record are the granted
ones in order, every account holds what was minted to it and moved into it less
what was moved out of it, and all that there is of an asset was minted. A
further transfer fails for its amount, or else for having one holder on both
sides, or else for want of funds, and a mint for its amount. Whatever fails
leaves the ledger as it was, and why it fails can be put into words unless that
takes an amount that is too long to be written. -/
theorem integrity_of_calls (calls : List LedgerCall) :
    let m := afterCalls .empty calls
    let done := granted .empty calls
    (∀ asset holder, 0 ≤ m.ledger.balance asset holder)
      ∧ m.ledger.transfers = done.filterMap LedgerCall.transfer?
      ∧ (∀ asset holder, m.ledger.balance asset holder
        = (done.map (LedgerCall.minted asset holder)).sum
          + Transfer.total asset holder m.ledger.transfers)
      ∧ (∀ asset, m.ledger.supply asset
        = (done.map (LedgerCall.issued asset)).sum)
      ∧ (∀ t : Transfer, (m.call (.transfer t)).1
        = if t.amount ≤ 0 then
          .error (.fault (.transferRejected (.transferNotPositive t.amount)))
          else if t.sender = t.recipient then
            .error (.fault (.transferRejected (.toItself t.sender)))
          else if m.ledger.balance t.asset t.sender < t.amount then
            .error (.fault (.insufficientFunds t.sender t.amount
              (m.ledger.balance t.asset t.sender)))
          else .ok .done)
      ∧ (∀ asset holder amount, (m.call (.mint asset holder amount)).1
        = if amount ≤ 0 then
          .error (.fault (.transferRejected (.mintNotPositive amount)))
          else .ok .done)
      ∧ ∀ c e, (m.call c).1 = .error e → (m.call c).2 = m
        ∧ ∃ f, e = .fault f
          ∧ (f.isSpeakable = true ↔ f.integers = []
              ∨ isWritable c.amount = true) := by
  intro m done
  have htallies : Tallies Ledger.empty m.ledger done :=
    tallies_of_calls .empty calls
  have htransfers : m.ledger.transfers = done.filterMap LedgerCall.transfer? :=
    htallies.transfers
  have hbacked : m.ledger.Backed := backed_of_calls calls
  refine ⟨hbacked, htransfers, ?_, ?_, call_transfer m, call_mint m,
    fun c e he => ⟨call_eq_of_error he, speakable_of_call hbacked he⟩⟩
  · intro asset holder
    rw [htransfers, htallies.balance]
    exact congrArg (· + _) (Int.zero_add _)
  · intro asset
    rw [htallies.supply]
    exact Int.zero_add _

/-- Calls some of which are refused: for an amount below 0, for going nowhere,
for want of funds. -/
def mixedCalls : List LedgerCall :=
  [.mint "usd" "ana" 20, .mint "usd" "ana" (-3),
    .transfer ⟨"usd", "ana", "bo", 15⟩, .transfer ⟨"usd", "ana", "ana", 1⟩,
    .transfer ⟨"usd", "ana", "bo", 6⟩, .mint "eur" "bo" 1,
    .transfer ⟨"usd", "bo", "ana", 4⟩]

theorem integrity_of_mixedCalls :
    let m := afterCalls .empty mixedCalls
    (m.call (.transfer ⟨"usd", "bo", "ana", 12⟩)).1
        = .error (.fault (.insufficientFunds "bo" 12 11))
      ∧ (m.call (.transfer ⟨"usd", "bo", "ana", 12⟩)).2 = m
      ∧ m.ledger.supply "usd" = 20
      ∧ m.ledger.balance "usd" "ana"
          = 20 + Transfer.total "usd" "ana" m.ledger.transfers := by
  obtain ⟨-, -, hbalance, hsupply, -, -, hfails⟩ :=
    integrity_of_calls mixedCalls
  have hrefused : ((afterCalls .empty mixedCalls).call
    (.transfer ⟨"usd", "bo", "ana", 12⟩)).1
      = .error (.fault (.insufficientFunds "bo" 12 11)) := by
    decide +kernel
  have hminted : ((granted .empty mixedCalls).map
      (LedgerCall.minted "usd" "ana")).sum = 20 := by
    decide +kernel
  have hissued : ((granted .empty mixedCalls).map (LedgerCall.issued "usd")).sum
      = 20 := by
    decide +kernel
  refine ⟨hrefused, (hfails _ _ hrefused).1, (hsupply "usd").trans hissued, ?_⟩
  rw [hbalance, hminted]

/-- A transfer out of an empty account and a mint of less than nothing, both of
an amount with 4301 digits: each is refused as it should be, and there are no
words for the reason. -/
theorem not_always_worded :
    let long : Int := digitLimit
    let short : Fault := .insufficientFunds "ana" long 0
    let negative : Fault := .transferRejected (.mintNotPositive (-long))
    (Memory.empty.call (.transfer ⟨"usd", "ana", "bo", long⟩)).1
      = .error (.fault short)
      ∧ short.isSpeakable = false
      ∧ (Memory.empty.call (.mint "usd" "ana" (-long))).1
        = .error (.fault negative)
      ∧ negative.isSpeakable = false := by
  intro long short negative
  have hpos : 0 < long := Int.ofNat_lt.mpr digitLimit_pos
  have hself : ("ana" : Text) ≠ "bo" := by decide
  have hlong : isWritable long = false := isWritable_of_long (Int.le_refl _)
  have hlong' : isWritable (-long) = false := by
    rw [Bool.eq_false_iff, Ne, isWritable_iff]
    omega
  refine ⟨?_, ?_, ?_, (Fault.isSpeakable_eq_of_one rfl).trans hlong'⟩
  · rw [call_transfer]
    show (if long ≤ 0 then _ else if ("ana" : Text) = "bo" then _ else
      if (0 : Int) < long then _ else _) = _
    rw [if_neg (Int.not_le.mpr hpos), if_neg hself, if_pos hpos]
    rfl
  · show (isWritable long && _) = false
    rw [hlong]
    rfl
  · rw [call_mint, if_pos (by omega)]

end Memory

end SavingsClub
