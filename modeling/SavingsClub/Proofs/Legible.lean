/-
What can be written down.

# Legible data

The database keeps a name in octets and a number in decimal digits, so it takes
only names that consist of characters and numbers that are not too long.
`Legible` says so of everything that it is handed: transfers, ledgers, records,
events and whole plans. A record of a club that is run by its operations needs
nothing more to be kept (`Keepable`), because its amount, its duration and its
round are bounded anyway (`Scheme.Legible.keepable`).

# Legible rulings

Whatever is decided on a legible record about a legible operation, at a moment
not too far back, is again legible (`Operation.legible_of_ruling`): a plan names
only members, the asset and custody, and counts its deadline from that moment.
-/
import SavingsClub.Database.Basic
import SavingsClub.Proofs.Grant

namespace SavingsClub

-- ================================================================ legible data

/-- A transfer that names its accounts in characters. -/
structure Transfer.Legible (t : Transfer) : Prop where
  asset : t.asset.isWhole = true
  sender : t.sender.isWhole = true
  recipient : t.recipient.isWhole = true

/-- A ledger in which every balance is short enough to be written. -/
def Ledger.Legible (l : Ledger) : Prop :=
  ∀ asset holder, isWritable (l.balance asset holder) = true

theorem Ledger.legible_of_entries {l : Ledger}
    (h : ∀ e ∈ l.balances.entries, isWritable e.2 = true) : l.Legible := by
  intro asset holder
  unfold balance
  cases hfound : l.balances.get? ⟨asset, holder⟩ with
  | none =>
      rw [Option.getD_none, isWritable_iff]
      exact Nat.pow_pos (Nat.succ_pos 9)
  | some n =>
      obtain ⟨first, rest, hentries, -⟩ := List.lookup_eq_some_iff.mp hfound
      exact h (_, n)
        (hentries ▸ List.mem_append_right _ (List.mem_cons_self ..))

/-- The ledgers that transfers lead to one after another, up to the first that
is refused. -/
def Ledger.course (l : Ledger) : List Transfer → List Ledger
  | [] => []
  | t :: ts =>
      match l.transfer t with
      | .ok l' => l' :: l'.course ts
      | .error _ => []

/-- A record whose names consist of characters and whose deadline is short
enough to be written. -/
structure Scheme.Legible (s : Scheme) : Prop where
  admin : s.admin.isWhole = true
  asset : s.assetId.isWhole = true
  members : ∀ p ∈ s.members, p.isWhole = true
  deadline : isWritable s.roundDeadline = true

/-- A record that the columns can hold: its two names consist of characters, its
amount and its times are short enough to be written, and its round fits 64
signed bits. -/
structure Scheme.Keepable (s : Scheme) : Prop where
  admin : s.admin.isWhole = true
  asset : s.assetId.isWhole = true
  amount : isWritable s.contributionAmount = true
  duration : isWritable s.roundDuration = true
  deadline : isWritable s.roundDeadline = true
  round : -Int.pow 2 63 ≤ s.currentRound ∧ s.currentRound < Int.pow 2 63

/-- An event that is read as it was written. -/
def Event.Legible (e : Event) : Prop := e.entry.reread = e.entry

/-- A plan for a club run by its operations that holds nothing illegible. -/
structure Plan.Legible {α : Type} (p : Plan α) : Prop where
  transfers : ∀ t ∈ p.transfers, t.Legible
  record : p.record.Legible
  sound : p.record.Sound
  events : ∀ e ∈ p.events, e.Legible

namespace Scheme

variable {s : Scheme}

theorem map_joined_eq_self {l : List Text} (h : ∀ p ∈ l, p.joined = p) :
    l.map Text.joined = l := by
  conv_rhs => rw [← List.map_id l]
  exact List.map_congr_left h

theorem map_joined {l : List Text} (h : ∀ p ∈ l, p.isWhole = true) :
    l.map Text.joined = l :=
  map_joined_eq_self fun p hp => Text.joined_eq_self (h p hp)

/-- A record without halves to be joined is read as it was written. -/
theorem reread_eq_self
    (h : ∀ p ∈ s.members ++ s.paidMembers ++ s.defaulters, p.joined = p) :
    s.reread = s := by
  simp only [List.mem_append] at h
  unfold reread
  rw [map_joined_eq_self fun p hp => h p (Or.inl (Or.inl hp)),
    map_joined_eq_self fun p hp => h p (Or.inl (Or.inr hp)),
    map_joined_eq_self fun p hp => h p (Or.inr hp)]

/-- Everybody who is entered in a legible record goes by characters. -/
theorem Legible.paid (h : s.Legible) (hs : s.Sound) :
    ∀ p ∈ s.paidMembers, p.isWhole = true :=
  fun p hp => h.members p (hs.paid_mem p hp)

theorem Legible.defaulters (h : s.Legible) (hs : s.Sound) :
    ∀ p ∈ s.defaulters, p.isWhole = true :=
  fun p hp => h.members p (hs.defaulters_sublist.mem hp)

/-- A legible record is read as it was written. -/
theorem Legible.reread (h : s.Legible) (hs : s.Sound) : s.reread = s := by
  apply reread_eq_self
  intro p hp
  apply Text.joined_eq_self
  rcases List.mem_append.mp hp with hp | hp
  · rcases List.mem_append.mp hp with hp | hp
    · exact h.members p hp
    · exact h.paid hs p hp
  · exact h.defaulters hs p hp

theorem Keepable.fits (h : s.Keepable) : s.Fits where
  amount := h.amount
  duration := h.duration
  deadline := h.deadline
  round := by
    obtain ⟨hlow, hhigh⟩ := h.round
    unfold fitsWord
    rw [decide_eq_true hlow, decide_eq_true hhigh]
    rfl

/-- The columns can hold every record that is keepable. -/
theorem Keepable.refusal? (h : s.Keepable) : Database.refusal? s = none := by
  have hnumerals : Database.fitsNumerals s = true := by
    unfold Database.fitsNumerals
    rw [h.amount, h.duration, h.deadline]
    rfl
  unfold Database.refusal?
  rw [hnumerals, h.fits.round]
  simp [(Text.tear?_eq_none_iff s.admin).mpr h.admin,
    (Text.tear?_eq_none_iff s.assetId).mpr h.asset]

/-- Every legible record of a club run by its operations is keepable. -/
theorem Legible.keepable (h : s.Legible) (hs : s.Sound) : s.Keepable where
  admin := h.admin
  asset := h.asset
  amount := isWritable_of_le (Int.le_of_lt hs.amount.1) hs.amount.2 maxAmount_lt
  duration :=
    isWritable_of_le (Int.le_of_lt hs.duration.1) hs.duration.2 maxTime_lt
  deadline := h.deadline
  round := by
    obtain ⟨hlow, hhigh⟩ := hs.round
    have hmin : -Int.pow 2 63 ≤ 0 := by decide
    have hmax : maxRound < Int.pow 2 63 := by decide
    omega

end Scheme

-- ============================================================= legible rulings

/-- Terms that name everything in characters. -/
structure Terms.Legible (t : Terms) : Prop where
  admin : t.admin.isWhole = true
  asset : t.asset.isWhole = true
  members : ∀ p ∈ t.members, p.isWhole = true

/-- An operation that is handed nothing illegible to keep. -/
def Operation.Legible : Operation → Prop
  | .establish t => t.Legible
  | _ => True

namespace Scheme

variable {s next : Scheme} {custody c : Text} {now : Int} {payer : s.Payer}

theorem legible_of_opening {t : Terms} (ht : t.Legible)
    (hnow : -(digitLimit : Int) < now) (hs : t.opening now = .ok s) :
    s.Legible := by
  have hsound := sound_of_opening hs
  obtain ⟨hon, -, hdeadline, hlate, -⟩ := Terms.opening_eq_ok hs
  refine ⟨?_, ?_, ?_, ?_⟩
  · rw [hon.admin]
    exact ht.admin
  · rw [hon.asset]
    exact ht.asset
  · rw [hon.members]
    exact ht.members
  · rw [hdeadline] at hlate ⊢
    exact Rotation.isWritable_deadline
      (Int.le_of_lt hsound.duration.1) hlate hnow

/-- A legible record stays legible when its round goes on at a moment not too
far back. -/
theorem Legible.progress (h : s.Legible) (hs : s.Sound)
    (hnow : -(digitLimit : Int) < now) (hprogress : s.Progress now next) :
    next.Legible := by
  have hduration := Int.le_of_lt hs.duration.1
  cases hprogress with
  | stays => exact h
  | pays haccept hopen => exact { h with }
  | completes haccept hlast hnext =>
      obtain ⟨-, hlate, rfl⟩ := advance_eq_ok hnext
      exact
        { h with deadline := Rotation.isWritable_deadline hduration hlate hnow }
  | closes hdue hnext =>
      obtain ⟨-, hlate, rfl⟩ := advance_eq_ok hnext
      exact
        { h with deadline := Rotation.isWritable_deadline hduration hlate hnow }

theorem legible_payment (h : s.Legible) (hcustody : custody.isWhole = true)
    (haccept : s.accept c now = .ok payer) : (s.payment custody c).Legible where
  asset := h.asset
  sender := h.members c (accept_eq_ok haccept).2.1
  recipient := hcustody

theorem legible_payout (h : s.Legible) (hcustody : custody.isWhole = true)
    (hne : s.members ≠ []) :
    (s.payout custody hne).Legible where
  asset := h.asset
  sender := hcustody
  recipient := h.members _ (List.get_mem ..)

theorem legible_receipt (h : s.Legible) (haccept : s.accept c now = .ok payer) :
    (s.receipt c).Legible := by
  have hc := h.members c (accept_eq_ok haccept).2.1
  unfold Event.Legible receipt Event.entry LogEntry.reread Event.data
  simp [Json.obj, Json.reread, Json.rereadMembers, Text.joined_eq_self hc]

theorem legible_completion (h : s.Legible) (hne : s.members ≠ []) :
    (s.completion hne).Legible := by
  have hrecipient : (s.recipient hne).isWhole = true :=
    h.members _ (List.get_mem ..)
  unfold Event.Legible completion Event.entry LogEntry.reread Event.data
  simp [Json.obj, Json.reread, Json.rereadMembers,
    Text.joined_eq_self hrecipient]

theorem legible_closed (h : s.Legible) (n : Int) :
    (Event.roundClosed n
      (Rotation.defaulters s.members s.paidMembers)).Legible := by
  have hnames : (Rotation.defaulters s.members s.paidMembers).map Text.joined
      = Rotation.defaulters s.members s.paidMembers :=
    map_joined fun p hp => h.members p (List.mem_of_mem_filter hp)
  unfold Event.Legible Event.entry LogEntry.reread Event.data
  simp [Json.obj, Json.reread, Json.rereadMembers, hnames]

theorem legible_initialized (h : s.Legible) :
    (Event.schemeInitialized s.admin s.members s.contributionAmount s.assetId
      s.roundDuration
      s.roundDeadline).Legible := by
  unfold Event.Legible Event.entry LogEntry.reread Event.data
  simp [Json.obj, Json.reread, Json.rereadMembers, map_joined h.members,
    Text.joined_eq_self h.admin, Text.joined_eq_self h.asset]

end Scheme

namespace Operation

variable {custody key : Text} {now : Int} {found : Option Scheme}
  {op : Operation} {p : Plan Answer}

theorem Granted.legible (h : Granted custody now found op p)
    (hfound : ∀ s, found = some s → s.Sound ∧ s.Legible) (hop : op.Legible)
    (hcustody : custody.isWhole = true) (hnow : -(digitLimit : Int) < now) :
    p.Legible := by
  cases h with
  | founds hs =>
      have hlegible := Scheme.legible_of_opening hop hnow hs
      exact {
        transfers := fun t ht => by cases ht
        record := hlegible
        sound := Scheme.sound_of_opening hs
        events := fun e he => by
          rw [List.mem_singleton.mp he]
          exact Scheme.legible_initialized hlegible }
  | pays haccept hopen =>
      obtain ⟨hsound, hs⟩ := hfound _ rfl
      have hprogress := Scheme.Progress.pays haccept hopen
      exact {
        transfers := fun t ht => by
          rw [List.mem_singleton.mp ht]
          exact Scheme.legible_payment hs hcustody haccept
        record := hs.progress hsound hnow hprogress
        sound := hsound.progress hprogress
        events := fun e he => by
          rw [List.mem_singleton.mp he]
          exact Scheme.legible_receipt hs haccept }
  | @completes c s next payer haccept hlast hnext =>
      obtain ⟨hsound, hs⟩ := hfound _ rfl
      have hprogress := Scheme.Progress.completes haccept hlast hnext
      have hpaid : (s.pay c).Legible := { hs with }
      exact {
        transfers := fun t ht => by
          rcases List.mem_cons.mp ht with rfl | ht
          · exact Scheme.legible_payment hs hcustody haccept
          · rw [List.mem_singleton.mp ht]
            exact Scheme.legible_payout hpaid hcustody _
        record := hs.progress hsound hnow hprogress
        sound := hsound.progress hprogress
        events := fun e he => by
          rcases List.mem_cons.mp he with rfl | he
          · exact Scheme.legible_receipt hs haccept
          · rw [List.mem_singleton.mp he]
            exact Scheme.legible_completion hpaid _ }
  | closes hdue hnext =>
      obtain ⟨hsound, hs⟩ := hfound _ rfl
      have hprogress := Scheme.Progress.closes hdue hnext
      exact {
        transfers := fun t ht => by cases ht
        record := hs.progress hsound hnow hprogress
        sound := hsound.progress hprogress
        events := fun e he => by
          rw [List.mem_singleton.mp he]
          exact Scheme.legible_closed hs _ }

/-- Whatever is decided on a legible record about a legible operation is
legible. -/
theorem legible_of_ruling (hfound : ∀ s, found = some s → s.Sound ∧ s.Legible)
    (hop : op.Legible) (hcustody : custody.isWhole = true)
    (hnow : -(digitLimit : Int) < now)
    (h : op.ruling custody key now found = .ok (.act p)) : p.Legible :=
  (ruling_eq_act_iff.mp h).legible hfound hop hcustody hnow

end Operation

end SavingsClub
