/-
Who may move money and change a record.

# Debits

A contribution moves up to three accounts at once: the member's, custody's and
that of the member whose turn it is, two of which may be one and the same.
`Granted.debit` sums up who has less afterwards: the member who pays, by no more
than the contribution, and custody when it pays out the pot. All other plans
move nothing.

# The contract

`authority_of_step` holds of every database, whatever its rows are and however
they came about. Money leaves an account only if the member to whom it belongs
has called, or as the payout of a round for which the last member has called; a
record that is there is changed by a member who pays or by the admin who closes
a round that is overdue.
-/
import SavingsClub.Proofs.Deed
import SavingsClub.Proofs.Turn

namespace SavingsClub

-- ====================================================================== debits

namespace Scheme

variable (s : Scheme) (custody c holder : Text)

theorem net_payment :
    (s.payment custody c).net s.assetId holder
      = (if holder = custody then s.contributionAmount else 0)
        - (if holder = c then s.contributionAmount else 0) :=
  Transfer.net_mk ..

theorem net_payout (h : s.members ≠ []) :
    (s.payout custody h).net s.assetId holder
      = (if holder = s.recipient h then s.pot else 0)
        - (if holder = custody then s.pot else 0) :=
  Transfer.net_mk ..

/-- A payment that completes the round makes the pot that of all members. -/
theorem pot_of_last (hlast : s.paidMembers.length + 1 = s.members.length) :
    (s.pay c).pot = s.contributionAmount * (s.members.length : Int) := by
  unfold pot Rotation.pot
  rw [length_pay, hlast]
  rfl

/-- What a contribution that completes the round makes of an account. -/
theorem total_completion (h : s.members ≠ []) :
    Transfer.total s.assetId holder
      [s.payment custody c, (s.pay c).payout custody h]
      = (if holder = custody then s.contributionAmount else 0)
        - (if holder = c then s.contributionAmount else 0)
        + (if holder = s.recipient h then (s.pay c).pot else 0)
        - (if holder = custody then (s.pay c).pot else 0) := by
  have hpayout : ((s.pay c).payout custody h).net s.assetId holder = _ :=
    (s.pay c).net_payout custody holder h
  rw [Transfer.total_cons, Transfer.total_cons, Transfer.total_nil,
    net_payment, hpayout, Int.add_zero, Int.add_sub_assoc]
  rfl

end Scheme

namespace Operation

variable {custody asset holder : Text} {now : Int} {found : Option Scheme}
  {s : Scheme} {op : Operation} {p : Plan Answer} {db paid : Database}

/-- On whose behalf an operation is called, if the operation asks for it. -/
def caller? : Operation → Option Text
  | contribute caller _ | closeRound caller => caller
  | establish _ | getState | getScheme | getDefaulters => none

/-- A contribution that leaves an account with less: its member's, which has
paid it, or custody's, which has paid the pot to the member whose turn it is. -/
inductive Debit (custody holder : Text) (s : Scheme) (c : Text)
    (p : Plan Answer) : Prop where
  | member (hholder : holder = c)
      (hbound : -s.contributionAmount
        ≤ Transfer.total s.assetId holder p.transfers)
  | payout {recipient : Text} (hholder : holder = custody)
      (hlast : s.paidMembers.length + 1 = s.members.length)
      (hround : p.record.currentRound = s.currentRound + 1)
      (hturn : s.members[(s.currentRound % (s.members.length : Int)).toNat]?
        = some recipient)
      (hcredit : Transfer.total s.assetId recipient p.transfers
        = s.contributionAmount * (s.members.length : Int)
          - if recipient = c then s.contributionAmount else 0)

/-- A plan moves no other asset than that of the scheme. -/
theorem Granted.assetId_of_total (h : op.Granted custody now (some s) p)
    (hless : Transfer.total asset holder p.transfers < 0) :
    asset = s.assetId := by
  by_contra hne
  rw [Transfer.total_of_asset_ne holder] at hless
  · omega
  · intro t ht
    obtain ⟨s', hs', hasset, -⟩ := h.parties t ht
    cases hs'
    rw [hasset]
    exact hne

theorem Granted.debit (h : op.Granted custody now found p)
    (hpaid : p.transfers.forM Database.backend.transfer db = .ok () paid)
    (hless : Transfer.total asset holder p.transfers < 0) :
    ∃ s c payer, found = some s ∧ op = .contribute (some c) c
      ∧ s.accept c now = .ok payer
      ∧ asset = s.assetId ∧ Debit custody holder s c p := by
  cases h with
  | founds | closes => cases hless
  | @pays c s payer haccept hopen =>
      obtain rfl := Granted.assetId_of_total (.pays haccept hopen) hless
      refine ⟨s, c, payer, rfl, rfl, haccept, rfl, ?_⟩
      have htotal : Transfer.total s.assetId holder [s.payment custody c]
          = (if holder = custody then s.contributionAmount else 0)
            - (if holder = c then s.contributionAmount else 0) := by
        rw [Transfer.total_cons, Transfer.total_nil, Scheme.net_payment,
          Int.add_zero]
      obtain ⟨db₁, hpayment, -⟩ := Database.transfers_cons_eq_ok hpaid
      have hamount : 0 < s.contributionAmount :=
        (Database.funds_of_transfer hpayment).1
      by_cases hholder : holder = c
      · apply Debit.member hholder
        show -s.contributionAmount
          ≤ Transfer.total s.assetId holder [s.payment custody c]
        rw [htotal, if_pos hholder]
        split <;> omega
      · change Transfer.total s.assetId holder [s.payment custody c]
          < 0 at hless
        rw [htotal, if_neg hholder] at hless
        split at hless <;> omega
  | @completes c s next payer haccept hlast hnext =>
      obtain rfl :=
        Granted.assetId_of_total (.completes haccept hlast hnext) hless
      refine ⟨s, c, payer, rfl, rfl, haccept, rfl, ?_⟩
      have htotal := fun q =>
        s.total_completion custody c q payer.members_ne_nil
      -- neither transfer is one from an account to itself
      obtain ⟨db₁, hpayment, hrest⟩ := Database.transfers_cons_eq_ok hpaid
      obtain ⟨db₂, hpayout, -⟩ := Database.transfers_cons_eq_ok hrest
      have hcustody : c ≠ custody := (Database.transfer_eq_ok hpayment).1
      have hrecipient : custody ≠ s.recipient payer.members_ne_nil :=
        (Database.transfer_eq_ok hpayout).1
      have hamount : 0 < s.contributionAmount :=
        (Database.funds_of_transfer hpayment).1
      have hpot : 0 < (s.pay c).pot := (Database.funds_of_transfer hpayout).1
      by_cases hholder : holder = c
      · have hother : holder ≠ custody := fun h =>
          hcustody (hholder.symm.trans h)
        apply Debit.member hholder
        show -s.contributionAmount ≤ Transfer.total s.assetId holder
          [s.payment custody c, (s.pay c).payout custody payer.members_ne_nil]
        rw [htotal, if_pos hholder, if_neg hother, if_neg hother]
        split <;> omega
      by_cases hholder' : holder = custody
      · obtain ⟨-, -, rfl⟩ := Scheme.advance_eq_ok hnext
        apply Debit.payout hholder' hlast rfl
          (Rotation.getElem?_recipient s.currentRound payer.members_ne_nil)
        refine (htotal (s.recipient payer.members_ne_nil)).trans ?_
        rw [if_neg hrecipient.symm, if_neg hrecipient.symm, if_pos rfl,
          s.pot_of_last c hlast]
        show _ = _ - ite (s.recipient payer.members_ne_nil = c) _ _
        omega
      · change Transfer.total s.assetId holder
          [s.payment custody c, (s.pay c).payout custody payer.members_ne_nil]
          < 0 at hless
        rw [htotal, if_neg hholder, if_neg hholder', if_neg hholder'] at hless
        split at hless <;> omega

/-- A record that is there is changed by a member who pays or by the admin who
closes a round that is overdue. -/
theorem Granted.authority {s : Scheme} (h : op.Granted custody now (some s) p) :
    (∃ c ∈ s.members, op = .contribute (some c) c)
      ∨ op = .closeRound (some s.admin) ∧ s.roundDeadline < now := by
  cases h with
  | pays haccept | completes haccept =>
      exact Or.inl ⟨_, (Scheme.accept_eq_ok haccept).2.1, rfl⟩
  | closes hdue => exact Or.inr ⟨rfl, hdue⟩

/-- Without a caller a scheme can be begun, and nothing else can be done. -/
theorem Granted.eq_none (h : op.Granted custody now found p)
    (hcaller : op.caller? = none) :
    found = none := by
  cases h with
  | founds => rfl
  | pays | completes | closes => cases hcaller

end Operation

namespace Office

variable {settings : Except SettingsFault Settings} {db : Database}
  {now : Int} {id : Text} {op : Operation}

/-- What an operation does to the rows if it does anything at all. -/
theorem done_of_ne
    (h : ((⟨Database.backend, settings⟩ : Office).step db now (.scheme id op)).2
      ≠ db) :
    ∃ (s : Settings) (p : Plan Answer) (paid : Database), settings = .ok s
      ∧ ((⟨Database.backend, settings⟩ : Office).step db now (.scheme id op)).1
        = .ok p.answer
      ∧ op.Granted (s.custodyAccount id) now (db.scheme? id) p
      ∧ p.transfers.forM Database.backend.transfer db = .ok () paid
      ∧ Database.Committed id p db
        ((⟨Database.backend, settings⟩ : Office).step db now
          (.scheme id op)).2 := by
  have hdeed : Deed settings db now (.scheme id op) _ _ := deed_of_scheme op
  generalize (⟨Database.backend, settings⟩ : Office).step db now
    (.scheme id op) = after at h hdeed ⊢
  obtain ⟨a, db'⟩ := after
  cases hdeed with
  | nothing => exact absurd rfl h
  | done hs hgranted hpaid hdone =>
      exact ⟨_, _, _, hs, rfl, hgranted, hpaid, hdone⟩

/-- Whatever rows there are, an operation on a scheme takes money in the
scheme's asset only, and only from two accounts: from that of a member who
calls, who had not paid and is not late, and no more than the contribution; and
from custody's, if that member was the last to pay, for the pot that goes to the
member whose turn it is. A record that is there is changed by a member who pays
or by the admin who closes a round that is overdue. Without a caller no money
moves and no record that is there changes, and neither does a look at the
log. -/
theorem authority_of_step (settings : Except SettingsFault Settings)
    (db : Database) (now : Int) (id : Text) (op : Operation) :
    let after :=
      (⟨Database.backend, settings⟩ : Office).step db now (.scheme id op)
    (∀ asset holder, after.2.balance asset holder < db.balance asset holder →
        ∃ (s : Settings) (found : Scheme) (c : Text) (a : Answer),
        settings = .ok s
          ∧ db.scheme? id = some found ∧ asset = found.assetId
          ∧ op = .contribute (some c) c ∧ after.1 = .ok a
          ∧ c ∈ found.members ∧ c ∉ found.paidMembers
            ∧ now ≤ found.roundDeadline
          ∧ (holder = c
              ∧ db.balance asset holder - found.contributionAmount
                ≤ after.2.balance asset holder
            ∨ holder = s.custodyAccount id
              ∧ found.paidMembers.length + 1 = found.members.length
              ∧ ∃ next recipient, after.2.scheme? id = some next
                ∧ next.currentRound = found.currentRound + 1
                ∧ found.members[(found.currentRound %
                  (found.members.length : Int)).toNat]?
                  = some recipient
                ∧ after.2.balance asset recipient = db.balance asset recipient
                  + found.contributionAmount * (found.members.length : Int)
                  - if recipient = c then found.contributionAmount else 0))
      ∧ (∀ found, db.scheme? id = some found → after.2.scheme? id ≠ some found →
        ∃ a, after.1 = .ok a
        ∧ ((∃ c ∈ found.members, op = .contribute (some c) c)
          ∨ op = .closeRound (some found.admin) ∧ found.roundDeadline < now))
      ∧ (∀ other, other ≠ id → after.2.scheme? other = db.scheme? other)
      ∧ (op.caller? = none →
        (∀ other found, db.scheme? other = some found →
          after.2.scheme? other = some found)
          ∧ ∀ asset holder, after.2.balance asset holder
            = db.balance asset holder)
      ∧ ((⟨Database.backend, settings⟩ : Office).step db now (.history id)).2
          = db := by
  intro after
  refine ⟨?_, ?_, ?_, ?_, Database.peek_snd ..⟩
  · intro asset holder hless
    have hne : after.2 ≠ db := fun h => absurd (h ▸ hless) (Int.lt_irrefl _)
    obtain ⟨s, p, paid, hs, hanswer, hgranted, hpaid, hdone⟩ := done_of_ne hne
    rw [hdone.balances] at hless
    have hdebit : Transfer.total asset holder p.transfers < 0 := by omega
    obtain ⟨found, c, payer, hfound, hop, haccept, hasset, hdebit⟩ :=
      hgranted.debit hpaid hdebit
    obtain ⟨hdeadline, hmember, hunpaid, -⟩ := Scheme.accept_eq_ok haccept
    refine ⟨s, found, c, _, hs, hfound, hasset, hop, hanswer, hmember, hunpaid,
      hdeadline, ?_⟩
    cases hdebit with
    | member hholder hbound =>
        refine Or.inl ⟨hholder, ?_⟩
        rw [hdone.balances, hasset]
        omega
    | @payout recipient hholder hlast hround hturn hcredit =>
        refine Or.inr ⟨hholder, hlast, _, recipient, hdone.record,
          hround, hturn, ?_⟩
        rw [hdone.balances, hasset, hcredit]
        omega
  · intro found hfound hchanged
    have hne : after.2 ≠ db := fun h => hchanged (h ▸ hfound)
    obtain ⟨s, p, paid, hs, hanswer, hgranted, -⟩ := done_of_ne hne
    rw [hfound] at hgranted
    exact ⟨_, hanswer, hgranted.authority⟩
  · intro other hother
    by_cases hsame : after.2 = db
    · rw [hsame]
    · obtain ⟨s, p, paid, -, -, -, -, hdone⟩ := done_of_ne hsame
      exact hdone.otherRecords other hother
  · intro hcaller
    by_cases hsame : after.2 = db
    · rw [hsame]
      exact ⟨fun _ _ hfound => hfound, fun _ _ => rfl⟩
    obtain ⟨s, p, paid, -, -, hgranted, -, hdone⟩ := done_of_ne hsame
    have hnone := hgranted.eq_none hcaller
    refine ⟨?_, ?_⟩
    · intro other found hfound
      have hother : other ≠ id := by
        rintro rfl
        rw [hnone] at hfound
        cases hfound
      rw [hdone.otherRecords other hother, hfound]
    · intro asset holder
      rw [hnone] at hgranted
      have hmoves : p.transfers = [] :=
          List.eq_nil_iff_forall_not_mem.mpr fun t ht => by
        obtain ⟨found, hfound, -⟩ := hgranted.parties t ht
        cases hfound
      rw [hdone.balances, hmoves]
      exact Int.add_zero _

/-- When the missing member pays, custody has less because the pot has gone to
the first member. -/
theorem authority_of_lastPayment :
    let after := (ofSettings .standard).step (oneMissing 5 5) 10 lastPayment
    after.2.balance "usd" "scheme:club"
      < (oneMissing 5 5).balance "usd" "scheme:club"
      ∧ ∃ recipient : Text, (["ana", "bo"] : List Text)[0]? = some recipient
        ∧ after.2.balance "usd" recipient
          = (oneMissing 5 5).balance "usd" recipient + 5 * 2
            - if recipient = "bo" then 5 else 0 := by
  intro after
  have hless : after.2.balance "usd" "scheme:club"
      < (oneMissing 5 5).balance "usd" "scheme:club" := by
    decide +kernel
  refine ⟨hless, ?_⟩
  have hfound : (oneMissing 5 5).scheme? "club"
      = some ⟨"ana", ["ana", "bo"], 5, "usd", 100, 50, 0, ["ana"], []⟩ := by
    decide +kernel
  obtain ⟨hdebits, -⟩ := authority_of_step (.ok .standard)
    (oneMissing 5 5) 10 "club" (.contribute (some "bo") "bo")
  obtain ⟨s, found, c, a, -, hfound', -, hop, -, -, -, -, hcase⟩ :=
    hdebits _ _ hless
  cases hfound.symm.trans hfound'
  cases hop
  rcases hcase with ⟨hholder, -⟩ | ⟨-, -, next, recipient, -, -, hturn, hcredit⟩
  · exact absurd hholder (by decide)
  · exact ⟨recipient, hturn, hcredit⟩

end Office

end SavingsClub
