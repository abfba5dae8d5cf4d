/-
What is paid into a round stays in custody.

# The invariant

`Escrowed`: what members have paid into the current round of a scheme is in the
scheme's custody account. Between steps this needs no more than that nobody is
overdrawn, because every way in which a round ends leaves nothing to be covered
(`Granted.escrow`), and because of all steps only the one that pays out the pot
takes money from custody (`Deed.less_in_custody`).

# The exception

A custody account is a holder like any other. Whoever begins a scheme may enter
one as a member, and if it calls as a member, it pays from what it holds in
custody for another scheme (`Draws`). So the invariant is one of schemes whose
custody account does not do that, and `not_escrowed` is a run in which it does:
the money is gone, and the round can not be paid out.
-/
import SavingsClub.Proofs.Authority
import SavingsClub.Proofs.Shortage

namespace SavingsClub

-- ===================================================================== the pot

namespace Scheme

/-- The pot depends on how many have paid and not on how their names are
read. -/
@[simp] theorem pot_reread (s : Scheme) : s.reread.pot = s.pot := by
  unfold pot reread
  rw [List.length_map]

end Scheme

/-- A payment is never refused because custody, to which it goes, has too
little. -/
theorem Database.payment_ne_short {db : Database} {s : Scheme}
    {custody c : Text} {required available : Int} :
    db.transfer (s.payment custody c)
      ≠ .error (.fault (.insufficientFunds custody required available)) := by
  intro h
  obtain ⟨hholder, hself, -⟩ := short_of_transfer h
  exact hself hholder.symm

/-- A plan leaves a round into which nobody has paid, or adds what it puts into
custody to the pot. -/
theorem Operation.Granted.escrow {custody : Text} {now : Int}
    {found : Option Scheme} {op : Operation} {p : Plan Answer}
    {db paid : Database} (h : op.Granted custody now found p)
    (hpaid : p.transfers.forM Database.backend.transfer db = .ok () paid) :
    p.record.paidMembers = []
      ∨ ∃ s, found = some s ∧ p.record.assetId = s.assetId
        ∧ p.record.pot = s.pot + Transfer.total s.assetId custody
          p.transfers := by
  cases h with
  | founds hs =>
      obtain ⟨-, -, -, -, -, hnobody, -⟩ := Terms.opening_eq_ok hs
      exact Or.inl hnobody
  | @pays c s payer haccept hopen =>
      refine Or.inr ⟨s, rfl, rfl, ?_⟩
      obtain ⟨db₁, hpayment, -⟩ := Database.transfers_cons_eq_ok hpaid
      have hcustody : c ≠ custody := (Database.transfer_eq_ok hpayment).1
      show (s.pay c).pot
        = s.pot + Transfer.total s.assetId custody [s.payment custody c]
      rw [Transfer.total_cons, Transfer.total_nil,
        Scheme.net_payment, if_pos rfl, if_neg hcustody.symm, Scheme.pot_pay]
      omega
  | completes haccept hlast hnext | closes hdue hnext =>
      obtain ⟨-, -, rfl⟩ := Scheme.advance_eq_ok hnext
      exact Or.inl rfl

/-- Custody pays nothing into its own scheme. -/
theorem Operation.Granted.contributor_ne {custody c : Text} {now : Int}
    {found : Option Scheme} {caller : Option Text} {p : Plan Answer}
    {db paid : Database}
    (h : (Operation.contribute caller c).Granted custody now found p)
    (hpaid : p.transfers.forM Database.backend.transfer db = .ok () paid) :
    c ≠ custody := by
  cases h with
  | pays | completes =>
      obtain ⟨db₁, hpayment, -⟩ := Database.transfers_cons_eq_ok hpaid
      exact (Database.transfer_eq_ok hpayment).1

namespace Office

variable {settings : Settings} {db db' : Database} {now : Int}
  {id asset : Text} {st : Step} {a : Except Failure Answer}

theorem custodyAccount_inj {other : Text}
    (h : settings.custodyAccount other = settings.custodyAccount id) :
    other = id :=
  Text.append_right_inj.mp h

-- =============================================================== the invariant

/-- The custody account of a scheme pays, as a member that calls, into a round
of another scheme in the asset. -/
def Draws (settings : Settings) (id asset : Text) (db : Database) (st : Step)
    (a : Except Failure Answer) : Prop :=
  ∃ other s b, other ≠ id ∧ db.scheme? other = some s ∧ s.assetId = asset
    ∧ st = .scheme other
      (.contribute (some (settings.custodyAccount id))
        (settings.custodyAccount id))
    ∧ a = .ok b

/-- What has been paid into the round of a scheme, if it is one in the asset, is
in custody. -/
def Escrowed (settings : Settings) (id asset : Text) (db : Database) : Prop :=
  ∀ s, db.scheme? id = some s → s.assetId = asset →
    s.pot ≤ db.balance asset (settings.custodyAccount id)

/-- Custody has less only after the contribution that completes the round. -/
theorem Deed.less_in_custody (h : Deed (.ok settings) db now st a db')
    (hdraws : ¬ Draws settings id asset db st a)
    (hless : db'.balance asset (settings.custodyAccount id)
      < db.balance asset (settings.custodyAccount id)) :
    ∃ s c b, db.scheme? id = some s ∧ s.assetId = asset
      ∧ st = .scheme id (.contribute (some c) c) ∧ a = .ok b
      ∧ s.paidMembers.length + 1 = s.members.length := by
  cases h with
  | nothing => omega
  | minted hmint =>
      obtain ⟨hpos, hbalances, -⟩ := Database.balance_of_mint hmint
      rw [hbalances] at hless
      split at hless <;> omega
  | @done settings' other op p paid db' hs hgranted hpaid hdone =>
      cases hs
      rw [hdone.balances] at hless
      have hneg : Transfer.total asset (settings.custodyAccount id) p.transfers
        < 0 := by omega
      obtain ⟨s, c, payer, hfound, rfl, -, rfl, hdebit⟩ :=
        hgranted.debit hpaid hneg
      cases hdebit with
      | member hholder =>
          -- the account is the one that pays, so the scheme is not its own
          have hother : other ≠ id := by
            rintro rfl
            exact hgranted.contributor_ne hpaid hholder.symm
          subst hholder
          exact absurd ⟨other, s, _, hother, hfound, rfl, rfl, rfl⟩ hdraws
      | payout hholder hlast =>
          obtain rfl := custodyAccount_inj hholder.symm
          exact ⟨s, c, _, hfound, rfl, rfl, rfl, hlast⟩

/-- What is in custody stays there as long as it is owed. -/
theorem Deed.escrowed (h : Deed (.ok settings) db now st a db')
    (hdb : db.Backed) (hescrowed : Escrowed settings id asset db)
    (hdraws : ¬ Draws settings id asset db st a) :
    Escrowed settings id asset db' := by
  have hbacked := h.backed hdb asset (settings.custodyAccount id)
  cases h with
  | nothing => exact hescrowed
  | minted hmint =>
      obtain ⟨hpos, hbalances, hschemes, -⟩ := Database.balance_of_mint hmint
      intro s hs hasset
      rw [Database.scheme?_congr hschemes] at hs
      have hold := hescrowed s hs hasset
      rw [hbalances]
      split <;> omega
  | @done settings' other op p paid db' hs' hgranted hpaid hdone =>
      cases hs'
      by_cases hother : other = id
      · subst hother
        intro s hs hasset
        rw [hdone.record] at hs
        cases hs
        rw [Scheme.pot_reread]
        rcases hgranted.escrow hpaid with hnobody | ⟨s, hfound, hsame, hpot⟩
        · rw [Scheme.pot_of_nil hnobody]
          exact hbacked
        · obtain rfl : s.assetId = asset := hsame.symm.trans hasset
          have hold := hescrowed s hfound rfl
          rw [hpot, hdone.balances]
          omega
      · intro s hs hasset
        rw [hdone.otherRecords id (Ne.symm hother)] at hs
        have hold := hescrowed s hs hasset
        by_contra hshort
        have hless : db'.balance asset (settings.custodyAccount id)
            < db.balance asset (settings.custodyAccount id) := by omega
        obtain ⟨-, c, -, -, -, hst, -⟩ :=
          (Deed.done rfl hgranted hpaid hdone).less_in_custody hdraws hless
        cases hst
        exact hother rfl

/-- As long as what is owed is in custody, no contribution fails because custody
has too little. -/
theorem ne_short_of_escrowed {s : Scheme} (hs : db.scheme? id = some s)
    (hpot : s.pot ≤ db.balance s.assetId (settings.custodyAccount id))
    (caller : Option Text) (c : Text) (required available : Int) :
    ((ofSettings settings).step db now (.scheme id (.contribute caller c))).1
      ≠ .error (.fault (.insufficientFunds (settings.custodyAccount id) required
        available)) := by
  intro hanswer
  have hstep : (ofSettings settings).step db now
      (.scheme id (.contribute caller c)) = _ :=
    step_of_change rfl
  rw [hstep] at hanswer
  split at hanswer
  · cases hanswer
  next f db' hfails =>
    obtain rfl : f
        = .fault (.insufficientFunds (settings.custodyAccount id) required
            available) := by
      unfold Failure.reported at hanswer
      split at hanswer
      · cases hanswer
      · exact Except.error.inj hanswer
    obtain ⟨p, hgranted, htransfers⟩ := Engine.short_of_contribute hfails
    rw [hs] at hgranted
    cases hgranted with
    | pays haccept hopen =>
        rcases Database.transfers_cons_eq_error htransfers with hpayment
          | ⟨db₁, -, hnone⟩
        · exact Database.payment_ne_short hpayment
        · cases hnone
    | @completes c s next payer haccept hlast hnext =>
        change [s.payment (settings.custodyAccount id) c,
          (s.pay c).payout (settings.custodyAccount id)
          payer.members_ne_nil].forM
            Database.backend.transfer db = _ at htransfers
        rcases Database.transfers_cons_eq_error htransfers with hpayment
          | ⟨db₁, hpayment, hrest⟩
        · exact absurd hpayment Database.payment_ne_short
        -- with the payment custody has the pot of the complete round
        rcases Database.transfers_cons_eq_error hrest with hpayout
          | ⟨db₂, -, hnone⟩
        · obtain ⟨-, -, hshort⟩ := Database.short_of_transfer hpayout
          have hcustody : c ≠ settings.custodyAccount id :=
            (Database.transfer_eq_ok hpayment).1
          have hpaid := (Database.balance_of_transfer hpayment).1 s.assetId
            (settings.custodyAccount id)
          rw [Scheme.net_payment, if_pos rfl, if_neg hcustody.symm] at hpaid
          change db₁.balance s.assetId (settings.custodyAccount id)
            < (s.pay c).pot at hshort
          rw [hpaid, Scheme.pot_pay] at hshort
          omega
        · cases hnone

/-- What members have paid into the current round is in custody, if since a
moment at which nobody had paid into it the custody account itself has paid into
no other scheme in the asset. Then custody has less after a further step only if
that completes the round, and no contribution fails because custody has too
little. -/
theorem escrow_of_run (settings : Settings) (id : Text)
    (earlier later : List Move)
    (hmoves : ∀ mv ∈ earlier ++ later, mv.step.isRegular = true)
    (hopen : ∀ s, (after settings .empty earlier).scheme? id = some s →
      s.paidMembers = [])
    (s : Scheme)
    (hs : (after settings .empty (earlier ++ later)).scheme? id = some s)
    (hdraws : ∀ before mv rest, later = before ++ mv :: rest →
      let db := after settings .empty (earlier ++ before)
      ¬ Draws settings id s.assetId db mv.step
        ((ofSettings settings).step db mv.now mv.step).1) :
    let db := after settings .empty (earlier ++ later)
    let custody := settings.custodyAccount id
    s.contributionAmount * (s.paidMembers.length : Int)
      ≤ db.balance s.assetId custody
      ∧ (∀ now st, st.isRegular = true →
        let next := (ofSettings settings).step db now st
        ¬ Draws settings id s.assetId db st next.1 →
        next.2.balance s.assetId custody < db.balance s.assetId custody →
        ∃ c b, st = .scheme id (.contribute (some c) c) ∧ next.1 = .ok b
          ∧ s.paidMembers.length + 1 = s.members.length)
      ∧ ∀ now caller c required available,
        ((ofSettings settings).step db now
          (.scheme id (.contribute caller c))).1
          ≠ .error (.fault
              (.insufficientFunds custody required available)) := by
  intro db custody
  have hearlier : (after settings .empty earlier).Backed :=
    backed_after fun mv hmv => hmoves mv (List.mem_append_left _ hmv)
  have hstart : Escrowed settings id s.assetId
      (after settings .empty earlier) := by
    intro s₀ hs₀ hasset
    rw [Scheme.pot_of_nil (hopen s₀ hs₀)]
    exact hearlier _ _
  have hend : db.Backed ∧ Escrowed settings id s.assetId db := by
    show (after settings .empty (earlier ++ later)).Backed
      ∧ Escrowed settings id s.assetId
        (after settings .empty (earlier ++ later))
    rw [after_append]
    refine Course.keeps_along
      (P := fun db => db.Backed ∧ Escrowed settings id s.assetId db)
      ⟨hearlier, hstart⟩ ?_
    rintro before mv rest hsplit ⟨hbacked, hescrowed⟩
    have hmv := hmoves mv (by simp [hsplit])
    have hdraws := hdraws before mv rest hsplit
    rw [after_append] at hdraws
    have hdeed := deed_of_step (.ok settings)
      (after settings (after settings .empty earlier) before) mv.now hmv
    exact ⟨hdeed.backed hbacked, hdeed.escrowed hbacked hescrowed hdraws⟩
  have hpot : s.pot ≤ db.balance s.assetId custody := hend.2 s hs rfl
  refine ⟨hpot, ?_, fun now => ne_short_of_escrowed hs hpot⟩
  intro now st hst next hnodraw hless
  have hdeed : Deed (.ok settings) db now st next.1 next.2 :=
    deed_of_step (.ok settings) db now hst
  obtain ⟨s', c, b, hs', -, hst', hanswer, hlast⟩ :=
    hdeed.less_in_custody hnodraw hless
  cases hs.symm.trans hs'
  exact ⟨c, b, hst', hanswer, hlast⟩

/-- A scheme that has the club's custody account for a member. -/
def beginDen : Move :=
  ⟨1, .scheme "den"
    (.establish ⟨"eve", ["scheme:club", "eve"], .integer 5, "usd",
      .integer 100⟩)⟩

def beginClub : Move :=
  ⟨1, .scheme "club"
    (.establish ⟨"ana", ["ana", "bo"], .integer 5, "usd", .integer 100⟩)⟩

/-- The club's custody account pays into the other scheme. -/
def payFromCustody : Move :=
  ⟨2, .scheme "den" (.contribute (some "scheme:club") "scheme:club")⟩

/-- What custody has paid elsewhere before the club began does not count. -/
theorem escrow_of_later_payment :
    let earlier := [⟨0, .ledger (.mint "usd" "scheme:club" 5)⟩, beginDen,
      payFromCustody, beginClub]
    let later : List Move := [⟨2, .ledger (.mint "usd" "ana" 5)⟩,
      ⟨3, .scheme "club" (.contribute (some "ana") "ana")⟩]
    ∃ s, (after .standard .empty (earlier ++ later)).scheme? "club" = some s
      ∧ s.paidMembers = ["ana"]
      ∧ 5 * 1 ≤ (after .standard .empty (earlier ++ later)).balance "usd"
          "scheme:club" := by
  intro earlier later
  have hs : (after .standard .empty (earlier ++ later)).scheme? "club"
      = some ⟨"ana", ["ana", "bo"], 5, "usd", 100, 101, 0, ["ana"], []⟩ := by
    decide +kernel
  have hopen : (after .standard .empty earlier).scheme? "club"
      = some ⟨"ana", ["ana", "bo"], 5, "usd", 100, 101, 0, [], []⟩ := by
    decide +kernel
  refine ⟨_, hs, rfl,
    (escrow_of_run .standard "club" earlier later (by decide) ?_ _ hs ?_).1⟩
  · intro s hs
    cases hopen.symm.trans hs
    rfl
  · rintro before mv rest hsplit db ⟨other, s, b, -, -, -, hst, -⟩
    have hmv : mv ∈ later :=
      hsplit ▸ List.mem_append_right before List.mem_cons_self
    rcases List.mem_cons.mp hmv with rfl | hmv
    · cases hst
    · rw [List.mem_singleton.mp hmv] at hst
      cases hst

/-- A run in which the club's custody account pays what a member has paid into
the club into a scheme that has it for a member. -/
def drawnRun : List Move :=
  [⟨0, .ledger (.mint "usd" "ana" 5)⟩, ⟨0, .ledger (.mint "usd" "bo" 5)⟩,
    beginClub, beginDen, ⟨2, .scheme "club" (.contribute (some "ana") "ana")⟩,
    payFromCustody]

/-- A custody account may be a member elsewhere and pay as one: what is owed is
gone, and the last member can not complete the round. -/
theorem not_escrowed :
    (¬ ∀ (settings : Settings) (moves : List Move),
      (∀ mv ∈ moves, mv.step.isRegular = true) →
        ∀ id s, (after settings .empty moves).scheme? id = some s →
          s.contributionAmount * (s.paidMembers.length : Int)
            ≤ (after settings .empty moves).balance s.assetId
              (settings.custodyAccount id))
      ∧ ((ofSettings .standard).step (after .standard .empty drawnRun) 3
          (.scheme "club" (.contribute (some "bo") "bo"))).1
        = .error (.fault (.insufficientFunds "scheme:club" 10 5)) := by
  refine ⟨?_, by decide +kernel⟩
  intro hall
  have hs : (after .standard .empty drawnRun).scheme? "club"
      = some ⟨"ana", ["ana", "bo"], 5, "usd", 100, 101, 0, ["ana"], []⟩ := by
    decide +kernel
  have hbalance : (after .standard .empty drawnRun).balance "usd" "scheme:club"
      = 0 := by
    decide +kernel
  have hle := hall .standard drawnRun (by decide) "club" _ hs
  change (5 : Int) * 1
    ≤ (after .standard .empty drawnRun).balance "usd" "scheme:club" at hle
  rw [hbalance] at hle
  exact absurd hle (by decide)

end Office

end SavingsClub
