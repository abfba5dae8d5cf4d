/-
How much there is of an asset.

# The supply

`Database.supply` adds up what everybody has of an asset. An account without a
row has nothing, so it makes no difference over which holders the sum is taken
as long as all rows are in it (`supply_eq_sum`), and a change of balances
changes the supply by the sum of the changes (`supply_of_change`). Transfers
come to nothing, however many there are (`Transfer.sum_total`).

# Requests

Of all that a request can come to only a mint is not made of transfers. So the
supply of an asset is what has been minted of it (`supply_of_request`), and
where minting is not allowed, nobody ever has anything and no contribution can
be made (`Penniless`).
-/
import SavingsClub.Proofs.Conservation
import SavingsClub.Proofs.Served

namespace SavingsClub

-- ================================================================== the supply

namespace Database

variable {db db' : Database} {asset holder : Text} {S : Finset Text}

/-- Who has a row for an asset. -/
def holders (db : Database) (asset : Text) : Finset Text :=
  ((db.balances.filter (·.asset = asset)).map BalanceRow.holder).toFinset

/-- What all holders together have of an asset. -/
def supply (db : Database) (asset : Text) : Int :=
  ∑ holder ∈ db.holders asset, db.balance asset holder

theorem balance_eq_zero (h : holder ∉ db.holders asset) :
    db.balance asset holder = 0 := by
  unfold balance
  cases hfind : db.balances.find? fun r => r.asset = asset
    ∧ r.holder = holder with
  | none => rfl
  | some row =>
      have hrow := List.find?_some hfind
      obtain ⟨hasset, hholder⟩ := of_decide_eq_true hrow
      refine absurd ?_ h
      unfold holders
      rw [List.mem_toFinset, List.mem_map]
      refine ⟨row, List.mem_filter.mpr ⟨List.mem_of_find?_eq_some hfind, ?_⟩,
        hholder⟩
      exact decide_eq_true hasset

/-- The supply is what any holders have together, if everybody with a row is one
of them. -/
theorem supply_eq_sum (h : db.holders asset ⊆ S) :
    db.supply asset = ∑ holder ∈ S, db.balance asset holder :=
  Finset.sum_subset h fun _ _ hholder => balance_eq_zero hholder

/-- The supply changes by the sum of what is added to the accounts. -/
theorem supply_of_change {added : Text → Int}
    (hadded : ∀ holder, holder ∉ S → added holder = 0)
    (h : ∀ holder, db'.balance asset holder
      = db.balance asset holder + added holder) :
    db'.supply asset = db.supply asset + ∑ holder ∈ S, added holder := by
  let everybody := db.holders asset ∪ db'.holders asset ∪ S
  have hold : db.holders asset ⊆ everybody := fun p hp =>
    Finset.mem_union_left _ (Finset.mem_union_left _ hp)
  have hnew : db'.holders asset ⊆ everybody := fun p hp =>
    Finset.mem_union_left _ (Finset.mem_union_right _ hp)
  calc db'.supply asset
      = ∑ holder ∈ everybody, (db.balance asset holder + added holder) := by
        rw [supply_eq_sum hnew]
        exact Finset.sum_congr rfl fun p _ => h p
    _ = db.supply asset + ∑ holder ∈ everybody, added holder := by
        rw [Finset.sum_add_distrib, ← supply_eq_sum hold]
    _ = db.supply asset + ∑ holder ∈ S, added holder := by
        rw [Finset.sum_subset Finset.subset_union_right fun p _ hp =>
          hadded p hp]

/-- A mint adds what it mints to the supply of its asset. -/
theorem supply_of_mint {minted : Text} {amount : Int}
    (h : db.mint minted holder amount = .ok db') :
    db'.supply asset = db.supply asset + if asset = minted then amount
      else 0 := by
  obtain ⟨-, hbalances, -⟩ := balance_of_mint h
  have hothers : ∀ p, p ∉ ({holder} : Finset Text) →
      (if asset = minted ∧ p = holder then amount else 0) = 0 := by
    intro p hp
    exact if_neg fun haccount => hp (Finset.mem_singleton.mpr haccount.2)
  rw [supply_of_change hothers (hbalances asset), Finset.sum_singleton]
  simp

end Database

-- =================================================================== transfers

/-- What is committed leaves the supply of every asset as it was. -/
theorem Database.Committed.supply {id : Text} {p : Plan Answer}
    {db db' : Database} (h : Committed id p db db') (asset : Text) :
    db'.supply asset = db.supply asset := by
  have hothers : ∀ holder, holder ∉ Transfer.parties p.transfers →
      Transfer.total asset holder p.transfers = 0 :=
      fun _ => Transfer.total_of_not_mem
  rw [supply_of_change hothers (h.balances asset),
    Transfer.sum_total fun _ => Transfer.mem_parties, Int.add_zero]

-- ==================================================================== requests

/-- Nobody has anything. -/
def Database.Penniless (db : Database) : Prop :=
  ∀ asset holder, db.balance asset holder = 0

/-- Where nobody has anything nothing can be moved. -/
theorem Database.Penniless.transfers_eq_nil {db paid : Database}
    {ts : List Transfer} (hdb : db.Penniless)
    (h : ts.forM backend.transfer db = .ok () paid) : ts = [] := by
  cases ts with
  | nil => rfl
  | cons t ts =>
      obtain ⟨db₁, hfirst, -⟩ := transfers_cons_eq_ok h
      obtain ⟨hpos, hfunds⟩ := funds_of_transfer hfirst
      rw [hdb] at hfunds
      omega

/-- A contribution is never granted without a transfer. -/
theorem Operation.Granted.transfers_ne_nil {custody : Text} {now : Int}
    {found : Option Scheme} {caller : Option Text} {c : Text} {p : Plan Answer}
    (h : (Operation.contribute caller c).Granted custody now found p) :
    p.transfers ≠ [] := by
  cases h with
  | pays | completes => exact List.cons_ne_nil _ _

namespace Http

variable {settings : Except SettingsFault Settings} {db : Database} {now : Int}
  {r : Request} {served : Response × Database}

/-- Nothing but a mint changes how much there is of anything. -/
theorem Served.supply (h : Served settings db now r served)
    (hmint : ∀ asset, r.endpoint? = some (.mint asset) → served.1.status ≠ 200)
    (asset : Text) :
    served.2.supply asset = db.supply asset := by
  cases h with
  | refused | looked => rfl
  | minted hs hallowed hread hminted =>
      obtain ⟨name, j, -, hroute, -⟩ := Request.mint_of_ofRequest hread
      exact absurd rfl (hmint name hroute)
  | done hs hread hgranted hpaid hdone => exact hdone.supply asset

/-- A mint that is answered with 200 is allowed and has been made. -/
theorem Served.mint {asset : String} (h : Served settings db now r served)
    (hroute : r.endpoint? = some (.mint asset))
    (hstatus : served.1.status = 200) :
    ∃ s holder amount, settings = .ok s ∧ s.allowMint = true
      ∧ Call.ofRequest r = .ok (.mint asset holder amount)
      ∧ db.mint asset holder amount = .ok served.2 := by
  cases h with
  | refused hrefused =>
      rw [hstatus] at hrefused
      exact absurd hrefused (by decide)
  | looked hverb =>
      rw [Request.verb_of_endpoint hroute] at hverb
      exact absurd (Option.some.inj hverb : "POST" = "GET") (by decide)
  | @minted s a holder amount db' hs hallowed hread hminted =>
      obtain ⟨name, j, rfl, hroute', -⟩ := Request.mint_of_ofRequest hread
      cases hroute.symm.trans hroute'
      exact ⟨s, holder, amount, hs, hallowed, hread, hminted⟩
  | done hs hread =>
      rw [Request.ofRequest_of_endpoint hroute] at hread
      obtain ⟨pair, -, hread⟩ := eq_ok_of_bind hread
      cases hread

/-- Without a mint nobody comes to have anything, and a contribution is
refused. -/
theorem Served.penniless (h : Served settings db now r served)
    (hmint : ∀ s, settings = .ok s → s.allowMint = false) (hdb : db.Penniless) :
    served.2.Penniless
      ∧ ∀ id, r.endpoint? = some (.contribute id) → 400 ≤ served.1.status
        ∧ served.2 = db := by
  cases h with
  | refused hstatus => exact ⟨hdb, fun id _ => ⟨hstatus, rfl⟩⟩
  | looked hverb =>
      refine ⟨hdb, ?_⟩
      intro id hroute
      rw [Request.verb_of_endpoint hroute] at hverb
      exact absurd (Option.some.inj hverb : "POST" = "GET") (by decide)
  | minted hs hallowed =>
      rw [hmint _ hs] at hallowed
      cases hallowed
  | done hs hread hgranted hpaid hdone =>
      have hnothing := hdb.transfers_eq_nil hpaid
      refine ⟨?_, ?_⟩
      · intro asset holder
        rw [hdone.balances, hnothing, hdb]
        rfl
      · intro id hroute
        obtain ⟨e, he, hcall⟩ := Request.endpoint_of_ofRequest hread
        cases hroute.symm.trans he
        obtain ⟨contributor, -, hcall⟩ := eq_ok_of_bind hcall
        cases hcall
        exact absurd hnothing hgranted.transfers_ne_nil

/-- Whatever the rows are and whatever is requested, there is as much of every
asset afterwards as before, unless it is a mint that is answered with 200: that
adds a positive amount to what the holder it names has of the asset, to nothing
else, and so to the supply of the asset. Where minting is not allowed, no supply
ever changes, nobody comes to have anything, and every contribution is
refused. -/
theorem supply_of_request (settings : Except SettingsFault Settings)
    (db : Database) (now : Int) (r : Request) :
    let after := serve ⟨Database.backend, settings⟩ db now r
    (∀ asset : String, r.endpoint? = some (.mint asset) → after.1.status = 200 →
        ∃ j holder amount, r.document? = some j
        ∧ j.field? "holder" = some (.string holder)
          ∧ 0 < amount
          ∧ (∀ a p, after.2.balance a p
            = db.balance a p + if a = asset ∧ p = holder then amount else 0)
          ∧ ∀ a, after.2.supply a
            = db.supply a + if a = asset then amount else 0)
      ∧ ((∀ asset, r.endpoint? = some (.mint asset) → after.1.status ≠ 200) →
        ∀ a, after.2.supply a = db.supply a)
      ∧ ((∀ s, settings = .ok s → s.allowMint = false) →
        (∀ a, after.2.supply a = db.supply a)
          ∧ ∀ visits, let rows := received settings .empty visits
            (∀ a p, rows.balance a p = 0)
              ∧ ∀ id, r.endpoint? = some (.contribute id) →
                let answer := serve ⟨Database.backend, settings⟩ rows now r
                400 ≤ answer.1.status ∧ answer.2 = rows) := by
  intro after
  have hserved : Served settings db now r after :=
    served_of_request settings db now r
  refine ⟨?_, hserved.supply, ?_⟩
  · intro asset hroute hstatus
    obtain ⟨s, holder, amount, -, -, hread, hminted⟩ :=
      hserved.mint hroute hstatus
    obtain ⟨name, j, -, -, hdocument, hbody⟩ := Request.mint_of_ofRequest hread
    obtain ⟨hholder, -⟩ := Body.mint_eq_ok.mp hbody
    obtain ⟨hpos, hbalances, -⟩ := Database.balance_of_mint hminted
    exact ⟨j, holder, amount, hdocument, hholder, hpos, hbalances,
      fun a => Database.supply_of_mint hminted⟩
  · intro hmint
    refine ⟨?_, ?_⟩
    · apply hserved.supply
      intro asset hroute hstatus
      obtain ⟨s, -, -, hs, hallowed, -⟩ := hserved.mint hroute hstatus
      rw [hmint s hs] at hallowed
      cases hallowed
    · intro visits rows
      have hrows : rows.Penniless :=
        received_served (P := Database.Penniless) (fun _ _ => rfl)
          fun _ _ _ _ hserved hdb => (hserved.penniless hmint hdb).1
      exact ⟨hrows,
        ((served_of_request settings rows now r).penniless hmint hrows).2⟩

/-- The settings of an environment that allows minting and says nothing else. -/
def minting : Settings := { Settings.standard with allowMint := true }

/-- A request that mints. -/
def mintFive : Request :=
  .post ["api", "assets", "usd", "mint"] none
    (.obj [("holder", .text "ana"), ("amount", .integer 5)])

theorem supply_of_mintFive :
    (serve ⟨Database.backend, .ok minting⟩ .empty 0 mintFive).1.status = 200
      ∧ ∃ amount, 0 < amount
        ∧ ∀ a, (serve ⟨Database.backend, .ok minting⟩ .empty 0
          mintFive).2.supply a
          = Database.empty.supply a + if a = "usd" then amount else 0 := by
  have hroute : mintFive.endpoint? = some (.mint "usd") := by decide +kernel
  have hstatus : (serve ⟨Database.backend, .ok minting⟩ .empty 0
      mintFive).1.status = 200 := by
    decide +kernel
  obtain ⟨hmint, -⟩ := supply_of_request (.ok minting) .empty 0 mintFive
  obtain ⟨j, holder, amount, -, -, hpos, -, hsupply⟩ :=
    hmint "usd" hroute hstatus
  exact ⟨hstatus, amount, hpos, hsupply⟩

end Http

end SavingsClub
