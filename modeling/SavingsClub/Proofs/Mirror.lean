/-
One club, kept in memory and in the database.

# The relation

`Mirrors`: the database holds, for one scheme, what the memory holds: the record
under its key, what every account has in the order in which the accounts were
opened, and the log. Both write an account in its place and a new one at the
end, so the two lists of holdings stay the same list.

# What each backend call keeps

A call that one side refuses the other refuses with the same fault, and a call
that both take leaves them mirrored: `Database.transfer_ok`, `Database.mint_ok`,
`Mirrors.keep`, `Mirrors.emits`. The database takes less than the memory does.
It wants names that consist of characters and numbers that are not too long, so
each of these says what has to be legible.
-/
import SavingsClub.Database.Session
import SavingsClub.Proofs.Effect
import SavingsClub.Proofs.Legible

namespace SavingsClub

-- ==================================================================== holdings

namespace Holding

/-- What a list of holdings says that an account has. -/
def amountOf (hs : List Holding) (asset holder : Text) : Int :=
  ((hs.find? fun h => h.asset = asset ∧ h.holder = holder).map
    Holding.amount).getD 0

/-- Writes what an account has: in its place, or else at the end. -/
def write (asset holder : Text) (amount : Int) : List Holding → List Holding :=
  Table.upsert (fun h => h.asset = asset ∧ h.holder = holder)
    (fun h => { h with amount := amount }) ⟨asset, holder, 0⟩

end Holding

/-- A ledger's balance is read off its holdings. -/
theorem Ledger.balance_eq (l : Ledger) (asset holder : Text) :
    l.balance asset holder = Holding.amountOf l.holdings asset holder := by
  unfold balance Holding.amountOf holdings Registry.get?
  congr 1
  induction l.balances.entries with
  | nil => rfl
  | cons e es ih =>
      obtain ⟨⟨a, p⟩, n⟩ := e
      by_cases h : a = asset ∧ p = holder
      · obtain ⟨rfl, rfl⟩ := h
        simp
      · have hkey : ((⟨asset, holder⟩ : Account) == ⟨a, p⟩) = false := by
          rw [beq_eq_false_iff_ne]
          rintro heq
          cases heq
          exact h ⟨rfl, rfl⟩
        simp [List.lookup_cons, hkey, h, ih]

/-- After a credit an account has what the credit made of it. -/
theorem Ledger.holdings_credit (l : Ledger) (asset holder : Text)
    (amount : Int) :
    (l.credit asset holder amount).holdings
      = Holding.write asset holder (l.balance asset holder + amount)
        l.holdings := by
  unfold credit
  generalize l.balance asset holder + amount = n
  show (Registry.putEntry ⟨asset, holder⟩ n l.balances.entries).map _
    = Holding.write asset holder n (l.balances.entries.map _)
  induction l.balances.entries with
  | nil => rfl
  | cons e es ih =>
      obtain ⟨⟨a, p⟩, k⟩ := e
      by_cases h : a = asset ∧ p = holder
      · obtain ⟨rfl, rfl⟩ := h
        simp [Registry.putEntry, Holding.write, Table.upsert]
      · simp only [Holding.write] at ih
        simp [Registry.putEntry, Holding.write, Table.upsert, h, ih]

namespace Database

/-- What every account has, in the order in which the accounts were opened. -/
def holdings (db : Database) : List Holding :=
  db.balances.map fun r => ⟨r.asset, r.holder, r.amount.toInt⟩

/-- So is that of a database. -/
theorem balance_eq (db : Database) (asset holder : Text) :
    db.balance asset holder = Holding.amountOf db.holdings asset holder := by
  unfold balance Holding.amountOf holdings
  rw [List.find?_map]
  simp only [Function.comp_def]
  cases db.balances.find? fun r => r.asset = asset ∧ r.holder = holder <;> rfl

/-- Setting a balance writes one holding, whether there was a row for it or
not. -/
theorem holdings_setBalance (db : Database) (asset holder : Text)
    (amount : Numeral) :
    (db.setBalance asset holder amount).holdings
      = Holding.write asset holder amount.toInt db.holdings := by
  have h := Table.map_upsert
    (fun r : BalanceRow => (⟨r.asset, r.holder, r.amount.toInt⟩ : Holding))
    (fun r => r.asset = asset ∧ r.holder = holder)
    (fun h => h.asset = asset ∧ h.holder = holder)
    (fun r => { r with amount := amount })
    (fun h => { h with amount := amount.toInt })
    ⟨asset, holder, .ofInt 0 isWritable_zero⟩ (fun _ => rfl)
    (fun _ => rfl) db.balances
  rw [Numeral.toInt_ofInt] at h
  exact h

end Database

-- ================================================================ the relation

/-- The database holds of one scheme what the memory holds. -/
structure Mirrors (id : Text) (m : Memory) (db : Database) : Prop where
  record : db.scheme? id = m.schemes.get? id
  holdings : db.holdings = m.ledger.holdings
  log : db.log id = m.events.map Event.entry

namespace Database

variable {db : Database} {l l' : Ledger} {t : Transfer} {f : Fault}

theorem balance_eq_of_holdings (h : db.holdings = l.holdings)
    (asset holder : Text) :
    db.balance asset holder = l.balance asset holder := by
  rw [balance_eq, h, Ledger.balance_eq]

/-- Of several torn names the first is the one that is complained of. -/
theorem search_of_torn {names : List Text} {tear : Text.Tear}
    (h : names.findSome? Text.tear? = some tear) :
    search names = .error (.unsearchable tear) := by
  unfold search
  rw [h]

theorem search_of_whole {names : List Text}
    (h : names.findSome? Text.tear? = none) :
    search names = .ok () := by
  unfold search
  rw [h]

theorem search_pair {a b : Text} (ha : a.isWhole = true)
    (hb : b.isWhole = true) :
    search [a, b] = .ok () := by
  rw [search_eq_ok_iff]
  intro t ht
  rcases List.mem_cons.mp ht with rfl | ht
  · exact ha
  · rw [List.mem_singleton.mp ht]
    exact hb

theorem search_one {a : Text} (ha : a.isWhole = true) :
    search [a] = .ok () := by
  rw [search_eq_ok_iff]
  intro t ht
  rw [List.mem_singleton.mp ht]
  exact ha

/-- Under a name that can be looked up, what is kept is found. -/
theorem backend_has (db : Database) {id : Text} (hid : id.isWhole = true) :
    backend.has id db = .ok (db.scheme? id).isSome db :=
  lookUp_ok (search_one hid) fun db => (db.scheme? id).isSome

theorem backend_get (db : Database) {id : Text} (hid : id.isWhole = true) :
    backend.get id db = .ok (db.scheme? id) db :=
  lookUp_ok (search_one hid) fun db => db.scheme? id

theorem backend_balance {asset holder : Text} (h : db.holdings = l.holdings)
    (hsearch : search [asset, holder] = .ok ()) :
    backend.balance asset holder db = .ok (l.balance asset holder) db := by
  rw [← balance_eq_of_holdings h]
  exact lookUp_ok hsearch fun db => db.balance asset holder

/-- A transfer that the ledger refuses is refused by the database with the same
fault, if the sender can be looked for where that is needed. -/
theorem transfer_error (h : db.holdings = l.holdings)
    (hsearch : t.rejection? = none → search [t.asset, t.sender] = .ok ())
    (hl : l.transfer t = .error f) : db.transfer t = .error (.fault f) := by
  unfold Ledger.transfer at hl
  unfold transfer
  cases hrejected : t.rejection? with
  | some r =>
      rw [hrejected] at hl
      cases hl
      rfl
  | none =>
      rw [hrejected] at hl
      change (if _ then _ else _) = _ at hl
      split at hl
      case isFalse => cases hl
      case isTrue hfunds =>
        cases hl
        rw [hsearch hrejected, balance_eq_of_holdings h]
        exact if_pos hfunds

/-- A transfer that the ledger makes is made in the database if both holders can
be looked for and both balances can be written. -/
theorem transfer_ok (h : db.holdings = l.holdings)
    (hsender : search [t.asset, t.sender] = .ok ())
    (hrecipient : search [t.asset, t.recipient] = .ok ())
    (hl : l.transfer t = .ok l') (hlegible : l'.Legible) :
    ∃ db', db.transfer t = .ok db' ∧ db'.holdings = l'.holdings
      ∧ db'.schemes = db.schemes ∧ db'.events = db.events := by
  obtain ⟨hpos, hself, hfunds, hl'⟩ := Ledger.transfer_eq_ok hl
  have hrejected : t.rejection? = none := by
    unfold Transfer.rejection?
    rw [if_neg (Int.not_le.mpr hpos), if_neg hself]
  have hpaid : l'.balance t.asset t.sender
      = l.balance t.asset t.sender - t.amount := by
    rw [Ledger.balance_of_transfer hl, if_pos ⟨rfl, rfl⟩,
      if_neg fun h => hself h.2]
    omega
  have hreceived : l'.balance t.asset t.recipient
      = l.balance t.asset t.recipient + t.amount := by
    rw [Ledger.balance_of_transfer hl, if_neg fun h => hself h.2.symm,
      if_pos ⟨rfl, rfl⟩]
    omega
  -- both rows get what the accounts have afterwards, so those are the numbers
  -- to be written
  refine ⟨(db.setBalance t.asset t.sender
    (.ofInt _ (hlegible t.asset t.sender))).setBalance t.asset t.recipient
    (.ofInt _ (hlegible t.asset t.recipient)), ?_, ?_, rfl, rfl⟩
  · unfold transfer
    rw [hrejected, hsender, hrecipient, balance_eq_of_holdings h,
      balance_eq_of_holdings h]
    show (if _ then _ else db.putBalance t.asset t.sender (_ - _) >>= _) = _
    rw [if_neg (Int.not_lt.mpr hfunds), ← hpaid,
      putBalance_of_writable (hlegible t.asset t.sender)]
    show Database.putBalance _ t.asset t.recipient (_ + _) = _
    rw [← hreceived]
    exact putBalance_of_writable (hlegible t.asset t.recipient)
  · rw [holdings_setBalance, holdings_setBalance, h, Numeral.toInt_ofInt,
      Numeral.toInt_ofInt]
    have hcredited : (l.credit t.asset t.sender (-t.amount)).balance
      t.asset t.recipient
        + t.amount = l'.balance t.asset t.recipient := by
      rw [Ledger.balance_credit, if_neg fun h => hself h.2.symm, hreceived,
        Int.add_zero]
    have hdebited : l.balance t.asset t.sender + -t.amount
        = l'.balance t.asset t.sender :=
      hpaid.symm
    have hholdings : l'.holdings =
        ((l.credit t.asset t.sender (-t.amount)).credit t.asset t.recipient
          t.amount).holdings := by
      rw [hl']
      rfl
    rw [hholdings, Ledger.holdings_credit, Ledger.holdings_credit,
      hcredited, hdebited]

variable {asset holder : Text} {amount : Int}

/-- A mint that the ledger refuses is refused by the database before any name is
looked up. -/
theorem mint_error (hl : l.mint asset holder amount = .error f) :
    db.mint asset holder amount = .error (.fault f) := by
  unfold Ledger.mint at hl
  unfold mint
  cases hrejected : mintRejection? amount with
  | some r =>
      rw [hrejected] at hl
      cases hl
      rfl
  | none =>
      rw [hrejected] at hl
      cases hl

/-- A mint that the ledger takes is made in the database if the account can be
looked for and the new balance can be written. -/
theorem mint_ok (h : db.holdings = l.holdings)
    (hsearch : search [asset, holder] = .ok ())
    (hl : l.mint asset holder amount = .ok l') (hlegible : l'.Legible) :
    ∃ db', db.mint asset holder amount = .ok db' ∧ db'.holdings = l'.holdings
      ∧ db'.schemes = db.schemes ∧ db'.events = db.events := by
  obtain ⟨hpos, hl'⟩ := Ledger.mint_eq_ok hl
  have hrejected : mintRejection? amount = none := if_neg (Int.not_le.mpr hpos)
  have hbalance : l'.balance asset holder
      = l.balance asset holder + amount := by
    rw [Ledger.balance_of_mint hl, if_pos ⟨rfl, rfl⟩]
  refine ⟨db.setBalance asset holder (.ofInt _ (hlegible asset holder)), ?_,
    ?_, rfl, rfl⟩
  · unfold mint
    rw [hrejected, hsearch, balance_eq_of_holdings h, ← hbalance]
    exact putBalance_of_writable (hlegible asset holder)
  · rw [holdings_setBalance, h, Numeral.toInt_ofInt, hbalance, hl',
      Ledger.holdings_credit]

end Database

namespace Mirrors

variable {id : Text} {m : Memory} {db : Database} {l : Ledger} {t : Transfer}

/-- Nothing but the balances has to be looked at again when only they have
changed. -/
theorem of_ledger (hm : Mirrors id m db) {db' : Database}
    (hholdings : db'.holdings = l.holdings)
    (hschemes : db'.schemes = db.schemes) (hevents : db'.events = db.events) :
    Mirrors id { m with ledger := l } db' where
  record := by
    have hrecord := hm.record
    unfold Database.scheme? at hrecord ⊢
    rw [hschemes, hrecord]
  holdings := hholdings
  log := by
    have hlog := hm.log
    unfold Database.log at hlog ⊢
    rw [hevents, hlog]

/-- A legible transfer is made on both sides or refused on both. -/
theorem transfer (hm : Mirrors id m db) (ht : t.Legible)
    (hlegible : ∀ l, m.ledger.transfer t = .ok l → l.Legible) :
    (∃ l db', m.ledger.transfer t = .ok l
      ∧ Database.backend.transfer t db = .ok () db'
      ∧ Mirrors id { m with ledger := l } db')
    ∨ ∃ f, m.ledger.transfer t = .error f
      ∧ Database.backend.transfer t db = .error (.fault f) db := by
  cases hl : m.ledger.transfer t with
  | error f =>
      exact Or.inr ⟨f, rfl,
        Act.tryChange_error (f := fun db : Database => db.transfer t)
        (Database.transfer_error hm.holdings
          (fun _ => Database.search_pair ht.asset ht.sender) hl)⟩
  | ok l =>
      obtain ⟨db', hdb', hholdings, hschemes, hevents⟩ :=
        Database.transfer_ok hm.holdings
          (Database.search_pair ht.asset ht.sender)
          (Database.search_pair ht.asset ht.recipient) hl (hlegible l hl)
      exact Or.inl ⟨l, db', rfl,
        Act.tryChange_ok (f := fun db : Database => db.transfer t) hdb',
        hm.of_ledger hholdings hschemes hevents⟩

/-- Transfers that the memory makes and reports one after another the database
makes and reports too, and it stops where the memory stops, with the same
failure. -/
theorem remitting (hm : Mirrors id m db) (custody : Text) {rs : List Remittance}
    (hrs : ∀ t ∈ rs.map Remittance.transfer, t.Legible)
    (hcourse : ∀ l ∈ m.ledger.course (rs.map Remittance.transfer), l.Legible) :
    (∃ l db', Memory.remitting custody id rs m = .ok () { m with ledger := l }
      ∧ rs.forM (Engine.mk Database.backend custody id).remit db = .ok () db'
      ∧ Mirrors id { m with ledger := l } db')
    ∨ ∃ f m' db', Memory.remitting custody id rs m = .error f m'
      ∧ rs.forM (Engine.mk Database.backend custody id).remit db = .error f db'
      ∧ f.reported = f := by
  induction rs generalizing m db with
  | nil => exact Or.inl ⟨m.ledger, db, rfl, rfl, hm⟩
  | cons r rs ih =>
      rw [List.map_cons] at hrs hcourse
      rw [Ledger.course] at hcourse
      have hfirst : ∀ l, m.ledger.transfer r.transfer = .ok l →
          l.Legible := fun l hl =>
        hcourse l (by rw [hl]; exact List.mem_cons_self ..)
      rcases hm.transfer (hrs _ (List.mem_cons_self ..)) hfirst with
        ⟨l, db', hl, hmade, hm'⟩ | ⟨f, hf, hrefused⟩
      case inr =>
        exact Or.inr ⟨.fault f, m, db, Memory.remitting_error hf,
          Act.bind_error (Act.bind_error hrefused _) _, rfl⟩
      cases hreport : r.reported.all isWritable with
      | false =>
          -- both have made the transfer, and neither can say so
          exact Or.inr ⟨.unspeakable, _, db',
            Memory.remitting_unreported hl hreport,
            Act.bind_error (Engine.remit_of_unreported hmade hreport) _, rfl⟩
      | true =>
          have hcons : (r :: rs).forM
            (Engine.mk Database.backend custody id).remit db
              = rs.forM (Engine.mk Database.backend custody id).remit db' := by
            have hremit : (Engine.mk Database.backend custody id).remit r db
                = .ok () db' := by
              rw [Engine.remit_of_reported hreport]
              exact hmade
            exact Act.bind_ok hremit _
          rw [Memory.remitting_cons hl hreport, hcons]
          rw [hl] at hcourse
          exact ih hm' (fun t ht => hrs t (List.mem_cons_of_mem _ ht))
            (fun l' hl' => hcourse l' (List.mem_cons_of_mem l hl'))

/-- A record of a club run by its operations is kept as it is, if it is
legible. -/
theorem keep (hm : Mirrors id m db) (hid : id.isWhole = true) {s : Scheme}
    (hsound : s.Sound) (hs : s.Legible) :
    ∃ db', db.keepScheme id s = .ok db'
      ∧ Mirrors id { m with schemes := m.schemes.put id s } db' := by
  have hkeepable := hs.keepable hsound
  refine ⟨db.putScheme id s hkeepable.fits, ?_, ?_, hm.holdings, hm.log⟩
  · exact Database.keepScheme_ok (Database.search_one hid) hkeepable.refusal?
  · show (db.putScheme id s hkeepable.fits).scheme? id
      = (m.schemes.put id s).get? id
    rw [Database.scheme?_putScheme_self, Registry.get?_put_self,
      hs.reread hsound]

/-- Legible events are logged as they are. -/
theorem emits (hm : Mirrors id m db) {es : List Event}
    (hes : ∀ e ∈ es, e.Legible) :
    ∃ db', es.forM (Database.backend.emit id) db = .ok () db'
      ∧ Mirrors id { m with events := m.events ++ es } db' := by
  induction es generalizing m db with
  | nil =>
      rw [List.append_nil]
      exact ⟨db, rfl, hm⟩
  | cons e es ih =>
      have hemit : Database.backend.emit id e db
        = .ok () (db.addEvent id e) := rfl
      have hlog : (db.addEvent id e).log id
          = (m.events ++ [e]).map Event.entry := by
        rw [Database.log_addEvent, if_pos rfl,
          hes e (List.mem_cons_self ..), hm.log, List.map_append]
        rfl
      have hadded : Mirrors id { m with events := m.events ++ [e] }
          (db.addEvent id e) :=
        ⟨hm.record, hm.holdings, hlog⟩
      obtain ⟨db', hdb', hm'⟩ :=
        ih hadded fun e' he' => hes e' (List.mem_cons_of_mem e he')
      refine ⟨db', (Act.bind_ok hemit _).trans hdb', ?_⟩
      rw [List.append_assoc] at hm'
      exact hm'

/-- What the memory makes of a legible plan the database makes of it too. -/
theorem carryOut {α : Type} {p : Plan α} (hm : Mirrors id m db) (custody : Text)
    (hid : id.isWhole = true) (hp : p.Legible)
    (hcourse : ∀ l ∈ m.ledger.course p.transfers,
      l.Legible) :
    (∃ l db', (Memory.engine custody id).carryOut p m
        = .ok p.answer ⟨m.schemes.put id p.record, l, m.events ++ p.events⟩
      ∧ (Engine.mk Database.backend custody id).carryOut p db = .ok p.answer db'
      ∧ Mirrors id ⟨m.schemes.put id p.record, l, m.events ++ p.events⟩ db')
    ∨ ∃ f m' db', (Memory.engine custody id).carryOut p m = .error f m'
      ∧ (Engine.mk Database.backend custody id).carryOut p db = .error f db'
      ∧ f.reported = f := by
  rcases hm.remitting custody hp.transfers hcourse with
    ⟨l, db₁, hl, hdb₁, hm₁⟩ | ⟨f, m', db', hf, hdb', hreported⟩
  case inr =>
      exact Or.inr ⟨f, m', db', Memory.carryOut_error hf,
        Act.bind_error hdb' _, hreported⟩
  obtain ⟨db₂, hdb₂, hm₂⟩ := hm₁.keep hid hp.sound hp.record
  have hset : Database.backend.set id p.record db₁ = .ok () db₂ :=
    Act.tryChange_ok (f := fun db : Database => db.keepScheme id p.record) hdb₂
  have hupto : (Engine.mk Database.backend custody id).carryOut p db
      = (do
        Act.report p.reported
        p.events.forM (Database.backend.emit id)
        return p.answer : Act Database α) db₂ := (Act.bind_ok hdb₁ _).trans
          (Act.bind_ok hset _)
  cases hreport : p.reportsRecord with
  | false =>
      refine Or.inr ⟨.unspeakable, _, db₂,
        Memory.carryOut_untold hl hreport, ?_, rfl⟩
      rw [hupto, Act.report_error hreport]
      rfl
  | true =>
      obtain ⟨db₃, hdb₃, hm₃⟩ := hm₂.emits hp.events
      refine Or.inl ⟨l, db₃, Memory.carryOut_ok hl hreport, ?_, hm₃⟩
      rw [hupto, Act.report_ok hreport]
      exact Act.bind_ok hdb₃ _

end Mirrors

end SavingsClub
