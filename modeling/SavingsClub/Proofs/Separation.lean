/-
Schemes in one database do not disturb each other.

# Two runs

Whoever watches one scheme sees its record, its log and what the accounts of the
scheme hold in its asset. Two databases that show the same are `Alike`. An
operation on the scheme reads nothing else, so on alike databases it answers
alike and leaves them alike (`Alike.step`); an operation on another scheme that
shares no account with this one changes nothing of it (`Deed.unseen`). Hence a
run and what is left of it when all steps addressed to other schemes are taken
out go on alike (`Alike.run`), and `separation_of_run` says what that comes to
at every step.

# Step by step

That an operation comes to the same on alike databases is shown along its own
parts: what it looks up, the plan it is granted, and of the plan each transfer,
the record and each event. `Act.Same` says of two outcomes that they are the
same, and each way of putting actions together keeps it (`Act.Same.bind` and its
like), so that the parts are put together just as the operation is. A failure
needs no relation between what it leaves behind: the transaction gives that up.

A mint is not addressed to anybody, and it may fail in one database and not in
the other, where an account that nobody watches is full. Nobody is told of it,
so what matters is that neither outcome shows in what is watched
(`Alike.step_mint`).

# Which accounts are watched

The accounts of a scheme are known from its record, but there is a record only
from the founding on, and what other schemes did before it counts too. So the
run is looked at from its end: the record at the end names the accounts, and
since terms do not change (`after_keeps`), no record before it names any others
(`Apart.of_after`).
-/
import SavingsClub.Proofs.Deed

namespace SavingsClub

-- ================================================================ two outcomes

namespace Act

variable {σ α β : Type} {R : σ → σ → Prop} {x : Act σ α} {s s' : σ}

/-- Two outcomes are the same if both answer the same and end in related states,
or fail alike. What a failure leaves behind is given up anyway. -/
inductive Same (R : σ → σ → Prop) :
    EStateM.Result Failure σ α → EStateM.Result Failure σ α → Prop where
  | ok {a : α} {s s' : σ} (h : R s s') : Same R (.ok a s) (.ok a s')
  | error {f : Failure} {s s' : σ} : Same R (.error f s) (.error f s')

/-- Actions that come to the same one after the other come to the same
together. -/
theorem Same.bind (h : Same R (x s) (x s')) {k : α → Act σ β}
    (hk : ∀ a t t', R t t' → Same R (k a t) (k a t')) :
    Same R ((x >>= k) s) ((x >>= k) s') := by
  cases hx : x s with
  | ok a t =>
      cases hx' : x s' with
      | ok a' t' =>
          rw [hx, hx'] at h
          rw [bind_ok hx, bind_ok hx']
          cases h with
          | ok h => exact hk a t t' h
      | error f t' =>
          rw [hx, hx'] at h
          cases h
  | error f t =>
      cases hx' : x s' with
      | ok a' t' =>
          rw [hx, hx'] at h
          cases h
      | error f' t' =>
          rw [hx, hx'] at h
          rw [bind_error hx, bind_error hx']
          cases h
          exact .error

/-- So do actions whose answers are put into another form. -/
theorem Same.map (h : Same R (x s) (x s')) (f : α → β) :
    Same R ((f <$> x) s) ((f <$> x) s') := by
  rw [map_eq_pure_bind]
  exact h.bind fun a t t' ht => .ok ht

/-- What is done for each of several things is the same if it is for each of
them. -/
theorem Same.forM {f : β → Act σ Unit} {l : List β}
    (hf : ∀ b ∈ l, ∀ t t', R t t' → Same R (f b t) (f b t')) (h : R s s') :
    Same R (l.forM f s) (l.forM f s') := by
  induction l generalizing s s' with
  | nil => exact .ok h
  | cons b l ih =>
      have hfirst := hf b List.mem_cons_self s s' h
      apply Same.bind hfirst
      intro u t t' ht
      exact ih (fun b' hb' => hf b' (List.mem_cons_of_mem b hb')) ht

/-- Reporting is a matter of what is reported alone. -/
theorem Same.report (named : List Int) (h : R s s') :
    Same R (Act.report named s) (Act.report named s') := by
  cases hnamed : named.all isWritable with
  | true =>
      rw [report_ok hnamed]
      exact .ok h
  | false =>
      rw [report_error hnamed]
      exact .error

/-- Names are looked up alike everywhere, so what is kept under them decides. -/
theorem Same.lookUp {R : Database → Database → Prop} {db db' : Database}
    (names : List Text) (kept : Database → α) (hkept : kept db' = kept db)
    (h : R db db') :
    Same R (Database.lookUp names kept db)
      (Database.lookUp names kept db') := by
  cases hsearch : Database.search names with
  | ok u =>
      rw [Database.lookUp_ok hsearch, Database.lookUp_ok hsearch, hkept]
      exact .ok h
  | error e =>
      rw [Database.lookUp_error hsearch, Database.lookUp_error hsearch]
      exact .error

/-- A change is made on both sides and keeps the relation, or fails on both for
one reason. -/
theorem Same.tryChange {f : σ → Except Failure σ}
    (h : (∃ t t', f s = .ok t ∧ f s' = .ok t' ∧ R t t') ∨ ∃ e, f s = .error e
      ∧ f s' = .error e) :
    Same R (Act.tryChange f s) (Act.tryChange f s') := by
  rcases h with ⟨t, t', ht, ht', hR⟩ | ⟨e, he, he'⟩
  · rw [tryChange_ok ht, tryChange_ok ht']
    exact .ok hR
  · rw [tryChange_error he, tryChange_error he']
    exact .error

end Act

-- ============================================================= alike databases

/-- Two databases in which one scheme and the watched accounts of one asset are
the same. -/
structure Alike (id asset : Text) (watched : Text → Prop) (db db' : Database) :
    Prop where
  record : db'.scheme? id = db.scheme? id
  log : db'.log id = db.log id
  balances : ∀ holder, watched holder →
    db'.balance asset holder = db.balance asset holder

namespace Alike

variable {id asset : Text} {watched : Text → Prop} {db db₁ db' db₁' : Database}

theorem refl (db : Database) : Alike id asset watched db db :=
  ⟨rfl, rfl, fun _ _ => rfl⟩

theorem trans {last : Database} (h : Alike id asset watched db db')
    (h' : Alike id asset watched db' last) : Alike id asset watched db last :=
  ⟨h'.record.trans h.record, h'.log.trans h.log, fun holder hw =>
    (h'.balances holder hw).trans (h.balances holder hw)⟩

theorem symm (h : Alike id asset watched db db') :
    Alike id asset watched db' db :=
  ⟨h.record.symm, h.log.symm, fun holder hw => (h.balances holder hw).symm⟩

/-- Where an account gets the same, alike databases stay alike. -/
theorem setBalance (h : Alike id asset watched db db') (a p : Text)
    (amount : Numeral) :
    Alike id asset watched (db.setBalance a p amount)
      (db'.setBalance a p amount) where
  record := h.record
  log := h.log
  balances := by
    intro holder hw
    rw [Database.balance_setBalance, Database.balance_setBalance,
      h.balances holder hw]

/-- A transfer between watched accounts depends on what these hold, and on
nothing else. -/
theorem transfer (h : Alike id asset watched db db') {t : Transfer}
    (hasset : t.asset = asset) (hsender : watched t.sender)
    (hrecipient : watched t.recipient) :
    Act.Same (Alike id asset watched) (Database.backend.transfer t db)
      (Database.backend.transfer t db') := by
  apply Act.Same.tryChange (f := fun db : Database => db.transfer t)
  have hs := h.balances _ hsender
  have hr := h.balances _ hrecipient
  rw [← hasset] at hs hr
  simp only [Database.transfer_eq, hs, hr]
  cases t.verdict (db.balance t.asset t.sender)
    (db.balance t.asset t.recipient) with
  | error f => exact Or.inr ⟨f, rfl, rfl⟩
  | ok u => exact Or.inl ⟨_, _, rfl, rfl, (h.setBalance ..).setBalance ..⟩

/-- A mint into a watched account is taken on both sides or refused on both. -/
theorem mint (h : Alike id asset watched db db') {holder : Text}
    (hw : watched holder) (amount : Int) :
    Act.Same (Alike id asset watched)
      (Database.backend.mint asset holder amount db)
      (Database.backend.mint asset holder amount db') := by
  apply Act.Same.tryChange
    (f := fun db : Database => db.mint asset holder amount)
  unfold Database.mint Database.putBalance
  rw [h.balances holder hw]
  cases mintRejection? amount with
  | some r => exact Or.inr ⟨_, rfl, rfl⟩
  | none =>
      cases Database.search [asset, holder] with
      | error f => exact Or.inr ⟨f, rfl, rfl⟩
      | ok u =>
          cases Database.write (db.balance asset holder + amount) with
          | error f => exact Or.inr ⟨f, rfl, rfl⟩
          | ok numeral => exact Or.inl ⟨_, _, rfl, rfl, h.setBalance ..⟩

/-- Whether a record can be kept is a matter of the record. -/
theorem keep (h : Alike id asset watched db db') (s : Scheme) :
    Act.Same (Alike id asset watched) (Database.backend.set id s db)
      (Database.backend.set id s db') := by
  apply Act.Same.tryChange (f := fun db : Database => db.keepScheme id s)
  cases hid : Database.search [id] with
  | error f =>
      unfold Database.keepScheme
      rw [hid]
      exact Or.inr ⟨f, rfl, rfl⟩
  | ok u =>
      cases hrefusal : Database.refusal? s with
      | some f =>
          exact Or.inr ⟨_, Database.keepScheme_error hid hrefusal,
            Database.keepScheme_error hid hrefusal⟩
      | none =>
          refine Or.inl ⟨_, _, Database.keepScheme_ok hid hrefusal,
            Database.keepScheme_ok hid hrefusal, ?_, h.log, h.balances⟩
          rw [Database.scheme?_putScheme_self, Database.scheme?_putScheme_self]

/-- An event goes to the end of the same log. -/
theorem emit (h : Alike id asset watched db db') (e : Event) :
    Act.Same (Alike id asset watched) (Database.backend.emit id e db)
      (Database.backend.emit id e db') := by
  refine Act.Same.ok (a := ()) ⟨h.record, ?_, h.balances⟩
  rw [Database.log_addEvent, Database.log_addEvent, h.log]

/-- A plan that touches only watched accounts comes to the same on alike
databases. -/
theorem carryOut (h : Alike id asset watched db db') {p : Plan Answer}
    (custody : Text) (hp : ∀ t ∈ p.transfers, t.asset = asset ∧ watched t.sender
      ∧ watched t.recipient) :
    Act.Same (Alike id asset watched)
      ((⟨Database.backend, custody, id⟩ : Engine Database).carryOut p db)
      ((⟨Database.backend, custody, id⟩ : Engine Database).carryOut p db') := by
  apply Act.Same.bind
  · apply Act.Same.forM _ h
    intro r hr db db' h
    obtain ⟨hasset, hsender, hrecipient⟩ :=
      hp r.transfer (List.mem_map_of_mem hr)
    exact (h.transfer hasset hsender hrecipient).bind fun _ _ _ h =>
      .report r.reported h
  intro u db db' h
  apply Act.Same.bind (h.keep p.record)
  intro u db db' h
  apply Act.Same.bind (.report p.reported h)
  intro u db db' h
  apply Act.Same.bind
  · apply Act.Same.forM _ h
    intro e he db db' h
    exact h.emit e
  intro u db db' h
  exact .ok h

/-- A mint into an account that is not watched shows nowhere. -/
theorem of_mint {a p : Text} {amount : Int}
    (hmint : db.mint a p amount = .ok db₁)
    (hunwatched : ¬ (a = asset ∧ watched p)) :
    Alike id asset watched db db₁ := by
  obtain ⟨-, hbalances, hschemes, hevents⟩ := Database.balance_of_mint hmint
  refine ⟨Database.scheme?_congr hschemes id, Database.log_congr hevents id, ?_⟩
  intro holder hw
  rw [hbalances, if_neg, Int.add_zero]
  rintro ⟨rfl, rfl⟩
  exact hunwatched ⟨rfl, hw⟩

end Alike

-- =============================================================== one operation

namespace Engine

/-- A name that does not consist of characters is found out the same way
whatever the rows are. -/
theorem perform_of_torn {id : Text} (hid : ¬ id.isWhole = true)
    (custody : Text) (now : Int) (op : Operation) :
    ∃ f, ∀ db, ∃ db',
      (⟨Database.backend, custody, id⟩ : Engine Database).perform now op db
      = .error f db' := by
  obtain ⟨f, hsearch⟩ : ∃ f, Database.search [id] = .error f := by
    cases hsearch : Database.search [id] with
    | error f => exact ⟨f, rfl⟩
    | ok u =>
        exact absurd (Database.isWhole_of_search hsearch id List.mem_cons_self)
          hid
  have hhas (db : Database) : Database.backend.has id db = .error f db :=
    Database.lookUp_error hsearch fun db => (db.scheme? id).isSome
  have hload (db : Database) :
      (⟨Database.backend, custody, id⟩ : Engine Database).load db
      = .error f db :=
    Act.bind_error (Database.lookUp_error hsearch fun db => db.scheme? id) _
  cases op with
  | establish t =>
      exact ⟨f, fun db => ⟨db, Act.map_error (Act.bind_error (hhas db) _) _⟩⟩
  | contribute caller c =>
      -- the caller is checked before the name is looked for
      cases hcaller : authorize caller c with
      | error g =>
          refine ⟨.fault g, fun db =>
            ⟨db, Act.map_error (Act.bind_error ?_ _) _⟩⟩
          rw [hcaller]
          rfl
      | ok u =>
          refine ⟨f, fun db => ⟨db, Act.map_error ?_ _⟩⟩
          have hchecked : (Act.check (authorize caller c) : Act Database Unit)
              db = .ok u db := by
            rw [hcaller]
            rfl
          exact (Act.bind_ok hchecked _).trans (Act.bind_error (hload db) _)
  | closeRound caller =>
      exact ⟨f, fun db => ⟨db, Act.map_error (Act.bind_error (hload db) _) _⟩⟩
  | getState =>
      exact ⟨f, fun db => ⟨db, Act.map_error (Act.map_error (hload db) _) _⟩⟩
  | getScheme => exact ⟨f, fun db => ⟨db, Act.map_error (hload db) _⟩⟩
  | getDefaulters =>
      exact ⟨f, fun db => ⟨db, Act.map_error (Act.map_error (hload db) _) _⟩⟩

end Engine

namespace Office

variable {settings : Settings} {id asset : Text} {watched : Text → Prop}
  {db db' : Database} {now : Int}

-- =============================================================== schemes apart

/-- The accounts of a scheme: the one that holds the money of its rounds, and
its members'. -/
def accounts (settings : Settings) (id : Text) (s : Scheme) : List Text :=
  settings.custodyAccount id :: s.members

/-- The watched accounts are all that a scheme has, and no other scheme in its
asset has any of them. -/
structure Apart (settings : Settings) (id asset : Text) (watched : Text → Prop)
    (db : Database) : Prop where
  own : ∀ s, db.scheme? id = some s →
    s.assetId = asset ∧ ∀ holder ∈ accounts settings id s, watched holder
  others : ∀ other s, other ≠ id → db.scheme? other = some s →
    s.assetId = asset →
    ∀ holder ∈ accounts settings other s, ¬ watched holder

/-- Schemes that end apart have been apart all along. -/
theorem Apart.of_after {moves : List Move}
    (hmoves : ∀ mv ∈ moves, mv.step.isRegular = true) (hdb : Settled db)
    (h : Apart settings id asset watched (after settings db moves)) :
    Apart settings id asset watched db where
  own := by
    intro s hs
    obtain ⟨last, hlast, hsucceeds⟩ := after_keeps hmoves hdb hs
    obtain ⟨hasset, haccounts⟩ := h.own last hlast
    refine ⟨hsucceeds.assetId.symm.trans hasset, ?_⟩
    unfold accounts at haccounts ⊢
    rw [← hsucceeds.members]
    exact haccounts
  others := by
    intro other s hother hs hasset
    obtain ⟨last, hlast, hsucceeds⟩ := after_keeps hmoves hdb hs
    have hunwatched :=
      h.others other last hother hlast (hsucceeds.assetId.trans hasset)
    unfold accounts at hunwatched ⊢
    rw [← hsucceeds.members]
    exact hunwatched

/-- Whoever takes part in a transfer of a plan has an account of the scheme. -/
theorem mem_accounts_of_granted {op : Operation} {p : Plan Answer}
    (h : op.Granted (settings.custodyAccount id) now (db.scheme? id) p) :
    ∀ t ∈ p.transfers, ∃ s, db.scheme? id = some s ∧ t.asset = s.assetId
      ∧ t.sender ∈ accounts settings id s
        ∧ t.recipient ∈ accounts settings id s := by
  intro t ht
  obtain ⟨s, hs, hasset, hparties⟩ := h.parties t ht
  refine ⟨s, hs, hasset, ?_⟩
  rcases hparties with ⟨hsender, hrecipient⟩ | ⟨hsender, hrecipient⟩
  · exact ⟨List.mem_cons_of_mem _ hsender, hrecipient ▸ List.mem_cons_self⟩
  · exact ⟨hsender ▸ List.mem_cons_self, List.mem_cons_of_mem _ hrecipient⟩

-- ==================================================================== one step

/-- A step that is not addressed to another scheme. -/
def Step.concerns (id : Text) (st : Step) : Bool := st.addressee?.all (· = id)

/-- A step addressed to another scheme changes nothing that is watched. -/
theorem Deed.unseen {st : Step} {a : Except Failure Answer}
    (h : Deed (.ok settings) db now st a db')
    (hst : st.concerns id = false)
    (hapart : Apart settings id asset watched db) :
    Alike id asset watched db db' := by
  cases h with
  | nothing => exact .refl db
  | minted => cases hst
  | @done s other op p paid db' hs hgranted hpaid hdone =>
      cases hs
      have hother : other ≠ id := of_decide_eq_false hst
      refine ⟨hdone.otherRecords id hother.symm,
        hdone.otherLogs id hother.symm, ?_⟩
      intro holder hw
      rw [hdone.balances, Transfer.total_eq_zero, Int.add_zero]
      intro t ht
      obtain ⟨s, hs, hasset, hsender, hrecipient⟩ :=
        mem_accounts_of_granted hgranted t ht
      by_cases hsame : s.assetId = asset
      · have hunwatched := hapart.others other s hother hs hsame
        apply Transfer.net_of_holder_ne
        · rintro rfl
          exact hunwatched _ hsender hw
        · rintro rfl
          exact hunwatched _ hrecipient hw
      · apply Transfer.net_of_asset_ne
        rw [hasset]
        exact Ne.symm hsame

end Office

namespace Alike

variable {settings : Settings} {id asset : Text} {watched : Text → Prop}
  {db db' : Database} {α : Type}

/-- Outcomes that are the same are committed alike, or given up alike. -/
theorem transaction (h : Alike id asset watched db db') {act : Act Database α}
    (hact : Act.Same (Alike id asset watched) (act db) (act db')) :
    (db'.transaction act).1 = (db.transaction act).1
      ∧ Alike id asset watched (db.transaction act).2
        (db'.transaction act).2 := by
  rw [Database.transaction_eq, Database.transaction_eq]
  generalize act db = r at hact ⊢
  generalize act db' = r' at hact ⊢
  cases hact with
  | ok h' => exact ⟨rfl, h'⟩
  | error => exact ⟨rfl, h⟩

/-- A question is answered alike, and whatever it may have changed is given
up. -/
theorem peek {act : Act Database α}
    (hact : Act.Same (Alike id asset watched) (act db) (act db')) :
    (db'.peek act).1 = (db.peek act).1 := by
  cases hr : act db with
  | ok a db₁ =>
      cases hr' : act db' with
      | ok a' db₁' =>
          rw [hr, hr'] at hact
          rw [Database.peek_ok hr, Database.peek_ok hr']
          cases hact
          rfl
      | error f db₁' =>
          rw [hr, hr'] at hact
          cases hact
  | error f db₁ =>
      cases hr' : act db' with
      | ok a' db₁' =>
          rw [hr, hr'] at hact
          cases hact
      | error f' db₁' =>
          rw [hr, hr'] at hact
          rw [Database.peek_error hr, Database.peek_error hr']
          cases hact
          rfl

/-- An operation on the scheme comes to the same on alike databases. -/
theorem perform (h : Alike id asset watched db db')
    (hapart : Office.Apart settings id asset watched db) (now : Int)
    (op : Operation) :
    Act.Same (Alike id asset watched)
      (((Office.ofSettings settings).engine settings id).perform now op db)
      (((Office.ofSettings settings).engine settings id).perform now
        op db') := by
  by_cases hid : id.isWhole = true
  case neg =>
      obtain ⟨f, hf⟩ :=
        Engine.perform_of_torn hid (settings.custodyAccount id) now op
      obtain ⟨db₁, hdb₁⟩ := hf db
      obtain ⟨db₁', hdb₁'⟩ := hf db'
      show Act.Same
        _ (Engine.perform ⟨Database.backend, settings.custodyAccount id, id⟩ now
          op db)
        (Engine.perform ⟨Database.backend, settings.custodyAccount id, id⟩ now
          op db')
      rw [hdb₁, hdb₁']
      exact .error
  rw [Office.perform_eq settings hid db,
    Office.perform_eq settings hid db', h.record]
  cases hr : op.ruling (settings.custodyAccount id) id now (db.scheme? id) with
  | error f => exact .error
  | ok r =>
      cases r with
      | look a => exact .ok h
      | act p =>
          apply h.carryOut
          intro t ht
          obtain ⟨s, hs, hasset, hsender, hrecipient⟩ :=
            Office.mem_accounts_of_granted
              (Operation.ruling_eq_act_iff.mp hr) t ht
          obtain ⟨hasset', haccounts⟩ := hapart.own s hs
          exact ⟨hasset.trans hasset', haccounts _ hsender,
            haccounts _ hrecipient⟩

/-- The log of the scheme reads the same on alike databases. -/
theorem history (h : Alike id asset watched db db') (now : Int) :
    ((Office.ofSettings settings).step db' now (.history id)).1
      = ((Office.ofSettings settings).step db now (.history id)).1 := by
  have hhas : Act.Same (Alike id asset watched) (Database.backend.has id db)
      (Database.backend.has id db') := by
    apply Act.Same.lookUp [id] (fun db => (db.scheme? id).isSome) _ h
    rw [h.record]
  have hlog : Act.Same (Alike id asset watched) (Database.backend.history id db)
      (Database.backend.history id db') := by
    apply hhas.bind
    intro found db db' h
    cases found with
    | false => exact .error
    | true =>
        show Act.Same _ (.ok (db.log id) db) (.ok (db'.log id) db')
        rw [h.log]
        exact .ok h
  exact peek (hlog.map Answer.log)

/-- A mint leaves alike databases alike, whoever gets the money. -/
theorem step_mint (h : Alike id asset watched db db') (now : Int) (a p : Text)
    (amount : Int) :
    Alike id asset watched
      ((Office.ofSettings settings).step db now (.ledger (.mint a p amount))).2
      ((Office.ofSettings settings).step db' now
        (.ledger (.mint a p amount))).2 := by
  by_cases hwatched : a = asset ∧ watched p
  · obtain ⟨rfl, hw⟩ := hwatched
    refine (h.transaction ?_).2
    apply (h.mint hw amount).bind
    intro u db db' h
    apply Act.Same.bind
    · exact Act.Same.lookUp [a, p] (fun db => db.balance a p)
        (h.balances p hw) h
    · intro n db db' h
      exact .ok h
  · -- an account that is not watched may be full in one database and not in the
    -- other
    have hunseen : ∀ db : Database, Alike id asset watched db
        ((Office.ofSettings settings).step db now
          (.ledger (.mint a p amount))).2 := by
      intro db
      have hdeed : Office.Deed (.ok settings) db now
        (.ledger (.mint a p amount))
          ((Office.ofSettings settings).step db now
            (.ledger (.mint a p amount))).1
          ((Office.ofSettings settings).step db now
            (.ledger (.mint a p amount))).2 :=
        Office.deed_of_mint a p amount
      generalize (Office.ofSettings settings).step db now
        (.ledger (.mint a p amount)) = r at hdeed ⊢
      obtain ⟨answer, db₁⟩ := r
      cases hdeed with
      | nothing => exact .refl _
      | minted hmint => exact of_mint hmint hwatched
    exact ((hunseen db).symm.trans h).trans (hunseen db')

/-- A step on the scheme answers alike and leaves alike databases alike. -/
theorem step_scheme (h : Alike id asset watched db db')
    (hapart : Office.Apart settings id asset watched db) (now : Int)
    (op : Operation) :
    ((Office.ofSettings settings).step db' now (.scheme id op)).1
        = ((Office.ofSettings settings).step db now (.scheme id op)).1
      ∧ Alike id asset watched
        ((Office.ofSettings settings).step db now (.scheme id op)).2
        ((Office.ofSettings settings).step db' now (.scheme id op)).2 := by
  have hsame := h.perform hapart now op
  have hstep : ∀ db, (Office.ofSettings settings).step db now (.scheme id op)
      = if op.isReading then
          db.peek (((Office.ofSettings settings).engine settings id).perform
            now op)
        else
          db.reportedTransaction
            (((Office.ofSettings settings).engine settings id).perform now
              op) :=
    fun _ => rfl
  rw [hstep, hstep]
  cases op.isReading with
  | true =>
      refine ⟨peek hsame, ?_⟩
      show Alike id asset watched (db.peek _).2 (db'.peek _).2
      rw [Database.peek_snd, Database.peek_snd]
      exact h
  | false =>
      obtain ⟨hanswer, halike⟩ := h.transaction hsame
      exact ⟨congrArg (Except.mapError Failure.reported) hanswer, halike⟩

/-- A step that is not addressed to another scheme leaves alike databases alike,
and if it is addressed to this one, it answers alike. -/
theorem step (h : Alike id asset watched db db')
    (hapart : Office.Apart settings id asset watched db) (now : Int)
    {st : Office.Step} (hst : st.isRegular = true)
    (hconcerns : st.concerns id = true) :
    (st.addressee? = some id → ((Office.ofSettings settings).step db' now st).1
        = ((Office.ofSettings settings).step db now st).1)
      ∧ Alike id asset watched ((Office.ofSettings settings).step db now st).2
        ((Office.ofSettings settings).step db' now st).2 := by
  cases st with
  | scheme key op =>
      obtain rfl : key = id := of_decide_eq_true hconcerns
      obtain ⟨hanswer, halike⟩ := h.step_scheme hapart now op
      exact ⟨fun _ => hanswer, halike⟩
  | history key =>
      obtain rfl : key = id := of_decide_eq_true hconcerns
      refine ⟨fun _ => h.history now, ?_⟩
      show Alike key asset watched (db.peek _).2 (db'.peek _).2
      rw [Database.peek_snd, Database.peek_snd]
      exact h
  | amend key edit => cases hst
  | ledger c =>
      refine ⟨fun haddressee => (by cases haddressee), ?_⟩
      cases c with
      | balance a p =>
          have hidle : ∀ db : Database,
              ((Office.ofSettings settings).step db now
                (.ledger (.balance a p))).2 = db :=
            fun db => Office.step_of_balance a p
          rw [hidle, hidle]
          exact h
      | mint a p amount => exact h.step_mint now a p amount
      | transfer t => cases hst

/-- A run goes on as what is left of it without the steps addressed to other
schemes. -/
theorem run {moves : List Office.Move} (h : Alike id asset watched db db')
    (hmoves : ∀ mv ∈ moves, mv.step.isRegular = true) (hdb : Office.Settled db)
    (hapart : Office.Apart settings id asset watched
      (Office.after settings db moves)) :
    Alike id asset watched (Office.after settings db moves)
      (Office.after settings db'
        (moves.filter fun mv => mv.step.concerns id)) := by
  -- both databases go on together, or the full run goes on alone and nothing of
  -- it shows
  induction moves generalizing db db' with
  | nil => exact h
  | cons mv moves ih =>
      have hmv := hmoves mv List.mem_cons_self
      have hrest := fun mv' hmv' => hmoves mv' (List.mem_cons_of_mem mv hmv')
      have hnow := hapart.of_after hmoves hdb
      have hdeed : Office.Deed (.ok settings) db mv.now mv.step
          ((Office.ofSettings settings).step db mv.now mv.step).1
          ((Office.ofSettings settings).step db mv.now mv.step).2 :=
        Office.deed_of_step (.ok settings) db mv.now hmv
      by_cases hconcerns : mv.step.concerns id = true
      · have hkept : (mv :: moves).filter (fun mv => mv.step.concerns id)
            = mv :: moves.filter fun mv => mv.step.concerns id :=
          List.filter_cons_of_pos hconcerns
        rw [hkept]
        exact ih (h.step hnow mv.now hmv hconcerns).2 hrest
          (hdeed.settled hdb) hapart
      · have hdropped : (mv :: moves).filter (fun mv => mv.step.concerns id)
            = moves.filter fun mv => mv.step.concerns id :=
          List.filter_cons_of_neg hconcerns
        rw [hdropped]
        have hunseen := hdeed.unseen (Bool.eq_false_iff.mpr hconcerns) hnow
        exact ih (hunseen.symm.trans h) hrest (hdeed.settled hdb) hapart

end Alike

namespace Office

variable {settings : Settings} {id : Text} {db : Database}

/-- If no other scheme in the asset has one of a scheme's accounts, those are
the ones to watch. -/
theorem exists_apart
    (h : ∀ s other t, db.scheme? id = some s → other ≠ id →
      db.scheme? other = some t →
      t.assetId = s.assetId → ∀ holder ∈ accounts settings other t,
        holder ∉ accounts settings id s) :
    ∃ asset watched, Apart settings id asset watched db := by
  cases hs : db.scheme? id with
  | none =>
      refine ⟨"", fun _ => False, ?_, fun _ _ _ _ _ _ _ => not_false⟩
      intro s hs'
      rw [hs] at hs'
      cases hs'
  | some s =>
      refine ⟨s.assetId, fun holder => holder ∈ accounts settings id s, ?_, ?_⟩
      · intro s' hs'
        cases hs.symm.trans hs'
        exact ⟨rfl, fun _ hholder => hholder⟩
      · intro other t hother ht hasset
        exact h s other t hs hother ht hasset

/-- Taking out all steps addressed to other schemes changes nothing for a scheme
that shares no account with any other scheme in its asset: its steps get the
same answers, and after every step that is left its record and its log are the
same, and so is what its accounts hold in its asset. -/
theorem separation_of_run (settings : Settings) (id : Text) (moves : List Move)
    (hmoves : ∀ mv ∈ moves, mv.step.isRegular = true)
    (hapart : ∀ s other t, (after settings .empty moves).scheme? id = some s →
      other ≠ id →
      (after settings .empty moves).scheme? other = some t →
      t.assetId = s.assetId →
      ∀ holder ∈ accounts settings other t, holder ∉ accounts settings id s)
    (before rest : List Move) (mv : Move)
    (hsplit : moves = before ++ mv :: rest) (hmv : mv.step.concerns id = true) :
    let office := ofSettings settings
    let here := office.step (after settings .empty before) mv.now mv.step
    let alone := office.step
      (after settings .empty (before.filter fun mv => mv.step.concerns id))
      mv.now mv.step
    (mv.step.addressee? = some id → alone.1 = here.1)
      ∧ alone.2.scheme? id = here.2.scheme? id
      ∧ (∀ now, (office.step alone.2 now (.history id)).1
        = (office.step here.2 now (.history id)).1)
      ∧ ∀ s, (after settings .empty moves).scheme? id = some s →
        ∀ holder ∈ accounts settings id s,
          alone.2.balance s.assetId holder
          = here.2.balance s.assetId holder := by
  intro office here alone
  subst hsplit
  obtain ⟨asset, watched, hend⟩ := exists_apart hapart
  have hbefore := fun mv' hmv' => hmoves mv' (List.mem_append_left _ hmv')
  have hrest := fun mv' hmv' => hmoves mv' (List.mem_append_right before hmv')
  have hwatched := hend.own
  rw [after_append] at hend
  have hnow := hend.of_after hrest (settled_after hbefore settled_empty)
  have halike := (Alike.refl .empty).run hbefore settled_empty hnow
  obtain ⟨hanswer, hnext⟩ := halike.step hnow mv.now (hmoves mv (by simp)) hmv
  refine ⟨hanswer, hnext.record, hnext.history, ?_⟩
  intro s hs holder hholder
  obtain ⟨hasset, haccounts⟩ := hwatched s hs
  rw [hasset]
  exact hnext.balances holder (haccounts holder hholder)

/-- A record that is found is in some row. -/
theorem exists_row {s : Scheme} (h : db.scheme? id = some s) :
    ∃ r ∈ db.schemes, r.id = id ∧ r.toScheme = s := by
  obtain ⟨r, hr, hs⟩ := Option.map_eq_some_iff.mp h
  have hid := List.find?_some hr
  exact ⟨r, List.mem_of_find?_eq_some hr, of_decide_eq_true hid, hs⟩

/-- Three schemes in turn: one shares a member with the club but not its asset,
one shares the asset but no member, and both are begun before the club and go on
beside it. -/
def threeSchemes : List Move :=
  [⟨0, .ledger (.mint "usd" "ana" 20)⟩, ⟨0, .ledger (.mint "usd" "cy" 5)⟩,
    ⟨0, .ledger (.mint "eur" "ana" 7)⟩,
    ⟨1, .scheme "den"
      (.establish ⟨"eve", ["ana", "eve"], .integer 7, "eur", .integer 100⟩)⟩,
    ⟨1, .scheme "pool"
      (.establish ⟨"cy", ["cy"], .integer 5, "usd", .integer 100⟩)⟩,
    ⟨1, .scheme "club"
      (.establish ⟨"ana", ["ana", "bo"], .integer 5, "usd", .integer 100⟩)⟩,
    ⟨2, .scheme "den" (.contribute (some "ana") "ana")⟩,
    ⟨2, .scheme "club" (.contribute (some "ana") "ana")⟩,
    ⟨3, .scheme "pool" (.contribute (some "cy") "cy")⟩,
    ⟨3, .ledger (.mint "usd" "bo" 5)⟩]

theorem separation_of_threeSchemes :
    let office := ofSettings .standard
    let moves :=
      threeSchemes ++ [⟨4, .scheme "club" (.contribute (some "bo") "bo")⟩]
    let here := office.step (after .standard .empty threeSchemes) 4
      (.scheme "club" (.contribute (some "bo") "bo"))
    let alone := office.step (after .standard .empty
      (threeSchemes.filter fun mv => mv.step.concerns "club")) 4
      (.scheme "club" (.contribute (some "bo") "bo"))
    here.1 = .ok (.state ⟨1, [], 104⟩) ∧ alone.1 = here.1
      ∧ alone.2.balance "usd" "ana" = here.2.balance "usd" "ana"
      ∧ (after .standard .empty moves).schemes.length = 3 := by
  intro office moves here alone
  have hclub : (after .standard .empty moves).scheme? "club"
      = some ⟨"ana", ["ana", "bo"], 5, "usd", 100, 104, 1, [], []⟩ := by
    decide +kernel
  have hrows : ∀ r ∈ (after .standard .empty moves).schemes, r.id ≠ "club" →
      r.toScheme.assetId = "usd" →
      ∀ holder ∈ accounts .standard r.id r.toScheme,
        holder ∉ (["scheme:club", "ana", "bo"] : List Text) := by
    decide +kernel
  have hapart : ∀ s (other : Text) t,
    (after .standard .empty moves).scheme? "club" = some s →
      other ≠ "club" → (after .standard .empty moves).scheme? other = some t →
      t.assetId = s.assetId → ∀ holder ∈ accounts .standard other t,
        holder ∉ accounts .standard "club" s := by
    intro s other t hs hother ht hasset
    cases hclub.symm.trans hs
    obtain ⟨r, hr, rfl, rfl⟩ := exists_row ht
    exact hrows r hr hother hasset
  obtain ⟨hanswer, -, -, hbalances⟩ := separation_of_run .standard "club" moves
    (by decide) hapart threeSchemes []
    ⟨4, .scheme "club" (.contribute (some "bo") "bo")⟩ rfl (by decide)
  exact ⟨by decide +kernel, hanswer rfl,
    hbalances _ hclub "ana" (by decide), by decide +kernel⟩

end Office

end SavingsClub
