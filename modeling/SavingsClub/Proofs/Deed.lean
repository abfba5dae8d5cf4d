/-
What a step may do to the office.

# Deeds

The rules of the club speak of operations on schemes, of lookups and of mints. A
change by hand and a direct transfer are past them, and so not regular
(`Step.isRegular`). `Deed` lists what a regular step may leave behind: the rows
as they were, a mint, or all that an operation was granted. `deed_of_step` says
that nothing else happens, whatever the rows are and whatever fails. Whoever
asks what becomes of an account or of a record goes through these three cases.

# Transfers

What becomes of a transfer is a matter of what its two accounts hold and of
nothing else in the rows (`Database.transfer_eq`). That is read in two ways:
what it takes to be made, and that two databases in which the accounts hold the
same do the same.

# Runs

A run is a list of moves taken one after another in one database (`after`). All
along nobody is overdrawn (`backed_after`), and a record that is there goes on
as `Scheme.Progress` says (`Deed.progress`), so its terms stay what they are
(`after_keeps`). The latter needs an argument: a record is read in another form
than it is written, and only one that has been read before is read again as it
is (`Settled`).
-/
import SavingsClub.Proofs.Commit
import SavingsClub.Proofs.Course

namespace SavingsClub

-- ================================================================== a transfer

theorem Database.search_eq_error {names : List Text} {f : Failure}
    (h : search names = .error f) : ∃ tear, f = .unsearchable tear := by
  unfold search at h
  split at h
  · cases h
    exact ⟨_, rfl⟩
  · cases h

namespace Transfer

variable {t : Transfer} {available held : Int}

theorem rejection?_eq_none (h : t.rejection? = none) :
    0 < t.amount ∧ t.sender ≠ t.recipient := by
  unfold rejection? at h
  split at h
  · cases h
  next hamount =>
    split at h
    · cases h
    next hself => exact ⟨Int.not_le.mp hamount, hself⟩

/-- What is written of the two accounts of a transfer, given what they hold, if
it is made. -/
def verdict (t : Transfer) (available held : Int) :
    Except Failure (Numeral × Numeral) :=
  match t.rejection? with
  | some r => .error (.fault (.transferRejected r))
  | none => do
    Database.search [t.asset, t.sender]
    if available < t.amount then
      throw (.fault (.insufficientFunds t.sender t.amount available))
    else
      Database.search [t.asset, t.recipient]
      let paid ← Database.write (available - t.amount)
      let received ← Database.write (held + t.amount)
      return (paid, received)

/-- What it takes to make a transfer. -/
theorem verdict_eq_ok {written : Numeral × Numeral}
    (h : t.verdict available held = .ok written) :
    0 < t.amount ∧ t.amount ≤ available := by
  unfold verdict at h
  cases hrejected : t.rejection? with
  | some r =>
      rw [hrejected] at h
      cases h
  | none =>
      rw [hrejected] at h
      obtain ⟨u, -, h⟩ := eq_ok_of_bind h
      change (if _ then _ else _) = _ at h
      split at h
      · cases h
      next hfunds =>
          exact ⟨(rejection?_eq_none hrejected).1, Int.not_lt.mp hfunds⟩

end Transfer

namespace Database

variable {db db₁ db' : Database} {t : Transfer} {ts : List Transfer} {u : Unit}

-- ======================================================================= money

/-- What becomes of a transfer is a matter of the two accounts alone. -/
theorem transfer_eq (db : Database) (t : Transfer) :
    db.transfer t
      = (t.verdict (db.balance t.asset t.sender)
        (db.balance t.asset t.recipient)).map
        fun written => (db.setBalance t.asset t.sender written.1).setBalance
          t.asset t.recipient written.2 := by
  unfold transfer Transfer.verdict
  cases t.rejection? with
  | some r => rfl
  | none =>
      cases search [t.asset, t.sender] with
      | error f => rfl
      | ok u =>
          show (if _ then _ else _) = Except.map _ (if _ then _ else _)
          by_cases hfunds : db.balance t.asset t.sender < t.amount
          · rw [if_pos hfunds, if_pos hfunds]
            rfl
          rw [if_neg hfunds, if_neg hfunds]
          cases search [t.asset, t.recipient] with
          | error f => rfl
          | ok u =>
              show (putBalance _ _ _ _ >>= _) = Except.map _ (write _ >>= _)
              unfold putBalance
              cases write (db.balance t.asset t.sender - t.amount) with
              | error f => rfl
              | ok paid =>
                  show Except.map _ (write _) = Except.map _ (write _ >>= _)
                  cases write (db.balance t.asset t.recipient + t.amount)
                    <;> rfl

/-- What it takes to make a transfer. -/
theorem funds_of_transfer (h : db.transfer t = .ok db') :
    0 < t.amount ∧ t.amount ≤ db.balance t.asset t.sender := by
  rw [transfer_eq] at h
  obtain ⟨u, hverdict, -⟩ := eq_ok_of_map h
  exact Transfer.verdict_eq_ok hverdict

/-- The first of several transfers is made before the others. -/
theorem transfers_cons_eq_ok
    (h : (t :: ts).forM backend.transfer db = .ok u db') :
    ∃ db₁, db.transfer t = .ok db₁
      ∧ ts.forM backend.transfer db₁ = .ok u db' := by
  obtain ⟨u', db₁, hfirst, hrest⟩ := Act.bind_eq_ok h
  exact ⟨db₁, Act.tryChange_eq_ok (f := fun db : Database => db.transfer t)
    hfirst, hrest⟩

/-- Looking up what somebody has changes nothing. -/
theorem eq_of_balance {asset holder : Text} {n : Int}
    (h : backend.balance asset holder db = .ok n db') : db' = db :=
  (lookUp_eq_ok (fun db => db.balance asset holder) h).2.2

/-- A mint that is made has looked up the account. -/
theorem search_of_mint {asset holder : Text} {amount : Int}
    (h : db.mint asset holder amount = .ok db') :
    search [asset, holder] = .ok () := by
  unfold mint at h
  cases hrejected : mintRejection? amount with
  | some r =>
      rw [hrejected] at h
      cases h
  | none =>
      rw [hrejected] at h
      obtain ⟨u, hsearch, -⟩ := eq_ok_of_bind h
      exact hsearch

/-- A mint adds a positive amount to one account and writes nothing else. -/
theorem balance_of_mint {asset holder : Text} {amount : Int}
    (h : db.mint asset holder amount = .ok db') :
    0 < amount
      ∧ (∀ a p, db'.balance a p
        = db.balance a p + if a = asset ∧ p = holder then amount else 0)
      ∧ db'.schemes = db.schemes ∧ db'.events = db.events := by
  unfold mint mintRejection? at h
  by_cases hamount : amount ≤ 0
  · rw [if_pos hamount] at h
    cases h
  rw [if_neg hamount] at h
  obtain ⟨u, -, h⟩ := eq_ok_of_bind h
  obtain ⟨numeral, hnumeral, rfl⟩ := putBalance_eq_ok h
  refine ⟨Int.not_le.mp hamount, fun a p => ?_, rfl, rfl⟩
  rw [balance_setBalance, hnumeral]
  split
  case isTrue haccount => rw [haccount.1, haccount.2]
  case isFalse => exact (Int.add_zero _).symm

/-- Nobody has less than nothing. -/
def Backed (db : Database) : Prop := ∀ asset holder, 0 ≤ db.balance asset holder

theorem backed_empty : Backed empty := fun _ _ => Int.le_refl 0

theorem Backed.transfer (hdb : db.Backed) (h : db.transfer t = .ok db') :
    db'.Backed := by
  intro asset holder
  obtain ⟨hpos, hfunds⟩ := funds_of_transfer h
  obtain ⟨hbalances, -⟩ := balance_of_transfer h
  have hold := hdb asset holder
  rw [hbalances]
  unfold Transfer.net
  by_cases hsender : asset = t.asset ∧ holder = t.sender
  · rw [← hsender.1, ← hsender.2] at hfunds
    rw [if_pos hsender]
    split <;> omega
  · rw [if_neg hsender]
    split <;> omega

theorem Backed.transfers (hdb : db.Backed)
    (h : ts.forM backend.transfer db = .ok u db') :
    db'.Backed := by
  induction ts generalizing db with
  | nil =>
      cases h
      exact hdb
  | cons t ts ih =>
      obtain ⟨db₁, hfirst, hrest⟩ := transfers_cons_eq_ok h
      exact ih (hdb.transfer hfirst) hrest

end Database

-- ============================================================= what is granted

namespace Scheme

variable {s next : Scheme} {now : Int}

/-- The terms of a record that goes on are its terms. -/
structure Succeeds (s next : Scheme) : Prop where
  admin : next.admin = s.admin
  members : next.members = s.members
  contributionAmount : next.contributionAmount = s.contributionAmount
  assetId : next.assetId = s.assetId
  roundDuration : next.roundDuration = s.roundDuration

theorem Succeeds.refl (s : Scheme) : s.Succeeds s := ⟨rfl, rfl, rfl, rfl, rfl⟩

theorem Succeeds.trans {last : Scheme} (h : s.Succeeds next)
    (h' : next.Succeeds last) :
    s.Succeeds last :=
  ⟨h'.admin.trans h.admin, h'.members.trans h.members,
    h'.contributionAmount.trans h.contributionAmount,
    h'.assetId.trans h.assetId, h'.roundDuration.trans h.roundDuration⟩

theorem Progress.succeeds (h : s.Progress now next) : s.Succeeds next := by
  cases h with
  | stays => exact .refl s
  | pays => exact ⟨rfl, rfl, rfl, rfl, rfl⟩
  | completes haccept hlast hnext | closes hdue hnext =>
      obtain ⟨-, -, rfl⟩ := advance_eq_ok hnext
      exact ⟨rfl, rfl, rfl, rfl, rfl⟩

theorem joined_of_map {l : List Text} (h : l.map Text.joined = l) :
    ∀ p ∈ l, p.joined = p := by
  intro p hp
  exact List.map_inj_left.mp (h.trans (List.map_id l).symm) p hp

theorem reread_eq_self_iff :
    s.reread = s ↔ s.members.map Text.joined = s.members
      ∧ s.paidMembers.map Text.joined = s.paidMembers
      ∧ s.defaulters.map Text.joined = s.defaulters := by
  obtain ⟨admin, members, amount, asset, duration, deadline, round, paid,
    defaulters⟩ := s
  simp [reread]

/-- A record that is read as it is written goes on to be: whoever is entered is
a member. -/
theorem Progress.reread (hs : s.reread = s) (h : s.Progress now next) :
    next.reread = next := by
  obtain ⟨hmembers, hpaid, hdefaulters⟩ := reread_eq_self_iff.mp hs
  rw [reread_eq_self_iff]
  cases h with
  | stays => exact ⟨hmembers, hpaid, hdefaulters⟩
  | @pays c payer haccept hopen =>
      have hc := joined_of_map hmembers c (accept_eq_ok haccept).2.1
      refine ⟨hmembers, ?_, hdefaulters⟩
      show (s.paidMembers ++ [c]).map Text.joined = s.paidMembers ++ [c]
      rw [List.map_append, hpaid, List.map_singleton, hc]
  | completes haccept hlast hnext =>
      obtain ⟨-, -, rfl⟩ := advance_eq_ok hnext
      exact ⟨hmembers, rfl, hdefaulters⟩
  | closes hdue hnext =>
      obtain ⟨-, -, rfl⟩ := advance_eq_ok hnext
      refine ⟨hmembers, rfl, ?_⟩
      show (Rotation.defaulters s.members s.paidMembers).map Text.joined = _
      conv_rhs => rw [← List.map_id (Rotation.defaulters _ _)]
      exact List.map_congr_left fun p hp =>
        joined_of_map hmembers p (List.mem_of_mem_filter hp)

end Scheme

/-- The record of a plan is one that the record found may give way to. -/
theorem Operation.Granted.progress {custody : Text} {now : Int} {s : Scheme}
    {op : Operation} {p : Plan Answer} (h : op.Granted custody now (some s) p) :
    s.Progress now p.record := by
  cases h with
  | pays haccept hopen => exact .pays haccept hopen
  | completes haccept hlast hnext => exact .completes haccept hlast hnext
  | closes hdue hnext => exact .closes hdue hnext

/-- What a plan moves goes from a member to custody or from custody to a member,
in the asset of the scheme. -/
theorem Operation.Granted.parties {custody : Text} {now : Int}
    {found : Option Scheme} {op : Operation} {p : Plan Answer}
    (h : op.Granted custody now found p) :
    ∀ t ∈ p.transfers, ∃ s, found = some s ∧ t.asset = s.assetId
      ∧ (t.sender ∈ s.members ∧ t.recipient = custody
        ∨ t.sender = custody ∧ t.recipient ∈ s.members) := by
  intro t ht
  cases h with
  | founds | closes => cases ht
  | @pays c s payer haccept hopen =>
      rw [List.mem_singleton.mp ht]
      exact ⟨s, rfl, rfl, Or.inl ⟨(Scheme.accept_eq_ok haccept).2.1, rfl⟩⟩
  | @completes c s next payer haccept hlast hnext =>
      rcases List.mem_cons.mp ht with rfl | ht
      · exact ⟨s, rfl, rfl, Or.inl ⟨(Scheme.accept_eq_ok haccept).2.1, rfl⟩⟩
      · rw [List.mem_singleton.mp ht]
        exact ⟨s, rfl, rfl, Or.inr ⟨rfl, List.get_mem ..⟩⟩

namespace Office

-- ======================================================================= deeds

/-- A step of which the rules of the club speak: neither a change by hand nor a
direct transfer. -/
def Step.isRegular : Step → Bool
  | .scheme .. | .history _ | .ledger (.balance ..) | .ledger (.mint ..) => true
  | .ledger (.transfer _) | .amend .. => false

/-- The scheme to which a step is addressed. -/
def Step.addressee? : Step → Option Text
  | .scheme id _ | .history id | .amend id _ => some id
  | .ledger _ => none

/-- What a step may answer, and what it may make of the rows. -/
inductive Deed (settings : Except SettingsFault Settings) (db : Database)
    (now : Int) : Step → Except Failure Answer → Database → Prop where
  | nothing {st : Step} {a : Except Failure Answer} :
      Deed settings db now st a db
  | minted {asset holder : Text} {amount : Int} {a : Answer} {db' : Database}
      (hmint : db.mint asset holder amount = .ok db') :
      Deed settings db now (.ledger (.mint asset holder amount)) (.ok a) db'
  | done {s : Settings} {id : Text} {op : Operation} {p : Plan Answer}
      {paid db' : Database} (hs : settings = .ok s)
      (hgranted : op.Granted (s.custodyAccount id) now (db.scheme? id) p)
      (hpaid : p.transfers.forM Database.backend.transfer db = .ok () paid)
      (hdone : Database.Committed id p db db') :
      Deed settings db now (.scheme id op) (.ok p.answer) db'

variable {settings : Except SettingsFault Settings} {db db' : Database}
  {now : Int} {id : Text} {st : Step} {a : Except Failure Answer}

theorem Deed.of_eq (h : Deed settings db now st a db')
    (hstep : (⟨Database.backend, settings⟩ : Office).step db now st
      = (a, db')) :
    Deed settings db now st
      ((⟨Database.backend, settings⟩ : Office).step db now st).1
      ((⟨Database.backend, settings⟩ : Office).step db now st).2 := by
  rw [hstep]
  exact h

/-- A step that leaves the rows as they were has done nothing. -/
theorem Deed.of_snd_eq
    (h : ((⟨Database.backend, settings⟩ : Office).step db now st).2 = db) :
    Deed settings db now st
      ((⟨Database.backend, settings⟩ : Office).step db now st).1
      ((⟨Database.backend, settings⟩ : Office).step db now st).2 :=
  Deed.nothing.of_eq (Prod.ext rfl h)

/-- Whoever only looks leaves the rows as they were. -/
theorem step_of_reading {op : Operation} (hop : op.isReading = true) :
    ((⟨Database.backend, settings⟩ : Office).step db now (.scheme id op)).2
    = db := by
  cases settings with
  | error f => rfl
  | ok s =>
      show (if op.isReading
        then Database.peek db _ else Database.reportedTransaction db _).2 = db
      rw [hop]
      exact Database.peek_snd ..

theorem deed_of_scheme (op : Operation) :
    Deed settings db now (.scheme id op)
      ((⟨Database.backend, settings⟩ : Office).step db now (.scheme id op)).1
      ((⟨Database.backend, settings⟩ : Office).step db now
        (.scheme id op)).2 := by
  cases hop : op.isReading with
  | true => exact .of_snd_eq (step_of_reading hop)
  | false =>
      cases settings with
      | error f => exact .of_snd_eq rfl
      | ok s =>
          have hstep : (⟨Database.backend, .ok s⟩ : Office).step db now
              (.scheme id op) = _ :=
            step_of_change hop
          cases hdone : (⟨Database.backend, s.custodyAccount id,
            id⟩ : Engine Database).perform now
              op db with
          | error f db' =>
              rw [hdone] at hstep
              exact Deed.nothing.of_eq hstep
          | ok a db' =>
              rw [hdone] at hstep
              obtain ⟨p, hgranted, hcarried⟩ :=
                Engine.carryOut_of_perform hop hdone
              obtain ⟨rfl, hcommitted⟩ :=
                Database.committed_of_carryOut hcarried
              obtain ⟨paid, -, hpaid, -⟩ := Engine.carryOut_eq_ok hcarried
              exact (Deed.done rfl hgranted hpaid hcommitted).of_eq hstep

/-- Whoever asks for a balance leaves the rows as they were. -/
theorem step_of_balance (asset holder : Text) :
    ((⟨Database.backend, settings⟩ : Office).step db now
      (.ledger (.balance asset holder))).2
      = db := by
  show (db.transaction
    ((LedgerCall.balance asset holder).performShowingBalance _)).2 = db
  rw [Database.transaction_eq]
  cases hdone : (LedgerCall.balance asset holder).performShowingBalance
    Database.backend db with
  | error f db' => rfl
  | ok a db' =>
      obtain ⟨n, hbalance, -⟩ := Act.map_eq_ok hdone
      exact Database.eq_of_balance hbalance

/-- A mint answers what the holder then has, or changes nothing. -/
theorem step_of_mint (asset holder : Text) (amount : Int) :
    (⟨Database.backend, settings⟩ : Office).step db now
    (.ledger (.mint asset holder amount))
      = match db.mint asset holder amount with
        | .ok db' => (.ok (.amount (db'.balance asset holder)), db')
        | .error f => (.error f, db) := by
  have hstep : (⟨Database.backend, settings⟩ : Office).step db now
      (.ledger (.mint asset holder amount)) = db.transaction (do
        Database.backend.mint asset holder amount
        return .amount (← Database.backend.balance asset holder)) := rfl
  rw [hstep]
  cases hmint : db.mint asset holder amount with
  | error f =>
      have hfails : Database.backend.mint asset holder amount db
          = .error f db :=
        Act.tryChange_error
          (f := fun db : Database => db.mint asset holder amount) hmint
      exact Database.transaction_error (Act.bind_error hfails _)
  | ok db' =>
      have hmade : Database.backend.mint asset holder amount db = .ok () db' :=
        Act.tryChange_ok (f := fun db : Database => db.mint asset holder amount)
          hmint
      have hlooked : Database.backend.balance asset holder db'
          = .ok (db'.balance asset holder) db' :=
        Database.lookUp_ok (Database.search_of_mint hmint) fun db =>
          db.balance asset holder
      refine Database.transaction_ok ((Act.bind_ok hmade _).trans ?_)
      exact (Act.bind_ok hlooked _).trans rfl

theorem deed_of_mint (asset holder : Text) (amount : Int) :
    Deed settings db now (.ledger (.mint asset holder amount))
      ((⟨Database.backend, settings⟩ : Office).step db now
        (.ledger (.mint asset holder amount))).1
      ((⟨Database.backend, settings⟩ : Office).step db now
        (.ledger (.mint asset holder amount))).2 := by
  rw [step_of_mint]
  cases hmint : db.mint asset holder amount with
  | error f => exact .nothing
  | ok db' => exact .minted hmint

/-- Whatever a regular step comes to, it is on the list. -/
theorem deed_of_step (settings : Except SettingsFault Settings)
    (db : Database) (now : Int) {st : Step} (hst : st.isRegular = true) :
    Deed settings db now st
      ((⟨Database.backend, settings⟩ : Office).step db now st).1
      ((⟨Database.backend, settings⟩ : Office).step db now st).2 := by
  cases st with
  | scheme id op => exact deed_of_scheme op
  | history id => exact .of_snd_eq (Database.peek_snd ..)
  | amend id edit => cases hst
  | ledger c =>
      cases c with
      | balance asset holder => exact .of_snd_eq (step_of_balance asset holder)
      | mint asset holder amount => exact deed_of_mint asset holder amount
      | transfer t => cases hst

-- ============================================================= what deeds keep

/-- No regular step overdraws anybody. -/
theorem Deed.backed (h : Deed settings db now st a db') (hdb : db.Backed) :
    db'.Backed := by
  cases h with
  | nothing => exact hdb
  | minted hmint =>
      obtain ⟨hpos, hbalances, -⟩ := Database.balance_of_mint hmint
      intro asset holder
      have hold := hdb asset holder
      rw [hbalances]
      split <;> omega
  | done hs hgranted hpaid hdone =>
      intro asset holder
      have hnew := hdb.transfers hpaid asset holder
      rw [(Database.balance_of_transfers hpaid).1] at hnew
      rw [hdone.balances]
      exact hnew

/-- A record is changed by an operation on its scheme that was granted, and by
nothing else. -/
theorem Deed.record (h : Deed settings db now st a db') (key : Text) :
    db'.scheme? key = db.scheme? key
      ∨ ∃ s op p, settings = .ok s ∧ st = .scheme key op ∧ a = .ok p.answer
        ∧ op.Granted (s.custodyAccount key) now (db.scheme? key) p
        ∧ db'.scheme? key = some p.record.reread := by
  cases h with
  | nothing => exact Or.inl rfl
  | minted hmint =>
      obtain ⟨-, -, hschemes, -⟩ := Database.balance_of_mint hmint
      exact Or.inl (Database.scheme?_congr hschemes key)
  | @done s id op p paid db' hs hgranted hpaid hdone =>
      by_cases hkey : key = id
      · subst hkey
        exact Or.inr ⟨s, op, p, hs, rfl, rfl, hgranted, hdone.record⟩
      · exact Or.inl (hdone.otherRecords key hkey)

/-- Every record is read as it would be written. -/
def Settled (db : Database) : Prop :=
  ∀ id s, db.scheme? id = some s → s.reread = s

theorem settled_empty : Settled .empty := fun _ _ hs => by cases hs

theorem Deed.settled (h : Deed settings db now st a db') (hdb : Settled db) :
    Settled db' := by
  intro key s hs
  rcases h.record key with hsame | ⟨_, op, p, -, -, -, -, hnew⟩
  · rw [hsame] at hs
    exact hdb key s hs
  · rw [hnew] at hs
    cases hs
    exact p.record.reread_reread

/-- A record that is there goes on. -/
theorem Deed.progress (h : Deed settings db now st a db') (hdb : Settled db)
    {s : Scheme} (hs : db.scheme? id = some s) :
    ∃ next, db'.scheme? id = some next ∧ s.Progress now next := by
  rcases h.record id with hsame | ⟨_, op, p, -, -, -, hgranted, hnew⟩
  · exact ⟨s, hsame.trans hs, .stays⟩
  · rw [hs] at hgranted
    have hprogress := hgranted.progress
    rw [hprogress.reread (hdb id s hs)] at hnew
    exact ⟨p.record, hnew, hprogress⟩

-- ======================================================================== runs

/-- A step and the moment at which it is taken. -/
structure Move where
  now : Int
  step : Step
  deriving DecidableEq, Repr

/-- The rows after a move. -/
def afterMove (settings : Settings) (db : Database) (mv : Move) : Database :=
  ((ofSettings settings).step db mv.now mv.step).2

/-- The rows after some moves. -/
def after (settings : Settings) (db : Database) (moves : List Move) :
    Database :=
  Course.after (afterMove settings) db moves

section Runs

variable {settings : Settings} {mv : Move} {moves rest : List Move}

theorem after_cons :
    after settings db (mv :: moves)
      = after settings ((ofSettings settings).step db mv.now mv.step).2 moves :=
        rfl

theorem after_append :
    after settings db (moves ++ rest)
      = after settings (after settings db moves) rest :=
  Course.after_append

/-- What deeds keep, a run of regular moves keeps. -/
theorem after_deeds {P : Database → Prop} (h : P db)
    (hmoves : ∀ mv ∈ moves, mv.step.isRegular = true)
    (hdeed : ∀ {now st a db db'}, Deed (.ok settings) db now st a db' →
      P db → P db') :
    P (after settings db moves) :=
  Course.keeps h fun mv hmv _ =>
    hdeed (deed_of_step (.ok settings) _ mv.now (hmoves mv hmv))

theorem backed_after (hmoves : ∀ mv ∈ moves, mv.step.isRegular = true) :
    (after settings .empty moves).Backed :=
  after_deeds Database.backed_empty hmoves fun hdeed hdb => hdeed.backed hdb

theorem settled_after (hmoves : ∀ mv ∈ moves, mv.step.isRegular = true)
    (hdb : Settled db) :
    Settled (after settings db moves) :=
  after_deeds hdb hmoves fun hdeed hdb => hdeed.settled hdb

/-- A record that is there stays, on the same terms. -/
theorem after_keeps (hmoves : ∀ mv ∈ moves, mv.step.isRegular = true)
    (hdb : Settled db) {s : Scheme} (hs : db.scheme? id = some s) :
    ∃ next, (after settings db moves).scheme? id
      = some next ∧ s.Succeeds next := by
  refine (after_deeds (P := fun db => Settled db
    ∧ ∃ next, db.scheme? id = some next ∧ s.Succeeds next) ⟨hdb, s, hs, .refl s⟩
      hmoves ?_).2
  rintro now st a db db' hdeed ⟨hdb, next, hnext, hsucceeds⟩
  obtain ⟨last, hlast, hprogress⟩ := hdeed.progress hdb hnext
  exact ⟨hdeed.settled hdb, last, hlast, hsucceeds.trans hprogress.succeeds⟩

end Runs

end Office

end SavingsClub
