/-
The database: three tables, and the operations of a backend on them.

Amounts and times are kept as numerals, lists as JSON documents, round numbers
in 64 signed bits. `SchemeRow.toScheme_ofScheme` says which record is read where
one was written. A row holds only what its columns can hold, so it is made of a
record together with a proof that they can hold the record (`Scheme.Fits`), and
whoever reads a record reads one that fits (`Database.fits_of_scheme?`). A
numeral has a largest length, and writing a longer one fails: not even a balance
on the way to a shorter one may be so long. A name is kept in octets, so it must
consist of characters, even to be looked for.
-/
import SavingsClub.Backend
import SavingsClub.Database.Numeral
import SavingsClub.Database.Table

namespace SavingsClub

/-- A record whose amount and times are short enough to be written, and whose
round fits the bits that are kept of it. -/
structure Scheme.Fits (s : Scheme) : Prop where
  amount : isWritable s.contributionAmount = true
  duration : isWritable s.roundDuration = true
  deadline : isWritable s.roundDeadline = true
  round : fitsWord s.currentRound = true

structure SchemeRow where
  id : Text
  admin : Text
  members : Json
  contributionAmount : Numeral
  assetId : Text
  currentRound : Word
  paidMembers : Json
  roundDuration : Numeral
  roundDeadline : Numeral
  defaulters : Json
  deriving DecidableEq, Repr

namespace SchemeRow

def ofScheme (id : Text) (s : Scheme) (h : s.Fits) : SchemeRow where
  id := id
  admin := s.admin
  members := (Json.ofTexts s.members).reread
  contributionAmount := .ofInt s.contributionAmount h.amount
  assetId := s.assetId
  currentRound := ⟨s.currentRound, h.round⟩
  paidMembers := (Json.ofTexts s.paidMembers).reread
  roundDuration := .ofInt s.roundDuration h.duration
  roundDeadline := .ofInt s.roundDeadline h.deadline
  defaulters := (Json.ofTexts s.defaulters).reread

def toScheme (r : SchemeRow) : Scheme where
  admin := r.admin
  members := r.members.texts
  contributionAmount := r.contributionAmount.toInt
  assetId := r.assetId
  roundDuration := r.roundDuration.toInt
  roundDeadline := r.roundDeadline.toInt
  currentRound := r.currentRound.toInt
  paidMembers := r.paidMembers.texts
  defaulters := r.defaulters.texts

/-- A row gives back the record that was written into it, up to how lists are
read. -/
@[simp] theorem toScheme_ofScheme (id : Text) (s : Scheme) (h : s.Fits) :
    (ofScheme id s h).toScheme = s.reread := by
  simp [ofScheme, toScheme, Scheme.reread]

/-- What a row holds fits a row. -/
theorem fits_toScheme (r : SchemeRow) : r.toScheme.Fits where
  amount := r.contributionAmount.isWritable_toInt
  duration := r.roundDuration.isWritable_toInt
  deadline := r.roundDeadline.isWritable_toInt
  round := r.currentRound.fits

end SchemeRow

structure BalanceRow where
  asset : Text
  holder : Text
  amount : Numeral
  deriving DecidableEq, Repr

structure EventRow where
  schemeId : Text
  eventType : String
  data : Json
  deriving DecidableEq, Repr

/-- The rows of all tables, each table in the order of insertion. -/
structure Database where
  schemes : List SchemeRow
  balances : List BalanceRow
  events : List EventRow
  deriving DecidableEq, Repr

namespace Database

def empty : Database := ⟨[], [], []⟩

-- ======================================================================= names

/-- Looks for names, in order; each must consist of characters. -/
def search (names : List Text) : Except Failure Unit :=
  match names.findSome? Text.tear? with
  | some tear => .error (.unsearchable tear)
  | none => .ok ()

/-- Every name that consists of characters can be looked for. -/
theorem search_eq_ok_iff (names : List Text) :
    search names = .ok () ↔ ∀ t ∈ names, t.isWhole = true := by
  unfold search
  cases h : names.findSome? Text.tear? with
  | none =>
    simpa [List.findSome?_eq_none_iff, Text.tear?_eq_none_iff] using h
  | some tear =>
    obtain ⟨t, ht, htear⟩ := List.exists_of_findSome?_eq_some h
    have : t.isWhole ≠ true := fun hw => by
      rw [(Text.tear?_eq_none_iff t).2 hw] at htear
      nomatch htear
    exact ⟨(nomatch ·), fun hall => absurd (hall t ht) this⟩

-- ===================================================================== schemes

/-- Whether the amount and the times of a record are short enough to be kept. -/
def fitsNumerals (s : Scheme) : Bool :=
  isWritable s.contributionAmount && isWritable s.roundDuration
    && isWritable s.roundDeadline

def scheme? (db : Database) (id : Text) : Option Scheme :=
  (db.schemes.find? (·.id = id)).map SchemeRow.toScheme

/-- Whoever reads a record reads one that fits a row. -/
theorem fits_of_scheme? {db : Database} {id : Text} {s : Scheme}
    (h : db.scheme? id = some s) :
    s.Fits := by
  obtain ⟨r, -, rfl⟩ := Option.map_eq_some_iff.mp h
  exact r.fits_toScheme

/-- Writes all fields of a record into the row under its key. -/
def putScheme (db : Database) (id : Text) (s : Scheme) (h : s.Fits) :
    Database :=
  let row := SchemeRow.ofScheme id s h
  { db with schemes := Table.upsert (·.id = id) (fun _ => row) row db.schemes }

/-- Why the columns cannot hold a record, if they cannot. Numerals are made
before any column is filled, and the columns are filled in order. -/
def refusal? (s : Scheme) : Option StorageFault :=
  if ! fitsNumerals s then some .numeralTooLong
  else match [s.admin, s.assetId].findSome? Text.tear? with
    | some tear => some (.nameTorn tear)
    | none => if ! fitsWord s.currentRound then some .roundTooLarge else none

/-- What the columns do not refuse fits a row. -/
theorem fits_of_refusal? {s : Scheme} (h : refusal? s = none) : s.Fits := by
  unfold refusal? at h
  split at h
  · cases h
  next hnumerals =>
    split at h
    · cases h
    next htears =>
      split at h
      · cases h
      next hround =>
        simp only [Bool.not_eq_true', Bool.not_eq_false, fitsNumerals,
          Bool.and_eq_true] at hnumerals hround
        exact ⟨hnumerals.1.1, hnumerals.1.2, hnumerals.2, hround⟩

/-- Looks a key up, and writes a record under it if the columns can hold the
record. -/
def keepScheme (db : Database) (id : Text) (s : Scheme) :
    Except Failure Database := do
  search [id]
  match h : refusal? s with
  | some f => throw (.storage f)
  | none => return db.putScheme id s (fits_of_refusal? h)

theorem keepScheme_error {db : Database} {id : Text} {s : Scheme}
    {f : StorageFault} (hid : search [id] = .ok ()) (h : refusal? s = some f) :
    db.keepScheme id s = .error (.storage f) := by
  unfold keepScheme
  rw [hid]
  simp only [bind, Except.bind]
  split
  · next hf =>
      cases h.symm.trans hf
      rfl
  · next hnone =>
      rw [h] at hnone
      cases hnone

theorem keepScheme_ok {db : Database} {id : Text} {s : Scheme}
    (hid : search [id] = .ok ()) (h : refusal? s = none) :
    db.keepScheme id s = .ok (db.putScheme id s (fits_of_refusal? h)) := by
  unfold keepScheme
  rw [hid]
  simp only [bind, Except.bind]
  split
  · next hf =>
      rw [h] at hf
      cases hf
  · rfl

/-- Under its key there is the record last written. -/
@[simp] theorem scheme?_putScheme_self (db : Database) (id : Text) (s : Scheme)
    (hs : s.Fits) :
    (db.putScheme id s hs).scheme? id = some s.reread := by
  have h := Table.find?_upsert_self (fun r : SchemeRow => decide (r.id = id))
    (fun _ => .ofScheme id s hs) (.ofScheme id s hs) (decide_eq_true rfl)
    (fun _ _ => decide_eq_true rfl) db.schemes
  simp only [scheme?, putScheme, h, Option.map_some,
    SchemeRow.toScheme_ofScheme]

theorem scheme?_putScheme_of_ne (db : Database) {id other : Text} (s : Scheme)
    (hs : s.Fits) (hne : other ≠ id) :
    (db.putScheme id s hs).scheme? other = db.scheme? other := by
  have hrow : decide ((SchemeRow.ofScheme id s hs).id = other) = false :=
    decide_eq_false (Ne.symm hne)
  have h := Table.find?_upsert_of_not (fun r : SchemeRow => decide (r.id = id))
    (fun r => decide (r.id = other)) (fun _ => .ofScheme id s hs)
    (.ofScheme id s hs) hrow
    (fun r hr => ⟨decide_eq_false (of_decide_eq_true hr ▸ Ne.symm hne), hrow⟩)
    db.schemes
  simp only [scheme?, putScheme, h]

-- ====================================================================== ledger

/-- What a holder has of an asset; without a row it is 0. -/
def balance (db : Database) (asset holder : Text) : Int :=
  match db.balances.find? fun r => r.asset = asset ∧ r.holder = holder with
  | some row => row.amount.toInt
  | none => 0

/-- Writes what an account holds; a missing row is inserted. -/
def setBalance (db : Database) (asset holder : Text) (amount : Numeral) :
    Database :=
  { db with
    balances := Table.upsert (fun r => r.asset = asset ∧ r.holder = holder)
      (fun r => { r with amount := amount })
      ⟨asset, holder, .ofInt 0 isWritable_zero⟩ db.balances }

/-- Writing an account sets what its holder has and leaves all others alone. -/
theorem balance_setBalance (db : Database) (asset holder : Text)
    (amount : Numeral) (a h : Text) :
    (db.setBalance asset holder amount).balance a h =
      if a = asset ∧ h = holder then amount.toInt else db.balance a h := by
  by_cases e : a = asset ∧ h = holder
  · obtain ⟨rfl, rfl⟩ := e
    have hf := Table.find?_upsert_self
      (fun r : BalanceRow => decide (r.asset = a ∧ r.holder = h))
      (fun r => { r with amount := amount }) ⟨a, h, .ofInt 0 isWritable_zero⟩
      (decide_eq_true ⟨rfl, rfl⟩) (fun _ hr => hr) db.balances
    simp only [balance, setBalance, hf, and_self, if_true]
  · have hother : ∀ r : BalanceRow, r.asset = asset ∧ r.holder = holder →
        decide (r.asset = a ∧ r.holder = h) = false := by
      rintro r ⟨rfl, rfl⟩
      exact decide_eq_false fun hr => e ⟨hr.1.symm, hr.2.symm⟩
    have hf := Table.find?_upsert_of_not
      (fun r : BalanceRow => decide (r.asset = asset ∧ r.holder = holder))
      (fun r => decide (r.asset = a ∧ r.holder = h))
      (fun r => { r with amount := amount })
      ⟨asset, holder, .ofInt 0 isWritable_zero⟩ (hother _ ⟨rfl, rfl⟩)
      (fun r hr => ⟨hother r (of_decide_eq_true hr),
        hother _ (of_decide_eq_true hr)⟩) db.balances
    simp only [balance, setBalance, hf, e, if_false]

/-- The numeral of an integer, if it is not too long. -/
def write (n : Int) : Except Failure Numeral :=
  if h : isWritable n then .ok (.ofInt n h)
  else .error (.storage .numeralTooLong)

theorem write_of_writable {n : Int} (h : isWritable n = true) :
    write n = .ok (.ofInt n h) :=
  dif_pos h

theorem write_of_long {n : Int} (h : isWritable n = false) :
    write n = .error (.storage .numeralTooLong) :=
      dif_neg (Bool.eq_false_iff.mp h)

/-- What has been written stands for the integer that was to be written. -/
theorem toInt_of_write {n : Int} {numeral : Numeral}
    (h : write n = .ok numeral) :
    numeral.toInt = n := by
  unfold write at h
  split at h
  · cases h
    exact Numeral.toInt_ofInt ..
  · cases h

/-- Writes what an account holds, if the numeral is not too long. -/
def putBalance (db : Database) (asset holder : Text) (amount : Int) :
    Except Failure Database :=
  (write amount).map fun numeral => db.setBalance asset holder numeral

theorem putBalance_of_writable {db : Database} {asset holder : Text}
    {amount : Int} (h : isWritable amount = true) :
    db.putBalance asset holder amount
      = .ok (db.setBalance asset holder (.ofInt amount h)) := by
  unfold putBalance
  rw [write_of_writable h]
  rfl

theorem putBalance_of_long {db : Database} {asset holder : Text} {amount : Int}
    (h : isWritable amount = false) :
    db.putBalance asset holder amount = .error (.storage .numeralTooLong) := by
  unfold putBalance
  rw [write_of_long h]
  rfl

def mint (db : Database) (asset holder : Text) (amount : Int) :
    Except Failure Database :=
  match mintRejection? amount with
  | some r => .error (.fault (.transferRejected r))
  | none => do
    search [asset, holder]
    db.putBalance asset holder (db.balance asset holder + amount)

/-- Makes a transfer. The recipient gets a row if it has none. -/
def transfer (db : Database) (t : Transfer) : Except Failure Database :=
  match t.rejection? with
  | some r => .error (.fault (.transferRejected r))
  | none => do
    search [t.asset, t.sender]
    let available := db.balance t.asset t.sender
    if available < t.amount then
      throw (.fault (.insufficientFunds t.sender t.amount available))
    else
      search [t.asset, t.recipient]
      let received := db.balance t.asset t.recipient + t.amount
      let db ← db.putBalance t.asset t.sender (available - t.amount)
      db.putBalance t.asset t.recipient received

/-- Every balance that is not zero, in order. -/
def statement (db : Database) : List Holding :=
  Holding.statement
    (db.balances.map fun r => ⟨r.asset, r.holder, r.amount.toInt⟩)

-- ====================================================================== events

def addEvent (db : Database) (id : Text) (e : Event) : Database :=
  { db with events := db.events ++ [⟨id, e.typeName, e.data.reread⟩] }

/-- The log of a scheme, oldest entry first. -/
def log (db : Database) (id : Text) : List LogEntry :=
  (db.events.filter (·.schemeId = id)).map fun r => ⟨r.eventType, r.data⟩

/-- An entry goes to the end of its scheme's log and into no other log. -/
theorem log_addEvent (db : Database) (id : Text) (e : Event) (other : Text) :
    (db.addEvent id e).log other =
      db.log other ++ if id = other then [e.entry.reread] else [] := by
  by_cases h : id = other <;>
    simp [log, addEvent, List.filter_append, h, Event.entry, LogEntry.reread]

-- ================================================================== looking up

/-- Looks up some names, and then what is kept under them. -/
def lookUp {α : Type} (names : List Text) (kept : Database → α) :
    Act Database α :=
  Act.tryRead fun db => do
    search names
    return kept db

section LookUp

variable {α : Type} {names : List Text} {db db' : Database}
  {e : Failure} {a : α}

theorem lookUp_ok (h : search names = .ok ()) (kept : Database → α) :
    lookUp names kept db = .ok (kept db) db := by
  unfold lookUp
  apply Act.tryRead_ok
  rw [h]
  rfl

theorem lookUp_error (h : search names = .error e) (kept : Database → α) :
    lookUp names kept db = .error e db := by
  unfold lookUp
  apply Act.tryRead_error
  rw [h]
  rfl

/-- What is looked up is what is kept, and looking it up changes nothing. -/
theorem lookUp_eq_ok (kept : Database → α)
    (h : lookUp names kept db = .ok a db') :
    search names = .ok () ∧ a = kept db ∧ db' = db := by
  cases hsearch : search names with
  | ok u =>
    rw [lookUp_ok hsearch] at h
    cases h
    exact ⟨rfl, rfl, rfl⟩
  | error e =>
    rw [lookUp_error hsearch] at h
    cases h

/-- Looking up fails over the names alone. -/
theorem lookUp_eq_error (kept : Database → α)
    (h : lookUp names kept db = .error e db') :
    search names = .error e := by
  cases hsearch : search names with
  | ok u =>
    rw [lookUp_ok hsearch] at h
    cases h
  | error e' =>
    rw [lookUp_error hsearch] at h
    cases h
    rfl

end LookUp

-- ===================================================================== backend

/-- The tables as a place that an engine works on. -/
def backend : Backend Database where
  has id := lookUp [id] fun db => (db.scheme? id).isSome
  get id := lookUp [id] fun db => db.scheme? id
  set id s := Act.tryChange fun db => db.keepScheme id s
  balance asset holder :=
    lookUp [asset, holder] fun db => db.balance asset holder
  mint asset holder amount :=
    Act.tryChange fun db => db.mint asset holder amount
  transfer t := Act.tryChange fun db => db.transfer t
  emit id e := Act.change fun db => db.addEvent id e
  log id := Act.read fun db => db.log id

end Database

end SavingsClub
