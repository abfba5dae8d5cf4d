/-
Records in a session on the database.

# The statement

`records_of_session`: whatever is asked of the records in a session that is open
for long, with commits and rollbacks between, under every key there is the
record that was last set there by the calls that stand (`lastSet`), which is the
one that the memory has after these calls. A commit makes the records what they
are now, and a rollback makes them what they were at the last commit.

# What it takes

A record comes back with all its fields, its lists in order
(`SchemeRow.toScheme_ofScheme`). What can change is the spelling of an entry:
two halves of a surrogate pair next to each other are read as the one character
that they stand for. The database takes a record if its columns can hold it
(`Scheme.Keepable`), and looks for no key that is torn: `not_always_kept`.
-/
import Mathlib.Data.List.Induction
import SavingsClub.Database.Records
import SavingsClub.Proofs.Journal
import SavingsClub.Proofs.Mirror

namespace SavingsClub

-- ======================================================================= calls

/-- An answer as it is given by records that have been written. -/
def Answer.reread : Answer → Answer
  | .record s => .record (s.map Scheme.reread)
  | a => a

namespace StoreCall

/-- The key that a call is about. -/
def key : StoreCall → Text
  | has k | get k | set k _ => k

/-- The record that a call puts under a key. -/
def kept? (k : Text) : StoreCall → Option Scheme
  | set k' s => if k' = k then s else none
  | has _ | get _ => none

theorem kept?_set (k k' : Text) (s : Option Scheme) :
    (set k' s).kept? k = if k' = k then s else none := rfl

/-- A call that only looks, or that sets a record which the columns can hold. -/
def Keepable : StoreCall → Prop
  | set _ s => ∃ r, s = some r ∧ r.Keepable
  | has _ | get _ => True

end StoreCall

/-- The record that was last set under a key. -/
def lastSet (k : Text) (calls : List StoreCall) : Option Scheme :=
  calls.reverse.findSome? (StoreCall.kept? k)

variable {c : StoreCall} {calls : List StoreCall} {k : Text}

theorem lastSet_snoc (k : Text) (calls : List StoreCall) (c : StoreCall) :
    lastSet k (calls ++ [c]) = (c.kept? k).or (lastSet k calls) := by
  unfold lastSet
  rw [List.reverse_append, List.findSome?_append, List.reverse_singleton,
    List.findSome?_singleton]

namespace Memory

/-- What the memory answers to a call on its records, and the memory after
it. -/
def storing (m : Memory) (c : StoreCall) : Except Failure Answer × Memory :=
  m.run (c.perform backend)

/-- The memory after some calls on its records. -/
def afterStoring (m : Memory) (calls : List StoreCall) : Memory :=
  Course.after (fun m c => (m.storing c).2) m calls

theorem afterStoring_snoc (m : Memory) (calls : List StoreCall)
    (c : StoreCall) :
    m.afterStoring (calls ++ [c]) = ((m.afterStoring calls).storing c).2 :=
      Course.after_snoc

/-- A call changes the record under the key that it sets, and no other. -/
theorem get?_storing (m : Memory) (c : StoreCall) (k : Text) :
    (m.storing c).2.schemes.get? k = (c.kept? k).or (m.schemes.get? k) := by
  cases c with
  | has k' => rfl
  | get k' => rfl
  | set k' s =>
      rw [StoreCall.kept?_set]
      cases s with
      | none =>
          rw [ite_self]
          rfl
      | some r =>
          show (m.schemes.put k' r).get? k = _
          by_cases hk : k' = k
          · rw [if_pos hk, ← hk, Registry.get?_put_self]
            rfl
          · rw [if_neg hk, Registry.get?_put_of_ne _ _ (Ne.symm hk)]
            rfl

/-- Under every key the memory has the record that was last set there. -/
theorem get?_afterStoring (calls : List StoreCall) (k : Text) :
    (afterStoring .empty calls).schemes.get? k = lastSet k calls := by
  induction calls using List.reverseRecOn with
  | nil => rfl
  | append_singleton calls c ih =>
      rw [afterStoring_snoc, get?_storing, ih, lastSet_snoc]

end Memory

-- ======================================================================== rows

namespace Session

open Database (backend)

/-- Calls on the records, performed on the rows of a session. -/
abbrev keeping : StoreCall → Act Database Answer := StoreCall.perform backend

/-- Under every key the rows have the record that was last set there. -/
def Stores (calls : List StoreCall) (db : Database) : Prop :=
  ∀ k, db.scheme? k = (lastSet k calls).map Scheme.reread

theorem stores_empty : Stores [] .empty := fun _ => rfl

variable {db : Database} {x : Logged StoreCall} {tear : Text.Tear}

/-- A key that is torn is not looked for. -/
theorem perform_of_torn (hc : c.Keepable) (htear : c.key.tear? = some tear)
    (db : Database) :
    keeping c db = .error (.unsearchable tear) db := by
  have hsearch : ∀ k : Text, k.tear? = some tear →
      Database.search [k] = .error (.unsearchable tear) := by
    intro k htear
    apply Database.search_of_torn
    rw [List.findSome?_singleton]
    exact htear
  cases c with
  | has k =>
      exact Act.map_error (Database.lookUp_error (hsearch k htear) _)
        Answer.truth
  | get k =>
      exact Act.map_error (Database.lookUp_error (hsearch k htear) _)
        Answer.record
  | set k s =>
      obtain ⟨r, rfl, -⟩ := hc
      refine Act.bind_error (Act.tryChange_error
        (f := fun db : Database => db.keepScheme k r) ?_) _
      unfold Database.keepScheme
      rw [hsearch k htear]
      rfl

/-- A record that the columns can hold is put into the row under its key. -/
theorem set_ok {r : Scheme} (hr : r.Keepable) (hkey : k.isWhole = true)
    (db : Database) :
    backend.set k r db = .ok () (db.putScheme k r hr.fits) :=
  Act.tryChange_ok (f := fun db : Database => db.keepScheme k r)
    (Database.keepScheme_ok (Database.search_one hkey) hr.refusal?)

/-- A call under a key that is whole is answered as in memory, and the record
that it sets is the last that was set. -/
theorem perform_of_whole (h : Stores calls db) (hc : c.Keepable)
    (hkey : c.key.isWhole = true) :
    ∃ a db', ((Memory.afterStoring .empty calls).storing c).1 = .ok a
      ∧ keeping c db = .ok a.reread db' ∧ Stores (calls ++ [c]) db' := by
  have hmemory := Memory.get?_afterStoring calls
  cases c with
  | has k =>
      have hfound : (Memory.afterStoring .empty calls).schemes.has k
          = (db.scheme? k).isSome := by
        unfold Registry.has
        rw [hmemory, h k, Option.isSome_map]
      refine ⟨.truth ((Memory.afterStoring .empty calls).schemes.has k), db,
        rfl, ?_, fun k' => ?_⟩
      · rw [hfound]
        exact Act.map_ok (Database.backend_has db hkey) Answer.truth
      · rw [lastSet_snoc]
        exact h k'
  | get k =>
      refine ⟨.record ((Memory.afterStoring .empty calls).schemes.get? k),
        db, rfl, ?_, fun k' => ?_⟩
      · show keeping (.get k) db = .ok (Answer.record
          (((Memory.afterStoring .empty calls).schemes.get? k).map
            Scheme.reread)) db
        rw [hmemory, ← h k]
        exact Act.map_ok (Database.backend_get db hkey) Answer.record
      · rw [lastSet_snoc]
        exact h k'
  | set k s =>
      obtain ⟨r, rfl, hr⟩ := hc
      refine ⟨.done, db.putScheme k r hr.fits, rfl,
        Act.bind_ok (set_ok hr hkey db) _, fun k' => ?_⟩
      rw [lastSet_snoc, StoreCall.kept?_set]
      by_cases hk : k = k'
      · rw [if_pos hk, ← hk, Database.scheme?_putScheme_self]
        rfl
      · rw [if_neg hk, Database.scheme?_putScheme_of_ne db r hr.fits
          (Ne.symm hk)]
        exact h k'

/-- Every call that is keepable keeps the rows what they are. -/
theorem keeps_of_storing (h : Stores calls db) (hc : c.Keepable) :
    Keeps Stores calls c (keeping c db) := by
  cases htear : c.key.tear? with
  | some tear =>
      rw [perform_of_torn hc htear]
      exact h
  | none =>
      obtain ⟨a, db', -, hrows, hstores⟩ :=
        perform_of_whole h hc ((Text.tear?_eq_none_iff c.key).mp htear)
      rw [hrows]
      exact hstores

end Session

-- ============================================================= record sessions

namespace RecordSession

open Session

/-- The session after some steps. -/
def after (s : RecordSession) (steps : List (Session.Step StoreCall)) :
    RecordSession :=
  Course.after (fun s t => (s.step t).2) s steps

/-- A step that only looks, or that sets a record which the columns can hold, or
that ends the work. -/
def Keepable : Session.Step StoreCall → Prop
  | .call c => c.Keepable
  | .commit | .rollback => True

variable {c : StoreCall} {steps : List (Session.Step StoreCall)}
  {t : Session.Step StoreCall} {s : Session}

/-- Such a step begins no row that it does not fill in. -/
theorem step_of_keepable (ht : Keepable t) :
    (⟨s, false⟩ : RecordSession).step t
      = ((s.step keeping t).1, ⟨(s.step keeping t).2, false⟩) := by
  cases t with
  | commit => rfl
  | rollback => rfl
  | call c =>
      cases c with
      | has k => rfl
      | get k => rfl
      | set k s =>
          obtain ⟨r, rfl, -⟩ := ht
          rfl

theorem after_of_keepable {x : Logged StoreCall}
    (hsteps : ∀ t ∈ steps, Keepable t) :
    after ⟨x.session, false⟩ steps
      = ⟨(x.after keeping steps).session, false⟩ := by
  induction steps generalizing x with
  | nil => rfl
  | cons t steps ih =>
      -- the first step is the session's own, and the induction is on what is
      -- left
      have ht := step_of_keepable (s := x.session) (hsteps t List.mem_cons_self)
      rw [Logged.after_cons,
        ← ih fun t' ht' => hsteps t' (List.mem_cons_of_mem t ht')]
      show after ((⟨x.session, false⟩ : RecordSession).step t).2 steps = _
      rw [ht]
      rfl

/-- A call under a key that is whole is answered as by the memory after the
calls that stand. -/
theorem step_of_whole {x : Logged StoreCall} (hx : Mirrored Stores x)
    (hc : c.Keepable) (hkey : c.key.isWhole = true) :
    ∃ db', (⟨x.session, false⟩ : RecordSession).step (.call c)
        = (((Memory.afterStoring .empty x.journal.calls).storing c).1.map
          Answer.reread, ⟨{ x.session with working := db' }, false⟩)
      ∧ Stores (x.journal.calls ++ [c]) db' := by
  obtain ⟨a, db', hanswer, hrows, hstores⟩ :=
    perform_of_whole hx.working hc hkey
  refine ⟨db', ?_, hstores⟩
  rw [step_of_keepable (t := .call c) hc, step_call_ok hx.failed hrows, hanswer]
  rfl

/-- A call under a key that is torn is not answered, and nothing has changed. -/
theorem step_of_torn {x : Logged StoreCall} {tear : Text.Tear}
    (hx : Mirrored Stores x) (hc : c.Keepable)
    (htear : c.key.tear? = some tear) :
    (⟨x.session, false⟩ : RecordSession).step (.call c)
      = (.error (.unsearchable tear), ⟨x.session, false⟩) := by
  have hrows := perform_of_torn hc htear x.session.working
  rw [step_of_keepable (t := .call c) hc,
    step_call_error hx.failed (fun g => by simp) hrows]

-- ================================================================ all sessions

/-- Whatever is asked of the records in a session on an empty database, if its
columns can hold the records that are set. Under every key there is the record
that was last set by the calls that stand, and among the committed rows the one
last set by those that are committed. A further call is answered as by the
memory after the calls that stand, unless its key is torn: then it fails and
nothing has changed. Commits and rollbacks succeed. A record comes back as it
was set, but for halves in the entries of its lists that are joined. -/
theorem records_of_session (steps : List (Session.Step StoreCall))
    (hsteps : ∀ t ∈ steps, Keepable t) :
    let x := (Logged.start .empty).after keeping steps
    let s : RecordSession := after (.start .empty) steps
    let m := Memory.afterStoring .empty x.journal.calls
    s = ⟨x.session, false⟩
      ∧ (∀ k, m.schemes.get? k = lastSet k x.journal.calls)
      ∧ (∀ k, x.session.working.scheme? k
        = (lastSet k x.journal.calls).map Scheme.reread)
      ∧ (∀ k, x.session.committed.scheme? k
        = (lastSet k x.journal.committed).map Scheme.reread)
      ∧ (∀ c : StoreCall, c.Keepable → ∀ tear, c.key.tear? = some tear →
        s.step (.call c) = (.error (.unsearchable tear), s))
      ∧ (∀ c : StoreCall, c.Keepable → c.key.isWhole = true →
        (s.step (.call c)).1 = (m.storing c).1.map Answer.reread
          ∧ (∀ k, (s.step (.call c)).2.session.working.scheme? k
            = ((c.kept? k).or (lastSet k x.journal.calls)).map Scheme.reread)
          ∧ (s.step (.call c)).2.session.committed = s.session.committed)
      ∧ (∀ k : Text, k.isWhole = true →
        (s.step (.call (.get k))).1
            = .ok (.record ((lastSet k x.journal.calls).map Scheme.reread))
          ∧ (s.step (.call (.has k))).1
            = .ok (.truth (lastSet k x.journal.calls).isSome))
      ∧ s.step .commit = (.ok .done, .start s.session.working)
      ∧ s.step .rollback = (.ok .done, .start s.session.committed)
      ∧ (∀ (r : Scheme) (hr : r.Fits) (id : Text),
        (SchemeRow.ofScheme id r hr).toScheme = r.reread)
      ∧ ∀ r : Scheme,
        (∀ p ∈ r.members ++ r.paidMembers ++ r.defaulters, p.joined = p) →
        r.reread = r := by
  intro x s m
  have hrun : s = ⟨x.session, false⟩ :=
    after_of_keepable (x := .start .empty) hsteps
  have hx : Mirrored Stores x :=
    (mirrored_start stores_empty).after (P := fun _ t => Keepable t)
      (fun _ _ hx hc => keeps_of_storing hx.working hc)
      (Course.along_of_forall fun t ht _ => hsteps t ht)
  have hmemory : ∀ k, m.schemes.get? k = lastSet k x.journal.calls :=
    Memory.get?_afterStoring _
  rw [hrun]
  refine ⟨rfl, hmemory, hx.working, hx.committed,
    fun c hc tear => step_of_torn hx hc, ?_, ?_, ?_, rfl, fun r hr id =>
    SchemeRow.toScheme_ofScheme id r hr, fun r => Scheme.reread_eq_self⟩
  · intro c hc hkey
    obtain ⟨db', hstep, hstores⟩ := step_of_whole hx hc hkey
    rw [hstep]
    refine ⟨rfl, fun k => ?_, rfl⟩
    rw [← lastSet_snoc]
    exact hstores k
  · intro k hkey
    obtain ⟨_, hget, -⟩ := step_of_whole (c := .get k) hx trivial hkey
    obtain ⟨_, hhas, -⟩ := step_of_whole (c := .has k) hx trivial hkey
    rw [hget, hhas, ← hmemory]
    exact ⟨rfl, rfl⟩
  · rw [step_of_keepable (t := .commit) trivial, step_commit hx.failed]
    rfl

/-- A record that no engine would produce. -/
def strange : Scheme :=
  ⟨"ana", ["bo", "ana", "bo"], -5, "usd", 0,
    1000000000000000000000000000000, -7, ["cy", "cy"], ["bo"]⟩

/-- A session in which one record is set over another, and another beside it,
and both in vain. -/
def undone : List (Session.Step StoreCall) :=
  [.call (.set "a" (some strange)), .commit,
    .call (.set "a" (some { strange with admin := "bo" })),
    .call (.set "b" (some strange)), .rollback, .call (.get "b")]

theorem records_of_undone :
    (∀ t ∈ undone, Keepable t)
      ∧ ((after (.start .empty) undone).step (.call (.get "a"))).1
        = .ok (.record (some strange))
      ∧ ((after (.start .empty) undone).step (.call (.has "b"))).1
        = .ok (.truth false) := by
  have hkeepable : strange.Keepable :=
    ⟨by decide +kernel, by decide +kernel, by decide +kernel,
      by decide +kernel, by decide +kernel, by decide +kernel⟩
  have hother : Scheme.Keepable { strange with admin := "bo" } :=
    { hkeepable with admin := by decide +kernel }
  have hsteps : ∀ t ∈ undone, Keepable t := by
    intro t ht
    simp only [undone, List.mem_cons, List.not_mem_nil, or_false] at ht
    rcases ht with rfl | rfl | rfl | rfl | rfl | rfl
    · exact ⟨_, rfl, hkeepable⟩
    · trivial
    · exact ⟨_, rfl, hother⟩
    · exact ⟨_, rfl, hkeepable⟩
    · trivial
    · trivial
  obtain ⟨-, -, -, -, -, -, hfound, -, -, -⟩ := records_of_session undone hsteps
  refine ⟨hsteps, ?_, ?_⟩
  · exact (hfound "a" (by decide +kernel)).1.trans (by decide +kernel)
  · exact (hfound "b" (by decide +kernel)).2.trans (by decide +kernel)

/-- The columns do have to hold a record, and halves are joined: the memory
takes an admin that is torn and an amount of 4301 digits, and the database takes
neither; and what the memory keeps as two halves the database reads as one
character. -/
theorem not_always_kept :
    let s : RecordSession := .start .empty
    let torn := { strange with admin := ⟨[0xD800]⟩ }
    let long := { strange with contributionAmount := Nat.pow 10 4300 }
    let split := { strange with defaulters := [⟨[0xD83D, 0xDE00]⟩] }
    (Memory.empty.storing (.set "k" (some torn))).1 = .ok .done
      ∧ (s.step (.call (.set "k" (some torn)))).1 ≠ .ok .done
      ∧ (Memory.empty.storing (.set "k" (some long))).1 = .ok .done
      ∧ (s.step (.call (.set "k" (some long)))).1 ≠ .ok .done
      ∧ ((Memory.empty.storing (.set "k" (some split))).2.storing (.get "k")).1
        = .ok (.record (some split))
      ∧ ((s.step (.call (.set "k" (some split)))).2.step (.call (.get "k"))).1
        ≠ .ok (.record (some split)) := by
  decide +kernel

end RecordSession

end SavingsClub
