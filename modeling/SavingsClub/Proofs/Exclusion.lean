/-
Which locks are held, and which of them are the same.

# The statement

`exclusion_of_uses`: whatever locks have been asked for and whatever serialized
calls have been made, no lock is held. A further call about a scheme runs its
body while the lock of that scheme is held and no other one, gives it back
however the body ends, and passes on what the body comes to; a call that names
no scheme does nothing. Two locks that are asked for, however much lies between,
are the same one exactly if they are asked for by the same name.

# Why it holds

A lock has its place for good: new ones go to the end, and neither taking a lock
nor giving it back moves one or changes what it is for. So the place of a key,
once it has one, is its place in all the locks that come later
(`place?_of_prefix`), and no place is that of two keys.

Between calls no lock is held. A call takes one lock then and gives the same one
back, so that what it leaves is what asking for its lock alone leaves
(`serialized_of_key`). So every use of the locks leaves none held and all of
them in their places, and so does any history of uses (`free_after`).

# What a body may do

The body of a call may ask for locks itself. That takes none and moves none, so
that it comes to the same as if they had been asked for after the call
(`asking_setHeld`).
-/
import SavingsClub.Locks
import SavingsClub.Proofs.Course

namespace SavingsClub

/-- The scheme that a call names is the argument of that name, and if there is
none the second one by position. -/
inductive Arguments.Names (a : Arguments) (id : Text) : Prop where
  | byName (h : a.named.lookup (.ofString "scheme_id") = some (.string id))
  | byPlace (hname : a.named.lookup (.ofString "scheme_id") = none)
      (h : a.positional[1]? = some (.string id))

theorem Arguments.Names.scheme?_eq {a : Arguments} {id : Text}
    (h : a.Names id) :
    a.scheme? = some (.string id) := by
  unfold scheme?
  cases h with
  | byName h => rw [h, Option.some_or]
  | byPlace hname h => rw [hname, h, Option.none_or]

theorem Arguments.scheme?_eq_none {a : Arguments}
    (hname : a.named.lookup (.ofString "scheme_id") = none)
    (hshort : a.positional.length < 2) :
    a.scheme? = none := by
  unfold scheme?
  rw [hname, Option.none_or]
  exact List.getElem?_eq_none (Nat.le_of_lt_succ hshort)

namespace Locks

variable {l l' : Locks} {key key' : LockKey} {i : Nat}

-- ====================================================================== places

/-- What the locks are for, in the order in which they were made. -/
def keys (l : Locks) : List LockKey := l.made.map (·.key)

theorem place?_eq (l : Locks) (key : LockKey) :
    l.place? key = l.keys.findIdx? fun k => decide (k = key) := by
  unfold place? keys
  rw [List.findIdx?_map]
  rfl

/-- Asking for a lock finds it at its place, or makes it at the end. -/
theorem lookup_cases (l : Locks) (key : LockKey) :
    (∃ i, l.place? key = some i ∧ l.lookup key = (i, l))
      ∨ l.place? key = none
        ∧ l.lookup key = (l.made.length, ⟨l.made ++ [⟨key, false⟩]⟩) := by
  unfold lookup
  cases l.place? key with
  | some i => exact .inl ⟨i, rfl, rfl⟩
  | none => exact .inr ⟨rfl, rfl⟩

theorem prefix_lookup (l : Locks) (key : LockKey) :
    l.keys <+: (l.lookup key).2.keys := by
  rcases l.lookup_cases key with ⟨i, -, hlookup⟩ | ⟨-, hlookup⟩
  · refine ⟨[], ?_⟩
    rw [hlookup, List.append_nil]
  · refine ⟨[key], ?_⟩
    rw [hlookup]
    unfold keys
    rw [List.map_append]
    rfl

/-- A lock that has been asked for is at the place where it was found. -/
theorem place?_lookup (l : Locks) (key : LockKey) :
    (l.lookup key).2.place? key = some (l.lookup key).1 := by
  rcases l.lookup_cases key with ⟨i, hplace, hlookup⟩ | ⟨hplace, hlookup⟩
  · rw [hlookup]
    exact hplace
  · rw [hlookup]
    unfold place? at hplace ⊢
    rw [List.findIdx?_append, hplace, Option.none_or]
    simp

/-- Locks that are made later change no place. -/
theorem place?_of_prefix (h : l.keys <+: l'.keys)
    (hplace : l.place? key = some i) :
    l'.place? key = some i := by
  obtain ⟨later, hkeys⟩ := h
  rw [place?_eq] at hplace ⊢
  rw [← hkeys, List.findIdx?_append, hplace, Option.some_or]

/-- At the place of a key is the lock for it. -/
theorem exists_split (h : l.place? key = some i) :
    ∃ before flag after, l.made = before ++ ⟨key, flag⟩ :: after
      ∧ before.length = i := by
  obtain ⟨hi, hkey, -⟩ := List.findIdx?_eq_some_iff_getElem.mp h
  have hlock : l.made[i] = ⟨key, l.made[i].held⟩ := by
    rw [← of_decide_eq_true hkey]
  refine ⟨l.made.take i, l.made[i].held, l.made.drop (i + 1), ?_,
    List.length_take_of_le (Nat.le_of_lt hi)⟩
  rw [← hlock, ← List.drop_eq_getElem_cons hi, List.take_append_drop]

/-- No place is that of two keys. -/
theorem place?_inj (h : l.place? key = some i) (h' : l.place? key' = some i) :
    key = key' := by
  obtain ⟨before, flag, after, hmade, rfl⟩ := exists_split h
  obtain ⟨before', flag', after', hmade', hlength⟩ := exists_split h'
  obtain ⟨-, hrest⟩ := List.append_inj (hmade.symm.trans hmade') hlength.symm
  exact congrArg Lock.key (List.cons.inj hrest).1

-- ======================================================================= flags

/-- The keys of the locks that are held. -/
def held (l : Locks) : List LockKey := (l.made.filter (·.held)).map (·.key)

theorem isHeld_eq (l : Locks) (key : LockKey) :
    l.isHeld key = decide (key ∈ l.held) := by
  rw [Bool.eq_iff_iff, decide_eq_true_eq]
  unfold isHeld held
  simp only [List.any_eq_true, List.mem_map, List.mem_filter, Bool.and_eq_true,
    decide_eq_true_eq]
  constructor
  · rintro ⟨k, hk, hkey, hheld⟩
    exact ⟨k, ⟨hk, hheld⟩, hkey⟩
  · rintro ⟨k, ⟨hk, hheld⟩, hkey⟩
    exact ⟨k, hk, hkey, hheld⟩

/-- Asking for a lock takes none. -/
theorem held_lookup (l : Locks) (key : LockKey) :
    (l.lookup key).2.held = l.held := by
  rcases l.lookup_cases key with ⟨i, -, hlookup⟩ | ⟨-, hlookup⟩
  · rw [hlookup]
  · rw [hlookup]
    unfold held
    rw [List.filter_append]
    simp

theorem held_eq_nil_iff : l.held = [] ↔ ∀ k ∈ l.made, k.held = false := by
  unfold held
  simp only [List.map_eq_nil_iff, List.filter_eq_nil_iff, Bool.not_eq_true]

theorem modify_append_length {α : Type} (f : α → α) (before : List α) (a : α)
    (after : List α) :
    (before ++ a :: after).modify before.length f = before ++ f a :: after := by
  induction before with
  | nil => rfl
  | cons x before ih => exact congrArg (x :: ·) ih

/-- Taking a lock, or giving it back, changes its own flag and nothing else. -/
theorem setHeld_split {before after : List Lock} {flag : Bool}
    (hmade : l.made = before ++ ⟨key, flag⟩ :: after) (b : Bool) :
    l.setHeld before.length b = ⟨before ++ ⟨key, b⟩ :: after⟩ := by
  unfold setHeld
  rw [hmade, modify_append_length]

/-- While no lock is held, taking one holds just that one. -/
theorem held_setHeld (hfree : l.held = []) (h : l.place? key = some i) :
    (l.setHeld i true).held = [key] := by
  obtain ⟨before, flag, after, hmade, rfl⟩ := exists_split h
  rw [held_eq_nil_iff, hmade] at hfree
  have hbefore : before.filter (·.held) = [] :=
    List.filter_eq_nil_iff.mpr fun k hk => by simp [hfree k (by simp [hk])]
  have hafter : after.filter (·.held) = [] :=
    List.filter_eq_nil_iff.mpr fun k hk => by simp [hfree k (by simp [hk])]
  rw [setHeld_split hmade]
  unfold held
  rw [List.filter_append, hbefore, List.filter_cons_of_pos rfl, hafter]
  rfl

/-- While no lock is held, taking one and giving it back leaves the locks as
they were. -/
theorem setHeld_setHeld (hfree : l.held = []) (h : l.place? key = some i) :
    (l.setHeld i true).setHeld i false = l := by
  obtain ⟨before, flag, after, hmade, rfl⟩ := exists_split h
  have hflag : flag = false :=
    held_eq_nil_iff.mp hfree ⟨key, flag⟩ (by simp [hmade])
  have htaken : (l.setHeld before.length true).made
      = before ++ ⟨key, true⟩ :: after :=
    congrArg made (setHeld_split hmade true)
  rw [setHeld_split htaken, ← hflag, ← hmade]

theorem keys_setHeld (h : l.place? key = some i) (b : Bool) :
    (l.setHeld i b).keys = l.keys := by
  obtain ⟨before, flag, after, hmade, rfl⟩ := exists_split h
  rw [setHeld_split hmade]
  unfold keys
  rw [hmade, List.map_append, List.map_append]
  rfl

-- ============================================================ asking for locks

/-- The locks after some have been asked for. -/
def asking (l : Locks) (asked : List LockKey) : Locks :=
  Course.after (fun l key => (l.lookup key).2) l asked

theorem held_asking (l : Locks) (asked : List LockKey) :
    (l.asking asked).held = l.held :=
  Course.keeps (P := fun later : Locks => later.held = l.held) rfl
    fun key _ later h => (later.held_lookup key).trans h

theorem prefix_asking (l : Locks) (asked : List LockKey) :
    l.keys <+: (l.asking asked).keys :=
  Course.keeps (P := fun later : Locks => l.keys <+: later.keys) List.prefix_rfl
    fun key _ later h => h.trans (later.prefix_lookup key)

/-- The places found by asking in turn are those that the keys have in the
end. -/
theorem map_lookupAll (l : Locks) (asked : List LockKey) :
    (l.lookupAll asked).map some = asked.map (l.asking asked).place? := by
  induction asked generalizing l with
  | nil => rfl
  | cons key asked ih =>
      have hplace : (l.asking (key :: asked)).place? key
          = some (l.lookup key).1 :=
        place?_of_prefix ((l.lookup key).2.prefix_asking asked)
          (l.place?_lookup key)
      show some (l.lookup key).1 :: ((l.lookup key).2.lookupAll asked).map some
        = (l.asking (key :: asked)).place? key
          :: asked.map ((l.lookup key).2.asking asked).place?
      rw [hplace, ih]

/-- Two of the places found by asking in turn are the same exactly if the keys
are. -/
theorem lookupAll_eq_iff (l : Locks) (asked : List LockKey) (i j : Nat) :
    (l.lookupAll asked)[i]? = (l.lookupAll asked)[j]?
    ↔ asked[i]? = asked[j]? := by
  have hfound (n : Nat) : ((l.lookupAll asked)[n]?).map some
      = (asked[n]?).map (l.asking asked).place? := by
    rw [← List.getElem?_map, map_lookupAll, List.getElem?_map]
  constructor
  · intro h
    have hi := hfound i
    have hj := hfound j
    rw [h] at hi
    cases hplace : (l.lookupAll asked)[j]? with
    | none =>
        rw [hplace, Option.map_none, eq_comm, Option.map_eq_none_iff] at hi hj
        rw [hi, hj]
    | some p =>
        rw [hplace, Option.map_some, eq_comm, Option.map_eq_some_iff] at hi hj
        obtain ⟨key, hkey, hat⟩ := hi
        obtain ⟨key', hkey', hat'⟩ := hj
        rw [hkey, hkey', place?_inj hat hat']
  · intro h
    refine Option.map_injective (fun _ _ => Option.some.inj) ?_
    rw [hfound, hfound, h]

/-- Asking for a lock comes to the same whether another one is held or not. -/
theorem lookup_setHeld (h : l.place? key = some i) (b : Bool) (key' : LockKey) :
    ((l.setHeld i b).lookup key').2 = (l.lookup key').2.setHeld i b := by
  have hplace : (l.setHeld i b).place? key' = l.place? key' := by
    rw [place?_eq, keys_setHeld h, ← place?_eq]
  unfold lookup
  rw [hplace]
  cases l.place? key' with
  | some j => rfl
  | none =>
      obtain ⟨before, flag, after, hmade, rfl⟩ := exists_split h
      have hlater : l.made ++ [⟨key', false⟩]
          = before ++ ⟨key, flag⟩ :: (after ++ [⟨key', false⟩]) := by
        rw [hmade, List.append_assoc, List.cons_append]
      dsimp only
      rw [setHeld_split hmade, setHeld_split hlater, List.append_assoc,
        List.cons_append]

theorem asking_setHeld (h : l.place? key = some i) (b : Bool)
    (asked : List LockKey) :
    (l.setHeld i b).asking asked = (l.asking asked).setHeld i b := by
  induction asked generalizing l with
  | nil => rfl
  | cons key' asked ih =>
      have hlater : (l.lookup key').2.place? key = some i :=
        place?_of_prefix (l.prefix_lookup key') h
      show ((l.setHeld i b).lookup key').2.asking asked
        = ((l.lookup key').2.asking asked).setHeld i b
      rw [lookup_setHeld h, ih hlater]

/-- A lock that is asked for later is one that was there already exactly if it
is asked for by the same key. -/
theorem lookup_eq_iff (h : l.place? key = some i) (hlater : l.keys <+: l'.keys)
    (key' : LockKey) :
    (l'.lookup key').1 = i ↔ key' = key := by
  have hplace : (l'.lookup key').2.place? key = some i :=
    place?_of_prefix (hlater.trans (l'.prefix_lookup key')) h
  have hfound := l'.place?_lookup key'
  constructor
  · intro hsame
    rw [hsame] at hfound
    exact place?_inj hfound hplace
  · rintro rfl
    exact Option.some.inj (hfound.symm.trans hplace)

-- ============================================================ serialized calls

section Calls

variable {α : Type} {a : Arguments} {id : Json}

theorem serialized_of_missing (hid : a.scheme? = none)
    (body : Arguments → Locks → α) :
    l.serialized a body = (.error (.schemeMissing a), l) := by
  unfold serialized
  rw [hid]

theorem serialized_of_notAKey (hid : a.scheme? = some id)
    (hkey : LockKey.ofJson? id = none) (body : Arguments → Locks → α) :
    l.serialized a body = (.error (.notAKey id), l) := by
  unfold serialized
  rw [hid]
  dsimp only
  rw [hkey]

/-- A serialized call takes the lock that it asks for, and leaves what asking
for it leaves. -/
theorem serialized_of_key (hfree : l.held = []) (hid : a.scheme? = some id)
    (hkey : LockKey.ofJson? id = some key) (body : Arguments → Locks → α) :
    l.serialized a body
      = (.ok (body a ((l.lookup key).2.setHeld (l.lookup key).1 true)),
        (l.lookup key).2) := by
  have hback :=
    setHeld_setHeld ((l.held_lookup key).trans hfree) (l.place?_lookup key)
  unfold serialized
  rw [hid]
  dsimp only
  rw [hkey]
  dsimp only
  rw [hback]

end Calls

/-- What is done with the locks: one is asked for, or a serialized call is
made. -/
inductive Use (α : Type) where
  | lookup (key : LockKey)
  | call (a : Arguments) (body : Arguments → Locks → α)

/-- The locks after one use of them. -/
def Use.step {α : Type} (l : Locks) : Use α → Locks
  | lookup key => (l.lookup key).2
  | call a body => (l.serialized a body).2

/-- The locks after some uses of them. -/
def after {α : Type} (l : Locks) (uses : List (Use α)) : Locks :=
  Course.after Use.step l uses

variable {α : Type}

/-- While no lock is held, a use leaves the locks as they are or as asking for
one leaves them. -/
theorem step_cases (hfree : l.held = []) (u : Use α) :
    u.step l = l ∨ ∃ key, u.step l = (l.lookup key).2 := by
  cases u with
  | lookup key => exact .inr ⟨key, rfl⟩
  | call a body =>
      cases hid : a.scheme? with
      | none => exact .inl (congrArg Prod.snd (serialized_of_missing hid body))
      | some id =>
          cases hkey : LockKey.ofJson? id with
          | none =>
              exact .inl (congrArg Prod.snd
                (serialized_of_notAKey hid hkey body))
          | some key =>
              exact .inr ⟨key, congrArg Prod.snd
                (serialized_of_key hfree hid hkey body)⟩

/-- While no lock is held, a use leaves none held and all of them in their
places. -/
theorem free_step (hfree : l.held = []) (u : Use α) :
    (u.step l).held = [] ∧ l.keys <+: (u.step l).keys := by
  rcases step_cases hfree u with hstep | ⟨key, hstep⟩
  · rw [hstep]
    exact ⟨hfree, List.prefix_rfl⟩
  · rw [hstep]
    exact ⟨(l.held_lookup key).trans hfree, l.prefix_lookup key⟩

/-- And so do many uses. -/
theorem free_after (hfree : l.held = []) (uses : List (Use α)) :
    (l.after uses).held = [] ∧ l.keys <+: (l.after uses).keys := by
  refine Course.keeps
    (P := fun later : Locks => later.held = [] ∧ l.keys <+: later.keys)
    ⟨hfree, List.prefix_rfl⟩ ?_
  rintro u - later ⟨hfree, hprefix⟩
  obtain ⟨hfree', hprefix'⟩ := free_step hfree u
  exact ⟨hfree', hprefix.trans hprefix'⟩

theorem isHeld_of_free (hfree : l.held = []) (key : LockKey) :
    l.isHeld key = false := by
  rw [isHeld_eq, hfree]
  rfl

/-- Whatever uses have been made of the locks, none is held. A call that names a
scheme then runs its body, with the arguments as they are, while the lock of the
scheme is held and no other one, whatever locks the body asks for meanwhile; it
gives that lock back and passes on what the body comes to, be it an answer or a
failure. A call that names no scheme is refused and nothing is done. A lock that
is asked for later is the same as one that was asked for before exactly if the
names are the same, and so are any two of the locks that are asked for in
turn. -/
theorem exclusion_of_uses {ε β : Type} (uses : List (Use (Except ε β))) :
    let l := empty.after uses
    (∀ key, l.isHeld key = false)
      ∧ (∀ (a : Arguments) (id : Text), a.Names id →
        let i := (l.lookup (.name id)).1
        let idle := (l.lookup (.name id)).2
        let taken := idle.setHeld i true
        (∀ body : Arguments → Locks → Except ε β, l.serialized a body
          = (.ok (body a taken), idle))
          ∧ (∀ key, idle.isHeld key = false)
          ∧ ∀ asked, (taken.asking asked).held = [.name id]
            ∧ (∀ key, (taken.asking asked).isHeld key = true ↔ key = .name id)
            ∧ (taken.asking asked).setHeld i false = idle.asking asked)
      ∧ (∀ a : Arguments, a.named.lookup (.ofString "scheme_id") = none →
        a.positional.length < 2 →
        ∀ body : Arguments → Locks → Except ε β,
          l.serialized a body = (.error (.schemeMissing a), l))
      ∧ (∀ (s t : Text) (between : List (Use (Except ε β))),
        let later := (l.lookup (.name s)).2.after between
        (later.lookup (.name t)).1 = (l.lookup (.name s)).1 ↔ t = s)
      ∧ ∀ (names : List Text) (i j : Nat),
        let places := l.lookupAll (names.map .name)
        places[i]? = places[j]? ↔ names[i]? = names[j]? := by
  intro l
  have hfree : l.held = [] := (free_after rfl uses).1
  refine ⟨isHeld_of_free hfree, ?_, ?_, ?_, ?_⟩
  · intro a id hnames i idle taken
    have hidle : idle.held = [] := (l.held_lookup (.name id)).trans hfree
    have hplace : idle.place? (.name id) = some i := l.place?_lookup (.name id)
    refine ⟨serialized_of_key hfree hnames.scheme?_eq rfl, isHeld_of_free hidle,
      fun asked => ?_⟩
    have hheld : (taken.asking asked).held = [.name id] :=
      (taken.held_asking asked).trans (held_setHeld hidle hplace)
    refine ⟨hheld, fun key => ?_, ?_⟩
    · rw [isHeld_eq, hheld, decide_eq_true_eq, List.mem_singleton]
    · have hlater : (idle.asking asked).place? (.name id) = some i :=
        place?_of_prefix (idle.prefix_asking asked) hplace
      rw [asking_setHeld hplace]
      exact setHeld_setHeld ((idle.held_asking asked).trans hidle) hlater
  · intro a hname hshort body
    exact serialized_of_missing (Arguments.scheme?_eq_none hname hshort) body
  · intro s t between later
    have hlater : (l.lookup (.name s)).2.keys <+: later.keys :=
      (free_after ((l.held_lookup (.name s)).trans hfree) between).2
    rw [lookup_eq_iff (l.place?_lookup (.name s)) hlater, LockKey.name.injEq]
  · intro names i j places
    have hname : Function.Injective LockKey.name := fun _ _ => LockKey.name.inj
    show (l.lookupAll (names.map .name))[i]?
      = (l.lookupAll (names.map .name))[j]? ↔ _
    rw [lookupAll_eq_iff, List.getElem?_map, List.getElem?_map,
      (Option.map_injective hname).eq_iff]

/-- A lock is asked for, one call fails after its body has begun, and one names
no scheme. -/
def mixedUses : List (Use (Except String Json)) :=
  [.lookup (.name "bees"),
    .call ⟨[.null, .text "ants"], []⟩ fun _ _ => .error "no",
    .call ⟨[.null], []⟩ fun _ _ => .ok .null]

theorem exclusion_of_mixedUses :
    let l := empty.after mixedUses
    let a : Arguments := ⟨[.null, .text "ants"], [("scheme_id", .text "cats")]⟩
    let body : Arguments → Locks → Except String Json := fun a meanwhile =>
      if meanwhile.held = [.name "cats"] then .error "late"
      else .ok (.array a.positional)
    a.Names "cats" ∧ (l.serialized a body).1 = .ok (.error "late")
      ∧ (l.serialized a body).2.isHeld (.name "cats") = false
      ∧ l.serialized ⟨[.text "ants"], []⟩ body
        = (.error (.schemeMissing ⟨[.text "ants"], []⟩), l)
      ∧ (((l.lookup (.name "ants")).2.after [.call a body]).lookup
        (.name "ants")).1
        = (l.lookup (.name "ants")).1 := by
  intro l a body
  obtain ⟨-, hcall, hmissing, hsame, -⟩ := exclusion_of_uses mixedUses
  have hnames : a.Names "cats" := .byName (by decide)
  obtain ⟨hrun, hback, hheld⟩ := hcall a "cats" hnames
  have hbody : body a
    ((l.lookup (.name "cats")).2.setHeld (l.lookup (.name "cats")).1 true)
      = .error "late" := if_pos (hheld []).1
  refine ⟨hnames, ?_, ?_, hmissing _ rfl (by decide) body,
    (hsame "ants" "ants" _).mpr rfl⟩
  · rw [hrun body]
    exact congrArg Except.ok hbody
  · rw [hrun body]
    exact hback _

end Locks

end SavingsClub
