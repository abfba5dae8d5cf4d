/-
What calls of batches commit.

# What a batch comes to

A batch makes its mints one after the other, so a failure can strike between any
two of them, with what was minted before it in the rows, accounts that had to be
opened included. `Batch.failure?` says which failure that is if there is one: it
is that of the first mint that cannot be made, or else the one the batch is to
end with. `Batch.act_eq` ties it to what is done, by an induction over the mints
whose invariant is that every account holds what it held plus the mints so far.

# What is committed

The rows keep the mints of a batch that returns and nothing of one that does not
(`Batch.Call.run_eq`), so what calls commit is the sum of the mints of those
that returned (`Batch.committed_of_calls`). A call without a session is refused
before anything is done.

# Which failure is passed on

A failure is passed on as it is, but it is reported first, and an amount that is
too long to be kept is also too long for the report of it
(`not_always_passed_on`).
-/
import SavingsClub.Database.Batch
import SavingsClub.Proofs.Course
import SavingsClub.Proofs.Deed

namespace SavingsClub

/-- What mints add to what a holder has of an asset. -/
def minted (asset holder : Text) : List Holding → Int
  | [] => 0
  | m :: ms =>
      (if asset = m.asset ∧ holder = m.holder then m.amount else 0)
        + minted asset holder ms

theorem minted_append (asset holder : Text) (ms ms' : List Holding) :
    minted asset holder (ms ++ ms')
      = minted asset holder ms + minted asset holder ms' := by
  induction ms with
  | nil => exact (Int.zero_add _).symm
  | cons m ms ih =>
      show (if _ then _ else _) + minted asset holder (ms ++ ms')
        = (if _ then _ else _) + _ + _
      rw [ih, Int.add_assoc]

theorem minted_singleton (asset holder : Text) (m : Holding) :
    minted asset holder [m]
      = if asset = m.asset ∧ holder = m.holder then m.amount else 0 :=
  Int.add_zero _

-- ======================================================================= mints

namespace Holding

/-- Why a mint cannot be made on rows to which `done` has been minted before, if
it cannot. -/
def obstacle? (db : Database) (done : List Holding) (m : Holding) :
    Option Failure :=
  if m.amount ≤ 0 then
    some (.fault (.transferRejected (.mintNotPositive m.amount)))
  else match [m.asset, m.holder].findSome? Text.tear? with
    | some tear => some (.unsearchable tear)
    | none =>
      if isWritable (db.balance m.asset m.holder
        + minted m.asset m.holder (done ++ [m])) then none
      else some (.storage .numeralTooLong)

/-- Why the first of some mints that cannot be made cannot be made, if there is
one. -/
def firstObstacle? (db : Database) :
    List Holding → List Holding → Option Failure
  | _, [] => none
  | done, m :: ms =>
    (m.obstacle? db done).or (firstObstacle? db (done ++ [m]) ms)

/-- The only obstacle to a positive mint under names that can be looked for is
its length. -/
theorem obstacle?_of_pos {db : Database} {done : List Holding} {m : Holding}
    (hamount : 0 < m.amount)
    (hwhole : [m.asset, m.holder].findSome? Text.tear? = none) :
    m.obstacle? db done
      = if isWritable (db.balance m.asset m.holder
        + minted m.asset m.holder (done ++ [m])) then
          none
        else some (.storage .numeralTooLong) := by
  unfold obstacle?
  rw [if_neg (Int.not_le.mpr hamount), hwhole]

/-- An amount that is not positive is in the way wherever it stands. -/
theorem firstObstacle?_of_mem (db : Database) (done : List Holding)
    {ms : List Holding} {m : Holding} (hm : m ∈ ms) (hamount : m.amount ≤ 0) :
    ∃ f, firstObstacle? db done ms = some f := by
  induction ms generalizing done with
  | nil => cases hm
  | cons m' ms ih =>
      unfold firstObstacle?
      rcases List.mem_cons.mp hm with rfl | hm
      · have hobstacle : m.obstacle? db done
            = some (.fault (.transferRejected (.mintNotPositive m.amount))) :=
              if_pos hamount
        rw [hobstacle]
        exact ⟨_, rfl⟩
      · cases m'.obstacle? db done with
        | some f => exact ⟨f, rfl⟩
        | none => exact ih (done ++ [m']) hm

end Holding

namespace Database

variable {db db₀ : Database} {done ms : List Holding} {m : Holding}

/-- The rows hold what others held and what has been minted since. -/
structure Increased (db₀ : Database) (done : List Holding) (db : Database) :
    Prop where
  balances : ∀ asset holder,
    db.balance asset holder
    = db₀.balance asset holder + minted asset holder done
  schemes : db.schemes = db₀.schemes
  events : db.events = db₀.events

theorem Increased.refl (db : Database) : db.Increased [] db :=
  ⟨fun _ _ => (Int.add_zero _).symm, rfl, rfl⟩

theorem Increased.trans {db' : Database} (h : db₀.Increased done db)
    (h' : db.Increased ms db') :
    db₀.Increased (done ++ ms) db' where
  balances asset holder := by
    rw [h'.balances, h.balances, minted_append, Int.add_assoc]
  schemes := h'.schemes.trans h.schemes
  events := h'.events.trans h.events

/-- A mint of a positive amount looks its account up and writes what is in it
afterwards. -/
theorem mint_of_pos (db : Database) (asset holder : Text) {amount : Int}
    (hamount : ¬ amount ≤ 0) :
    db.mint asset holder amount
      = search [asset, holder] >>= fun _ =>
        db.putBalance asset holder (db.balance asset holder + amount) := by
  unfold Database.mint mintRejection?
  rw [if_neg hamount]

/-- A mint fails at its obstacle, and if there is none it is made. -/
theorem Increased.mint (h : db₀.Increased done db) (m : Holding) :
    match m.obstacle? db₀ done with
    | some f => db.mint m.asset m.holder m.amount = .error f
    | none => ∃ db', db.mint m.asset m.holder m.amount = .ok db'
      ∧ db₀.Increased (done ++ [m]) db' := by
  have hnew : db.balance m.asset m.holder + m.amount
      = db₀.balance m.asset m.holder
          + minted m.asset m.holder (done ++ [m]) := by
    rw [h.balances, minted_append, minted_singleton, if_pos ⟨rfl, rfl⟩,
      Int.add_assoc]
  unfold Holding.obstacle?
  by_cases hamount : m.amount ≤ 0
  · rw [if_pos hamount]
    unfold Database.mint mintRejection?
    rw [if_pos hamount]
  have hmint := db.mint_of_pos m.asset m.holder hamount
  unfold search at hmint
  rw [if_neg hamount]
  cases htear : [m.asset, m.holder].findSome? Text.tear? with
  | some tear =>
      rw [htear] at hmint
      exact hmint
  | none =>
      rw [htear] at hmint
      dsimp only
      rw [← hnew]
      by_cases hwritable :
        isWritable (db.balance m.asset m.holder + m.amount) = true
      · rw [if_pos hwritable]
        have hput : db.mint m.asset m.holder m.amount = .ok _ :=
          hmint.trans (putBalance_of_writable hwritable)
        obtain ⟨-, hbalances, hschemes, hevents⟩ := balance_of_mint hput
        refine ⟨_, hput, fun asset holder => ?_, hschemes.trans h.schemes,
          hevents.trans h.events⟩
        rw [hbalances, h.balances, minted_append, minted_singleton,
          Int.add_assoc]
      · rw [if_neg hwritable]
        exact hmint.trans (putBalance_of_long (Bool.eq_false_iff.mpr hwritable))

/-- Mints are made in order, up to the first obstacle. -/
theorem Increased.mints (h : db₀.Increased done db) (ms : List Holding) :
    match Holding.firstObstacle? db₀ done ms with
    | some f =>
        ∃ half, (ms.forM fun m => backend.mint m.asset m.holder m.amount) db
          = .error f half
    | none =>
        ∃ db', (ms.forM fun m => backend.mint m.asset m.holder m.amount) db
          = .ok () db'
      ∧ db₀.Increased (done ++ ms) db' := by
  induction ms generalizing db done with
  | nil => exact ⟨db, rfl, (List.append_nil done).symm ▸ h⟩
  | cons m ms ih =>
      have hfirst := h.mint m
      unfold Holding.firstObstacle?
      cases hobstacle : m.obstacle? db₀ done with
      | some f =>
          rw [hobstacle] at hfirst
          exact ⟨db, Act.bind_error (Act.tryChange_error hfirst) _⟩
      | none =>
          rw [hobstacle] at hfirst
          obtain ⟨db', hmint, hincreased⟩ := hfirst
          have hrest := ih hincreased
          have hbind : ((m :: ms).forM fun m => backend.mint m.asset m.holder
            m.amount) db
              = (ms.forM fun m => backend.mint m.asset m.holder m.amount) db' :=
            Act.bind_ok (Act.tryChange_ok hmint) _
          rw [Option.none_or, hbind, List.append_cons done m ms]
          exact hrest

end Database

-- ===================================================================== batches

theorem Handover.session_or_absent (h : Handover) :
    (h = .positional ∨ h = .named) ∨ ∃ a, h = .absent a := by
  cases h with
  | positional => exact .inl (.inl rfl)
  | named => exact .inl (.inr rfl)
  | absent a => exact .inr ⟨a, rfl⟩

namespace Batch

variable {db : Database} {b : Batch}

/-- Why a batch fails, if it does: a mint that cannot be made comes before the
end of the batch. -/
def failure? (b : Batch) (db : Database) : Option Failure :=
  (Holding.firstObstacle? db [] b.mints).or
    (b.failing.map fun words => .fault (.transferRejected (.stated words)))

/-- A batch fails if there is a reason to, and makes all its mints if there is
none. -/
theorem act_eq (b : Batch) (db : Database) :
    match b.failure? db with
    | some f => ∃ half, b.act db = .error f half
    | none =>
        ∃ db', b.act db = .ok b.answer db' ∧ db.Increased b.mints db' := by
  have hmints := (Database.Increased.refl db).mints b.mints
  unfold failure?
  cases hobstacle : Holding.firstObstacle? db [] b.mints with
  | some f =>
      rw [hobstacle] at hmints
      obtain ⟨half, hfails⟩ := hmints
      exact ⟨half, Act.bind_error hfails _⟩
  | none =>
      rw [hobstacle] at hmints
      obtain ⟨db', hmade, hincreased⟩ := hmints
      obtain ⟨mints, failing, answer⟩ := b
      cases failing with
      | some words => exact ⟨db', Act.bind_ok hmade _⟩
      | none => exact ⟨db', Act.bind_ok hmade _, hincreased⟩

/-- A batch with an amount that is not positive, or with words to fail with,
fails. -/
theorem failure?_of_defect (db : Database)
    (h : (∃ m ∈ b.mints, m.amount ≤ 0) ∨ b.failing ≠ none) :
    ∃ f, b.failure? db = some f := by
  unfold failure?
  cases hobstacle : Holding.firstObstacle? db [] b.mints with
  | some f => exact ⟨f, rfl⟩
  | none =>
      rcases h with ⟨m, hm, hamount⟩ | hfailing
      · obtain ⟨f, hf⟩ := Holding.firstObstacle?_of_mem db [] hm hamount
        rw [hf] at hobstacle
        cases hobstacle
      · obtain ⟨words, hwords⟩ := Option.ne_none_iff_exists'.mp hfailing
        rw [hwords]
        exact ⟨_, rfl⟩

-- ======================================================================= calls

/-- A batch and how it is handed its session. -/
structure Call where
  batch : Batch
  handover : Handover

/-- What a call answers, and the committed rows after it. -/
def Call.run (c : Call) (db : Database) : Except BatchFailure Json × Database :=
  c.batch.run db c.handover

/-- The committed rows after a call. -/
def afterCall (db : Database) (c : Call) : Database := (c.run db).2

/-- The committed rows after some calls. -/
def after (db : Database) (calls : List Call) : Database :=
  Course.after afterCall db calls

/-- A call, if it returns. -/
def returns (db : Database) (c : Call) : List Call :=
  if (c.run db).1.isOk then [c] else []

/-- Those among some calls that return. -/
def returned (db : Database) (calls : List Call) : List Call :=
  Course.notes afterCall returns db calls

variable {c : Call}

/-- A call with a session makes its batch a transaction. -/
theorem Call.run_eq_transaction
    (hsession : c.handover = .positional ∨ c.handover = .named)
    (db : Database) :
    c.run db = ((db.reportedTransaction c.batch.act).1.mapError .failure,
      (db.reportedTransaction c.batch.act).2) := by
  unfold run Batch.run
  rcases hsession with h | h
  all_goals
    rw [h]
    dsimp only
    obtain ⟨answer, rows⟩ := db.reportedTransaction c.batch.act
    cases answer <;> rfl

/-- What a call with a session comes to. -/
theorem Call.run_of_session
    (hsession : c.handover = .positional ∨ c.handover = .named)
    (db : Database) :
    match c.batch.failure? db with
    | some f => (∃ half, c.batch.act db = .error f half)
      ∧ c.run db = (.error (.failure f.reported), db)
    | none =>
        (c.run db).1 = .ok c.batch.answer
            ∧ db.Increased c.batch.mints (c.run db).2 := by
  have hrun := run_eq_transaction hsession db
  have hact := c.batch.act_eq db
  unfold Database.reportedTransaction at hrun
  rw [Database.transaction_eq] at hrun
  cases hfailure : c.batch.failure? db with
  | some f =>
      rw [hfailure] at hact
      obtain ⟨half, hfails⟩ := hact
      rw [hfails] at hrun
      exact ⟨⟨half, hfails⟩, hrun⟩
  | none =>
      rw [hfailure] at hact
      obtain ⟨db', hdone, hincreased⟩ := hact
      rw [hdone] at hrun
      rw [hrun]
      exact ⟨rfl, hincreased⟩

/-- A call without a session does nothing. -/
theorem Call.run_of_absent {a : Arguments} (habsent : c.handover = .absent a)
    (db : Database) :
    c.run db = (.error (match a.session? with
      | none => .sessionMissing a
      | some _ => .notASession), db) := by
  unfold run Batch.run
  rw [habsent]
  dsimp only
  cases a.session? <;> rfl

/-- The rows keep the mints of a call that returns, and of another one
nothing. -/
theorem Call.run_eq (c : Call) (db : Database) :
    (∃ j, (c.run db).1 = .ok j ∧ db.Increased c.batch.mints (c.run db).2)
      ∨ ∃ f, c.run db = (.error f, db) := by
  rcases c.handover.session_or_absent with hsession | ⟨a, habsent⟩
  · have hrun := run_of_session hsession db
    cases hfailure : c.batch.failure? db with
    | some f =>
        rw [hfailure] at hrun
        exact Or.inr ⟨_, hrun.2⟩
    | none =>
        rw [hfailure] at hrun
        exact Or.inl ⟨_, hrun⟩
  · exact Or.inr ⟨_, run_of_absent habsent db⟩

/-- What a call commits is what it has minted if it returns. -/
theorem increased_of_call (db : Database) (c : Call) :
    db.Increased ((returns db c).flatMap (·.batch.mints)) (c.run db).2 := by
  unfold returns
  rcases c.run_eq db with ⟨j, hreturned, hincreased⟩ | ⟨f, hfailed⟩
  · rw [hreturned]
    have hmints : List.flatMap (·.batch.mints) [c] = c.batch.mints :=
      List.flatMap_singleton ..
    exact hmints.symm ▸ hincreased
  · rw [hfailed]
    exact .refl db

/-- What calls commit is what those that return have minted. -/
theorem increased_of_calls (db : Database) (calls : List Call) :
    db.Increased ((returned db calls).flatMap (·.batch.mints))
      (after db calls) := by
  induction calls generalizing db with
  | nil => exact .refl db
  | cons c calls ih =>
      show db.Increased
        ((returns db c ++ returned (c.run db).2 calls).flatMap _) _
      rw [List.flatMap_append]
      exact (increased_of_call db c).trans (ih (c.run db).2)

/-- A failure stays as it is, but for the one that cannot be reported. -/
theorem reported_of_ne {f : Failure} (h : f ≠ .storage .numeralTooLong) :
    f.reported = f := by
  unfold Failure.reported
  split
  · exact absurd rfl h
  · rfl

/-- What calls commit is what those that return have minted, and no row but
those of balances is touched. Whatever the calls so far have come to, the next
one that is handed a session returns if there is no reason for its batch to
fail, and if there is one it passes the failure on and leaves the rows as they
were. An amount that is not positive is such a reason, wherever it stands, and
so are words to fail with. Without a session nothing is done. -/
theorem committed_of_calls (db : Database) (calls : List Call) :
    let rows := after db calls
    db.Increased ((returned db calls).flatMap (·.batch.mints)) rows
      ∧ ∀ c : Call,
        let r := c.run rows
        (c.handover = .positional ∨ c.handover = .named →
          match c.batch.failure? rows with
          | some f => (∃ half, c.batch.act rows = .error f half)
            ∧ r = (.error (.failure f.reported), rows)
            ∧ (f ≠ .storage .numeralTooLong → f.reported = f)
          | none => r.1 = .ok c.batch.answer ∧ rows.Increased c.batch.mints r.2)
        ∧ ((∃ m ∈ c.batch.mints, m.amount ≤ 0) ∨ c.batch.failing ≠ none →
          ∃ f, r = (.error f, rows))
        ∧ ∀ a, c.handover = .absent a →
          r = (.error (match a.session? with
            | none => .sessionMissing a
            | some _ => .notASession), rows) := by
  intro rows
  refine ⟨increased_of_calls db calls, fun c => ?_⟩
  intro r
  refine ⟨fun hsession => ?_, fun hdefect => ?_,
    fun a habsent => Call.run_of_absent habsent rows⟩
  · have hrun := Call.run_of_session hsession rows
    cases hfailure : c.batch.failure? rows with
    | some f =>
        rw [hfailure] at hrun
        exact ⟨hrun.1, hrun.2, reported_of_ne⟩
    | none =>
        rw [hfailure] at hrun
        exact hrun
  · rcases c.handover.session_or_absent with hsession | ⟨a, habsent⟩
    · have hrun := Call.run_of_session hsession rows
      obtain ⟨f, hfailure⟩ := failure?_of_defect rows hdefect
      rw [hfailure] at hrun
      exact ⟨_, hrun.2⟩
    · exact ⟨_, Call.run_of_absent habsent rows⟩

/-- One call that returns, one whose second amount is 0, and one that fails in
the end. -/
def mixedCalls : List Call :=
  [⟨⟨[⟨"usd", "ana", 5⟩, ⟨"usd", "ana", 2⟩], none, .null⟩, .positional⟩,
    ⟨⟨[⟨"usd", "bo", 3⟩, ⟨"usd", "ana", 0⟩], none, .null⟩, .named⟩,
    ⟨⟨[⟨"usd", "bo", 4⟩], some "no", .null⟩, .positional⟩]

theorem committed_of_mixedCalls :
    let rows := after .empty mixedCalls
    rows.balance "usd" "ana" = 7 ∧ rows.balance "usd" "bo" = 0
      ∧ ∃ f,
        (⟨⟨[⟨"usd", "bo", 4⟩], some "no", .null⟩, .positional⟩ : Call).run rows
          = (.error f, rows) := by
  intro rows
  obtain ⟨hincreased, hnext⟩ := committed_of_calls .empty mixedCalls
  have hreturned : (returned .empty mixedCalls).flatMap (·.batch.mints)
      = [⟨"usd", "ana", 5⟩, ⟨"usd", "ana", 2⟩] := by
    decide +kernel
  rw [hreturned] at hincreased
  obtain ⟨-, hdefect, -⟩ :=
    hnext ⟨⟨[⟨"usd", "bo", 4⟩], some "no", .null⟩, .positional⟩
  exact ⟨(hincreased.balances "usd" "ana").trans (by decide),
    (hincreased.balances "usd" "bo").trans (by decide), hdefect (.inr (nofun))⟩

/-- The failure of a batch is not always the one that is passed on: before the
amount of 0 is come to, a balance is too long to be kept, and then so is the
report of it. -/
theorem not_always_passed_on :
    let b : Batch :=
      ⟨[⟨"usd", "ana", digitLimit - 1⟩, ⟨"usd", "ana", 1⟩, ⟨"usd", "ana", 0⟩],
        none, .null⟩
    (∃ m ∈ b.mints, m.amount ≤ 0)
      ∧ (∃ half, b.act .empty = .error (.storage .numeralTooLong) half)
      ∧ b.run .empty .positional
          = (.error (.failure .unspeakable), .empty) := by
  intro b
  have hbig : 0 < maxTime := by decide
  have hmax := maxTime_lt
  have hwhole : [("usd" : Text), "ana"].findSome? Text.tear? = none := by decide
  have hfirst : Holding.obstacle? .empty [] ⟨"usd", "ana", digitLimit - 1⟩
      = none := by
    rw [Holding.obstacle?_of_pos (show (0 : Int) < digitLimit - 1 by omega)
      hwhole]
    have hwritable : isWritable (0 + (digitLimit - 1 + 0)) = true := by
      rw [Int.zero_add, Int.add_zero]
      exact isWritable_last
    exact if_pos hwritable
  have hsecond : Holding.obstacle? .empty [⟨"usd", "ana", digitLimit - 1⟩]
    ⟨"usd", "ana", 1⟩
      = some (.storage .numeralTooLong) := by
    rw [Holding.obstacle?_of_pos (show (0 : Int) < 1 by decide) hwhole]
    have hlong : isWritable (0 + (digitLimit - 1 + (1 + 0))) = false :=
      isWritable_of_long (by omega)
    exact if_neg (Bool.eq_false_iff.mp hlong)
  have hfailure : b.failure? .empty = some (.storage .numeralTooLong) := by
    unfold failure? Holding.firstObstacle? Holding.firstObstacle?
    rw [hfirst]
    show ((Holding.obstacle? .empty [⟨"usd", "ana", digitLimit - 1⟩]
      ⟨"usd", "ana", 1⟩).or _).or _ = _
    rw [hsecond]
    rfl
  have hrun := Call.run_of_session (c := ⟨b, .positional⟩) (.inl rfl) .empty
  rw [hfailure] at hrun
  exact ⟨⟨⟨"usd", "ana", 0⟩, by simp [b], Int.le_refl 0⟩, hrun⟩

end Batch

end SavingsClub
