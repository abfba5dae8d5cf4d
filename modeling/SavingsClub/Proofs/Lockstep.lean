/-
The club in memory and the club in the office, in lockstep.

# The statement

`lockstep_of_run`: the same steps at the same moments get the same answers from
both and leave both with the same record, the same balances and, once there is a
record, the same log. Only a mint is answered in another form.

# Why it holds

What an operation does is a ruling on the record (`Engine.perform_eq`), and both
sides have the same record, so they carry out the same plan. What the memory
then does the database does too (`Mirrors.carryOut`) as long as everything is
legible, and a legible step leaves a legible club. When something is refused
half-way the two would part, because the office gives up what the memory keeps;
this is where it matters that a solvent club does not fail half-way. Nor does it
lapse: the readings of the clock are not too far back, and a pot that is paid
out was in a legible ledger before (`effect_of_passed`).

# What it takes

A name that does not consist of characters, or a number that has too many
digits, is kept by the memory and not by the database: `not_lockstep`.
-/
import SavingsClub.Office
import SavingsClub.Proofs.Booking
import SavingsClub.Proofs.Solvency

namespace SavingsClub

-- =========================================================== the office's side

namespace Database

variable {α : Type} {db db' : Database} {act : Act Database α} {a : α}
  {f : Failure}

theorem peek_ok (h : act db = .ok a db') : db.peek act = (.ok a, db) := by
  simp only [peek, Session.run, Session.start, h]

theorem peek_error (h : act db = .error f db') :
    db.peek act = (.error f, db) := by
  simp only [peek, Session.run, Session.start, h]
  cases f <;> rfl

theorem transaction_ok (h : act db = .ok a db') :
    db.transaction act = (.ok a, db') := by
  rw [transaction_eq, h]

theorem transaction_error (h : act db = .error f db') :
    db.transaction act = (.error f, db) := by
  rw [transaction_eq, h]

end Database

namespace Office

variable {settings : Settings} {id : Text} {db db' : Database} {now : Int}
  {op : Operation}

theorem step_scheme_error {f : Failure}
    (h : ((ofSettings settings).engine settings id).perform now op db
      = .error f db')
    (hf : f.reported = f) :
    (ofSettings settings).step db now (.scheme id op) = (.error f, db) := by
  show (if op.isReading then
    db.peek (((ofSettings settings).engine settings id).perform now op)
    else db.reportedTransaction
      (((ofSettings settings).engine settings id).perform now op)) = _
  split
  · exact Database.peek_error h
  · unfold Database.reportedTransaction
    rw [Database.transaction_error h]
    show (Except.error f.reported, db) = _
    rw [hf]

theorem step_scheme_ok {a : Answer}
    (h : ((ofSettings settings).engine settings id).perform now op db
      = .ok a db')
    (hop : op.isReading = true → db' = db) :
    (ofSettings settings).step db now (.scheme id op) = (.ok a, db') := by
  show (if op.isReading then
    db.peek (((ofSettings settings).engine settings id).perform now op)
    else db.reportedTransaction
      (((ofSettings settings).engine settings id).perform now op)) = _
  split
  case isTrue hreading =>
    rw [hop hreading]
    exact Database.peek_ok h
  case isFalse =>
    unfold Database.reportedTransaction
    rw [Database.transaction_ok h]
    rfl

/-- An operation does in the office what is ruled on the record in the
database. -/
theorem perform_eq (settings : Settings) {id : Text} (hid : id.isWhole = true)
    (db : Database) (now : Int) (op : Operation) :
    ((ofSettings settings).engine settings id).perform now op db
      = match op.ruling (settings.custodyAccount id) id now (db.scheme? id) with
        | .error f => .error (.fault f) db
        | .ok r => ((ofSettings settings).engine settings id).follow r db :=
  ((ofSettings settings).engine settings id).perform_eq db (db.scheme? id)
    (Database.backend_has db hid) (Database.backend_get db hid) now op

end Office

-- ==================================================================== one step

namespace Memory

/-- The ledgers that a step leads to, one transfer after another. -/
def passed (custody key : Text) (m : Memory) (now : Int) : Step → List Ledger
  | .scheme op =>
      match op.ruling custody key now (m.schemes.get? key) with
      | .ok (.act p) => m.ledger.course p.transfers
      | _ => []
  | .ledger (.mint asset holder amount) =>
    (m.ledger.mint asset holder amount).toOption.toList
  | .ledger (.transfer t) => m.ledger.course [t]
  | _ => []

/-- A step that is handed nothing illegible to look for or to keep. -/
def Step.Legible : Step → Prop
  | .scheme op => op.Legible
  | .ledger (.balance asset holder) =>
    asset.isWhole = true ∧ holder.isWhole = true
  | .ledger (.mint asset holder _) =>
    asset.isWhole = true ∧ holder.isWhole = true
  | .ledger (.transfer t) => t.Legible
  | .amend _ => True

/-- The same step, asked of the office. -/
def Step.inOffice (id : Text) : Step → Office.Step
  | .scheme op => .scheme id op
  | .ledger c => .ledger c
  | .amend edit => .amend id edit

/-- What the office answers where the memory gives an answer and ends as `m'`: a
mint shows the new balance. -/
def Step.shown (m' : Memory) :
    Step → Except Failure Answer → Except Failure Answer
  | .ledger (.mint asset holder _), .ok _ =>
    .ok (.amount (m'.ledger.balance asset holder))
  | _, a => a

variable {settings : Settings} {id : Text} {m : Memory}
  {db : Database} {now : Int}

/-- The payment that was missing is the first transfer of what is carried
out. -/
theorem mem_passed_of_payment {custody c : Text} {s : Scheme} {payer : s.Payer}
    {l : Ledger} (hs : m.schemes.get? id = some s)
    (haccept : s.accept c now = .ok payer)
    (hlast : s.paidMembers.length + 1 = s.members.length)
    (hl : m.ledger.transfer (s.payment custody c) = .ok l) :
    l ∈ m.passed custody id now (.scheme (.contribute (some c) c)) := by
  obtain ⟨next, hnext⟩ := Scheme.advance_of_accept haccept hlast
  have hgranted : Operation.Granted custody now (some s)
      (.contribute (some c) c) _ :=
    .completes haccept hlast hnext
  have hruling : (Operation.contribute (some c) c).ruling custody id now
      (some s) = _ :=
    Operation.ruling_eq_act_iff.mpr hgranted
  rw [passed, hs, hruling]
  show l ∈ m.ledger.course [s.payment custody c, _]
  rw [Ledger.course, hl]
  exact List.mem_cons_self ..

/-- A solvent club that comes to legible ledgers only does not lapse: what it
pays out it has. -/
theorem effect_of_passed {custody : Text} {st : Step}
    (hm : Solvent custody id m) (hst : st.amends = false)
    (hnow : -(digitLimit : Int) < now)
    (hpassed : ∀ l ∈ m.passed custody id now st, l.Legible) :
    Effect custody id m now st (m.step custody id now st).1
      (m.step custody id now st).2 := by
  rcases effect_or_lapse custody id m now hst with heffect | ⟨-, hlapse⟩
  · exact heffect
  obtain ⟨c, s, payer, l, l', rfl, hs, haccept, hlast, -, hl, hl', hpot⟩ :=
    hlapse.too_long (fun s hs => (hm.covered s hs).sound) hnow
  obtain ⟨hpos, -, hfunds, -⟩ := Ledger.transfer_eq_ok hl'
  have hbalance :=
    hpassed l (mem_passed_of_payment hs haccept hlast hl) s.assetId custody
  have hzero : isWritable 0 = true :=
    isWritable_of_le (Int.le_refl 0) (by decide) maxTime_lt
  have hwritable : isWritable (s.pay c).pot = true :=
    isWritable_of_between hzero (Int.le_of_lt hpos) hfunds hbalance
  rw [hwritable] at hpot
  cases hpot

/-- An operation keeps memory and office alike. -/
theorem mirrors_scheme {op : Operation} (hmirror : Mirrors id m db)
    (hm : Solvent (settings.custodyAccount id) id m)
    (hs : ∀ s, m.schemes.get? id = some s → s.Legible) (hid : id.isWhole = true)
    (hcustody : (settings.custodyAccount id).isWhole = true) (hop : op.Legible)
    (hnow : -(digitLimit : Int) < now)
    (hpassed : ∀ l ∈ m.passed (settings.custodyAccount id) id now (.scheme op),
      l.Legible) :
    ∃ db', (Office.ofSettings settings).step db now (.scheme id op)
        = ((m.step (settings.custodyAccount id) id now (.scheme op)).1, db')
      ∧ Mirrors id (m.step (settings.custodyAccount id) id now (.scheme op)).2
        db' := by
  have hmemory := step_scheme (settings.custodyAccount id) id m now op
  have hoffice := Office.perform_eq settings hid db now op
  rw [hmirror.record] at hoffice
  have hst : (Step.scheme op).amends = false := rfl
  have heffect := effect_of_passed hm hst hnow hpassed
  simp only [passed] at hpassed
  cases hr : op.ruling (settings.custodyAccount id) id now
    (m.schemes.get? id) with
  | error f =>
      rw [hr] at hmemory hoffice
      rw [hmemory]
      exact ⟨db, Office.step_scheme_error hoffice rfl, hmirror⟩
  | ok r =>
      rw [hr] at hmemory hoffice hpassed
      cases r with
      | look a =>
          have hlook : m.step (settings.custodyAccount id) id now (.scheme op)
              = (.ok a, m) :=
            hmemory
          rw [hlook]
          exact ⟨db, Office.step_scheme_ok hoffice fun _ => rfl, hmirror⟩
      | act p =>
          have hp := Operation.legible_of_ruling
            (fun s hs' => ⟨(hm.covered s hs').sound, hs s hs'⟩) hop
            hcustody hnow hr
          have hreading : op.isReading = true → False := fun hop => by
            obtain ⟨a, ha⟩ := Operation.look_of_isReading hop hr
            cases ha
          rcases hmirror.carryOut (settings.custodyAccount id) hid hp
            hpassed with
            ⟨l, db', hdone, hdone', hmirror'⟩
              | ⟨f, m', db', hfailed, hfailed', hf⟩
          · have hstep := hmemory.trans (run_ok hdone)
            rw [hstep]
            exact ⟨db', Office.step_scheme_ok (hoffice.trans hdone') fun h =>
              (hreading h).elim, hmirror'⟩
          · -- the office gives up what was done, and a solvent memory has done
            -- nothing
            have hstep := hmemory.trans (run_error hfailed)
            rw [hstep] at heffect
            rw [hstep, hm.eq_of_error heffect]
            exact ⟨db, Office.step_scheme_error (hoffice.trans hfailed') hf,
              hmirror⟩

theorem Step.shown_ledger (c : LedgerCall) (m' : Memory)
    (a : Except Failure Answer) :
    (Step.ledger c).shown m' a = a.map (c.shown m'.ledger) := by
  cases a <;> cases c <;> rfl

/-- A call on the ledger keeps memory and office alike; of a mint the office
shows more. -/
theorem mirrors_ledger {c : LedgerCall} (hmirror : Mirrors id m db)
    (hc : (Step.ledger c).Legible) (custody : Text)
    (hpassed : ∀ l ∈ m.passed custody id now (.ledger c), l.Legible) :
    ∃ db', (Office.ofSettings settings).step db now (.ledger c)
        = ((Step.ledger c).shown (m.step custody id now (.ledger c)).2
          (m.step custody id now (.ledger c)).1, db')
      ∧ Mirrors id (m.step custody id now (.ledger c)).2 db' := by
  have hbooked : Booked m db c := by
    cases c with
    | balance asset holder =>
        exact .of_balance hmirror.holdings (Database.search_pair hc.1 hc.2)
    | mint asset holder amount =>
        refine .of_mint hmirror.holdings
          (fun _ => Database.search_pair hc.1 hc.2) fun l hl => ?_
        exact hpassed l (by simp [passed, hl, Except.toOption])
    | transfer t =>
        refine .of_transfer hmirror.holdings
          (fun _ => Database.search_pair hc.asset hc.sender)
          (fun _ _ => Database.search_pair hc.asset hc.recipient) fun l hl => ?_
        exact hpassed l (by simp [passed, Ledger.course, hl])
  have hstep : m.step custody id now (.ledger c) = m.call c := rfl
  rw [hstep]
  cases hbooked with
  | made hcall hrows hholdings hschemes hevents =>
      rw [Step.shown_ledger, hcall]
      refine ⟨_, Database.transaction_ok hrows, ?_⟩
      rw [call_frame]
      exact hmirror.of_ledger hholdings hschemes hevents
  | refused hcall hrows =>
      rw [Step.shown_ledger, hcall]
      exact ⟨db, Database.transaction_error hrows, hmirror⟩

/-- A legible step leaves a legible record. -/
theorem legible_of_step (custody : Text) {st : Step} (hst : st.amends = false)
    (hm : ∀ s, m.schemes.get? id = some s → s.Sound)
    (hs : ∀ s, m.schemes.get? id = some s → s.Legible) (hlegible : st.Legible)
    (hnow : -(digitLimit : Int) < now) :
    ∀ s, (m.step custody id now st).2.schemes.get? id = some s → s.Legible := by
  intro next hnext
  cases hfound : m.schemes.get? id with
  | some s =>
      obtain ⟨next', hnext', hprogress⟩ :=
        progress_of_step custody now hst hfound
      cases hnext.symm.trans hnext'
      exact (hs s hfound).progress (hm s hfound) hnow hprogress
  | none =>
      rcases beginning_of_step custody now hst hfound with
        hnone | ⟨t, s, rfl, hs', hopened⟩
      · rw [hnone] at hnext
        cases hnext
      · cases hnext.symm.trans hs'
        exact Scheme.legible_of_opening hlegible hnow hopened

-- ==================================================================== lockstep

/-- What the memory shows of a club, and the office of the same club. -/
structure Agree (settings : Settings) (id : Text) (m : Memory) (db : Database) :
    Prop where
  record : db.scheme? id = m.schemes.get? id
  balances : db.statement = m.ledger.statement
  history : (m.schemes.get? id).isSome = true → ∀ now,
    (Office.ofSettings settings).step db now (.history id)
      = (.ok (.log (m.events.map Event.entry)), db)

/-- Memory and office answer some moves alike, and agree after each of them. -/
def Lockstep (settings : Settings) (id : Text) (m : Memory) (db : Database) :
    List Move → Prop
  | [] => True
  | mv :: moves =>
      let r := m.step (settings.custodyAccount id) id mv.now mv.step
      let o := (Office.ofSettings settings).step db mv.now (mv.step.inOffice id)
      o.1 = mv.step.shown r.2 r.1 ∧ Agree settings id r.2 o.2
        ∧ Lockstep settings id r.2 o.2 moves

/-- All the ledgers that some moves lead to, one transfer after another. -/
def ledgers (custody key : Text) : Memory → List Move → List Ledger :=
  notes custody key fun m mv => m.passed custody key mv.now mv.step

theorem agree_of_mirrors (hmirror : Mirrors id m db) (hid : id.isWhole = true) :
    Agree settings id m db where
  record := hmirror.record
  balances := by
    show Holding.statement db.holdings = Holding.statement m.ledger.holdings
    rw [hmirror.holdings]
  history := by
    intro hsome now
    have hhas := Database.backend_has db hid
    rw [hmirror.record, hsome] at hhas
    have hlog : Database.backend.history id db
        = .ok (m.events.map Event.entry) db := by
      show (Database.backend.has id >>= fun _ => _) db = _
      rw [Act.bind_ok hhas, ← hmirror.log]
      rfl
    exact Database.peek_ok (Act.map_ok hlog Answer.log)

/-- Every legible step keeps office and memory alike. -/
theorem mirrors_step {st : Step} (hmirror : Mirrors id m db)
    (hm : Solvent (settings.custodyAccount id) id m)
    (hs : ∀ s, m.schemes.get? id = some s → s.Legible) (hid : id.isWhole = true)
    (hcustody : (settings.custodyAccount id).isWhole = true)
    (hst : st.amends = false) (hlegible : st.Legible)
    (hnow : -(digitLimit : Int) < now)
    (hpassed : ∀ l ∈ m.passed (settings.custodyAccount id) id now st,
      l.Legible) :
    ∃ db', (Office.ofSettings settings).step db now (st.inOffice id)
        = (st.shown (m.step (settings.custodyAccount id) id now st).2
          (m.step (settings.custodyAccount id) id now st).1, db')
      ∧ Mirrors id (m.step (settings.custodyAccount id) id now st).2 db' := by
  cases st with
  | amend edit => cases hst
  | scheme op =>
      exact mirrors_scheme hmirror hm hs hid hcustody hlegible hnow hpassed
  | ledger c => exact mirrors_ledger hmirror hlegible _ hpassed

/-- The induction over a run: solvency, a legible record and the relation carry
it. -/
theorem lockstep_of_mirrors {moves : List Move} (hmirror : Mirrors id m db)
    (hm : Solvent (settings.custodyAccount id) id m)
    (hs : ∀ s, m.schemes.get? id = some s → s.Legible) (hid : id.isWhole = true)
    (hcustody : (settings.custodyAccount id).isWhole = true)
    (hmoves : ∀ mv ∈ moves, mv.step.Spares (settings.custodyAccount id))
    (hlegible : ∀ mv ∈ moves, mv.step.Legible ∧ -(digitLimit : Int) < mv.now)
    (hledgers : ∀ l ∈ ledgers (settings.custodyAccount id) id m moves,
      l.Legible) :
    Lockstep settings id m db moves := by
  induction moves generalizing m db with
  | nil => trivial
  | cons mv moves ih =>
      have hmem := List.mem_cons_self (a := mv) (l := moves)
      obtain ⟨hst, hdebits⟩ := hmoves mv hmem
      obtain ⟨hstep, hnow⟩ := hlegible mv hmem
      have hpassed := fun l hl => hledgers l (List.mem_append_left _ hl)
      obtain ⟨db', hoffice, hmirror'⟩ :=
        mirrors_step hmirror hm hs hid hcustody hst hstep hnow hpassed
      have heffect := effect_of_passed hm hst hnow hpassed
      unfold Lockstep
      rw [hoffice]
      refine ⟨rfl, agree_of_mirrors hmirror' hid, ?_⟩
      exact ih hmirror' (heffect.solvent hm fun s _ => hdebits s.assetId)
        (legible_of_step _ hst (fun s hs => (hm.covered s hs).sound)
          hs hstep hnow)
        (fun mv' hmv' => hmoves mv' (List.mem_cons_of_mem mv hmv'))
        (fun mv' hmv' => hlegible mv' (List.mem_cons_of_mem mv hmv'))
        (fun l hl => hledgers l (List.mem_append_right _ hl))

/-- The club in memory and the club in the office go through the same run alike,
if what they are handed and the ledgers they come to are legible and nobody
takes custody's money by hand. -/
theorem lockstep_of_run (settings : Settings) (id : Text) (moves : List Move)
    (hlead : settings.custodyPrefix.isWhole = true) (hid : id.isWhole = true)
    (hmoves : ∀ mv ∈ moves, mv.step.Spares (settings.custodyAccount id))
    (hlegible : ∀ mv ∈ moves, mv.step.Legible ∧ -(digitLimit : Int) < mv.now)
    (hledgers : ∀ l ∈ ledgers (settings.custodyAccount id) id .empty moves,
      l.Legible) :
    Lockstep settings id .empty .empty moves := by
  have hcustody : (settings.custodyAccount id).isWhole = true :=
    Settings.isWhole_custodyAccount hlead hid
  have hempty : Mirrors id .empty .empty := ⟨rfl, rfl, rfl⟩
  exact lockstep_of_mirrors hempty solvent_empty (fun s hs => by cases hs) hid
    hcustody hmoves hlegible hledgers

theorem lockstep_of_completion :
    let run : List Move := [⟨0, .ledger (.mint "usd" "ana" 20)⟩,
      ⟨0, .ledger (.mint "usd" "bo" 5)⟩,
      ⟨1, .scheme
        (.establish ⟨"ana", ["ana", "bo"], .integer 5, "usd", .integer 100⟩)⟩,
      ⟨2, .scheme (.contribute (some "ana") "ana")⟩,
      ⟨2, .scheme (.contribute (some "ana") "ana")⟩,
      ⟨3, .scheme (.contribute (some "bo") "bo")⟩,
      ⟨4, .scheme .getState⟩]
    Lockstep .standard "s" .empty .empty run
      ∧ (after "scheme:s" "s" .empty run).schemes.get? "s"
        = some ⟨"ana", ["ana", "bo"], 5, "usd", 100, 103, 1, [], []⟩ := by
  intro run
  have hmoves : ∀ mv ∈ run,
      mv.step.Spares (Settings.standard.custodyAccount "s") := by
    intro mv hmv
    simp only [run, List.mem_cons, List.not_mem_nil, or_false] at hmv
    rcases hmv with rfl | rfl | rfl | rfl | rfl | rfl | rfl
    all_goals exact ⟨rfl, fun asset h => h⟩
  have hnow : ∀ mv ∈ run, -(digitLimit : Int) < mv.now := by
    decide +kernel
  have hlegible : ∀ mv ∈ run, mv.step.Legible := by
    intro mv hmv
    simp only [run, List.mem_cons, List.not_mem_nil, or_false] at hmv
    rcases hmv with rfl | rfl | rfl | rfl | rfl | rfl | rfl
    · exact ⟨by decide +kernel, by decide +kernel⟩
    · exact ⟨by decide +kernel, by decide +kernel⟩
    · exact ⟨by decide +kernel, by decide +kernel, by decide +kernel⟩
    all_goals trivial
  have hledgers :
    ∀ l ∈ ledgers (Settings.standard.custodyAccount "s") "s" .empty run,
      ∀ e ∈ l.balances.entries, isWritable e.2 = true := by
    decide +kernel
  refine ⟨lockstep_of_run .standard "s" run (by decide +kernel)
    (by decide +kernel) hmoves (fun mv hmv => ⟨hlegible mv hmv, hnow mv hmv⟩)
    fun l hl => Ledger.legible_of_entries (hledgers l hl), by decide +kernel⟩

/-- Names, amounts and moments do have to be legible: memory takes a name that
is torn and an amount of 4301 digits, and the office takes neither. From a
moment so long ago that the deadline counted from it has 4301 digits nobody can
begin a scheme, but the memory keeps the record, which it fails only to report,
and the office does not. -/
theorem not_lockstep :
    ¬ Lockstep .standard "s" .empty .empty
      [⟨0, .ledger (.mint "usd" ⟨[0xD800]⟩ 5)⟩]
      ∧ ¬ Lockstep .standard "s" .empty .empty
        [⟨0, .ledger (.mint "usd" "ana" (Nat.pow 10 4300))⟩]
      ∧ ¬ Lockstep .standard "s" .empty .empty
        [⟨-(Nat.pow 10 4300) - 100,
          .scheme (.establish
            ⟨"ana", ["ana"], .integer 5, "usd", .integer 100⟩)⟩] := by
  refine ⟨?_, ?_, ?_⟩
  · rintro ⟨hanswer, -⟩
    exact absurd hanswer (by decide +kernel)
  · rintro ⟨hanswer, -⟩
    exact absurd hanswer (by decide +kernel)
  · rintro ⟨-, hagree, -⟩
    exact absurd hagree.record (by decide +kernel)

end Memory

end SavingsClub
