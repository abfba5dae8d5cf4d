/-
What a response relays of a step.

# What is relayed

`Answered` says, kind by kind, with which status and which body the outcome of a
step is to be answered: what a step returns, and the faults of the club's.
`Relays` says that a response and the rows after it are those of a step, and
whatever is read as a step relays it (`relays_of_call`).

# What can be shown

A body that can not be shown turns into a bare 500. This takes a name that does
not consist of characters, in the request or in the rows or in the name of
custody accounts (`presentable_of_answered`).

# Two ways that meet

What a step of the office comes to and what a response is made of are two
matters, and each has its lemmas. The ones on the office say what its steps
return and fail with, whichever transaction they run in: a question peeks, a
change is reported, a call on the ledger is neither (`step_of_perform`,
`step_of_history`, `step_of_balance_fst`). The ones on the service say that the
response is made of just that (`Call.perform_scheme` and its like).
`Relays.of_answer` puts the two together, so that a kind of call has to say only
how its successes and its faults are answered.
-/
import SavingsClub.Proofs.Spelling

namespace SavingsClub

-- ========================================================= steps of the office

namespace Office

variable {settings : Settings} {db db' : Database} {now : Int}
  {id asset holder : Text} {op : Operation} {st : Step} {a : Answer} {f : Fault}

/-- Whether a step is a mint. -/
def Step.isMint : Step → Bool
  | .ledger (.mint ..) => true
  | _ => false

/-- A step on a scheme comes to what its operation comes to; a failure may be
reported. -/
theorem step_of_perform :
    ((ofSettings settings).step db now (.scheme id op)).1
      = match (⟨Database.backend, settings.custodyAccount id,
        id⟩ : Engine Database).perform now op
          db with
        | .ok a _ => .ok a
        | .error e _ => .error (if op.isReading then e else e.reported) := by
  cases hop : op.isReading with
  | false =>
      have hstep : (ofSettings settings).step db now (.scheme id op) = _ :=
        step_of_change hop
      rw [hstep]
      cases (⟨Database.backend, settings.custodyAccount id,
        id⟩ : Engine Database).perform now op db <;> rfl
  | true =>
      have hstep : (ofSettings settings).step db now (.scheme id op) = db.peek
          ((⟨Database.backend, settings.custodyAccount id,
            id⟩ : Engine Database).perform now op) :=
        if_pos hop
      rw [hstep]
      cases hdone : (⟨Database.backend, settings.custodyAccount id,
        id⟩ : Engine Database).perform
          now op db with
      | ok a db' => rw [Database.peek_ok hdone]
      | error e db' =>
          rw [Database.peek_error hdone]
          rfl

/-- What a step on a scheme returns is what its operation returns. -/
theorem perform_of_step_ok
    (h : ((ofSettings settings).step db now (.scheme id op)).1 = .ok a) :
    ∃ db',
      (⟨Database.backend, settings.custodyAccount id,
        id⟩ : Engine Database).perform now op db
      = .ok a db' := by
  rw [step_of_perform] at h
  split at h
  · next hdone =>
      cases h
      exact ⟨_, hdone⟩
  · cases h

/-- A fault that a step on a scheme fails with is the fault of its operation. -/
theorem perform_of_step_fault
    (h : ((ofSettings settings).step db now (.scheme id op)).1
      = .error (.fault f)) :
    ∃ db',
      (⟨Database.backend, settings.custodyAccount id,
        id⟩ : Engine Database).perform now op db
      = .error (.fault f) db' := by
  rw [step_of_perform] at h
  split at h
  · cases h
  next e db' hfails =>
    refine ⟨db', hfails.trans ?_⟩
    -- reporting turns some failures into others, but none of them into a fault
    split at h
    · cases h
      rfl
    · cases e with
      | fault g =>
          cases h
          rfl
      | storage g => cases g <;> cases h
      | settings | unsearchable | noRecord | unspeakable => cases h

/-- A step that fails changes nothing. -/
theorem rows_of_error {e : Failure} (hst : st.isRegular = true)
    (h : ((ofSettings settings).step db now st).1 = .error e) :
    ((ofSettings settings).step db now st).2 = db := by
  have hdeed := deed_of_step (.ok settings) db now hst
  change Deed (.ok settings) db now st ((ofSettings settings).step db now st).1
    ((ofSettings settings).step db now st).2 at hdeed
  rw [h] at hdeed
  generalize ((ofSettings settings).step db now st).2 = rows at hdeed
  cases hdeed with
  | nothing => rfl

/-- The log of a scheme is what is answered when it is asked for. -/
theorem step_of_history (hid : id.isWhole = true) :
    ((ofSettings settings).step db now (.history id)).1
      = if (db.scheme? id).isSome then .ok (.log (db.log id))
        else .error (.fault (.notInitialized id)) := by
  have hhas := Database.backend_has db hid
  show (db.peek (Answer.log <$> Database.backend.history id)).1 = _
  cases hfound : (db.scheme? id).isSome with
  | true =>
      rw [hfound] at hhas
      have hlog : Database.backend.history id db = .ok (db.log id) db :=
        Act.bind_ok hhas _
      rw [Database.peek_ok (Act.map_ok hlog _)]
      rfl
  | false =>
      rw [hfound] at hhas
      have hnone : Database.backend.history id db
          = .error (.fault (.notInitialized id)) db :=
        Act.bind_ok hhas _
      rw [Database.peek_error (Act.map_error hnone _)]
      rfl

/-- What somebody has is answered, or can not be looked up. -/
theorem step_of_balance_fst :
    ((ofSettings settings).step db now (.ledger (.balance asset holder))).1
      = (Database.search [asset, holder]).map fun _ =>
        .amount (db.balance asset holder) := by
  show (db.transaction
    (Answer.amount <$> Database.backend.balance asset holder)).1 = _
  cases hsearch : Database.search [asset, holder] with
  | ok u =>
      have hlooked : Database.backend.balance asset holder db
          = .ok (db.balance asset holder) db :=
        Database.lookUp_ok hsearch fun db => db.balance asset holder
      rw [Database.transaction_ok (Act.map_ok hlooked _)]
      rfl
  | error e =>
      have hfails : Database.backend.balance asset holder db = .error e db :=
        Database.lookUp_error hsearch fun db => db.balance asset holder
      rw [Database.transaction_error (Act.map_error hfails _)]
      rfl

end Office

-- ============================================================= what is relayed

namespace Http

/-- A record between the name of its scheme and the name of the scheme's
account. -/
def framed (settings : Settings) (id : Text) (s : Scheme) : Json :=
  .obj (("scheme_id", .string id) :: s.fields
    ++ [("custody_account", .string (settings.custodyAccount id))])

/-- The status and the body that answer what a step has come to. -/
inductive Answered (settings : Settings) :
    Office.Step → Except Failure Answer → Nat → Json → Prop where
  /-- What has been made is answered with 201, and all else that succeeds with
  200. -/
  | begun {id : Text} {t : Terms} {s : Scheme} :
      Answered settings (.scheme id (.establish t)) (.ok (.scheme s)) 201
        (framed settings id s)
  | scheme {id : Text} {s : Scheme} :
      Answered settings (.scheme id .getScheme) (.ok (.scheme s)) 200
        (framed settings id s)
  /-- What is open of a scheme, asked for or after a payment. -/
  | state {id : Text} {s : RoundState} :
      Answered settings (.scheme id .getState) (.ok (.state s)) 200 s.toJson
  | paid {id contributor : Text} {caller : Option Text} {s : RoundState} :
      Answered settings (.scheme id (.contribute caller contributor))
        (.ok (.state s)) 200 s.toJson
  | closed {id : Text} {caller : Option Text} {c : Closure} :
      Answered settings (.scheme id (.closeRound caller)) (.ok (.closure c))
        200 c.toJson
  /-- All that has been told of a scheme, in order. -/
  | history {id : Text} {l : List LogEntry} :
      Answered settings (.history id) (.ok (.log l)) 200
        (.array (l.map fun e => .obj
          [("event_type", .text e.eventType), ("data", e.data)]))
  | balance {asset holder : Text} {n : Int} :
      Answered settings (.ledger (.balance asset holder)) (.ok (.amount n)) 200
        (.obj [("asset_id", .string asset), ("holder", .string holder),
          ("balance", .integer n)])
  | minted {asset holder : Text} {amount n : Int} :
      Answered settings (.ledger (.mint asset holder amount))
        (.ok (.amount n)) 200
        (.obj [("asset_id", .string asset), ("holder", .string holder),
          ("balance", .integer n)])
  /-- A fault on a scheme has the status of its kind, and its name and message
  in the body. -/
  | refused {st : Office.Step} {id : Text} {f : Fault}
      (hst : st.addressee? = some id) (hf : f.isSpeakable = true) :
      Answered settings st (.error (.fault f)) f.kind.status
        (.obj
          [("detail",
            .obj [("error", .text f.kind.name),
              ("message", .string f.message)])])
  /-- A fault on a mint has one status, and its message alone in the body. -/
  | unminted {asset holder : Text} {amount : Int} {f : Fault}
      (hf : f.isSpeakable = true) :
      Answered settings (.ledger (.mint asset holder amount))
        (.error (.fault f)) 400 (.obj [("detail", .string f.message)])

/-- A response and the rows after it are those of a step. Nothing is said of how
a failure is answered that is no fault of the club's or has no message. -/
structure Relays (settings : Settings) (db : Database) (now : Int)
    (st : Office.Step) (after : Response × Database) : Prop where
  rows : after.2 = ((Office.ofSettings settings).step db now st).2
  returned : ∀ a, ((Office.ofSettings settings).step db now st).1 = .ok a →
    ∃ status body, Answered settings st (.ok a) status body
    ∧ after.1 = .json status body
  refused : ∀ f, ((Office.ofSettings settings).step db now st).1
    = .error (.fault f) →
    f.isSpeakable = true →
    ∃ status body, Answered settings st (.error (.fault f)) status body
      ∧ after.1 = .json status body

variable {settings : Settings} {db : Database} {now : Int}
  {r : Request} {c : Call} {st : Office.Step}

/-- Names in a path consist of characters, and nobody asks for the defaulters
alone. -/
theorem Request.scheme_of_ofRequest {id : Text} {op : Operation}
    (h : Call.ofRequest r = .ok (.scheme id op)) :
    id.isWhole = true ∧ op ≠ .getDefaulters := by
  obtain ⟨e, he, hcall⟩ := endpoint_of_ofRequest h
  cases e with
  | welcome | health | listEvents | showBalance => cases hcall
  | showScheme name | showState name | closeRound name =>
      cases hcall
      exact ⟨Text.isWhole_ofString name, Operation.noConfusion⟩
  | createScheme name | contribute name =>
      obtain ⟨a, -, hcall⟩ := eq_ok_of_bind hcall
      cases hcall
      exact ⟨Text.isWhole_ofString name, Operation.noConfusion⟩
  | mint asset =>
      obtain ⟨pair, -, hcall⟩ := eq_ok_of_bind hcall
      cases hcall

/-- So do those in the path to a history. -/
theorem Request.history_of_ofRequest {id : Text}
    (h : Call.ofRequest r = .ok (.history id)) :
    id.isWhole = true := by
  obtain ⟨e, he, hcall⟩ := endpoint_of_ofRequest h
  cases e with
  | welcome | health | showScheme | showState | closeRound | showBalance =>
      cases hcall
  | listEvents name =>
      cases hcall
      exact Text.isWhole_ofString name
  | createScheme | contribute | mint =>
      obtain ⟨a, -, hcall⟩ := eq_ok_of_bind hcall
      cases hcall

/-- What an operation returns is of its own kind, and so is answered as it is to
be. -/
theorem answered_of_scheme {id : Text} {op : Operation} {a : Answer}
    (hop : op ≠ .getDefaulters)
    (h : ((Office.ofSettings settings).step db now (.scheme id op)).1 = .ok a) :
    Answered settings (.scheme id op) (.ok a) (Response.successStatus op)
      (Response.answerJson settings id a) := by
  obtain ⟨db', hdone⟩ := Office.perform_of_step_ok h
  cases op with
  | establish t =>
      obtain ⟨s, -, rfl⟩ := Act.map_eq_ok hdone
      exact .begun
  | contribute caller contributor =>
      obtain ⟨s, -, rfl⟩ := Act.map_eq_ok hdone
      exact .paid
  | closeRound caller =>
      obtain ⟨s, -, rfl⟩ := Act.map_eq_ok hdone
      exact .closed
  | getState =>
      obtain ⟨s, -, rfl⟩ := Act.map_eq_ok hdone
      exact .state
  | getScheme =>
      obtain ⟨s, -, rfl⟩ := Act.map_eq_ok hdone
      exact .scheme
  | getDefaulters => exact absurd rfl hop

/-- A response made of what a step comes to relays the step if it is made of a
success and of a fault as they are to be answered. -/
theorem Relays.of_answer {served : Response × Database}
    {answer : Except Failure Answer → Response}
    (hserve : served = (answer ((Office.ofSettings settings).step db now st).1,
      ((Office.ofSettings settings).step db now st).2))
    (hreturned : ∀ a, ((Office.ofSettings settings).step db now st).1 = .ok a →
      ∃ status body, Answered settings st (.ok a) status body
        ∧ answer (.ok a) = .json status body)
    (hrefused : ∀ f, ((Office.ofSettings settings).step db now st).1
      = .error (.fault f) →
      f.isSpeakable = true →
      ∃ status body, Answered settings st (.error (.fault f)) status body
        ∧ answer (.error (.fault f)) = .json status body) :
    Relays settings db now st served := by
  rw [hserve]
  refine ⟨rfl, ?_, ?_⟩
  · intro a ha
    dsimp only
    rw [ha]
    exact hreturned a ha
  · intro f hf hspeakable
    dsimp only
    rw [hf]
    exact hrefused f hf hspeakable

/-- Of the operations on a scheme only those that a request can stand for are
answered, which are all but one. -/
theorem relays_of_scheme {id : Text} {op : Operation}
    (hread : Call.ofRequest r = .ok (.scheme id op)) :
    Relays settings db now (.scheme id op)
      (serve (Office.ofSettings settings) db now r) := by
  apply Relays.of_answer
    ((serve_of_call _ _ _ hread).trans (Call.perform_scheme id op))
  · intro a ha
    exact ⟨_, _, answered_of_scheme
      (Request.scheme_of_ofRequest hread).2 ha, rfl⟩
  · intro f hf hspeakable
    exact ⟨_, _, .refused rfl hspeakable, if_pos hspeakable⟩

/-- A history is answered if there is a scheme under the name. -/
theorem relays_of_history {id : Text}
    (hread : Call.ofRequest r = .ok (.history id)) :
    Relays settings db now (.history id)
      (serve (Office.ofSettings settings) db now r) := by
  apply Relays.of_answer
    ((serve_of_call _ _ _ hread).trans (Call.perform_history id))
  · intro a ha
    rw [Office.step_of_history (Request.history_of_ofRequest hread)] at ha
    split at ha
    · cases ha
      exact ⟨_, _, .history, rfl⟩
    · cases ha
  · intro f hf hspeakable
    exact ⟨_, _, .refused rfl hspeakable, if_pos hspeakable⟩

/-- A balance comes to no fault: it is there, or its names cannot be looked
up. -/
theorem relays_of_balance {asset holder : Text}
    (hread : Call.ofRequest r = .ok (.balance asset holder)) :
    Relays settings db now (.ledger (.balance asset holder))
      (serve (Office.ofSettings settings) db now r) := by
  apply Relays.of_answer
    ((serve_of_call _ _ _ hread).trans (Call.perform_balance asset holder))
  · intro a ha
    rw [Office.step_of_balance_fst] at ha
    obtain ⟨u, -, rfl⟩ := eq_ok_of_map ha
    exact ⟨_, _, .balance, rfl⟩
  · intro f hf
    rw [Office.step_of_balance_fst] at hf
    cases hsearch : Database.search [asset, holder] with
    | ok u =>
        rw [hsearch] at hf
        cases hf
    | error e =>
        obtain ⟨tear, rfl⟩ := Database.search_eq_error hsearch
        rw [hsearch] at hf
        cases hf

/-- A mint that is allowed is answered with what its holder has then. -/
theorem relays_of_mint {asset holder : Text} {amount : Int}
    (hread : Call.ofRequest r = .ok (.mint asset holder amount))
    (hallowed : settings.allowMint = true) :
    Relays settings db now (.ledger (.mint asset holder amount))
      (serve (Office.ofSettings settings) db now r) := by
  apply Relays.of_answer
    ((serve_of_call _ _ _ hread).trans
      (Call.perform_mint asset holder amount hallowed))
  · intro a ha
    have hminted : ((Office.ofSettings settings).step db now
        (.ledger (.mint asset holder amount)))
        = _ := Office.step_of_mint asset holder amount
    rw [hminted] at ha
    split at ha
    · cases ha
      exact ⟨_, _, .minted, rfl⟩
    · cases ha
  · intro f hf hspeakable
    exact ⟨_, _, .unminted hspeakable, if_pos hspeakable⟩

/-- Whatever a request is read as is a step of which the rules of the club
speak. -/
theorem Call.isRegular_of_step (hst : c.step? = some st) :
    st.isRegular = true := by
  cases c with
  | welcome | health => cases hst
  | scheme | history | balance | mint =>
      cases hst
      rfl

/-- A request that is read as a step relays it. -/
theorem relays_of_call (hread : Call.ofRequest r = .ok c)
    (hst : c.step? = some st)
    (hallowed : st.isMint = true → settings.allowMint = true) :
    Relays settings db now st
      (serve (Office.ofSettings settings) db now r) := by
  cases c with
  | welcome | health => cases hst
  | scheme id op =>
      cases hst
      exact relays_of_scheme hread
  | history id =>
      cases hst
      exact relays_of_history hread
  | balance asset holder =>
      cases hst
      exact relays_of_balance hread
  | mint asset holder amount =>
      cases hst
      exact relays_of_mint hread (hallowed rfl)

-- =========================================================== what can be shown

/-- Whatever an operation on a scheme returns can be shown. -/
theorem presentable_of_returned {id : Text} {op : Operation} {a : Answer}
    (hid : id.isWhole = true) (hop : op.Spelled) (hdb : db.Spelled)
    (h : ((Office.ofSettings settings).step db now (.scheme id op)).1 = .ok a) :
    presentable a.toJson = true := by
  obtain ⟨db', hdone⟩ := Office.perform_of_step_ok h
  cases hreading : op.isReading with
  | false =>
      -- the answer of a plan is spelled if the record and the operation are
      obtain ⟨p, hgranted, hcarried⟩ :=
        Engine.carryOut_of_perform hreading hdone
      obtain ⟨rfl, -⟩ := Database.committed_of_carryOut hcarried
      exact (hgranted.spelled (hdb.schemes id) hop).2.2
  | true =>
      have hperform := Office.perform_eq settings hid db now op
      change (⟨Database.backend, settings.custodyAccount id,
        id⟩ : Engine Database).perform now op db = _ at hperform
      rw [hdone] at hperform
      cases hfound : db.scheme? id with
      | none =>
          rw [hfound] at hperform
          cases op with
          | establish | contribute | closeRound => cases hreading
          | getState | getScheme | getDefaulters => cases hperform
      | some s =>
          rw [hfound] at hperform
          have hs := hdb.schemes id s hfound
          cases op with
          | establish | contribute | closeRound => cases hreading
          | getState =>
              cases hperform
              exact hs.presentable_state
          | getScheme =>
              cases hperform
              exact hs.presentable
          | getDefaulters =>
              cases hperform
              simpa [Answer.toJson] using hs.defaulters

/-- So can every fault that an operation on a scheme fails with. -/
theorem isWhole_of_fault {id : Text} {op : Operation} {f : Fault}
    (hid : id.isWhole = true) (hop : op.Spelled) (hdb : db.Spelled)
    (hlead : settings.custodyPrefix.isWhole = true)
    (h : ((Office.ofSettings settings).step db now (.scheme id op)).1
      = .error (.fault f)) :
    f.message.isWhole = true := by
  apply Fault.isWhole_message
  obtain ⟨db', hfails⟩ := Office.perform_of_step_fault h
  rcases Engine.fault_of_perform hfails with hrefused
    | ⟨p, hgranted, htransfers⟩
  · exact hrefused.spelled hid (hdb.schemes id) hop
  · -- a transfer that is refused names its sender, who is a member or the
    -- custody account
    obtain ⟨t, ht, available, hrefused⟩ :=
      Database.refused_of_transfers htransfers
    apply hrefused.spelled
    obtain ⟨s, hfound, -, ⟨hsender, -⟩ | ⟨hsender, -⟩⟩ := hgranted.parties t ht
    · exact (hdb.schemes id s hfound).members _ hsender
    · rw [hsender]
      exact Settings.isWhole_custodyAccount hlead hid

/-- A record is shown between two names that can be shown. -/
theorem presentable_framed {id : Text} {s : Scheme}
    (hs : presentable s.toJson = true) (hid : id.isWhole = true)
    (hlead : settings.custodyPrefix.isWhole = true) :
    presentable (framed settings id s) = true := by
  have hcustody := Settings.isWhole_custodyAccount hlead hid
  rw [Scheme.toJson, presentable_obj] at hs
  simp only [framed, presentable_obj, List.all_cons, List.all_append,
    List.all_nil, hs, presentable, hid, hcustody, Bool.and_self]

/-- A fault is shown if its message can be. -/
theorem presentable_refusal {f : Fault} (h : f.message.isWhole = true) :
    presentable (.obj [("detail", .obj [("error", .text f.kind.name),
      ("message", .string f.message)])]) = true :=
  Response.presentable_detail h

/-- A history can be shown if the logs can. -/
theorem presentable_of_history {id : Text} {status : Nat} {body : Json}
    (hid : id.isWhole = true) (hdb : db.Spelled)
    (h : Answered settings (.history id)
      ((Office.ofSettings settings).step db now (.history id)).1 status body) :
    presentable body = true := by
  rw [Office.step_of_history hid] at h
  cases hfound : (db.scheme? id).isSome with
  | true =>
      rw [hfound, if_pos rfl] at h
      cases h with
      | history => simpa [presentable] using hdb.logs id
  | false =>
      rw [hfound, if_neg Bool.false_ne_true] at h
      cases h with
      | refused =>
          apply presentable_refusal
          simp [Fault.message, Fault.Wording.notInitialized, hid]

/-- A balance can be shown, since it was looked up under names that can be. -/
theorem presentable_of_balance {asset holder : Text} {status : Nat}
    {body : Json} (h : Answered settings (.ledger (.balance asset holder))
      ((Office.ofSettings settings).step db now
        (.ledger (.balance asset holder))).1 status body) :
    presentable body = true := by
  rw [Office.step_of_balance_fst] at h
  cases hsearch : Database.search [asset, holder] with
  | ok u =>
      rw [hsearch] at h
      have hnames := Database.isWhole_of_search hsearch
      cases h with
      | balance =>
          exact Response.presentable_balanceJson (hnames asset (by simp))
            (hnames holder (by simp)) _
  | error e =>
      rw [hsearch] at h
      cases h with
      | refused hst => cases hst

/-- So can what has come in, and the refusal of what has not: that one names no
text. -/
theorem presentable_of_mint {asset holder : Text} {amount : Int} {status : Nat}
    {body : Json} (h : Answered settings (.ledger (.mint asset holder amount))
      ((Office.ofSettings settings).step db now
        (.ledger (.mint asset holder amount))).1
      status body) :
    presentable body = true := by
  have hstep : (Office.ofSettings settings).step db now
      (.ledger (.mint asset holder amount)) = _ :=
    Office.step_of_mint asset holder amount
  rw [hstep] at h
  cases hmint : db.mint asset holder amount with
  | ok db' =>
      rw [hmint] at h
      have hnames := Database.isWhole_of_search (Database.search_of_mint hmint)
      cases h with
      | minted =>
          exact Response.presentable_balanceJson (hnames asset (by simp))
            (hnames holder (by simp)) _
  | error e =>
      rw [hmint] at h
      cases h with
      | refused hst => cases hst
      | unminted =>
          obtain ⟨-, rfl⟩ := Database.refused_of_mint hmint
          simp [presentable, Fault.message, Rejection.message]

/-- Where all names consist of characters, everything that is to be answered can
be shown. -/
theorem presentable_of_answered {status : Nat} {body : Json}
    (hread : Call.ofRequest r = .ok c) (hst : c.step? = some st)
    (hr : r.IsSpelled) (hdb : db.Spelled)
    (hlead : settings.custodyPrefix.isWhole = true)
    (h : Answered settings st ((Office.ofSettings settings).step db now st).1
      status body) :
    presentable body = true := by
  cases c with
  | welcome | health => cases hst
  | scheme id op =>
      cases hst
      obtain ⟨hid, hop⟩ := hr.operation hread
      generalize hresult : ((Office.ofSettings settings).step db now
        (.scheme id op)).1 = result at h
      cases h with
      | begun | scheme =>
          exact presentable_framed (presentable_of_returned hid hop hdb hresult)
            hid hlead
      | state | paid | closed =>
          exact presentable_of_returned hid hop hdb hresult
      | refused =>
          exact presentable_refusal (isWhole_of_fault hid hop hdb hlead hresult)
  | history id =>
      cases hst
      exact presentable_of_history (Request.history_of_ofRequest hread) hdb h
  | balance asset holder =>
      cases hst
      exact presentable_of_balance h
  | mint asset holder amount =>
      cases hst
      exact presentable_of_mint h

end Http

end SavingsClub
