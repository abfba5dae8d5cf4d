/-
What a request may come to.

# The list

`Deed` lists what a step may leave behind. `Served` lists the same for a
request, with its answer: either the status says that it was refused, or it only
looked, or it has minted, or an operation that it carried was granted and done.
Neither the rows nor the settings are asked for anything: `served_of_request`.

# From the request to the list

A request is first read, and one that is not read has the status of a refusal
and reaches no row. One that is read is a call, made by the method that goes
with the call: that is why a request that only looks is one by GET. What the
call does to the rows is what the office does, and what is answered is made from
what the office says (`perform_scheme` and the lemmas beside it). An answer is
put together after the rows have been written, so it may still come to nothing
then, although what was asked for is done. The case `done` has therefore no
status: whoever needs one asks whether the answer can be presented.

# Visits

A client visits by sending a request at some moment. `received` are the rows
after some visits, and what requests keep is kept by all of them
(`received_served`).
-/
import SavingsClub.Json.Writer
import SavingsClub.Proofs.Deed
import SavingsClub.Proofs.Reading

namespace SavingsClub.Http

-- ==================================================================== one call

namespace Call

/-- The method by which a call is made. -/
def verb : Call → String
  | welcome | health | history _ | balance _ _ => "GET"
  | scheme _ op => if op.isReading then "GET" else "POST"
  | mint _ _ _ => "POST"

/-- No call is made by asking for the head of an answer alone. -/
theorem verb_ne_head (c : Call) : c.verb ≠ "HEAD" := by
  cases c with
  | welcome | health | history | balance =>
      show "GET" ≠ "HEAD"
      decide
  | scheme id op =>
      show (if op.isReading then "GET" else "POST") ≠ "HEAD"
      split <;> decide
  | mint =>
      show "POST" ≠ "HEAD"
      decide

end Call

section Calls

variable {r : Request} {c : Call} {response : Response}

/-- What is read from a request is a call by the method of the request. -/
theorem Request.verb_of_ofRequest (h : Call.ofRequest r = .ok c) :
    r.verb? = some c.verb := by
  obtain ⟨e, he, hcall⟩ := endpoint_of_ofRequest h
  rw [verb_of_endpoint he]
  cases e with
  | welcome | health | showScheme | showState | closeRound | listEvents
  | showBalance =>
      cases hcall
      rfl
  | createScheme | contribute | mint =>
      obtain ⟨a, -, hcall⟩ := eq_ok_of_bind hcall
      cases hcall
      rfl

/-- A request that is read is answered with what its call comes to. -/
theorem serve_of_call (o : Office) (db : Database) (now : Int)
    (h : Call.ofRequest r = .ok c) :
    serve o db now r = c.perform o db now := by
  have hverb : r.verb? ≠ some "HEAD" := by
    rw [Request.verb_of_ofRequest h]
    exact fun hhead => c.verb_ne_head (Option.some.inj hhead)
  unfold serve
  rw [h]
  dsimp only
  rw [if_neg hverb]

/-- A request that is not read is answered as the readers say, and changes
nothing. -/
theorem serve_of_error (o : Office) (db : Database) (now : Int)
    (h : Call.ofRequest r = .error response) :
    (serve o db now r).1.status = response.status
    ∧ (serve o db now r).2 = db := by
  unfold serve
  rw [h]
  dsimp only
  split <;> exact ⟨rfl, rfl⟩

end Calls

-- ===================================================================== answers

namespace Response

/-- What is answered when an operation on a scheme has come to an end. -/
def ofScheme (s : Settings) (id : Text) (op : Operation) :
    Except Failure Answer → Response
  | .ok a => .json (successStatus op) (answerJson s id a)
  | .error (.fault f) => .ofFault f
  | .error _ => .internalError

/-- What is answered to whoever asks for the history of a scheme. -/
def ofHistory : Except Failure Answer → Response
  | .ok a => .json 200 (historyJson a)
  | .error (.fault f) => .ofFault f
  | .error _ => .internalError

/-- What is answered to whoever asks for a balance. No failure has a wording of
its own here. -/
def ofBalance (asset holder : Text) : Except Failure Answer → Response
  | .ok a => .json 200 (balanceJson asset holder a)
  | .error _ => .serverError

/-- What is answered to whoever mints. A fault that has no message is met while
the message is made, and a number that is too long to be kept is met at no place
that looks for it. -/
def ofMint (asset holder : Text) : Except Failure Answer → Response
  | .ok a => .json 200 (balanceJson asset holder a)
  | .error (.fault f) =>
    if f.isSpeakable then .detail 400 (.string f.message) else .internalError
  | .error (.storage .numeralTooLong) => .serverError
  | .error _ => .internalError

/-- What can be presented is answered as it is. -/
theorem json_of_presentable {status : Nat} {j : Json}
    (h : presentable j = true) :
    json status j = ⟨status, .json j⟩ := if_pos h

/-- Any balance can be presented, if the names beside it can. -/
theorem presentable_balanceJson {asset holder : Text}
    (hasset : asset.isWhole = true)
    (hholder : holder.isWhole = true) (n : Int) :
    presentable (balanceJson asset holder (.amount n)) = true := by
  simp [balanceJson, presentable, Answer.toJson, hasset, hholder]

theorem presentable_detail {f : Fault} (h : f.message.isWhole = true) :
    presentable (.obj [("detail", (Report.ofFault f).detail)]) = true := by
  simp [Report.ofFault, Report.detail, presentable, h]

/-- No fault has the status of a success. -/
theorem le_status_of_kind (k : Fault.Kind) : 400 ≤ k.status := by
  cases k <;> decide

theorem le_status_ofFault (f : Fault) : 400 ≤ (ofFault f).status := by
  unfold ofFault
  split
  · exact le_status_detail (le_status_of_kind f.kind) _
  · exact (by decide)

theorem le_status_ofScheme {s : Settings} {id : Text} {op : Operation}
    (f : Failure) :
    400 ≤ (ofScheme s id op (.error f)).status := by
  cases f with
  | fault f => exact le_status_ofFault f
  | storage | settings | unsearchable | noRecord | unspeakable =>
      exact (by decide : 400 ≤ internalError.status)

theorem le_status_ofMint {asset holder : Text} (f : Failure) :
    400 ≤ (ofMint asset holder (.error f)).status := by
  cases f with
  | fault f =>
      show 400 ≤ (if f.isSpeakable then detail 400 (.string f.message)
        else internalError).status
      split
      · exact le_status_detail (by decide) _
      · exact (by decide)
  | storage f =>
      cases f with
      | numeralTooLong => exact (by decide : 400 ≤ serverError.status)
      | unavailable | roundTooLarge | nameTorn | rowUnfinished
      | rollbackPending =>
          exact (by decide : 400 ≤ internalError.status)
  | settings | unsearchable | noRecord | unspeakable =>
      exact (by decide : 400 ≤ internalError.status)

end Response

namespace Call

variable {b : Backend Database} {s : Settings}
  {settings : Except SettingsFault Settings} {db : Database} {now : Int}

/-- An operation on a scheme is answered with what it comes to in the office. -/
theorem perform_scheme (id : Text) (op : Operation) :
    (scheme id op).perform ⟨b, .ok s⟩ db now
      = (.ofScheme s id op
        ((⟨b, .ok s⟩ : Office).step db now (.scheme id op)).1,
        ((⟨b, .ok s⟩ : Office).step db now (.scheme id op)).2) := by
  show performScheme ⟨b, .ok s⟩ db now id op = _
  unfold performScheme
  dsimp only
  obtain ⟨f | a, db'⟩ := (⟨b, .ok s⟩ : Office).step db now (.scheme id op)
  · cases f <;> rfl
  · rfl

theorem perform_history (id : Text) :
    (history id).perform ⟨b, settings⟩ db now
      = (.ofHistory ((⟨b, settings⟩ : Office).step db now (.history id)).1,
        ((⟨b, settings⟩ : Office).step db now (.history id)).2) := by
  unfold perform
  dsimp only
  obtain ⟨f | a, db'⟩ := (⟨b, settings⟩ : Office).step db now (.history id)
  · cases f <;> rfl
  · rfl

theorem perform_balance (asset holder : Text) :
    (balance asset holder).perform ⟨b, settings⟩ db now
      = (.ofBalance asset holder
          ((⟨b, settings⟩ : Office).step db now
            (.ledger (.balance asset holder))).1,
        ((⟨b, settings⟩ : Office).step db now
          (.ledger (.balance asset holder))).2) := by
  unfold perform
  dsimp only
  obtain ⟨f | a, db'⟩ :=
    (⟨b, settings⟩ : Office).step db now (.ledger (.balance asset holder))
  · rfl
  · rfl

theorem perform_mint (asset holder : Text) (amount : Int)
    (hallowed : s.allowMint = true) :
    (mint asset holder amount).perform ⟨b, .ok s⟩ db now
      = (.ofMint asset holder
          ((⟨b, .ok s⟩ : Office).step db now
            (.ledger (.mint asset holder amount))).1,
        ((⟨b, .ok s⟩ : Office).step db now
          (.ledger (.mint asset holder amount))).2) := by
  show performMint ⟨b, .ok s⟩ db now asset holder amount = _
  unfold performMint
  dsimp only
  rw [hallowed, if_pos rfl]
  obtain ⟨f | a, db'⟩ :=
    (⟨b, .ok s⟩ : Office).step db now (.ledger (.mint asset holder amount))
  · cases f with
    | storage f => cases f <;> rfl
    | fault | settings | unsearchable | noRecord | unspeakable => rfl
  · rfl

/-- Minting has to be allowed. -/
theorem perform_mint_of_not (asset holder : Text) (amount : Int)
    (h : s.allowMint = false) :
    (mint asset holder amount).perform ⟨b, .ok s⟩ db now
      = (.detail 404 (.text "Not found"), db) := by
  show performMint ⟨b, .ok s⟩ db now asset holder amount = _
  unfold performMint
  dsimp only
  rw [h, if_neg Bool.false_ne_true]

end Call

-- ==================================================================== the list

/-- How a request is answered, and what it leaves behind. -/
inductive Served (settings : Except SettingsFault Settings)
    (db : Database) (now : Int) (r : Request) : Response × Database → Prop where
  /-- The status is that of a refusal or a failure, and nothing is done. -/
  | refused {response : Response} (hstatus : 400 ≤ response.status) :
      Served settings db now r (response, db)
  /-- Something was asked, and is answered in some way or other. -/
  | looked {response : Response} (hverb : r.verb? = some "GET") :
      Served settings db now r (response, db)
  /-- Money has come in, where that is allowed. -/
  | minted {s : Settings} {asset holder : Text} {amount : Int} {db' : Database}
      (hs : settings = .ok s) (hallowed : s.allowMint = true)
      (hread : Call.ofRequest r = .ok (.mint asset holder amount))
      (hmint : db.mint asset holder amount = .ok db') :
      Served settings db now r
        (⟨200, .json
          (Response.balanceJson asset holder
            (.amount (db'.balance asset holder)))⟩, db')
  /-- An operation was granted on the record that was there, and the whole of
  its plan is done. -/
  | done {s : Settings} {id : Text} {op : Operation} {p : Plan Answer}
      {paid db' : Database} (hs : settings = .ok s)
      (hread : Call.ofRequest r = .ok (.scheme id op))
      (hgranted : op.Granted (s.custodyAccount id) now (db.scheme? id) p)
      (hpaid : p.transfers.forM Database.backend.transfer db = .ok () paid)
      (hdone : Database.Committed id p db db') :
      Served settings db now r
        (.json (Response.successStatus op)
          (Response.answerJson s id p.answer), db')

section Served

variable {settings : Except SettingsFault Settings} {s : Settings}
  {db db' : Database} {now : Int} {r : Request} {response : Response}

/-- An operation that only looks is asked for by GET, and any other does what it
was granted or nothing. -/
theorem served_of_scheme {id : Text} {op : Operation}
    (hread : Call.ofRequest r = .ok (.scheme id op)) :
    Served (.ok s) db now r (.ofScheme s id op
        ((⟨Database.backend, .ok s⟩ : Office).step db now (.scheme id op)).1,
      ((⟨Database.backend, .ok s⟩ : Office).step db now
        (.scheme id op)).2) := by
  cases hop : op.isReading with
  | true =>
      rw [Office.step_of_reading hop]
      have hverb : r.verb? = some "GET" := by
        rw [Request.verb_of_ofRequest hread, Call.verb, if_pos hop]
      exact .looked hverb
  | false =>
      rw [Office.step_of_change hop]
      cases hdone : (⟨Database.backend, s.custodyAccount id,
        id⟩ : Engine Database).perform now
          op db with
      | error f db' => exact .refused (Response.le_status_ofScheme _)
      | ok a db' =>
          obtain ⟨p, hgranted, hcarried⟩ := Engine.carryOut_of_perform hop hdone
          obtain ⟨rfl, hcommitted⟩ := Database.committed_of_carryOut hcarried
          obtain ⟨paid, -, hpaid, -⟩ := Engine.carryOut_eq_ok hcarried
          exact .done rfl hread hgranted hpaid hcommitted

/-- Money that has come in can be told of: no row is found by a name that cannot
be presented, so that minting under one has failed already. -/
theorem served_of_mint {asset holder : Text} {amount : Int}
    (hallowed : s.allowMint = true)
    (hread : Call.ofRequest r = .ok (.mint asset holder amount)) :
    Served (.ok s) db now r (.ofMint asset holder
        ((⟨Database.backend, .ok s⟩ : Office).step db now
          (.ledger (.mint asset holder amount))).1,
      ((⟨Database.backend, .ok s⟩ : Office).step db now
        (.ledger (.mint asset holder amount))).2) := by
  rw [Office.step_of_mint]
  cases hmint : db.mint asset holder amount with
  | ok db' =>
      have hnames := Database.isWhole_of_search (Database.search_of_mint hmint)
      have hshown : presentable (Response.balanceJson asset holder
          (.amount (db'.balance asset holder))) = true :=
        Response.presentable_balanceJson (hnames asset (by simp))
          (hnames holder (by simp)) _
      show Served (.ok s) db now r
        (.json 200 (Response.balanceJson asset holder _), db')
      rw [Response.json_of_presentable hshown]
      exact .minted rfl hallowed hread hmint
  | error f => exact .refused (Response.le_status_ofMint f)

/-- Whatever a request comes to, it is on the list. -/
theorem served_of_request (settings : Except SettingsFault Settings)
    (db : Database) (now : Int) (r : Request) :
    Served settings db now r (serve ⟨Database.backend, settings⟩ db now r) := by
  cases hread : Call.ofRequest r with
  | error response =>
      -- the answer may be stripped of its body, but it keeps its status
      obtain ⟨hstatus, hdb⟩ :=
        serve_of_error ⟨Database.backend, settings⟩ db now hread
      have hrefused := Request.status_of_ofRequest hread
      rw [← hstatus] at hrefused
      generalize serve ⟨Database.backend, settings⟩ db now r
        = served at hdb hrefused ⊢
      obtain ⟨answer, db'⟩ := served
      subst hdb
      exact .refused hrefused
  | ok c =>
      have hverb := Request.verb_of_ofRequest hread
      rw [serve_of_call _ _ _ hread]
      cases c with
      | welcome | health => exact .looked hverb
      | history id =>
          have hstep : ((⟨Database.backend, settings⟩ : Office).step db now
              (.history id)).2 = db :=
            Database.peek_snd ..
          rw [Call.perform_history, hstep]
          exact .looked hverb
      | balance asset holder =>
          rw [Call.perform_balance, Office.step_of_balance]
          exact .looked hverb
      | scheme id op =>
          -- the settings are read only now, by the calls that need them
          cases settings with
          | error e => exact .refused (by decide)
          | ok s =>
              rw [Call.perform_scheme]
              exact served_of_scheme hread
      | mint asset holder amount =>
          cases settings with
          | error e => exact .refused (by decide)
          | ok s =>
              cases hallowed : s.allowMint with
              | false =>
                  rw [Call.perform_mint_of_not _ _ _ hallowed]
                  exact .refused (Response.le_status_detail (by decide) _)
              | true =>
                  rw [Call.perform_mint _ _ _ hallowed]
                  exact served_of_mint hallowed hread

end Served

-- ====================================================================== visits

/-- A request and the moment at which it is received. -/
structure Visit where
  now : Int
  request : Request
  deriving DecidableEq, Repr

namespace Request

/-- A request by POST with a value in its body. -/
def post (path : Path) (caller : Option String) (body : Json) : Request :=
  ⟨"POST", path, caller, body.render⟩

/-- A proposal to begin a scheme of which ana is the admin. -/
def proposal (members : List Text) (amount : Json) : Json := .obj [
  ("admin", .text "ana"),
  ("members", .ofTexts members),
  ("contribution_amount", amount),
  ("asset_id", .text "usd"),
  ("round_duration", .integer 100)]

/-- A request to begin a scheme by such a proposal. -/
def toBegin (id : String) (members : List Text) (amount : Json) : Request :=
  post ["api", "schemes", id] none (proposal members amount)

/-- A request in which a caller pays as a contributor. -/
def toPay (id caller contributor : String) : Request :=
  post ["api", "schemes", id, "contributions"] (some caller)
    (.obj [("contributor", .text contributor)])

end Request

/-- The rows after a visit. -/
def afterVisit (settings : Except SettingsFault Settings) (db : Database)
    (v : Visit) : Database :=
  (serve ⟨Database.backend, settings⟩ db v.now v.request).2

/-- The rows after some visits. -/
def received (settings : Except SettingsFault Settings) (db : Database)
    (visits : List Visit) :
    Database :=
  Course.after (afterVisit settings) db visits

/-- The first visit finds the rows as they are, and the others find what it
leaves. -/
theorem received_cons {settings : Except SettingsFault Settings}
    {db : Database} {v : Visit} {visits : List Visit} :
    received settings db (v :: visits)
      = received settings (afterVisit settings db v) visits :=
  Course.after_cons

/-- What requests keep, whatever they come to, is kept by all visits. -/
theorem received_served {settings : Except SettingsFault Settings}
    {db : Database} {visits : List Visit} {P : Database → Prop} (h : P db)
    (hserved : ∀ v ∈ visits, ∀ {db after},
      Served settings db v.now v.request after → P db →
      P after.2) : P (received settings db visits) := by
  refine Course.keeps h fun v hv db hdb => ?_
  show P (serve ⟨Database.backend, settings⟩ db v.now v.request).2
  exact hserved v hv (served_of_request settings db v.now v.request) hdb

end SavingsClub.Http
