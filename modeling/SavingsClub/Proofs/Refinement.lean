/-
The service as the office over HTTP.

# Calls

A request that asks for a step is a call of the office, unless it is a mint
where minting is not allowed. `Calls` lists the moves of the office that some
visits come to; what is no call changes nothing (`rows_of_uncalled`), so the
rows after the visits are those after the moves (`received_of_calls`). Of
requests that convert (`Request.Converts`) nothing is said here.

# What can not be shown

A step may have returned although its answer can not be shown: then the response
is a bare 500, and the rows are those of the step all the same
(`not_always_shown`). In no other way does a request that is answered with a
status from 400 on change anything (`returned_of_status`).
-/
import SavingsClub.Proofs.Relay

namespace SavingsClub.Http

-- ================================================================= one request

/-- Whether the settings let a step be called. -/
def Allows (settings : Settings) (st : Office.Step) : Prop :=
  st.isMint = true → settings.allowMint = true

section Requests

variable {settings : Settings} {db : Database} {now : Int}
  {r : Request} {c : Call} {st : Office.Step}

theorem relays_of_asks (h : r.Asks st) (hallows : Allows settings st) :
    Relays settings db now st
      (serve (Office.ofSettings settings) db now r) := by
  obtain ⟨c, hread, hst⟩ := Request.ofRequest_of_asks h
  exact relays_of_call hread hst hallows

/-- A mint that is not allowed is not made. -/
theorem serve_of_not_allows (hread : Call.ofRequest r = .ok c)
    (hst : c.step? = some st) (hallows : ¬ Allows settings st) :
    serve (Office.ofSettings settings) db now r
      = (⟨404, .json (.obj [("detail", .text "Not found")])⟩, db) := by
  obtain ⟨hmint, hnot⟩ := Classical.not_imp.mp hallows
  cases c with
  | welcome | health => cases hst
  | scheme | history | balance =>
      cases hst
      cases hmint
  | mint asset holder amount =>
      rw [serve_of_call _ _ _ hread]
      refine (Call.perform_mint_of_not asset holder amount
        (Bool.eq_false_iff.mpr hnot)).trans ?_
      rw [Response.detail, Response.json_of_presentable (by simp)]

/-- A request is read as a step that the settings allow, and relays it, or it
changes nothing. -/
theorem relays_or_rows (settings : Settings) (db : Database) (now : Int)
    (r : Request) :
    (∃ c st, Call.ofRequest r = .ok c ∧ c.step? = some st ∧ Allows settings st
        ∧ Relays settings db now st
          (serve (Office.ofSettings settings) db now r))
      ∨ (serve (Office.ofSettings settings) db now r).2 = db := by
  cases hread : Call.ofRequest r with
  | error response => exact Or.inr (serve_of_error _ db now hread).2
  | ok c =>
      cases hst : c.step? with
      | none =>
          rw [serve_of_call _ db now hread]
          cases c with
          | welcome | health => exact Or.inr rfl
          | scheme | history | balance | mint => cases hst
      | some st =>
          by_cases hallows : Allows settings st
          · exact Or.inl ⟨c, st, rfl, hst, hallows,
              relays_of_call hread hst hallows⟩
          · rw [serve_of_not_allows hread hst hallows]
            exact Or.inr rfl

/-- What is no call changes nothing. -/
theorem rows_of_uncalled (hnone : ∀ st, r.Asks st → ¬ Allows settings st)
    (hplain : ¬ r.Converts) :
    (serve (Office.ofSettings settings) db now r).2 = db := by
  rcases relays_or_rows settings db now r with ⟨c, st, hread, hst, hallows, -⟩
    | hrows
  · exact absurd hallows
      (hnone st ((Request.asks_of_ofRequest hread hst).resolve_right hplain))
  · exact hrows

/-- A request by GET changes nothing. -/
theorem rows_of_get (h : r.verb? = some "GET") :
    (serve (Office.ofSettings settings) db now r).2 = db := by
  rcases relays_or_rows settings db now r with ⟨c, st, hread, hst, -, hrelays⟩
    | hrows
  · rw [hrelays.rows]
    have hverb : c.verb = "GET" :=
      Option.some.inj ((Request.verb_of_ofRequest hread).symm.trans h)
    cases c with
    | welcome | health => cases hst
    | scheme id op =>
        cases hst
        cases hop : op.isReading with
        | true => exact Office.step_of_reading hop
        | false =>
            rw [Call.verb, hop] at hverb
            exact absurd hverb (by decide)
    | history id =>
        cases hst
        exact Database.peek_snd ..
    | balance asset holder =>
        cases hst
        exact Office.step_of_balance asset holder
    | mint => exact absurd hverb (by decide : "POST" ≠ "GET")
  · exact hrows

theorem Answered.status_lt {a : Answer} {status : Nat} {body : Json}
    (h : Answered settings st (.ok a) status body) : status < 400 := by
  cases h <;> decide

/-- A request that is answered with a status from 400 on has changed something
only if the step that it is read as has returned and the answer can not be
shown. -/
theorem returned_of_status (settings : Settings) (db : Database) (now : Int)
    (r : Request)
    (hstatus : 400 ≤ (serve (Office.ofSettings settings) db now r).1.status)
    (hrows : (serve (Office.ofSettings settings) db now r).2 ≠ db) :
    ∃ c st a status body, Call.ofRequest r = .ok c ∧ c.step? = some st
      ∧ (Office.ofSettings settings).step db now st
        = (.ok a, (serve (Office.ofSettings settings) db now r).2)
      ∧ Answered settings st (.ok a) status body ∧ presentable body = false
      ∧ (serve (Office.ofSettings settings) db now r).1 = .serverError := by
  have hserved := relays_or_rows settings db now r
  generalize serve (Office.ofSettings settings) db now r
    = served at hserved hstatus hrows ⊢
  obtain ⟨response, rows⟩ := served
  rcases hserved with ⟨c, st, hread, hst, -, hafter, hreturned, -⟩ | hsame
  · have hunchanged : ∀ e, ((Office.ofSettings settings).step db now st).1
      = .error e →
        ((Office.ofSettings settings).step db now st).2 = db :=
      fun e => Office.rows_of_error (Call.isRegular_of_step hst)
    generalize hstep : (Office.ofSettings settings).step db now st = result
      at hafter hreturned hunchanged
    obtain ⟨e | a, db'⟩ := result
    · exact absurd (hafter.trans (hunchanged e rfl)) hrows
    · cases hafter
      obtain ⟨status, body, hanswered, hresponse⟩ := hreturned a rfl
      refine ⟨c, st, a, status, body, hread, hst, hstep, hanswered, ?_⟩
      cases hshown : presentable body with
      | false =>
          refine ⟨rfl, hresponse.trans (if_neg ?_)⟩
          rw [hshown]
          exact Bool.false_ne_true
      | true =>
          dsimp only at hresponse
          rw [hresponse, Response.json_of_presentable hshown] at hstatus
          exact absurd hanswered.status_lt (Nat.not_lt.mpr hstatus)
  · exact absurd hsame hrows

end Requests

-- =============================================================== many requests

/-- What some visits call the office for: nothing that is not asked for, and no
mint that is not allowed. -/
inductive Calls (settings : Settings) :
    List Visit → List Office.Move → Prop where
  | none : Calls settings [] []
  | called {v : Visit} {visits : List Visit} {st : Office.Step}
      {moves : List Office.Move} (hasks : v.request.Asks st)
      (hallows : Allows settings st) (h : Calls settings visits moves) :
      Calls settings (v :: visits) (⟨v.now, st⟩ :: moves)
  | uncalled {v : Visit} {visits : List Visit} {moves : List Office.Move}
      (hnone : ∀ st, v.request.Asks st → ¬ Allows settings st)
      (hplain : ¬ v.request.Converts) (h : Calls settings visits moves) :
      Calls settings (v :: visits) moves

variable {settings : Settings} {db : Database} {visits : List Visit}

theorem exists_calls (h : ∀ v ∈ visits, ¬ v.request.Converts) :
    ∃ moves, Calls settings visits moves := by
  induction visits with
  | nil => exact ⟨[], .none⟩
  | cons v visits ih =>
      obtain ⟨moves, hmoves⟩ :=
        ih fun v' hv' => h v' (List.mem_cons_of_mem v hv')
      by_cases hcalled : ∃ st, v.request.Asks st ∧ Allows settings st
      · obtain ⟨st, hasks, hallows⟩ := hcalled
        exact ⟨_, hmoves.called hasks hallows⟩
      · refine ⟨_, hmoves.uncalled ?_ (h v List.mem_cons_self)⟩
        exact fun st hasks hallows => hcalled ⟨st, hasks, hallows⟩

/-- The rows after some visits are those after the moves that they come to. -/
theorem received_of_calls {moves : List Office.Move}
    (h : Calls settings visits moves) :
    received (.ok settings) db visits = Office.after settings db moves := by
  induction h generalizing db with
  | none => rfl
  | @called v visits st moves hasks hallows h ih =>
      have hrows : afterVisit (.ok settings) db v = _ :=
        (relays_of_asks hasks hallows).rows
      rw [received_cons, hrows, Office.after_cons]
      exact ih
  | @uncalled v visits moves hnone hplain h ih =>
      have hrows : afterVisit (.ok settings) db v = db :=
        rows_of_uncalled hnone hplain
      rw [received_cons, hrows]
      exact ih

/-- The service refines the office. After any visits the rows are those after
the moves that the visits come to. A request that asks for a step is answered by
what the step comes to and leaves its rows, unless it is a mint that is not
allowed, which is not made. Every other request that does not convert changes
nothing, and neither does one by GET. A request that is answered with a status
from 400 on changes nothing either, unless its step has returned what can not be
shown; and all can be shown if the names in the rows, in all requests and in the
prefix of custody accounts consist of characters. -/
theorem service_refines_office (settings : Settings) (start : Database)
    (visits : List Visit) (now : Int) (r : Request) :
    let db := received (.ok settings) start visits
    let after := serve (Office.ofSettings settings) db now r
    ((∀ v ∈ visits, ¬ v.request.Converts) →
        ∃ moves, Calls settings visits moves
        ∧ db = Office.after settings start moves)
      ∧ (∀ st, r.Asks st → Allows settings st → Relays settings db now st after)
      ∧ (∀ st, r.Asks st → ¬ Allows settings st →
        after = (⟨404, .json (.obj [("detail", .text "Not found")])⟩, db))
      ∧ ((∀ st, ¬ r.Asks st) → ¬ r.Converts → after.2 = db)
      ∧ (r.verb? = some "GET" → after.2 = db)
      ∧ (400 ≤ after.1.status → after.2 ≠ db →
        ∃ st a status body, (r.Asks st ∨ r.Converts)
        ∧ (Office.ofSettings settings).step db now st = (.ok a, after.2)
        ∧ Answered settings st (.ok a) status body ∧ presentable body = false
        ∧ after.1 = .serverError)
      ∧ (start.Spelled → settings.custodyPrefix.isWhole = true →
        (∀ v ∈ visits, v.request.IsSpelled) → r.IsSpelled →
        (∀ st status body, r.Asks st →
          Answered settings st ((Office.ofSettings settings).step db now st).1
          status body →
          presentable body = true)
        ∧ (400 ≤ after.1.status → after.2 = db)) := by
  intro db after
  have hafter : serve (Office.ofSettings settings) db now r = after := rfl
  have hreturned := returned_of_status settings db now r
  rw [hafter] at hreturned
  refine ⟨?_, fun st => relays_of_asks, ?_, ?_, rows_of_get, ?_, ?_⟩
  · intro h
    obtain ⟨moves, hmoves⟩ := exists_calls h
    exact ⟨moves, hmoves, received_of_calls hmoves⟩
  · intro st hasks hallows
    obtain ⟨c, hread, hst⟩ := Request.ofRequest_of_asks hasks
    exact serve_of_not_allows hread hst hallows
  · intro hnone hplain
    exact rows_of_uncalled (fun st hasks => absurd hasks (hnone st)) hplain
  · intro hstatus hrows
    obtain ⟨c, st, a, status, body, hread, hst, hrest⟩ :=
      hreturned hstatus hrows
    exact ⟨st, a, status, body, Request.asks_of_ofRequest hread hst, hrest⟩
  · intro hstart hlead hvisits hr
    have hdb : db.Spelled := spelled_received hstart hvisits
    refine ⟨?_, ?_⟩
    · intro st status body hasks hanswered
      obtain ⟨c, hread, hst⟩ := Request.ofRequest_of_asks hasks
      exact presentable_of_answered hread hst hr hdb hlead hanswered
    · intro hstatus
      by_contra hrows
      obtain ⟨c, st, a, status, body, hread, hst, hstep, hanswered, hnot, -⟩ :=
        hreturned hstatus hrows
      have hresult : ((Office.ofSettings settings).step db now st).1 = .ok a :=
        congrArg Prod.fst hstep
      rw [← hresult] at hanswered
      rw [presentable_of_answered hread hst hr hdb hlead hanswered] at hnot
      cases hnot

/-- The step that a request to begin the club asks for. -/
def founding (members : List Text) : Office.Step :=
  .scheme "club" (.establish ⟨"ana", members, .integer 5, "usd", .integer 100⟩)

/-- A request to begin the club is answered by the record that it begins. -/
theorem refines_of_founding :
    let served := serve (Office.ofSettings .standard) .empty 0
      (.toBegin "club" ["ana", "bo"] (.integer 5))
    ∃ s, ((Office.ofSettings .standard).step .empty 0
      (founding ["ana", "bo"])).1 = .ok (.scheme s)
      ∧ served.1 = ⟨201, .json (framed .standard "club" s)⟩
      ∧ served.2
          = ((Office.ofSettings .standard).step .empty 0
            (founding ["ana", "bo"])).2 := by
  have hroute : (Request.toBegin "club" ["ana", "bo"] (.integer 5)).endpoint?
      = some (.createScheme "club") := by
    decide +kernel
  have hbody : (Request.toBegin "club" ["ana", "bo"] (.integer 5)).document?
      = some (Request.proposal ["ana", "bo"] (.integer 5)) := by
    decide +kernel
  have hasks : (Request.toBegin "club" ["ana", "bo"] (.integer 5)).Asks
      (founding ["ana", "bo"]) :=
    .establish hroute hbody
      ⟨by decide, by decide, by decide, by decide, by decide⟩
  have hspelled : (Request.toBegin "club" ["ana", "bo"]
      (.integer 5)).IsSpelled := by
    apply Request.isSpelled_of_presentable
    intro j hj
    cases hbody.symm.trans hj
    decide
  have hbegun : ((Office.ofSettings .standard).step .empty 0
    (founding ["ana", "bo"])).1
      = .ok (.scheme ⟨"ana", ["ana", "bo"], 5, "usd", 100, 100, 0,
          [], []⟩) := by
    decide +kernel
  obtain ⟨-, hrelays, -, -, -, -, hshown⟩ := service_refines_office
    .standard .empty [] 0 (.toBegin "club" ["ana", "bo"] (.integer 5))
  obtain ⟨hrows, hreturned, -⟩ := hrelays _ hasks fun hmint => by cases hmint
  obtain ⟨status, body, hanswered, hresponse⟩ := hreturned _ hbegun
  obtain ⟨hpresentable, -⟩ := hshown Database.spelled_empty (by decide)
    (fun v hv => absurd hv List.not_mem_nil) hspelled
  have hbody' := hpresentable _ status body hasks (hbegun.symm ▸ hanswered)
  cases hanswered with
  | begun =>
      exact ⟨_, hbegun, hresponse.trans (Response.json_of_presentable hbody'),
        hrows⟩

/-- One of the names is half a surrogate pair: the scheme begins, and the answer
is a bare 500. -/
theorem not_always_shown :
    let r := Request.toBegin "club" [⟨[0xD800]⟩, "bo"] (.integer 5)
    let served := serve (Office.ofSettings .standard) .empty 0 r
    r.Asks (founding [⟨[0xD800]⟩, "bo"])
      ∧ ((Office.ofSettings .standard).step .empty 0
        (founding [⟨[0xD800]⟩, "bo"])).1.isOk = true
      ∧ served.1 = .serverError ∧ (served.2.scheme? "club").isSome = true := by
  have hroute : (Request.toBegin "club" [⟨[0xD800]⟩, "bo"]
    (.integer 5)).endpoint?
      = some (.createScheme "club") := by
    decide +kernel
  have hbody : (Request.toBegin "club" [⟨[0xD800]⟩, "bo"]
    (.integer 5)).document?
      = some (Request.proposal [⟨[0xD800]⟩, "bo"] (.integer 5)) := by
    decide +kernel
  refine ⟨.establish hroute hbody
    ⟨by decide, by decide, by decide, by decide, by decide⟩, ?_⟩
  decide +kernel

end SavingsClub.Http
