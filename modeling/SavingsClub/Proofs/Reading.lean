/-
What a request asks for.

# Asking

A request asks for one step of the office. Its path and its method say for
which, its caller and the fields of its body say with what. `Asks` lists this
route by route, every field being of its own type. It knows nothing of the
readers of bodies.

# Reading

The readers of bodies read what is asked for as it is meant
(`ofRequest_of_asks`), and they read nothing else, with one exception: a truth
value, a number with a fraction and a string may be taken for an integer
(`asks_of_ofRequest`). What cannot be read is answered with a status from 400
on.

# Layer by layer

A body is read in layers, and each layer has one lemma that says when it
succeeds and with what.

- Readings stand side by side and complain together, so two of them succeed
  exactly if both do (`Checked.both_eq_ok`). Which of them complains first is no
  matter here.
- A field of a form is there and of its type. For strings and lists of strings
  this says all. For integers it does not, and that is where the exception comes
  in (`Form.integer_eq_ok`).
- A body is read if it holds an object, and whoever names a field of a value has
  said that it is one (`Body.read_of_field`). So what is asked for never has to
  mention objects.

Refusals have a chain of lemmas of their own, from the value in a body up to the
whole request. They say only that the status is that of a refusal: the words of
an answer are no part of what was asked.
-/
import SavingsClub.Http.Service
import SavingsClub.Proofs.Grant

namespace SavingsClub

-- ================================================================ what is sent

namespace Json

/-- Whether a value, though it is no integer, may be taken for one. -/
def isConverted : Json → Bool
  | .bool _ | .decimal _ | .string _ => true
  | _ => false

/-- The five values of a proposal as they are sent. -/
structure Proposes (j : Json) (t : Terms) : Prop where
  admin : j.field? "admin" = some (.string t.admin)
  members : j.field? "members" = some (.ofTexts t.members)
  amount : (j.field? "contribution_amount").map Quantity.ofJson = some t.amount
  asset : j.field? "asset_id" = some (.string t.asset)
  duration : (j.field? "round_duration").map Quantity.ofJson = some t.duration

end Json

/-- Only an integer stands for one in a proposal, whatever the readers would
make of it. -/
theorem Quantity.ofJson_eq_integer {j : Json} {n : Int}
    (h : ofJson j = .integer n) :
    j = .integer n := by
  cases j with
  | integer m =>
      cases h
      rfl
  | null | bool | decimal | nonFinite | string | array | object => cases h

namespace Http

namespace Endpoint

/-- The method that an endpoint answers to. -/
def verb : Endpoint → String
  | createScheme _ | contribute _ | closeRound _ | mint _ => "POST"
  | welcome | health
  | showScheme _ | showState _ | listEvents _ | showBalance _ _ => "GET"

/-- The fields of its body in which an endpoint wants an integer. -/
def integerFields : Endpoint → List String
  | createScheme _ => ["contribution_amount", "round_duration"]
  | mint _ => ["amount"]
  | _ => []

end Endpoint

namespace Request

/-- What the path and the method of a request stand for. -/
def endpoint? (r : Request) : Option Endpoint :=
  (Resource.ofSegments? r.path.segments).bind fun resource =>
    r.verb?.bind resource.endpoint?

/-- The JSON value in the body of a request. -/
def document? (r : Request) : Option Json := (Body.value r.body).toOption

/-- What a request asks the office for. -/
inductive Asks (r : Request) : Office.Step → Prop where
  /-- Terms are proposed, both of their numbers being integers. -/
  | establish {id : String} {j : Json} {admin asset : Text}
      {members : List Text} {amount duration : Int}
      (hroute : r.endpoint? = some (.createScheme id))
      (hbody : r.document? = some j)
      (hterms : j.Proposes
        ⟨admin, members, .integer amount, asset, .integer duration⟩) :
      Asks r (.scheme id (.establish
        ⟨admin, members, .integer amount, asset, .integer duration⟩))
  /-- The record is wanted, or what is open of it. -/
  | getScheme {id : String} (hroute : r.endpoint? = some (.showScheme id)) :
      Asks r (.scheme id .getScheme)
  | getState {id : String} (hroute : r.endpoint? = some (.showState id)) :
      Asks r (.scheme id .getState)
  /-- Somebody pays, in the name of whoever the caller says to be. -/
  | contribute {id : String} {j : Json} {contributor : Text}
      (hroute : r.endpoint? = some (.contribute id))
      (hbody : r.document? = some j)
      (hcontributor : j.field? "contributor" = some (.string contributor)) :
      Asks r (.scheme id (.contribute r.claimedCaller contributor))
  /-- A round is to end; there is nothing in the body that is looked at. -/
  | closeRound {id : String} (hroute : r.endpoint? = some (.closeRound id)) :
      Asks r (.scheme id (.closeRound r.claimedCaller))
  | history {id : String} (hroute : r.endpoint? = some (.listEvents id)) :
      Asks r (.history id)
  | balance {asset holder : String}
      (hroute : r.endpoint? = some (.showBalance asset holder)) :
      Asks r (.ledger (.balance asset holder))
  /-- Money is to come in. -/
  | mint {asset : String} {j : Json} {holder : Text} {amount : Int}
      (hroute : r.endpoint? = some (.mint asset)) (hbody : r.document? = some j)
      (hholder : j.field? "holder" = some (.string holder))
      (hamount : j.field? "amount" = some (.integer amount)) :
      Asks r (.ledger (.mint asset holder amount))

/-- The body of a request has something else in the place of an integer that may
be taken for one. -/
def Converts (r : Request) : Prop :=
  ∃ e j name v, r.endpoint? = some e ∧ r.document? = some j
    ∧ name ∈ e.integerFields
    ∧ j.field? name = some v ∧ v.isConverted = true

end Request

/-- The step of the office that a call is. -/
def Call.step? : Call → Option Office.Step
  | welcome | health => none
  | scheme id op => some (.scheme id op)
  | history id => some (.history id)
  | balance asset holder => some (.ledger (.balance asset holder))
  | mint asset holder amount => some (.ledger (.mint asset holder amount))

-- ================================================================= the readers

/-- Two readings succeed together, or there is something to complain of. -/
theorem Checked.both_eq_ok {α β : Type} {x : Checked α} {y : Checked β}
    {a : α} {b : β} :
    both x y = .ok (a, b) ↔ x = .ok a ∧ y = .ok b := by
  cases x <;> cases y <;> simp [both]

namespace Form

variable {place : List Json} {j : Json}

/-- A field is read as what stands in it. -/
theorem field_eq_ok {α : Type} {read : List Json → Json → Checked α}
    {name : String} {a : α} :
    field read name j = .ok a
      ↔ ∃ v, j.field? name = some v
        ∧ read [.text "body", .text name] v = .ok a := by
  unfold field
  cases j.field? name with
  | none => simp [Checked.fail]
  | some v => simp

theorem string_eq_ok {t : Text} : string place j = .ok t ↔ j = .string t := by
  cases j <;> simp [string, Checked.fail]

/-- The place of an item is for complaints, and has no part in what is read. -/
theorem stringItems_eq_ok {i : Nat} {items : List Json} {l : List Text} :
    stringItems place i items = .ok l ↔ items = l.map Json.string := by
  induction items generalizing i l with
  | nil => cases l <;> simp [stringItems]
  | cons j items ih =>
      unfold stringItems
      refine ⟨?_, ?_⟩
      · intro h
        obtain ⟨⟨t, ts⟩, hboth, rfl⟩ := eq_ok_of_map h
        obtain ⟨hfirst, hrest⟩ := Checked.both_eq_ok.mp hboth
        rw [string_eq_ok.mp hfirst, ih.mp hrest]
        rfl
      · intro h
        cases l with
        | nil => cases h
        | cons t ts =>
            obtain ⟨hfirst, hrest⟩ := List.cons.inj h
            rw [Checked.both_eq_ok.mpr ⟨string_eq_ok.mpr hfirst, ih.mpr hrest⟩]
            rfl

theorem strings_eq_ok {l : List Text} :
    strings place j = .ok l ↔ j = .ofTexts l := by
  cases j with
  | array items =>
      rw [Json.ofTexts, Json.array.injEq]
      exact stringItems_eq_ok
  | null | bool | integer | decimal | nonFinite | string | object =>
      simp [strings, Checked.fail, Json.ofTexts]

/-- What is read as an integer is one, or is converted. -/
theorem integer_eq_ok {n : Int} (h : integer place j = .ok n) :
    j = .integer n ∨ j.isConverted = true := by
  cases j with
  | integer m =>
      cases h
      exact Or.inl rfl
  | bool | decimal | string => exact Or.inr rfl
  | null | nonFinite | array | object => cases h

end Form

namespace Body

variable {j : Json} {s : String}

/-- Terms that are read are the terms as they are sent, with integers in two
places. -/
theorem terms_eq_ok {t : Terms} (h : terms j = .ok t) :
    ∃ sent v w amount duration, j.Proposes sent
      ∧ j.field? "contribution_amount" = some v
        ∧ j.field? "round_duration" = some w
      ∧ Form.integer [.text "body", .text "contribution_amount"] v = .ok amount
      ∧ Form.integer [.text "body", .text "round_duration"] w = .ok duration
      ∧ t = { sent with
          amount := .integer amount, duration := .integer duration } := by
  obtain ⟨⟨admin, members, amount, asset, duration⟩, hfields, rfl⟩ :=
    eq_ok_of_map h
  obtain ⟨hadmin, hfields⟩ := Checked.both_eq_ok.mp hfields
  obtain ⟨hmembers, hfields⟩ := Checked.both_eq_ok.mp hfields
  obtain ⟨hamount, hfields⟩ := Checked.both_eq_ok.mp hfields
  obtain ⟨hasset, hduration⟩ := Checked.both_eq_ok.mp hfields
  -- each field stands in the object, and is of the type that its reader takes
  obtain ⟨u, hu, hadmin⟩ := Form.field_eq_ok.mp hadmin
  obtain ⟨l, hl, hmembers⟩ := Form.field_eq_ok.mp hmembers
  obtain ⟨v, hv, hamount⟩ := Form.field_eq_ok.mp hamount
  obtain ⟨x, hx, hasset⟩ := Form.field_eq_ok.mp hasset
  obtain ⟨w, hw, hduration⟩ := Form.field_eq_ok.mp hduration
  rw [Form.string_eq_ok.mp hadmin] at hu
  rw [Form.strings_eq_ok.mp hmembers] at hl
  rw [Form.string_eq_ok.mp hasset] at hx
  refine ⟨⟨admin, members, .ofJson v, asset, .ofJson w⟩, v, w, amount,
    duration, ?_, hv, hw, hamount, hduration, rfl⟩
  exact ⟨hu, hl, by rw [hv]; rfl, hx, by rw [hw]; rfl⟩

/-- Terms that are sent with integers are read as they are sent. -/
theorem terms_of_proposes {admin asset : Text} {members : List Text}
    {amount duration : Int}
    (h : j.Proposes ⟨admin, members, .integer amount, asset,
      .integer duration⟩) :
    terms j = .ok ⟨admin, members, .integer amount, asset,
      .integer duration⟩ := by
  obtain ⟨v, hv, hamount⟩ := Option.map_eq_some_iff.mp h.amount
  obtain ⟨w, hw, hduration⟩ := Option.map_eq_some_iff.mp h.duration
  rw [Quantity.ofJson_eq_integer hamount] at hv
  rw [Quantity.ofJson_eq_integer hduration] at hw
  have hfields : Checked.both (Form.field Form.string "admin" j)
      (Checked.both (Form.field Form.strings "members" j)
        (Checked.both (Form.field Form.integer "contribution_amount" j)
          (Checked.both (Form.field Form.string "asset_id" j)
            (Form.field Form.integer "round_duration" j))))
      = .ok (admin, members, amount, asset, duration) := by
    simp only [Checked.both_eq_ok, Form.field_eq_ok]
    exact ⟨⟨_, h.admin, rfl⟩, ⟨_, h.members, Form.strings_eq_ok.mpr rfl⟩,
      ⟨_, hv, rfl⟩, ⟨_, h.asset, rfl⟩, ⟨_, hw, rfl⟩⟩
  unfold terms
  dsimp only
  rw [hfields]
  rfl

/-- Terms that are read are proposed as they are, or hold a number that was
converted. -/
theorem proposes_of_terms {t : Terms} (h : terms j = .ok t) :
    (∃ admin members amount asset duration,
        t = ⟨admin, members, .integer amount, asset, .integer duration⟩
          ∧ j.Proposes t)
      ∨ ∃ name ∈ ["contribution_amount", "round_duration"], ∃ v,
        j.field? name = some v
        ∧ v.isConverted = true := by
  obtain ⟨sent, v, w, amount, duration, hsent, hv, hw, hamount, hduration,
    rfl⟩ := terms_eq_ok h
  rcases Form.integer_eq_ok hamount with rfl | hconverted
  case inr => exact Or.inr ⟨_, by simp, v, hv, hconverted⟩
  rcases Form.integer_eq_ok hduration with rfl | hconverted
  case inr => exact Or.inr ⟨_, by simp, w, hw, hconverted⟩
  refine Or.inl ⟨_, _, _, _, _, rfl,
    { hsent with amount := ?_, duration := ?_ }⟩
  · rw [hv]
    rfl
  · rw [hw]
    rfl

/-- Who pays is named by a string. -/
theorem contributor_eq_ok {c : Text} :
    contributor j = .ok c ↔ j.field? "contributor" = some (.string c) := by
  unfold contributor
  rw [Form.field_eq_ok]
  refine ⟨?_, fun h => ⟨_, h, rfl⟩⟩
  rintro ⟨v, hv, hc⟩
  rw [hv, Form.string_eq_ok.mp hc]

/-- Who is to have the money is named by a string; how much it is may be
converted. -/
theorem mint_eq_ok {holder : Text} {amount : Int} :
    mint j = .ok (holder, amount)
      ↔ j.field? "holder" = some (.string holder)
        ∧ ∃ v, j.field? "amount" = some v
          ∧ Form.integer [.text "body", .text "amount"] v = .ok amount := by
  unfold mint
  rw [Checked.both_eq_ok, Form.field_eq_ok, Form.field_eq_ok]
  refine and_congr_left' ⟨?_, fun h => ⟨_, h, rfl⟩⟩
  rintro ⟨v, hv, hholder⟩
  rw [hv, Form.string_eq_ok.mp hholder]

/-- No value is read from nothing. -/
theorem isEmpty_of_value (h : value s = .ok j) : s.isEmpty = false := by
  rw [Bool.eq_false_iff]
  intro hempty
  obtain rfl : s = "" := by simpa using hempty
  cases h

/-- What is complained of in the object of a body makes the answer. -/
theorem read_of_object {α : Type} (h : object s = .ok j)
    (reader : Json → Checked α) :
    read reader s = (reader j).mapError Response.ofComplaints := by
  unfold read
  rw [h]
  show Except.bind (.ok j) _ = _
  unfold Except.bind
  dsimp only
  cases reader j <;> rfl

/-- A body is read if it holds an object from which a reader reads something. -/
theorem read_eq_ok {α : Type} {reader : Json → Checked α} {a : α} :
    read reader s = .ok a
      ↔ ∃ members, value s = .ok (.object members)
        ∧ reader (.object members) = .ok a := by
  refine ⟨?_, ?_⟩
  · intro h
    obtain ⟨j, hobject, -⟩ := eq_ok_of_bind h
    rw [read_of_object hobject] at h
    unfold object at hobject
    dsimp only at hobject
    -- an empty body holds nothing, so there is a value, and it has to be an
    -- object
    split at hobject
    · cases hobject
    obtain ⟨v, hv, hobject⟩ := eq_ok_of_bind hobject
    cases v with
    | object members =>
        cases hobject
        refine ⟨members, hv, ?_⟩
        cases hreader : reader (.object members) with
        | ok b =>
            rw [hreader] at h
            cases h
            rfl
        | error l =>
            rw [hreader] at h
            cases h
    | null | bool | integer | decimal | nonFinite | string | array =>
        cases hobject
  · rintro ⟨members, hvalue, hreader⟩
    have hobject : object s = .ok (.object members) := by
      unfold object
      dsimp only
      rw [isEmpty_of_value hvalue, hvalue]
      rfl
    rw [read_of_object hobject, hreader]
    rfl

/-- A value with a field is an object. -/
theorem read_of_field {α : Type} {reader : Json → Checked α} {a : α}
    {name : String} {v : Json} (hvalue : value s = .ok j)
    (hfield : j.field? name = some v) (hreader : reader j = .ok a) :
    read reader s = .ok a := by
  cases j with
  | object members => exact read_eq_ok.mpr ⟨members, hvalue, hreader⟩
  | null | bool | integer | decimal | nonFinite | string | array => cases hfield

end Body

-- ============================================================= what is refused

namespace Response

/-- What cannot be shown is answered with 500. -/
theorem status_json (status : Nat) (j : Json) :
    (json status j).status = status ∨ (json status j).status = 500 := by
  unfold json
  split
  · exact Or.inl rfl
  · exact Or.inr rfl

theorem le_status_json {status : Nat} (h : 400 ≤ status) (j : Json) :
    400 ≤ (json status j).status := by
  rcases status_json status j with hstatus | hstatus <;> omega

theorem le_status_detail {status : Nat} (h : 400 ≤ status) (j : Json) :
    400 ≤ (detail status j).status := le_status_json h _

/-- Complaints have the status of a refusal, also where they cannot be shown. -/
theorem le_status_ofComplaints (l : List Complaint) :
    400 ≤ (ofComplaints l).status := by
  unfold ofComplaints
  split
  · exact le_status_detail (by decide) _
  · exact (by decide : 400 ≤ 500)

end Response

namespace Body

variable {s : String} {e : Response}

/-- A body that is no JSON is refused, for each of the reasons that it may
have. -/
theorem status_of_value (h : value s = .error e) : 400 ≤ e.status := by
  unfold value at h
  split at h
  · cases h
    exact Response.le_status_detail (by decide) _
  split at h
  · cases h
  · cases h
    exact Response.le_status_ofComplaints _
  · cases h
    exact Response.le_status_detail (by decide) _
  · cases h
    exact Response.le_status_detail (by decide) _

/-- And so is one that holds something else than an object. -/
theorem status_of_object (h : object s = .error e) : 400 ≤ e.status := by
  unfold object at h
  dsimp only at h
  split at h
  · cases h
    exact Response.le_status_ofComplaints _
  cases hv : value s with
  | error e' =>
      rw [hv] at h
      cases h
      exact status_of_value hv
  | ok v =>
      rw [hv] at h
      cases v with
      | object members => cases h
      | null | bool | integer | decimal | nonFinite | string | array =>
          cases h
          exact Response.le_status_ofComplaints _

/-- Whatever is wrong with a body, the status says that something is. -/
theorem status_of_read {α : Type} {reader : Json → Checked α}
    (h : read reader s = .error e) :
    400 ≤ e.status := by
  cases hobject : object s with
  | error e' =>
      unfold read at h
      rw [hobject] at h
      cases h
      exact status_of_object hobject
  | ok j =>
      rw [read_of_object hobject] at h
      cases hreader : reader j with
      | ok a =>
          rw [hreader] at h
          cases h
      | error l =>
          rw [hreader] at h
          cases h
          exact Response.le_status_ofComplaints l

end Body

-- ============================================================== whole requests

namespace Request

variable {r : Request} {e : Endpoint} {c : Call} {st : Office.Step}
  {response : Response}

/-- Every endpoint answers to one method. -/
theorem verb_of_endpoint (h : r.endpoint? = some e) :
    r.verb? = some e.verb := by
  unfold endpoint? at h
  obtain ⟨resource, -, h⟩ := Option.bind_eq_some_iff.mp h
  obtain ⟨verb, hverb, h⟩ := Option.bind_eq_some_iff.mp h
  rw [hverb]
  unfold Resource.endpoint? at h
  split at h <;> cases h <;> rfl

/-- What a request is read as depends on its endpoint alone, beside the request
itself. -/
theorem ofRequest_of_endpoint (h : r.endpoint? = some e) :
    Call.ofRequest r = Call.ofEndpoint r e := by
  unfold endpoint? at h
  obtain ⟨resource, hresource, h⟩ := Option.bind_eq_some_iff.mp h
  unfold Call.ofRequest
  rw [hresource]
  dsimp only
  rw [h]

/-- What is read comes by an endpoint. -/
theorem endpoint_of_ofRequest (h : Call.ofRequest r = .ok c) :
    ∃ e, r.endpoint? = some e ∧ Call.ofEndpoint r e = .ok c := by
  unfold Call.ofRequest at h
  split at h
  · cases h
  next resource hresource =>
    split at h
    · cases h
    next e he =>
      refine ⟨e, ?_, h⟩
      unfold endpoint?
      rw [hresource]
      exact he

/-- At an endpoint it is the body that may be refused, and three endpoints have
one. -/
theorem status_of_ofEndpoint (h : Call.ofEndpoint r e = .error response) :
    400 ≤ response.status := by
  have hread : ∀ {α : Type} {reader : Json → Checked α} {f : α → Call},
      (do return f (← Body.read reader r.body)) = Except.error response →
        400 ≤ response.status := by
    intro α reader f h
    cases hbody : Body.read reader r.body with
    | ok a =>
        rw [hbody] at h
        cases h
    | error e =>
        rw [hbody] at h
        cases h
        exact Body.status_of_read hbody
  cases e with
  | createScheme id => exact hread h
  | contribute id => exact hread h
  | mint asset => exact hread h
  | welcome | health | showScheme | showState | closeRound | listEvents
  | showBalance => cases h

/-- A request that is not read is answered with a status that says so. -/
theorem status_of_ofRequest (h : Call.ofRequest r = .error response) :
    400 ≤ response.status := by
  unfold Call.ofRequest at h
  split at h
  · obtain rfl := Except.error.inj h
    exact Response.le_status_detail (by decide) _
  · split at h
    · obtain rfl := Except.error.inj h
      exact Response.le_status_detail (by decide) _
    · exact status_of_ofEndpoint h

/-- A document is the value of the body. -/
theorem value_of_document {j : Json} (h : r.document? = some j) :
    Body.value r.body = .ok j := by
  unfold document? at h
  cases hvalue : Body.value r.body with
  | ok v =>
      rw [hvalue] at h
      cases h
      rfl
  | error e =>
      rw [hvalue] at h
      cases h

/-- A contribution is read from its route and the one field of its body. -/
theorem ofRequest_of_contributor {id : String} {j : Json} {contributor : Text}
    (hroute : r.endpoint? = some (.contribute id))
    (hbody : r.document? = some j)
    (hcontributor : j.field? "contributor" = some (.string contributor)) :
    Call.ofRequest r
      = .ok (.scheme id (.contribute r.claimedCaller contributor)) := by
  rw [ofRequest_of_endpoint hroute]
  unfold Call.ofEndpoint
  rw [Body.read_of_field (value_of_document hbody) hcontributor
    (Body.contributor_eq_ok.mpr hcontributor)]
  rfl

/-- What is asked for is read. -/
theorem ofRequest_of_asks (h : r.Asks st) :
    ∃ c, Call.ofRequest r = .ok c ∧ c.step? = some st := by
  cases h with
  | establish hroute hbody hterms =>
      rw [ofRequest_of_endpoint hroute]
      unfold Call.ofEndpoint
      rw [Body.read_of_field (value_of_document hbody) hterms.admin
        (Body.terms_of_proposes hterms)]
      exact ⟨_, rfl, rfl⟩
  | contribute hroute hbody hcontributor =>
      exact ⟨_, ofRequest_of_contributor hroute hbody hcontributor, rfl⟩
  | mint hroute hbody hholder hamount =>
      rw [ofRequest_of_endpoint hroute]
      unfold Call.ofEndpoint
      rw [Body.read_of_field (value_of_document hbody) hholder
        (Body.mint_eq_ok.mpr ⟨hholder, _, hamount, rfl⟩)]
      exact ⟨_, rfl, rfl⟩
  | getScheme hroute | getState hroute | closeRound hroute | history hroute
  | balance hroute =>
      exact ⟨_, ofRequest_of_endpoint hroute, rfl⟩

/-- What is read from a body is read from the document in it. -/
theorem document_of_read {α : Type} {reader : Json → Checked α} {a : α}
    (h : Body.read reader r.body = .ok a) :
    ∃ j, r.document? = some j ∧ reader j = .ok a := by
  obtain ⟨members, hvalue, hreader⟩ := Body.read_eq_ok.mp h
  refine ⟨_, ?_, hreader⟩
  unfold document?
  rw [hvalue]
  rfl

/-- A mint that is read comes by its route and from its document. -/
theorem mint_of_ofRequest {asset holder : Text} {amount : Int}
    (h : Call.ofRequest r = .ok (.mint asset holder amount)) :
    ∃ (name : String) (j : Json), asset = name ∧ r.endpoint? = some (.mint name)
      ∧ r.document? = some j ∧ Body.mint j = .ok (holder, amount) := by
  obtain ⟨e, he, h⟩ := endpoint_of_ofRequest h
  cases e with
  | mint name =>
      obtain ⟨⟨holder', amount'⟩, hread, h⟩ := eq_ok_of_bind h
      cases h
      obtain ⟨j, hj, hmint⟩ := document_of_read hread
      exact ⟨name, j, rfl, he, hj, hmint⟩
  | createScheme | contribute =>
      obtain ⟨a, hread, h⟩ := eq_ok_of_bind h
      cases h
  | welcome | health | showScheme | showState | closeRound | listEvents
  | showBalance => cases h

/-- What is read is asked for, unless it is converted. -/
theorem asks_of_ofRequest (h : Call.ofRequest r = .ok c)
    (hst : c.step? = some st) :
    r.Asks st ∨ r.Converts := by
  obtain ⟨e, he, hcall⟩ := endpoint_of_ofRequest h
  -- endpoints without a body are read by their path, those with one by their
  -- fields as well
  cases e with
  | welcome | health =>
      cases hcall
      cases hst
  | showScheme id =>
      cases hcall
      cases hst
      exact Or.inl (.getScheme he)
  | showState id =>
      cases hcall
      cases hst
      exact Or.inl (.getState he)
  | closeRound id =>
      cases hcall
      cases hst
      exact Or.inl (.closeRound he)
  | listEvents id =>
      cases hcall
      cases hst
      exact Or.inl (.history he)
  | showBalance asset holder =>
      cases hcall
      cases hst
      exact Or.inl (.balance he)
  | createScheme id =>
      obtain ⟨t, hread, hcall⟩ := eq_ok_of_bind hcall
      cases hcall
      cases hst
      obtain ⟨j, hj, hterms⟩ := document_of_read hread
      rcases Body.proposes_of_terms hterms with
        ⟨admin, members, amount, asset, duration, rfl, hproposes⟩
          | ⟨name, hname, v, hv, hconverted⟩
      · exact Or.inl (.establish he hj hproposes)
      · exact Or.inr ⟨_, j, name, v, he, hj, hname, hv, hconverted⟩
  | contribute id =>
      obtain ⟨contributor, hread, hcall⟩ := eq_ok_of_bind hcall
      cases hcall
      cases hst
      obtain ⟨j, hj, hcontributor⟩ := document_of_read hread
      exact Or.inl (.contribute he hj (Body.contributor_eq_ok.mp hcontributor))
  | mint asset =>
      obtain ⟨⟨holder, amount⟩, hread, hcall⟩ := eq_ok_of_bind hcall
      cases hcall
      cases hst
      obtain ⟨j, hj, hmint⟩ := document_of_read hread
      obtain ⟨hholder, v, hv, hamount⟩ := Body.mint_eq_ok.mp hmint
      rcases Form.integer_eq_ok hamount with rfl | hconverted
      · exact Or.inl (.mint he hj hholder hv)
      · exact Or.inr ⟨_, j, "amount", v, he, hj, List.mem_singleton.mpr rfl,
          hv, hconverted⟩

end Request

end Http

end SavingsClub
