/-
Names that consist of characters.

# What is named

A response can show a name only if it consists of characters. Names come into a
club in the bodies of requests and from nowhere else: a record names whom its
terms name, an event and an answer name whom the record names, and a fault names
one of them, the scheme or custody (`Fault.names`).

# The invariant

`Database.Spelled`: all that is kept in the rows can be shown. Requests whose
bodies hold no other names keep it so (`Served.spelled`), and then everything
that is answered can be shown.
-/
import SavingsClub.Proofs.Refusal
import SavingsClub.Proofs.Served

namespace SavingsClub

-- ====================================================================== values

namespace Http

mutual

/-- What can be shown is read as it is written. -/
theorem reread_of_presentable : ∀ j : Json, presentable j = true → j.reread = j
  | .null, _ | .bool _, _ | .integer _, _ | .decimal _, _ | .nonFinite _, _ =>
      rfl
  | .string _, h => congrArg Json.string (Text.joined_eq_self h)
  | .array items, h => congrArg Json.array (rereadItems_of_presentable items h)
  | .object members, h =>
      congrArg Json.object (rereadMembers_of_presentable members h)

theorem rereadItems_of_presentable :
    ∀ l : List Json, presentableItems l = true → Json.rereadItems l = l
  | [], _ => rfl
  | j :: l, h => by
    rw [presentableItems, Bool.and_eq_true] at h
    rw [Json.rereadItems, reread_of_presentable j h.1,
      rereadItems_of_presentable l h.2]

theorem rereadMembers_of_presentable :
    ∀ l : List (Text × Json), presentableMembers l = true →
      Json.rereadMembers l = l
  | [], _ => rfl
  | (k, j) :: l, h => by
    rw [presentableMembers, Bool.and_eq_true, Bool.and_eq_true] at h
    rw [Json.rereadMembers, Text.joined_eq_self h.1.1,
      reread_of_presentable j h.1.2, rereadMembers_of_presentable l h.2]

end

end Http

-- ===================================================================== records

/-- All names in a record consist of characters. -/
structure Scheme.Spelled (s : Scheme) : Prop where
  admin : s.admin.isWhole = true
  asset : s.assetId.isWhole = true
  members : ∀ p ∈ s.members, p.isWhole = true
  paid : ∀ p ∈ s.paidMembers, p.isWhole = true
  defaulters : ∀ p ∈ s.defaulters, p.isWhole = true

/-- All names that an operation hands over consist of characters. -/
def Operation.Spelled : Operation → Prop
  | .establish t => t.Legible
  | .contribute _ contributor => contributor.isWhole = true
  | _ => True

namespace Scheme

variable {s next : Scheme} {now : Int}

/-- A record that is spelled comes back from the columns as it went in. -/
theorem Spelled.reread (h : s.Spelled) : s.reread = s := by
  unfold Scheme.reread
  rw [map_joined h.members, map_joined h.paid, map_joined h.defaulters]

/-- A record can be shown if its names can. -/
theorem Spelled.presentable (h : s.Spelled) :
    Http.presentable s.toJson = true := by
  simpa [toJson, fields, Http.presentable, h.admin, h.asset]
    using ⟨h.members, h.paid, h.defaulters⟩

theorem Spelled.presentable_state (h : s.Spelled) :
    Http.presentable s.state.toJson = true := by
  simpa [state, RoundState.toJson, Http.presentable] using h.paid

/-- Terms that can be read begin a record that can be shown. -/
theorem spelled_of_opening {t : Terms} (ht : t.Legible)
    (h : t.opening now = .ok s) :
    s.Spelled := by
  obtain ⟨hon, -, -, -, -, hpaid, hdefaulters⟩ := Terms.opening_eq_ok h
  refine ⟨?_, ?_, ?_, ?_, ?_⟩
  · exact hon.admin ▸ ht.admin
  · exact hon.asset ▸ ht.asset
  · exact hon.members ▸ ht.members
  · simp [hpaid]
  · simp [hdefaulters]

/-- Whoever is entered in a record is a member. -/
theorem Spelled.progress (h : s.Spelled) (hprogress : s.Progress now next) :
    next.Spelled := by
  cases hprogress with
  | stays => exact h
  | @pays c payer haccept hopen =>
      refine { h with paid := ?_ }
      intro p hp
      rcases List.mem_append.mp hp with hp | hp
      · exact h.paid p hp
      · rw [List.mem_singleton.mp hp]
        exact h.members c (accept_eq_ok haccept).2.1
  | completes haccept hlast hnext =>
      obtain ⟨-, -, rfl⟩ := advance_eq_ok hnext
      exact { h with paid := fun p hp => absurd hp List.not_mem_nil }
  | closes hdue hnext =>
      obtain ⟨-, -, rfl⟩ := advance_eq_ok hnext
      exact { h with
        paid := fun p hp => absurd hp List.not_mem_nil
        defaulters := fun p hp => h.members p (List.mem_of_mem_filter hp) }

end Scheme

-- ====================================================================== faults

namespace Fault

/-- The names in the message of a fault. -/
def names : Fault → List Text
  | alreadyInitialized p | notInitialized p | unauthorized p | notAMember p =>
    [p]
  | alreadyContributed p _ | insufficientFunds p _ _ => [p]
  | transferRejected (.toItself p) => [p]
  | transferRejected (.stated words) => [words]
  | _ => []

/-- A message consists of characters if the names in it do. -/
theorem isWhole_message {f : Fault} (h : ∀ p ∈ f.names, p.isWhole = true) :
    f.message.isWhole = true := by
  cases f with
  | invalidParameters v => cases v <;> simp [message, Violation.message]
  | transferRejected r =>
      cases r <;> simp_all [message, names, Rejection.message]
  | maxRoundsReached | deadlinePassed | deadlineNotYetPassed =>
      simp [message, Wording.deadlinePassed, Wording.deadlineNotYetPassed]
  | alreadyInitialized p | notInitialized p | unauthorized p | notAMember p
  | alreadyContributed p r | insufficientFunds p r a =>
      have hp := h p List.mem_cons_self
      simp [message, Wording.alreadyInitialized, Wording.notInitialized,
        Wording.unauthorized, Wording.notAMember, Wording.alreadyContributed,
        Wording.insufficientFunds, hp]

end Fault

namespace Operation

variable {custody key : Text} {now : Int} {found : Option Scheme}
  {op : Operation}

/-- A refusal names nobody but the scheme, its admin and the contributor. -/
theorem Refused.spelled {f : Fault} (h : op.Refused key now found f)
    (hkey : key.isWhole = true) (hfound : ∀ s, found = some s → s.Spelled)
    (hop : op.Spelled) :
    ∀ p ∈ f.names, p.isWhole = true := by
  have hnobody : ∀ {s : Scheme} {g : Fault}, s.Stuck now g →
      ∀ p ∈ g.names, p.isWhole = true := by
    intro s g hstuck p hp
    cases hstuck <;> cases hp
  cases h with
  | begun | nothingToPay | nothingToClose | nothingToShow =>
      intro p hp
      rw [List.mem_singleton.mp hp]
      exact hkey
  | terms => exact fun p hp => absurd hp (by simp [Fault.names])
  | early => exact fun p hp => absurd hp (by simp [Fault.names])
  | impostor =>
      intro p hp
      rw [List.mem_singleton.mp hp]
      exact hop
  | notAdmin =>
      intro p hp
      rw [List.mem_singleton.mp hp]
      exact (hfound _ rfl).admin
  | declined hdeclines =>
      cases hdeclines with
      | late => exact fun p hp => absurd hp (by simp [Fault.names])
      | stranger | again =>
          intro p hp
          rw [List.mem_singleton.mp hp]
          exact hop
      | last hdue hmember hpaid hlast hstuck => exact hnobody hstuck
  | stuck hdue hstuck => exact hnobody hstuck

/-- Whatever a plan keeps, tells and answers can be shown. -/
theorem Granted.spelled {p : Plan Answer} (h : op.Granted custody now found p)
    (hfound : ∀ s, found = some s → s.Spelled) (hop : op.Spelled) :
    p.record.Spelled ∧ (∀ e ∈ p.events, Http.presentable e.data = true)
      ∧ Http.presentable p.answer.toJson = true := by
  cases h with
  | founds hs =>
      have hspelled := Scheme.spelled_of_opening hop hs
      refine ⟨hspelled, ?_, hspelled.presentable⟩
      intro e he
      rw [List.mem_singleton.mp he]
      simpa [Event.data, Http.presentable, hspelled.admin, hspelled.asset]
        using hspelled.members
  | @pays c s payer haccept hopen =>
      have hc : c.isWhole = true := hop
      have hpaid := (hfound s rfl).progress (.pays haccept hopen)
      refine ⟨hpaid, ?_, hpaid.presentable_state⟩
      intro e he
      rw [List.mem_singleton.mp he]
      simpa [Scheme.receipt, Event.data, Http.presentable] using hc
  | @completes c s next payer haccept hlast hnext =>
      have hc : c.isWhole = true := hop
      have hs := hfound s rfl
      have hcompleted := hs.progress (.completes haccept hlast hnext)
      refine ⟨hcompleted, ?_, hcompleted.presentable_state⟩
      have hrecipient : ((s.pay c).recipient payer.members_ne_nil).isWhole
          = true :=
        hs.members _ (List.get_mem ..)
      intro e he
      rcases List.mem_cons.mp he with rfl | he
      · simpa [Scheme.receipt, Event.data, Http.presentable] using hc
      · rw [List.mem_singleton.mp he]
        simpa [Scheme.completion, Event.data, Http.presentable] using hrecipient
  | @closes s next hdue hnext =>
      have hs := hfound s rfl
      have hclosed := hs.progress (.closes hdue hnext)
      have hdefaulters : ∀ p ∈ Rotation.defaulters s.members s.paidMembers,
          p.isWhole = true :=
        fun p hp => hs.members p (List.mem_of_mem_filter hp)
      refine ⟨hclosed, ?_, ?_⟩
      · intro e he
        rw [List.mem_singleton.mp he]
        simpa [Event.data, Http.presentable] using hdefaulters
      · have hstate := hclosed.presentable_state
        simp only [Answer.toJson, Closure.toJson]
        simpa [Http.presentable, hstate] using hdefaulters

end Operation

/-- A transfer that is refused names nobody but its sender. -/
theorem Transfer.Refused.spelled {t : Transfer} {available : Int} {f : Fault}
    (h : t.Refused available f) (hsender : t.sender.isWhole = true) :
    ∀ p ∈ f.names, p.isWhole = true := by
  cases h with
  | short =>
      intro p hp
      rw [List.mem_singleton.mp hp]
      exact hsender
  | rejected hr =>
      unfold Transfer.rejection? at hr
      split at hr
      · cases hr
        exact fun p hp => absurd hp (by simp [Fault.names])
      · split at hr
        · cases hr
          intro p hp
          rw [List.mem_singleton.mp hp]
          exact hsender
        · cases hr

-- ==================================================================== the rows

/-- All that is kept can be shown. -/
structure Database.Spelled (db : Database) : Prop where
  schemes : ∀ id s, db.scheme? id = some s → s.Spelled
  logs : ∀ id, ∀ e ∈ db.log id, Http.presentable e.data = true

theorem Database.spelled_empty : Database.empty.Spelled where
  schemes := fun _ _ hs => by cases hs
  logs := fun _ _ he => absurd he List.not_mem_nil

/-- What is committed of a plan that can be shown can be shown. -/
theorem Database.Committed.spelled {id : Text} {p : Plan Answer}
    {db db' : Database} (h : Committed id p db db') (hdb : db.Spelled)
    (hrecord : p.record.Spelled)
    (hevents : ∀ e ∈ p.events, Http.presentable e.data = true) :
    db'.Spelled where
  schemes := by
    intro key s hs
    by_cases hkey : key = id
    · subst hkey
      rw [h.record, hrecord.reread] at hs
      cases hs
      exact hrecord
    · rw [h.otherRecords key hkey] at hs
      exact hdb.schemes key s hs
  logs := by
    intro key e he
    by_cases hkey : key = id
    · subst hkey
      rw [h.log] at he
      rcases List.mem_append.mp he with he | he
      · exact hdb.logs key e he
      · obtain ⟨event, hevent, rfl⟩ := List.mem_map.mp he
        have hshown := hevents event hevent
        show Http.presentable event.data.reread = true
        rw [Http.reread_of_presentable _ hshown]
        exact hshown
    · rw [h.otherLogs key hkey] at he
      exact hdb.logs key e he

-- ==================================================================== requests

namespace Http

/-- All names in the fields of a request's body, and in lists in its fields,
consist of characters. -/
def Request.IsSpelled (r : Request) : Prop :=
  ∀ j name v p, r.document? = some j → j.field? name = some v → v = .string p
    ∨ p ∈ v.texts →
    p.isWhole = true

variable {settings : Except SettingsFault Settings} {db : Database} {now : Int}
  {r : Request}

/-- What stands in a field of a value that can be shown can be shown itself. -/
theorem presentable_of_field {name : String} {v : Json} :
    ∀ {j : Json}, presentable j = true → j.field? name = some v →
      presentable v = true
  | .object members, hj, hv => by
    rw [presentable] at hj
    rw [Json.field?] at hv
    induction members with
    | nil => cases hv
    | cons m members ih =>
        rw [presentableMembers, Bool.and_eq_true, Bool.and_eq_true] at hj
        rw [List.lookup_cons] at hv
        split at hv
        · cases hv
          exact hj.1.2
        · exact ih hj.2 hv

/-- And so can each text of a list. -/
theorem isWhole_of_texts {j : Json} {p : Text} (hj : presentable j = true)
    (hp : p ∈ j.texts) :
    p.isWhole = true := by
  cases j with
  | null | bool | integer | decimal | nonFinite | string | object => cases hp
  | array items =>
      rw [presentable, presentableItems_eq] at hj
      obtain ⟨item, hitem, htext⟩ := List.mem_filterMap.mp hp
      have hshown := List.all_eq_true.mp hj item hitem
      cases item with
      | null | bool | integer | decimal | nonFinite | array | object =>
          cases htext
      | string t =>
          cases htext
          exact hshown

/-- A request is spelled if the value in its body can be shown. -/
theorem Request.isSpelled_of_presentable
    (h : ∀ j, r.document? = some j → presentable j = true) :
    r.IsSpelled := by
  rintro j name v p hj hv (rfl | hp)
  · exact presentable_of_field (h j hj) hv
  · exact isWhole_of_texts (presentable_of_field (h j hj) hv) hp

/-- What a spelled request asks for is spelled. -/
theorem Request.IsSpelled.operation {id : Text} {op : Operation}
    (hr : r.IsSpelled) (h : Call.ofRequest r = .ok (.scheme id op)) :
    id.isWhole = true ∧ op.Spelled := by
  obtain ⟨e, he, hcall⟩ := endpoint_of_ofRequest h
  cases e with
  | welcome | health | listEvents | showBalance => cases hcall
  | showScheme name | showState name | closeRound name =>
      cases hcall
      exact ⟨Text.isWhole_ofString name, trivial⟩
  | createScheme name =>
      obtain ⟨t, hread, hcall⟩ := eq_ok_of_bind hcall
      cases hcall
      obtain ⟨j, hj, hterms⟩ := document_of_read hread
      obtain ⟨sent, v, w, amount, duration, hsent, -, -, -, -, rfl⟩ :=
        Body.terms_eq_ok hterms
      refine ⟨Text.isWhole_ofString name, ?_, ?_, ?_⟩
      · exact hr j _ _ _ hj hsent.admin (Or.inl rfl)
      · exact hr j _ _ _ hj hsent.asset (Or.inl rfl)
      · intro p hp
        exact hr j _ _ _ hj hsent.members (Or.inr (by rwa [Json.texts_ofTexts]))
  | contribute name =>
      obtain ⟨contributor, hread, hcall⟩ := eq_ok_of_bind hcall
      cases hcall
      obtain ⟨j, hj, hcontributor⟩ := document_of_read hread
      exact ⟨Text.isWhole_ofString name,
        hr j _ _ _ hj (Body.contributor_eq_ok.mp hcontributor) (Or.inl rfl)⟩
  | mint asset =>
      obtain ⟨pair, -, hcall⟩ := eq_ok_of_bind hcall
      cases hcall

/-- A spelled request leaves nothing behind that can not be shown. -/
theorem Served.spelled {served : Response × Database}
    (h : Served settings db now r served) (hr : r.IsSpelled)
    (hdb : db.Spelled) : served.2.Spelled := by
  cases h with
  | refused | looked => exact hdb
  | minted hs hallowed hread hmint =>
      obtain ⟨-, -, hschemes, hevents⟩ := Database.balance_of_mint hmint
      refine ⟨?_, ?_⟩
      · intro id s hs
        rw [Database.scheme?_congr hschemes] at hs
        exact hdb.schemes id s hs
      · intro id e he
        rw [Database.log_congr hevents] at he
        exact hdb.logs id e he
  | done hs hread hgranted hpaid hdone =>
      obtain ⟨hrecord, hevents, -⟩ :=
        hgranted.spelled (hdb.schemes _) (hr.operation hread).2
      exact hdone.spelled hdb hrecord hevents

/-- Requests that are spelled leave rows that are. -/
theorem spelled_received {visits : List Visit} (hdb : db.Spelled)
    (h : ∀ v ∈ visits, v.request.IsSpelled) :
    (received settings db visits).Spelled :=
  received_served hdb fun v hv _ _ hserved hdb => hserved.spelled (h v hv) hdb

end Http

end SavingsClub
