/-
Who a caller is taken for.

# Two readings

The fields of a body are read as Unicode, but a header is read one character for
each octet, and it is sent in UTF-8. A name of ASCII characters is the same in
both readings, and no other is (`Text.ofLatin1_utf8_eq_iff`), since every other
character is sent in more than one octet.

# Acting

A contribution is refused to a caller who is taken for somebody other than the
contributor, and nothing else that can be wrong with it is answered in this way
(`identity_of_contribution`). So a member whose name is not ASCII can not act as
itself, and somebody else can act as it if the octets of the one name spell the
other.
-/
import SavingsClub.Proofs.Refusal
import SavingsClub.Proofs.Served

namespace SavingsClub

-- ================================================================ two readings

namespace Text

/-- Whether all characters of a string are ASCII. -/
def isAscii (s : String) : Bool := s.toList.all fun c => c.toNat < 0x80

theorem isAscii_iff {s : String} :
    isAscii s = true ↔ ∀ c ∈ s.toList, c.toNat < 0x80 := by
  unfold isAscii
  rw [List.all_eq_true]
  exact forall₂_congr fun c _ => decide_eq_true_iff

theorem utf8Size_eq_one_iff {c : Char} : c.utf8Size = 1 ↔ c.toNat < 0x80 := by
  rw [Char.utf8Size_eq_one_iff, UInt32.le_iff_toNat_le]
  exact Nat.lt_succ_iff.symm

/-- Octets are as many as characters, or more. -/
theorem length_le_length_utf8 (l : List Char) :
    l.length ≤ (l.flatMap String.utf8EncodeChar).length := by
  induction l with
  | nil => exact Nat.le_refl 0
  | cons c l ih =>
      have hc := c.utf8Size_pos
      rw [List.flatMap_cons, List.length_append, String.length_utf8EncodeChar,
        List.length_cons]
      omega

/-- If octets are as many as characters, each character has one octet. -/
theorem utf8Size_of_length_eq {l : List Char}
    (h : (l.flatMap String.utf8EncodeChar).length = l.length) :
    ∀ c ∈ l, c.utf8Size = 1 := by
  induction l with
  | nil => exact fun _ hc => absurd hc List.not_mem_nil
  | cons c l ih =>
      rw [List.flatMap_cons, List.length_append, String.length_utf8EncodeChar,
        List.length_cons] at h
      have hc := c.utf8Size_pos
      have hl := length_le_length_utf8 l
      intro d hd
      rcases List.mem_cons.mp hd with rfl | hd
      · omega
      · exact ih (by omega) d hd

theorem map_toNat_flatMap_utf8 {l : List Char} (h : ∀ c ∈ l, c.toNat < 0x80) :
    (l.flatMap String.utf8EncodeChar).map UInt8.toNat = l.map Char.toNat := by
  induction l with
  | nil => rfl
  | cons c l ih =>
      have hc := h c List.mem_cons_self
      have hoctet : c.val.toUInt8.toNat = c.toNat := by
        rw [UInt32.toNat_toUInt8]
        exact Nat.mod_eq_of_lt (Nat.lt_trans hc (by decide))
      rw [List.flatMap_cons,
        String.utf8EncodeChar_eq_singleton (utf8Size_eq_one_iff.mpr hc),
        List.map_append, ih fun d hd => h d (.tail c hd),
        List.map_singleton, hoctet]
      rfl

/-- The octets of a string read one by one are the string again only if it is
ASCII. -/
theorem ofLatin1_utf8_eq_iff {s : String} :
    ofLatin1 (utf8 s) = s ↔ isAscii s = true := by
  rw [isAscii_iff]
  refine ⟨?_, ?_⟩
  · intro h c hc
    have hlength := congrArg (fun t : Text => t.points.length) h
    rw [← utf8Size_eq_one_iff]
    apply utf8Size_of_length_eq _ c hc
    simpa [ofLatin1, ofString, utf8] using hlength
  · intro h
    exact congrArg mk (map_toNat_flatMap_utf8 h)

end Text

-- ====================================================================== acting

/-- A caller who is somebody else is refused before anything else is asked. -/
theorem Engine.perform_of_impostor {custody id c : Text} {caller : Option Text}
    {db : Database} {now : Int} (h : caller ≠ some c) :
    (⟨Database.backend, custody, id⟩ : Engine Database).perform now
    (.contribute caller c) db
      = .error (.fault (.unauthorized c)) db := by
  apply Act.map_error
  apply Act.bind_error
  rw [authorize_of_ne h]
  rfl

/-- A contribution by the contributor may be refused for many things, but not to
the caller. -/
theorem Engine.kind_of_contribute {custody id c : Text} {db db' : Database}
    {now : Int} {f : Fault}
    (h : (⟨Database.backend, custody, id⟩ : Engine Database).perform now
      (.contribute (some c) c) db
      = .error (.fault f) db') : f.kind ≠ .unauthorized := by
  rcases fault_of_perform h with hrefused | ⟨p, -, htransfers⟩
  · generalize db.scheme? id = found at hrefused
    cases hrefused with
    | impostor hcaller => exact absurd rfl hcaller
    | nothingToPay => exact Fault.Kind.noConfusion
    | nothingToShow hop => cases hop
    | declined hdeclines =>
        cases hdeclines with
        | late | stranger | again => exact Fault.Kind.noConfusion
        | last hdue hmember hpaid hlast hstuck =>
            cases hstuck with
            | counter | deadline => exact Fault.Kind.noConfusion
  · obtain ⟨t, -, available, hrefused⟩ := Database.refused_of_transfers
      htransfers
    cases hrefused with
    | rejected | short => exact Fault.Kind.noConfusion

namespace Http

/-- The answer is that the caller is not authorized. -/
def Response.DeniesCaller (response : Response) : Prop :=
  ∃ message, response
    = ⟨403, .json (.obj [("detail", .obj [("error", .text "Unauthorized"),
        ("message", .string message)])])⟩

namespace Response

theorem deniesCaller_of_unauthorized {p : Text} (hp : p.isWhole = true) :
    (ofFault (.unauthorized p)).DeniesCaller := by
  have hmessage : (Fault.unauthorized p).message.isWhole = true := by
    simp [Fault.message, Fault.Wording.unauthorized, hp]
  refine ⟨(Fault.unauthorized p).message, ?_⟩
  show json 403
    (.obj [("detail", (Report.ofFault (.unauthorized p)).detail)]) = _
  rw [json_of_presentable (presentable_detail hmessage)]
  rfl

/-- A fault of another kind is answered in another way. -/
theorem not_deniesCaller_ofFault {f : Fault} (h : f.kind ≠ .unauthorized) :
    ¬ (ofFault f).DeniesCaller := by
  rintro ⟨message, hresponse⟩
  have hname : f.kind.name ≠ "Unauthorized" := by
    intro hname
    cases hkind : f.kind with
    | unauthorized => exact h hkind
    | rosca | alreadyInitialized | notInitialized | invalidParameters
    | maxRoundsReached | notAMember | alreadyContributed | deadlinePassed
    | deadlineNotYetPassed | transfer | insufficientFunds | transferRejected =>
        rw [hkind] at hname
        exact absurd hname (by decide)
  unfold ofFault detail json at hresponse
  split at hresponse
  · split at hresponse
    · simp [Report.ofFault, Report.detail, Json.obj, Json.text,
        Text.ofString_inj, hname] at hresponse
    · cases hresponse
  · exact absurd (congrArg Response.status hresponse)
      (by decide : internalError.status ≠ 403)

theorem not_deniesCaller_of_status {response : Response}
    (h : response.status ≠ 403) :
    ¬ response.DeniesCaller := by
  rintro ⟨message, rfl⟩
  exact h rfl

end Response

/-- A contribution is refused to the caller exactly if the caller, as the
service reads it, is not the contributor. -/
theorem deniesCaller_iff {settings : Settings} {db : Database} {now : Int}
    {r : Request} {id : String} {p : Text}
    (hread : Call.ofRequest r
      = .ok (.scheme id (.contribute r.claimedCaller p)))
    (hp : p.isWhole = true) :
    (serve (Office.ofSettings settings) db now r).1.DeniesCaller
    ↔ r.claimedCaller ≠ some p := by
  have hserve := serve_of_call (Office.ofSettings settings) db now hread
  change serve (Office.ofSettings settings) db now r
    = (Call.scheme id _).perform ⟨Database.backend, .ok settings⟩ db now
      at hserve
  rw [Call.perform_scheme, Office.step_of_change rfl] at hserve
  rw [hserve]
  by_cases hcaller : r.claimedCaller = some p
  · refine ⟨fun hdenied => ?_, fun hne => absurd hcaller hne⟩
    rw [hcaller] at hdenied
    cases hdone : (⟨Database.backend, settings.custodyAccount id,
      id⟩ : Engine Database).perform now
        (.contribute (some p) p) db with
    | ok a db' =>
        rw [hdone] at hdenied
        refine absurd hdenied (Response.not_deniesCaller_of_status ?_)
        show (Response.json 200 _).status ≠ 403
        rcases Response.status_json 200 (Response.answerJson settings id a)
          with h | h <;> omega
    | error f db' =>
        rw [hdone] at hdenied
        cases f with
        | fault f =>
            exact absurd hdenied
              (Response.not_deniesCaller_ofFault
                (Engine.kind_of_contribute hdone))
        | storage e =>
            refine absurd hdenied (Response.not_deniesCaller_of_status ?_)
            cases e <;> exact (by decide : Response.internalError.status ≠ 403)
        | settings | unsearchable | noRecord | unspeakable =>
            exact absurd hdenied (Response.not_deniesCaller_of_status
              (by decide : Response.internalError.status ≠ 403))
  · rw [Engine.perform_of_impostor hcaller]
    exact ⟨fun _ => hcaller, fun _ => Response.deniesCaller_of_unauthorized hp⟩

/-- A contribution is refused to a caller exactly if the octets of its name,
read one by one, are not the contributor's name. For an ASCII caller that is to
say that it is somebody else; but a contributor that calls as itself is refused,
too, if its name is not ASCII. -/
theorem identity_of_contribution (settings : Settings) (db : Database)
    (now : Int) (r : Request) (id caller contributor : String) (j : Json)
    (hroute : r.endpoint? = some (.contribute id))
    (hbody : r.document? = some j)
    (hcontributor : j.field? "contributor" = some (.string contributor))
    (hcaller : r.caller = some caller) :
    let response := (serve (Office.ofSettings settings) db now r).1
    (response.DeniesCaller ↔ Text.ofLatin1 (Text.utf8 caller) ≠ contributor)
      ∧ (Text.isAscii caller = true →
        (response.DeniesCaller ↔ caller ≠ contributor))
      ∧ (caller = contributor →
          (response.DeniesCaller ↔ Text.isAscii contributor = false)) := by
  intro response
  have hread := Request.ofRequest_of_contributor hroute hbody hcontributor
  have hdenied : response.DeniesCaller
      ↔ Text.ofLatin1 (Text.utf8 caller) ≠ contributor := by
    have hclaimed : r.claimedCaller
        = some (Text.ofLatin1 (Text.utf8 caller)) := by
      unfold Request.claimedCaller
      rw [hcaller]
      rfl
    refine (deniesCaller_iff hread (Text.isWhole_ofString contributor)).trans ?_
    rw [hclaimed, Ne, Option.some.injEq]
  refine ⟨hdenied, ?_, ?_⟩
  · intro hascii
    rw [hdenied, Text.ofLatin1_utf8_eq_iff.mpr hascii, Ne, Text.ofString_inj]
  · rintro rfl
    rw [hdenied, Ne, Text.ofLatin1_utf8_eq_iff, Bool.not_eq_true]

/-- A scheme with two members whose names are not ASCII. -/
def beginAccented : Visit := ⟨0, .toBegin "club" ["é", "Ã©"] (.integer 5)⟩

theorem identity_of_accented_member :
    (serve (Office.ofSettings .standard)
      (received (.ok .standard) .empty [beginAccented]) 1
      (.toPay "club" "é" "é")).1.DeniesCaller := by
  have hroute : (Request.toPay "club" "é" "é").endpoint?
      = some (.contribute "club") := by
    decide +kernel
  have hbody : (Request.toPay "club" "é" "é").document?
      = some (.obj [("contributor", .text "é")]) := by
    decide +kernel
  obtain ⟨-, -, hitself⟩ := identity_of_contribution .standard
    (received (.ok .standard) .empty [beginAccented]) 1 (.toPay "club" "é" "é")
    "club" "é" "é"
    _ hroute hbody (by decide +kernel) rfl
  exact (hitself rfl).mpr (by decide)

/-- A member whose name is not ASCII is refused as itself, and is taken for
another member. -/
theorem not_only_itself :
    let rows := received (.ok .standard) .empty [beginAccented]
    (rows.scheme? "club").map Scheme.members = some (["é", "Ã©"] : List Text)
      ∧ (serve (Office.ofSettings .standard) rows 1
        (.toPay "club" "é" "é")).1.DeniesCaller
      ∧ ¬ (serve (Office.ofSettings .standard) rows 1
          (.toPay "club" "é" "Ã©")).1.DeniesCaller := by
  intro rows
  have hitself : (serve (Office.ofSettings .standard)
      (received (.ok .standard) .empty [beginAccented]) 1
      (.toPay "club" "é" "é")).1
      = .ofFault (.unauthorized "é") := by
    decide +kernel
  have hother : (serve (Office.ofSettings .standard)
      (received (.ok .standard) .empty [beginAccented]) 1
      (.toPay "club" "é" "Ã©")).1
      = .ofFault (.insufficientFunds "Ã©" 5 0) := by
    decide +kernel
  refine ⟨by decide +kernel, ?_, ?_⟩
  · rw [hitself]
    exact Response.deniesCaller_of_unauthorized (Text.isWhole_ofString _)
  · rw [hother]
    exact Response.not_deniesCaller_ofFault Fault.Kind.noConfusion

end Http

end SavingsClub
