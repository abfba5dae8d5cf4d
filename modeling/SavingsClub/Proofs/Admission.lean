/-
What it takes to begin a scheme over HTTP.

# Two checks

What is proposed is checked twice: when the body is read, and when the rules are
tried. The rules (`Terms.Proper`) ask for integers, but they are shown what has
been read, and that has been converted: a truth value, a whole float and a
numeral in a string come to the rules as integers.

# What is admitted

So whoever begins a scheme has sent names that keep the rules, and two numbers
that keep them when they are converted; the rules would have admitted what was
sent exactly if both numbers are integers (`admission_of_request`).
-/
import SavingsClub.Proofs.Served

namespace SavingsClub

-- =================================================================== the rules

namespace Terms

/-- Terms that keep every rule, with their two numbers. -/
structure Proper (t : Terms) (amount duration : Int) : Prop where
  admin : t.admin ≠ ""
  asset : t.asset ≠ ""
  members : t.members ≠ []
  named : ("" : Text) ∉ t.members
  nodup : t.members.Nodup
  amountIs : t.amount = .integer amount
  amountIn : 0 < amount ∧ amount ≤ maxAmount
  durationIs : t.duration = .integer duration
  durationIn : 0 < duration ∧ duration ≤ maxTime

variable {t : Terms} {amount duration : Int}

theorem ne_empty_of_checkNames {u : Unit} (h : t.checkNames = .ok u) :
    t.admin ≠ "" ∧ t.asset ≠ "" := by
  unfold checkNames at h
  split at h
  · cases h
  next hadmin =>
    split at h
    · cases h
    next hasset => exact ⟨hadmin, hasset⟩

/-- The rules admit nothing but proper terms. -/
theorem proper_of_validate (h : t.validate = .ok (amount, duration)) :
    t.Proper amount duration := by
  obtain ⟨hnames, hamount, hduration⟩ := validate_eq_ok h
  obtain ⟨hadmin, hasset⟩ := ne_empty_of_checkNames hnames
  obtain ⟨hmembers, hnamed, hnodup⟩ := checkNames_eq_ok hnames
  obtain ⟨hn, hnrange⟩ := checkAmount_eq_ok hamount
  obtain ⟨hd, hdrange⟩ := checkDuration_eq_ok hduration
  exact ⟨hadmin, hasset, hmembers, hnamed, hnodup, hn, hnrange, hd, hdrange⟩

theorem Proper.validate (h : t.Proper amount duration) :
    t.validate = .ok (amount, duration) := by
  have hnames : t.checkNames = .ok () := by
    unfold checkNames
    rw [if_neg h.admin, if_neg h.asset, if_neg h.members, if_neg h.named,
      if_neg (not_not_intro h.nodup)]
  have hamount : t.checkAmount = .ok amount := by
    unfold checkAmount
    rw [h.amountIs]
    exact if_pos h.amountIn
  have hduration : t.checkDuration = .ok duration := by
    unfold checkDuration
    rw [h.durationIs]
    exact if_pos h.durationIn
  unfold Terms.validate
  rw [hnames, hamount, hduration]
  rfl

end Terms

-- =================================================================== admission

namespace Http

variable {settings : Except SettingsFault Settings} {db : Database} {now : Int}
  {r : Request} {served : Response × Database}

/-- A scheme that is said to have begun, or has left anything behind, has been
proposed on terms that keep the rules. -/
theorem Served.opening {id : String} (h : Served settings db now r served)
    (hroute : r.endpoint? = some (.createScheme id))
    (hmade : served.1.status = 201 ∨ served.2 ≠ db) :
    ∃ j t s, r.document? = some j ∧ Body.terms j = .ok t
      ∧ t.opening now = .ok s := by
  cases h with
  | refused hstatus =>
      rcases hmade with hcreated | hchanged
      · rw [hcreated] at hstatus
        exact absurd hstatus (by decide)
      · exact absurd rfl hchanged
  | looked hverb =>
      rw [Request.verb_of_endpoint hroute] at hverb
      exact absurd (Option.some.inj hverb : "POST" = "GET") (by decide)
  | minted hs hallowed hread =>
      rw [Request.ofRequest_of_endpoint hroute] at hread
      obtain ⟨t, -, hread⟩ := eq_ok_of_bind hread
      cases hread
  | done hs hread hgranted =>
      rw [Request.ofRequest_of_endpoint hroute] at hread
      obtain ⟨t, hbody, hread⟩ := eq_ok_of_bind hread
      cases hread
      obtain ⟨j, hj, hterms⟩ := Request.document_of_read hbody
      generalize db.scheme? id = found at hgranted
      cases hgranted with
      | founds hs => exact ⟨j, t, _, hj, hterms, hs⟩

/-- What the rules take for an integer is read as it is. -/
theorem integer_of_quantity {place : List Json} {v : Json} {n m : Int}
    (h : Form.integer place v = .ok n) (hm : Quantity.ofJson v = .integer m) :
    v = .integer n := by
  rw [Quantity.ofJson_eq_integer hm] at h ⊢
  cases h
  rfl

/-- A scheme begins only on terms whose names keep the rules as they were sent
and whose numbers keep them when they are converted. As they were sent, the
rules would have admitted them exactly if both numbers are integers. -/
theorem admission_of_request (settings : Except SettingsFault Settings)
    (db : Database) (now : Int) (r : Request) (id : String)
    (hroute : r.endpoint? = some (.createScheme id))
    (hmade : (serve ⟨Database.backend, settings⟩ db now r).1.status = 201
      ∨ (serve ⟨Database.backend, settings⟩ db now r).2 ≠ db) :
    ∃ j sent v w amount duration, r.document? = some j ∧ j.Proposes sent
      ∧ j.field? "contribution_amount" = some v
        ∧ (v = .integer amount ∨ v.isConverted = true)
      ∧ j.field? "round_duration" = some w
        ∧ (w = .integer duration ∨ w.isConverted = true)
      ∧ ({ sent with
          amount := .integer amount, duration := .integer duration } :
            Terms).Proper amount duration
      ∧ ((∃ checked, sent.validate = .ok checked)
        ↔ v = .integer amount ∧ w = .integer duration) := by
  have hserved := served_of_request settings db now r
  obtain ⟨j, t, s, hj, hterms, hopening⟩ := hserved.opening hroute hmade
  obtain ⟨hon, hvalid, -⟩ := Terms.opening_eq_ok hopening
  obtain ⟨sent, v, w, amount, duration, hsent, hv, hw, hamount,
      hduration, rfl⟩ :=
    Body.terms_eq_ok hterms
  have hproper := Terms.proper_of_validate hvalid
  obtain rfl : amount = s.contributionAmount := by
    simpa using hproper.amountIs
  obtain rfl : duration = s.roundDuration := by
    simpa using hproper.durationIs
  have hvsent : Quantity.ofJson v = sent.amount := by
    simpa [hv] using hsent.amount
  have hwsent : Quantity.ofJson w = sent.duration := by
    simpa [hw] using hsent.duration
  refine ⟨j, sent, v, w, s.contributionAmount, s.roundDuration, hj, hsent, hv,
    Form.integer_eq_ok hamount, hw, Form.integer_eq_ok hduration,
    hproper, ?_, ?_⟩
  · rintro ⟨⟨n, d⟩, hchecked⟩
    have hasSent := Terms.proper_of_validate hchecked
    exact ⟨integer_of_quantity hamount (hvsent.trans hasSent.amountIs),
      integer_of_quantity hduration (hwsent.trans hasSent.durationIs)⟩
  · rintro ⟨rfl, rfl⟩
    have hasSent : sent.Proper s.contributionAmount s.roundDuration :=
      { hproper with amountIs := hvsent.symm, durationIs := hwsent.symm }
    exact ⟨_, hasSent.validate⟩

/-- A proposal that keeps the rules as it is sent. -/
def properProposal : Request := .toBegin "club" ["ana", "bo"] (.integer 5)

theorem admission_of_properProposal :
    (serve ⟨Database.backend, .ok .standard⟩ .empty 0 properProposal).1.status
        = 201
      ∧ ∃ j sent amount duration, properProposal.document? = some j
        ∧ j.Proposes sent
        ∧ ({ sent with
            amount := .integer amount, duration := .integer duration } :
              Terms).Proper amount duration := by
  have hroute : properProposal.endpoint? = some (.createScheme "club") := by
    decide +kernel
  have hstatus : (serve ⟨Database.backend, .ok .standard⟩ .empty 0
    properProposal).1.status
      = 201 := by
    decide +kernel
  obtain ⟨j, sent, -, -, amount, duration, hj, hsent, -, -, -, -, hproper, -⟩ :=
    admission_of_request (.ok .standard) .empty 0 properProposal "club" hroute
      (Or.inl hstatus)
  exact ⟨hstatus, j, sent, amount, duration, hj, hsent, hproper⟩

/-- A proposal with a truth value in the place of the contribution. -/
def truthProposal : Request := .toBegin "club" ["ana", "bo"] (.bool true)

/-- A truth value is admitted as a contribution of 1, though the rules refuse
it. -/
theorem not_refused :
    (serve ⟨Database.backend, .ok .standard⟩ .empty 0 truthProposal).1.status
        = 201
      ∧ ∃ j sent, truthProposal.document? = some j ∧ j.Proposes sent
        ∧ sent.validate = .error .amountMistyped := by
  refine ⟨by decide +kernel, _,
    ⟨"ana", ["ana", "bo"], .mistyped, "usd", .integer 100⟩,
    (by decide +kernel : _ = some (Request.proposal ["ana", "bo"]
      (.bool true))), ?_, by decide⟩
  exact ⟨by decide, by decide, by decide, by decide, by decide⟩

end Http

end SavingsClub
