/-
What an operation is refused for.

# The list

A refusal is the first rule that is broken. `Operation.Refused` lists the
refusals that can be decided on, each with the record it is decided on and with
the rules before it kept, as `Granted` lists the plans;
`Operation.refused_of_ruling` says that nothing else is decided. What is left
are the transfers of a plan that was granted: `Transfer.Refused` says what the
ledger refuses one for.

# Where a fault comes from

`Engine.fault_of_perform`: an operation on the database fails with a fault of
the club's only if the fault is on the list, or a transfer that was granted is
refused for it. Looking things up, keeping the record and telling the events
fail in other ways, if they fail.

The one thing that has to be looked at twice is a name that no row can be found
by. Nothing is ruled under such a name, because the record is asked for first
and the asking fails. The exception is a contribution made for somebody else:
whether the caller pays for himself is checked before anything is looked up, so
it is refused under any name (`isWhole_of_fault`).
-/
import SavingsClub.Proofs.Deed

namespace SavingsClub

-- =============================================================== on the record

namespace Scheme

/-- Why no further round can open at `now`. -/
inductive Stuck (s : Scheme) (now : Int) : Fault → Prop where
  /-- No round has a number after this one. -/
  | counter (hround : maxRound ≤ s.currentRound) : Stuck s now .maxRoundsReached
  /-- The round that would open would end too late. -/
  | deadline (hround : s.currentRound < maxRound)
      (hlate : maxTime < now + s.roundDuration) :
      Stuck s now
        (.invalidParameters (.deadlineOutside (now + s.roundDuration)))

/-- Why a contribution is not taken. -/
inductive Declines (s : Scheme) (c : Text) (now : Int) : Fault → Prop where
  /-- The deadline is over, and it is no matter who pays. -/
  | late (hlate : s.roundDeadline < now) :
      Declines s c now (.deadlinePassed s.roundDeadline now)
  | stranger (hdue : now ≤ s.roundDeadline) (hmember : c ∉ s.members) :
      Declines s c now (.notAMember c)
  | again (hdue : now ≤ s.roundDeadline) (hmember : c ∈ s.members)
      (hpaid : c ∈ s.paidMembers) :
      Declines s c now (.alreadyContributed c s.currentRound)
  /-- It is the contribution that was missing, and no further round can open. -/
  | last {f : Fault} (hdue : now ≤ s.roundDeadline) (hmember : c ∈ s.members)
      (hpaid : c ∉ s.paidMembers)
      (hlast : s.paidMembers.length + 1 = s.members.length)
      (hstuck : s.Stuck now f) : Declines s c now f

variable {s : Scheme} {c : Text} {now : Int} {f : Fault}

/-- A deadline is missing for one of two reasons, and the number of the round is
asked first. -/
theorem stuck_of_nextDeadline (h : s.nextDeadline now = .error f) :
    s.Stuck now f := by
  unfold nextDeadline at h
  split at h
  case isTrue hround =>
    cases h
    exact .counter hround
  next hround =>
    dsimp only at h
    split at h
    case isTrue hlate =>
      cases h
      exact .deadline (Int.not_le.mp hround) hlate
    case isFalse => cases h

theorem stuck_of_advance (h : s.advance now = .error f) : s.Stuck now f := by
  unfold advance at h
  cases hd : s.nextDeadline now with
  | ok d =>
      rw [hd] at h
      cases h
  | error f' =>
      rw [hd] at h
      cases h
      exact stuck_of_nextDeadline hd

/-- The checks of a contribution, in the order in which they are made. -/
theorem declines_of_accept (h : s.accept c now = .error f) :
    s.Declines c now f := by
  unfold accept at h
  split at h
  case isTrue hlate =>
    cases h
    exact .late hlate
  next hlate =>
    have hdue := Int.not_lt.mp hlate
    split at h
    case isFalse hmember =>
      cases h
      exact .stranger hdue hmember
    next hmember =>
      split at h
      case isTrue hpaid =>
        cases h
        exact .again hdue hmember (by simpa [hasPaid] using hpaid)
      next hpaid =>
        split at h
        case isFalse => cases h
        next hlast =>
          cases hd : s.nextDeadline now with
          | ok d =>
              rw [hd] at h
              cases h
          | error f' =>
              rw [hd] at h
              cases h
              exact .last hdue hmember (by simpa [hasPaid] using hpaid) hlast
                (stuck_of_nextDeadline hd)

/-- A contribution is declined before its plan is made, or not at all. -/
theorem declines_of_contribution {custody : Text}
    (h : s.contribution custody c now = .error f) :
    s.Declines c now f := by
  cases haccept : s.accept c now with
  | error f' =>
      rw [contribution_of_refused haccept] at h
      cases h
      exact declines_of_accept haccept
  | ok payer =>
      by_cases hlast : s.paidMembers.length + 1 = s.members.length
      · obtain ⟨next, hnext⟩ := advance_of_accept haccept hlast
        rw [contribution_of_last haccept hlast hnext] at h
        cases h
      · rw [contribution_of_open haccept hlast] at h
        cases h

end Scheme

namespace Operation

/-- What an operation is refused for at `now`, given the record that was
found. -/
inductive Refused (key : Text) (now : Int) :
    Option Scheme → Operation → Fault → Prop where
  /-- A scheme is begun once. -/
  | begun {s : Scheme} {t : Terms} :
      Refused key now (some s) (.establish t) (.alreadyInitialized key)
  | terms {t : Terms} {v : Violation} (hv : t.opening now = .error v) :
      Refused key now none (.establish t) (.invalidParameters v)
  /-- Nobody pays for somebody else, be there a scheme or not. -/
  | impostor {found : Option Scheme} {caller : Option Text} {c : Text}
      (hcaller : caller ≠ some c) :
      Refused key now found (.contribute caller c) (.unauthorized c)
  | nothingToPay {c : Text} :
      Refused key now none (.contribute (some c) c) (.notInitialized key)
  | declined {s : Scheme} {c : Text} {f : Fault}
      (hdeclines : s.Declines c now f) :
      Refused key now (some s) (.contribute (some c) c) f
  | nothingToClose {caller : Option Text} :
      Refused key now none (.closeRound caller) (.notInitialized key)
  /-- Rounds are closed by the admin alone, whether they are due or not. -/
  | notAdmin {s : Scheme} {caller : Option Text}
      (hcaller : caller ≠ some s.admin) :
      Refused key now (some s) (.closeRound caller) (.unauthorized s.admin)
  | early {s : Scheme} (hdue : now ≤ s.roundDeadline) :
      Refused key now (some s) (.closeRound (some s.admin))
        (.deadlineNotYetPassed s.roundDeadline now)
  /-- The round is due, and no further one can open. -/
  | stuck {s : Scheme} {f : Fault} (hdue : s.roundDeadline < now)
      (hstuck : s.Stuck now f) :
      Refused key now (some s) (.closeRound (some s.admin)) f
  /-- There is nothing to show of a scheme that is not begun. -/
  | nothingToShow {op : Operation} (hop : op.isReading = true) :
      Refused key now none op (.notInitialized key)

variable {custody key : Text} {now : Int} {found : Option Scheme}
  {op : Operation} {f : Fault}

/-- A scheme is refused because there is one, or for what is wrong with its
terms. -/
theorem refused_of_establish {t : Terms}
    (h : (establish t).ruling custody key now found = .error f) :
    Refused key now found (.establish t) f := by
  cases found with
  | some s =>
      cases h
      exact .begun
  | none =>
      simp only [ruling, Terms.founding] at h
      cases hv : t.opening now with
      | ok s =>
          rw [hv] at h
          cases h
      | error v =>
          rw [hv] at h
          cases h
          exact .terms hv

/-- Of a contribution the caller is checked first, then the scheme, then the
contribution. -/
theorem refused_of_contribute {caller : Option Text} {c : Text}
    (h : (contribute caller c).ruling custody key now found = .error f) :
    Refused key now found (.contribute caller c) f := by
  by_cases hcaller : caller = some c
  case neg =>
    rw [ruling_contribute_of_ne hcaller] at h
    cases h
    exact .impostor hcaller
  subst hcaller
  cases found with
  | none =>
      simp only [ruling, authorize_self] at h
      cases h
      exact .nothingToPay
  | some s =>
      rw [ruling_contribute] at h
      cases hplan : s.contribution custody c now with
      | ok p =>
          rw [hplan] at h
          cases h
      | error f' =>
          rw [hplan] at h
          cases h
          exact .declined (Scheme.declines_of_contribution hplan)

/-- Of a closure the scheme is checked first, then the caller, then the
moment. -/
theorem refused_of_closeRound {caller : Option Text}
    (h : (closeRound caller).ruling custody key now found = .error f) :
    Refused key now found (.closeRound caller) f := by
  cases found with
  | none =>
      cases h
      exact .nothingToClose
  | some s =>
      by_cases hcaller : caller = some s.admin
      case neg =>
        rw [ruling_closeRound_of_ne hcaller] at h
        cases h
        exact .notAdmin hcaller
      subst hcaller
      rw [ruling_closeRound] at h
      by_cases hdue : now ≤ s.roundDeadline
      case pos =>
        rw [Scheme.closing, if_pos hdue] at h
        cases h
        exact .early hdue
      rw [Scheme.closing, if_neg hdue] at h
      cases hnext :
        ({ s with defaulters := Rotation.defaulters s.members s.paidMembers } :
          Scheme).advance now with
      | ok next =>
          simp only [hnext] at h
          cases h
      | error f' =>
          simp only [hnext] at h
          cases h
          -- the defaulters make no difference to whether a round can open
          have hstuck : s.Stuck now f := by
            cases Scheme.stuck_of_advance hnext with
            | counter hround => exact .counter hround
            | deadline hround hlate => exact .deadline hround hlate
          exact .stuck (Int.not_le.mp hdue) hstuck

/-- A refusal that is decided on is on the list. -/
theorem refused_of_ruling (h : op.ruling custody key now found = .error f) :
    Refused key now found op f := by
  cases op with
  | establish t => exact refused_of_establish h
  | contribute caller c => exact refused_of_contribute h
  | closeRound caller => exact refused_of_closeRound h
  | getState | getScheme | getDefaulters =>
      cases found with
      | some s => cases h
      | none =>
          cases h
          exact .nothingToShow rfl

end Operation

-- =============================================================== in the ledger

/-- Neither looking for names nor writing numbers comes to a fault of the
club's. -/
theorem Database.search_ne_fault {names : List Text} {f : Fault} :
    search names ≠ .error (.fault f) := by
  intro h
  obtain ⟨tear, hf⟩ := search_eq_error h
  cases hf

theorem Database.write_ne_fault {n : Int} {f : Fault} :
    write n ≠ .error (.fault f) := by
  intro h
  unfold write at h
  split at h <;> cases h

theorem Database.putBalance_ne_fault {db : Database} {asset holder : Text}
    {n : Int} {f : Fault} :
    db.putBalance asset holder n ≠ .error (.fault f) := by
  intro h
  cases hwritten : write n with
  | ok numeral =>
      rw [putBalance, hwritten] at h
      cases h
  | error e =>
      rw [putBalance, hwritten] at h
      cases h
      exact write_ne_fault hwritten

/-- Why a ledger refuses a transfer if its sender has what is available. -/
inductive Transfer.Refused (t : Transfer) (available : Int) : Fault → Prop where
  | rejected {r : Rejection} (hr : t.rejection? = some r) :
      Refused t available (.transferRejected r)
  | short (hself : t.sender ≠ t.recipient) (hfunds : available < t.amount) :
      Refused t available (.insufficientFunds t.sender t.amount available)

namespace Transfer

variable {t : Transfer} {available held : Int} {f : Fault}

/-- The fault of a verdict is one of the transfer. All that comes after the
funds are checked fails for other reasons: names that cannot be looked up, and
balances that cannot be kept. -/
theorem refused_of_verdict (h : t.verdict available held = .error (.fault f)) :
    t.Refused available f := by
  unfold verdict at h
  cases hrejected : t.rejection? with
  | some r =>
      rw [hrejected] at h
      cases h
      exact .rejected hrejected
  | none =>
      rw [hrejected] at h
      rcases eq_error_of_bind h with hsender | ⟨u, -, h⟩
      · exact absurd hsender Database.search_ne_fault
      change (if _ then throw _ else _) = _ at h
      split at h
      case isTrue hfunds =>
        cases h
        exact .short (rejection?_eq_none hrejected).2 hfunds
      case isFalse =>
        rcases eq_error_of_bind h with hrecipient | ⟨u, -, h⟩
        · exact absurd hrecipient Database.search_ne_fault
        rcases eq_error_of_bind h with hpaid | ⟨paid, -, h⟩
        · exact absurd hpaid Database.write_ne_fault
        rcases eq_error_of_bind h with hreceived | ⟨received, -, h⟩
        · exact absurd hreceived Database.write_ne_fault
        · cases h

end Transfer

namespace Database

variable {db db' : Database} {id : Text} {t : Transfer}
  {ts : List Transfer} {f : Fault} {e : Failure}

/-- A transfer is refused for what it is, or for what its sender has. -/
theorem refused_of_transfer (h : db.transfer t = .error (.fault f)) :
    t.Refused (db.balance t.asset t.sender) f := by
  rw [transfer_eq] at h
  cases hverdict : t.verdict (db.balance t.asset t.sender)
    (db.balance t.asset t.recipient) with
  | ok u =>
      rw [hverdict] at h
      cases h
  | error e =>
      rw [hverdict] at h
      cases h
      exact Transfer.refused_of_verdict hverdict

/-- Of several transfers the first is refused, or it is made and one of the
others is refused. -/
theorem transfers_cons_eq_error
    (h : (t :: ts).forM backend.transfer db = .error e db') :
    db.transfer t = .error e
      ∨ ∃ db₁, db.transfer t = .ok db₁
        ∧ ts.forM backend.transfer db₁ = .error e db' := by
  rcases Act.bind_eq_error h with hfirst | ⟨u, db₁, hfirst, hrest⟩
  · exact Or.inl (Act.tryChange_eq_error
      (f := fun db : Database => db.transfer t) hfirst)
  · exact Or.inr ⟨db₁, Act.tryChange_eq_ok
      (f := fun db : Database => db.transfer t) hfirst, hrest⟩

/-- A fault of several transfers is that of one of them, at what its sender has
by then. -/
theorem refused_of_transfers
    (h : ts.forM backend.transfer db = .error (.fault f) db') :
    ∃ t ∈ ts, ∃ available, t.Refused available f := by
  induction ts generalizing db with
  | nil => cases h
  | cons t ts ih =>
      rcases transfers_cons_eq_error h with hfirst | ⟨db₁, -, hrest⟩
      · exact ⟨t, List.mem_cons_self, _, refused_of_transfer hfirst⟩
      · obtain ⟨t', ht', available, hrefused⟩ := ih hrest
        exact ⟨t', List.mem_cons_of_mem t ht', available, hrefused⟩

/-- A mint is refused for its amount only. -/
theorem refused_of_mint {asset holder : Text} {amount : Int}
    (h : db.mint asset holder amount = .error (.fault f)) :
    amount ≤ 0 ∧ f = .transferRejected (.mintNotPositive amount) := by
  unfold mint mintRejection? at h
  by_cases hamount : amount ≤ 0
  · rw [if_pos hamount] at h
    cases h
    exact ⟨hamount, rfl⟩
  · rw [if_neg hamount] at h
    rcases eq_error_of_bind h with hsearch | ⟨u, -, h⟩
    · exact absurd hsearch search_ne_fault
    · exact absurd h putBalance_ne_fault

/-- Telling events cannot fail. -/
theorem emits_ok (id : Text) (db : Database) (es : List Event) :
    ∃ db', es.forM (backend.emit id) db = .ok () db' := by
  induction es generalizing db with
  | nil => exact ⟨db, rfl⟩
  | cons e es ih => exact ih (db.addEvent id e)

/-- No record is refused by the rules of the club. -/
theorem keepScheme_ne_fault {s : Scheme} :
    db.keepScheme id s ≠ .error (.fault f) := by
  intro h
  rcases eq_error_of_bind h with hid | ⟨u, -, h⟩
  · exact search_ne_fault hid
  · split at h <;> cases h

/-- A plan comes to a fault of the club's in its transfers only. -/
theorem fault_of_carryOut {α : Type} {p : Plan α} {custody : Text}
    (h : (⟨backend, custody, id⟩ : Engine Database).carryOut p db
      = .error (.fault f) db') :
    p.transfers.forM backend.transfer db = .error (.fault f) db' := by
  rcases Engine.carryOut_eq_error h with hreport | htransfers | ⟨db₁, hset⟩
    | ⟨db₂, hemits⟩
  · cases hreport
  · exact htransfers
  · exact absurd
      (Act.tryChange_eq_error
        (f := fun db : Database => db.keepScheme id p.record) hset)
      keepScheme_ne_fault
  · obtain ⟨db₃, htold⟩ := emits_ok id db₂ p.events
    cases hemits.symm.trans htold

end Database

-- ================================================================== altogether

namespace Engine

variable {custody id : Text} {db db' : Database} {now : Int}
  {op : Operation} {f : Fault}

/-- A record that is not there was looked for under a name that can be looked
up. -/
theorem isWhole_of_load_fault
    (h : (⟨Database.backend, custody, id⟩ : Engine Database).load db
      = .error (.fault f) db') :
    id.isWhole = true := by
  rcases Act.bind_eq_error h with hget | ⟨found, db₁, hget, -⟩
  · exact absurd (Database.lookUp_eq_error (fun db => db.scheme? id) hget)
      Database.search_ne_fault
  · exact Database.isWhole_of_get hget

/-- Under a name that does not consist of characters nothing is refused but a
caller who is somebody else. -/
theorem isWhole_of_fault
    (h : (⟨Database.backend, custody, id⟩ : Engine Database).perform now op db
      = .error (.fault f) db') :
    id.isWhole = true
      ∨ ∃ caller c, op = .contribute caller c ∧ caller ≠ some c
        ∧ f = .unauthorized c := by
  cases op with
  | establish t =>
      rcases Act.bind_eq_error (Act.map_eq_error h) with hhas
        | ⟨found, db₁, hhas, -⟩
      · exact absurd
          (Database.lookUp_eq_error (fun db => (db.scheme? id).isSome) hhas)
          Database.search_ne_fault
      · exact Or.inl (Database.isWhole_of_has hhas)
  | contribute caller c =>
      by_cases hcaller : caller = some c
      · rcases Act.bind_eq_error (Act.map_eq_error h) with hcheck
          | ⟨u, db₁, -, h⟩
        · rw [hcaller, authorize_self] at hcheck
          cases hcheck
        rcases Act.bind_eq_error h with hload | ⟨s, db₂, hload, -⟩
        · exact Or.inl (isWhole_of_load_fault hload)
        · exact Or.inl (isWhole_of_load hload)
      · rcases Act.bind_eq_error (Act.map_eq_error h) with hcheck
          | ⟨u, db₁, hcheck, -⟩
        · rw [authorize_of_ne hcaller] at hcheck
          cases hcheck
          exact Or.inr ⟨caller, c, rfl, hcaller, rfl⟩
        · rw [authorize_of_ne hcaller] at hcheck
          cases hcheck
  | closeRound caller =>
      rcases Act.bind_eq_error (Act.map_eq_error h) with hload
        | ⟨s, db₁, hload, -⟩
      · exact Or.inl (isWhole_of_load_fault hload)
      · exact Or.inl (isWhole_of_load hload)
  | getScheme => exact Or.inl (isWhole_of_load_fault (Act.map_eq_error h))
  | getState | getDefaulters =>
      rcases Act.bind_eq_error (Act.map_eq_error h) with hload
        | ⟨s, db₁, hload, -⟩
      · exact Or.inl (isWhole_of_load_fault hload)
      · exact Or.inl (isWhole_of_load hload)

/-- An operation comes to a fault of the club's if it is refused for it, or if a
transfer that it was granted is. -/
theorem fault_of_perform
    (h : (⟨Database.backend, custody, id⟩ : Engine Database).perform now op db
      = .error (.fault f) db') :
    op.Refused id now (db.scheme? id) f
      ∨ ∃ p, op.Granted custody now (db.scheme? id) p
        ∧ p.transfers.forM Database.backend.transfer db
          = .error (.fault f) db' := by
  rcases isWhole_of_fault h with hid | ⟨caller, c, rfl, hcaller, rfl⟩
  case inr => exact Or.inl (.impostor hcaller)
  -- the name can be looked up, so the record is found and the rest is the
  -- ruling on it
  have hperform :=
    (⟨Database.backend, custody, id⟩ : Engine Database).perform_eq db
    (db.scheme? id) (Database.backend_has db hid)
    (Database.backend_get db hid) now op
  rw [h] at hperform
  cases hr : op.ruling custody id now (db.scheme? id) with
  | error f' =>
      rw [hr] at hperform
      cases hperform
      exact Or.inl (Operation.refused_of_ruling hr)
  | ok r =>
      rw [hr] at hperform
      cases r with
      | look a => cases hperform
      | act p =>
          exact Or.inr ⟨p, Operation.ruling_eq_act_iff.mp hr,
            Database.fault_of_carryOut hperform.symm⟩

end Engine

end SavingsClub
