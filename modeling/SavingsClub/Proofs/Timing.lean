/-
When rounds open and end.

# What a run is asked for

Two lists are read off a run: the openings of rounds, each with the reading of
the clock at which it took place (`openings`), and who was taken as a payer
while a round was the current one (`payers`). A payer is told by what the step
answers. An opening is told by the record, because a step that lapses may have
opened a round all the same. The record has to agree with both. Its deadline
counts from the last opening (`opening_of_run`), which needs no order of the
readings, and it names the payers of its round and no others
(`paidInto_of_run`).

# Late readings

A contribution is taken up to the deadline and a closure after it, so a reading
lets through one of the two and never both. Where no reading is before an
earlier one, a round that is late stays late: it ends by a closure or not at
all, and nobody pays into it any more (`payers_eq_nil`). With that, the
defaulters of a closure are those who never pay, whatever the run goes on to do.
-/
import Mathlib.Data.List.Induction
import SavingsClub.Proofs.Run

namespace SavingsClub

-- ================================================================== the record

namespace Scheme

/-- The current round keeps its deadline until another opens, and that one's
deadline counts from the moment. -/
theorem Progress.timing {now : Int} {s next : Scheme}
    (h : Progress now s next) :
    next.roundDuration = s.roundDuration
      ∧ (next.currentRound = s.currentRound
        ∧ next.roundDeadline = s.roundDeadline
        ∨ next.currentRound = s.currentRound + 1
          ∧ next.roundDeadline = now + s.roundDuration) := by
  cases h with
  | stays | pays => exact ⟨rfl, Or.inl ⟨rfl, rfl⟩⟩
  | completes haccept hlast hnext =>
      obtain ⟨-, -, rfl⟩ := advance_eq_ok hnext
      exact ⟨rfl, Or.inr ⟨rfl, rfl⟩⟩
  | closes hdue hnext =>
      obtain ⟨-, -, rfl⟩ := advance_eq_ok hnext
      exact ⟨rfl, Or.inr ⟨rfl, rfl⟩⟩

end Scheme

namespace Memory

variable {custody key : Text} {m m' : Memory} {now : Int} {st : Step}
  {a : Except Failure Answer} {moves later : List Move} {s s' : Scheme}

-- ==================================================================== openings

/-- A round that opens, and the reading of the clock at which it does. -/
structure Opening where
  now : Int
  round : Int
  deriving DecidableEq, Repr

/-- The round that a step opens, by the record before and after it: the founding
opens the first, and a contribution or a closure after which the record is in a
later round has opened that one. -/
def Step.opening? (now : Int) (found found' : Option Scheme) :
    Step → Option Opening
  | .scheme (.establish _) =>
      if found.isNone then found'.map fun s' => ⟨now, s'.currentRound⟩ else none
  | .scheme (.contribute _ _) | .scheme (.closeRound _) => do
      let s ← found
      let s' ← found'
      if s.currentRound < s'.currentRound
        then some ⟨now, s'.currentRound⟩ else none
  | _ => none

/-- The openings of rounds during some moves. -/
def openings (custody key : Text) : Memory → List Move → List Opening :=
  notes custody key fun m mv =>
    (mv.step.opening? mv.now (m.schemes.get? key)
      ((m.step custody key mv.now mv.step).2.schemes.get? key)).toList

/-- A step that leaves the round as it is opens none. -/
theorem Step.opening?_of_same (now : Int) (st : Step)
    (hs : s'.currentRound = s.currentRound) :
    st.opening? now (some s) (some s') = none := by
  unfold opening?
  split
  · rfl
  · exact if_neg (by omega)
  · exact if_neg (by omega)
  · rfl

/-- The record `s'` after a step is in a round that the step opens, with a
deadline that counts from the step, or it is in the round it was in, with the
deadline it had. -/
def Opens (key : Text) (m : Memory) (now : Int) (st : Step) (s' : Scheme) :
    Prop :=
  (st.opening? now (m.schemes.get? key) (some s') = some ⟨now, s'.currentRound⟩
      ∧ s'.roundDeadline = now + s'.roundDuration)
    ∨ st.opening? now (m.schemes.get? key) (some s') = none
      ∧ ∃ s, m.schemes.get? key = some s ∧ s'.currentRound = s.currentRound
        ∧ s'.roundDeadline = s.roundDeadline
          ∧ s'.roundDuration = s.roundDuration

theorem opens_of_same (hs : m.schemes.get? key = some s)
    (hround : s'.currentRound = s.currentRound)
    (hdeadline : s'.roundDeadline = s.roundDeadline)
    (hduration : s'.roundDuration = s.roundDuration) :
    Opens key m now st s' := by
  refine Or.inr ⟨?_, s, hs, hround, hdeadline, hduration⟩
  rw [hs]
  exact st.opening?_of_same now hround

theorem opens_of_opening {t : Terms} (hnone : m.schemes.get? key = none)
    (hs : t.opening now = .ok s) :
    Opens key m now (.scheme (.establish t)) s := by
  obtain ⟨-, -, hdeadline, -⟩ := Terms.opening_eq_ok hs
  refine Or.inl ⟨?_, hdeadline⟩
  rw [hnone]
  rfl

/-- A closure opens the next round, whether it is told of or not. -/
theorem opens_of_closing {caller : Option Text}
    (hs : m.schemes.get? key = some s)
    (hnext :
      ({ s with defaulters := Rotation.defaulters s.members s.paidMembers } :
      Scheme).advance now = .ok s') : Opens key m now
      (.scheme (.closeRound caller)) s' := by
  obtain ⟨-, -, rfl⟩ := Scheme.advance_eq_ok hnext
  refine Or.inl ⟨?_, rfl⟩
  rw [hs]
  exact if_pos (Int.lt_succ s.currentRound)

theorem Effect.opens (h : Effect custody key m now st a m')
    (hs' : m'.schemes.get? key = some s') : Opens key m now st s' := by
  cases h with
  | refused | looked | told | minted | moved | stranded =>
      exact opens_of_same hs' rfl rfl rfl
  | founded hnone hs =>
      cases (Registry.get?_put_self ..).symm.trans hs'
      exact opens_of_opening hnone hs
  | paid hs haccept hopen hl =>
      cases (Registry.get?_put_self ..).symm.trans hs'
      exact opens_of_same hs rfl rfl rfl
  | @completed c s next payer l l' hs haccept hlast hnext hl hl' =>
      cases (Registry.get?_put_self ..).symm.trans hs'
      obtain ⟨-, -, rfl⟩ := Scheme.advance_eq_ok hnext
      refine Or.inl ⟨?_, rfl⟩
      rw [hs]
      exact if_pos (Int.lt_succ s.currentRound)
  | closed hs hdue hnext =>
      cases (Registry.get?_put_self ..).symm.trans hs'
      exact opens_of_closing hs hnext

theorem Lapse.opens (h : Lapse custody key m now st m')
    (hs' : m'.schemes.get? key = some s') :
    Opens key m now st s' := by
  cases h with
  | paid | paidOut => exact opens_of_same hs' rfl rfl rfl
  | founded hnone hs =>
      cases (Registry.get?_put_self ..).symm.trans hs'
      exact opens_of_opening hnone hs
  | closed hs hdue hnext =>
      cases (Registry.get?_put_self ..).symm.trans hs'
      exact opens_of_closing hs hnext

theorem opens_of_step (custody : Text) (hst : st.amends = false)
    (hs' : (m.step custody key now st).2.schemes.get? key = some s') :
    Opens key m now st s' := by
  rcases effect_or_lapse custody key m now hst with heffect | ⟨-, hlapse⟩
  · exact heffect.opens hs'
  · exact hlapse.opens hs'

/-- The current round is the one that opened last, and its deadline counts from
there. -/
theorem opening_of_run (hmoves : ∀ mv ∈ moves, mv.step.amends = false)
    (hs : (after custody key .empty moves).schemes.get? key = some s) :
    ∃ opened, (openings custody key .empty moves).getLast?
      = some ⟨opened, s.currentRound⟩
      ∧ s.roundDeadline = opened + s.roundDuration := by
  induction moves using List.reverseRecOn generalizing s with
  | nil => cases hs
  | append_singleton moves mv ih =>
      rw [after_snoc] at hs
      have hmv :=
        hmoves mv (List.mem_append_right _ (List.mem_singleton_self mv))
      unfold openings at ih ⊢
      rw [notes_snoc, List.getLast?_append, hs]
      rcases opens_of_step custody hmv hs with
        ⟨hopens, hdeadline⟩ | ⟨hnone, s₀, hs₀, hround, hdeadline, hduration⟩
      · rw [hopens]
        exact ⟨mv.now, rfl, hdeadline⟩
      · obtain ⟨opened, hopened, hcounts⟩ :=
          ih (fun mv' hmv' => hmoves mv' (List.mem_append_left _ hmv')) hs₀
        rw [hnone, hopened, hround, hdeadline, hcounts, hduration]
        exact ⟨opened, rfl, rfl⟩

theorem Step.now_of_opening? {found found' : Option Scheme} {o : Opening}
    (h : st.opening? now found found' = some o) : o.now = now := by
  unfold opening? at h
  split at h
  · split at h
    · obtain ⟨s', -, rfl⟩ := Option.map_eq_some_iff.mp h
      rfl
    · cases h
  · obtain ⟨s, -, h⟩ := Option.bind_eq_some_iff.mp h
    obtain ⟨s', -, h⟩ := Option.bind_eq_some_iff.mp h
    split at h <;> cases h
    rfl
  · obtain ⟨s, -, h⟩ := Option.bind_eq_some_iff.mp h
    obtain ⟨s', -, h⟩ := Option.bind_eq_some_iff.mp h
    split at h <;> cases h
    rfl
  · cases h

/-- A round opens at a reading of the clock that was taken. -/
theorem now_of_mem_openings {o : Opening}
    (ho : o ∈ openings custody key m moves) :
    ∃ mv ∈ moves, o.now = mv.now := by
  obtain ⟨mv, hmv, m', ho⟩ := Course.exists_of_mem_notes ho
  exact ⟨mv, hmv, Step.now_of_opening? (Option.mem_toList.mp ho)⟩

-- ====================================================================== payers

/-- Whom a step takes as a payer into the round `r` by what it answers, if that
is the current round. -/
def Step.payer? (r : Int) (found : Option Scheme) :
    Step → Except Failure Answer → Option Text
  | .scheme (.contribute _ c), .ok _ =>
      found.bind fun s => if s.currentRound = r then some c else none
  | _, _ => none

/-- Who was taken as a payer into the round `r` during some moves, in order of
payment. -/
def payers (custody key : Text) (r : Int) : Memory → List Move → List Text :=
  notes custody key fun m mv =>
    (mv.step.payer? r (m.schemes.get? key)
      (m.step custody key mv.now mv.step).1).toList

theorem payers_cons (r : Int) (mv : Move) :
    payers custody key r m (mv :: moves)
      = (mv.step.payer? r (m.schemes.get? key)
        (m.step custody key mv.now mv.step).1).toList
        ++ payers custody key r (m.step custody key mv.now mv.step).2 moves :=
          rfl

/-- Who has paid into the round `r` by the record, as long as it is the current
round. -/
def paidInto (key : Text) (r : Int) (m : Memory) : List Text :=
  match m.schemes.get? key with
  | none => []
  | some s => if s.currentRound = r then s.paidMembers else []

variable {r : Int} {found : Option Scheme} {c : Text}

theorem paidInto_eq (hs : m.schemes.get? key = some s) (r : Int) :
    paidInto key r m = if s.currentRound = r then s.paidMembers else [] := by
  unfold paidInto
  rw [hs]

/-- Only a contribution to the round that succeeds makes somebody a payer. -/
theorem Step.payer?_eq_some (h : st.payer? r found a = some c) :
    ∃ caller b s, st = .scheme (.contribute caller c) ∧ a = .ok b
      ∧ found = some s
      ∧ s.currentRound = r := by
  unfold payer? at h
  split at h
  · obtain ⟨s, hs, hc⟩ := Option.bind_eq_some_iff.mp h
    split at hc
    case isTrue hr =>
      cases hc
      exact ⟨_, _, s, rfl, rfl, hs, hr⟩
    case isFalse => cases hc
  · cases h

theorem Step.payer?_error (r : Int) (found : Option Scheme) (st : Step)
    (f : Failure) :
    st.payer? r found (.error f) = none := by
  unfold payer?
  split
  · next h => cases h
  · rfl

theorem Step.payer?_of_isReading {op : Operation} (hop : op.isReading = true) :
    (Step.scheme op).payer? r found a = none := by
  cases op with
  | establish t => cases hop
  | contribute caller c => cases hop
  | closeRound caller => cases hop
  | getState | getScheme | getDefaulters => rfl

/-- Where nobody is taken as a payer and the record stays, the payers stay. -/
theorem paidInto_of_same (hsame : m'.schemes = m.schemes)
    (hnone : st.payer? r (m.schemes.get? key) a = none) :
    paidInto key r m' = paidInto key r m
      ++ (st.payer? r (m.schemes.get? key) a).toList := by
  rw [hnone, Option.toList_none, List.append_nil]
  unfold paidInto
  rw [hsame]

/-- Where a round opens nobody has paid into it, and nobody had paid before. -/
theorem paidInto_of_opening (hs : m.schemes.get? key = some s)
    (hs' : m'.schemes.get? key = some s') (hnobody : s'.paidMembers = [])
    (hr : s.currentRound ≠ r) :
    paidInto key r m' = paidInto key r m
      ++ (st.payer? r (m.schemes.get? key) a).toList := by
  have hnone : st.payer? r (m.schemes.get? key) a = none := by
    cases hc : st.payer? r (m.schemes.get? key) a with
    | none => rfl
    | some c =>
        obtain ⟨-, -, s₀, -, -, hs₀, hr₀⟩ := Step.payer?_eq_some hc
        cases hs.symm.trans hs₀
        exact absurd hr₀ hr
  rw [paidInto_eq hs', paidInto_eq hs, hnobody, ite_self, if_neg hr, hnone]
  rfl

/-- Where a scheme begins nobody has paid. -/
theorem paidInto_of_founding {t : Terms} (hnone : m.schemes.get? key = none)
    (hs : t.opening now = .ok s) (hs' : m'.schemes.get? key = some s) :
    paidInto key r m' = paidInto key r m
      ++ ((Step.scheme (.establish t)).payer? r (m.schemes.get? key)
        a).toList := by
  obtain ⟨-, -, -, -, -, hpaid, -⟩ := Terms.opening_eq_ok hs
  rw [paidInto_eq hs', hpaid, ite_self]
  unfold paidInto
  rw [hnone]
  rfl

/-- As long as a round has not been left, a step adds to its payers whom it
takes as one. -/
theorem Effect.paidInto (h : Effect custody key m now st a m')
    (hle : ∀ s', m'.schemes.get? key = some s' → s'.currentRound ≤ r) :
    paidInto key r m' = paidInto key r m
      ++ (st.payer? r (m.schemes.get? key) a).toList := by
  cases h with
  | refused => exact paidInto_of_same rfl (Step.payer?_error ..)
  | looked hop ha => exact paidInto_of_same rfl (Step.payer?_of_isReading hop)
  | told | minted | moved => exact paidInto_of_same rfl rfl
  | stranded => exact paidInto_of_same rfl (Step.payer?_error ..)
  | founded hnone hs =>
      exact paidInto_of_founding hnone hs (Registry.get?_put_self ..)
  | @paid c s payer l hs haccept hopen hl =>
      rw [paidInto_eq (Registry.get?_put_self ..), paidInto_eq hs, hs]
      show (if s.currentRound = r then s.paidMembers ++ [c] else [])
        = _ ++ (if s.currentRound = r then some c else none).toList
      split <;> rfl
  | completed hs haccept hlast hnext hl hl' =>
      obtain ⟨-, -, rfl⟩ := Scheme.advance_eq_ok hnext
      refine paidInto_of_opening hs (Registry.get?_put_self ..) rfl
        (Int.ne_of_lt ?_)
      exact Int.lt_of_add_one_le (hle _ (Registry.get?_put_self ..))
  | closed hs hdue hnext =>
      obtain ⟨-, -, rfl⟩ := Scheme.advance_eq_ok hnext
      refine paidInto_of_opening hs (Registry.get?_put_self ..) rfl
        (Int.ne_of_lt ?_)
      exact Int.lt_of_add_one_le (hle _ (Registry.get?_put_self ..))

/-- A step that lapses takes nobody as a payer. -/
theorem Lapse.paidInto (h : Lapse custody key m now st m')
    (hle : ∀ s', m'.schemes.get? key = some s' → s'.currentRound ≤ r)
    (f : Failure) :
    paidInto key r m'
      = paidInto key r m
        ++ (st.payer? r (m.schemes.get? key) (.error f)).toList := by
  cases h with
  | paid | paidOut => exact paidInto_of_same rfl (Step.payer?_error ..)
  | founded hnone hs =>
      exact paidInto_of_founding hnone hs (Registry.get?_put_self ..)
  | closed hs hdue hnext =>
      obtain ⟨-, -, rfl⟩ := Scheme.advance_eq_ok hnext
      refine paidInto_of_opening hs (Registry.get?_put_self ..) rfl
        (Int.ne_of_lt ?_)
      exact Int.lt_of_add_one_le (hle _ (Registry.get?_put_self ..))

theorem paidInto_of_step (custody : Text) (hst : st.amends = false)
    (hle : ∀ s', (m.step custody key now st).2.schemes.get? key = some s' →
      s'.currentRound ≤ r) :
    paidInto key r (m.step custody key now st).2
      = paidInto key r m
        ++ (st.payer? r (m.schemes.get? key)
          (m.step custody key now st).1).toList := by
  rcases effect_or_lapse custody key m now hst with heffect | ⟨hfailed, hlapse⟩
  · exact heffect.paidInto hle
  · rw [hfailed]
    exact hlapse.paidInto hle .unspeakable

/-- The record names those who were taken as payers into the current round, and
no others. -/
theorem paidInto_of_run (hmoves : ∀ mv ∈ moves, mv.step.amends = false)
    (hle : ∀ s, (after custody key .empty moves).schemes.get? key = some s →
      s.currentRound ≤ r) :
    paidInto key r (after custody key .empty moves)
      = payers custody key r .empty moves := by
  induction moves using List.reverseRecOn with
  | nil => rfl
  | append_singleton moves mv ih =>
      have hmv :=
        hmoves mv (List.mem_append_right _ (List.mem_singleton_self mv))
      rw [after_snoc] at hle ⊢
      unfold payers at ih ⊢
      rw [notes_snoc, ← ih
        (fun mv' hmv' => hmoves mv' (List.mem_append_left _ hmv'))]
      · exact paidInto_of_step custody hmv hle
      · intro s hs
        obtain ⟨next, hnext, hgoes⟩ := progress_of_step custody mv.now hmv hs
        have hround := hle next hnext
        rcases hgoes.currentRound with hsame | ⟨hone, -⟩ <;> omega

-- =============================================================== late readings

/-- Whoever is taken as a payer into a round is accepted by the record, which is
in that round. -/
theorem accepted_of_payer (custody : Text) (hst : st.amends = false)
    (hs : m.schemes.get? key = some s)
    (hc : st.payer? r (m.schemes.get? key) (m.step custody key now st).1
      = some c) :
    s.currentRound = r ∧ ∃ payer, s.accept c now = .ok payer := by
  obtain ⟨caller, b, s₀, rfl, hb, hs₀, hr⟩ := Step.payer?_eq_some hc
  cases hs.symm.trans hs₀
  refine ⟨hr, ?_⟩
  have heffect := effect_of_ok custody hst hb
  generalize (m.step custody key now (.scheme (.contribute caller c))).2
    = m' at heffect
  cases heffect with
  | looked hop ha => cases hop
  | paid hs' haccept hopen hl =>
      cases hs.symm.trans hs'
      exact ⟨_, haccept⟩
  | completed hs' haccept hlast hnext hl hl' =>
      cases hs.symm.trans hs'
      exact ⟨_, haccept⟩

/-- A round that has been left has no more payers, and neither has one that is
late for good. -/
theorem payers_eq_nil (hs : m.schemes.get? key = some s)
    (hmoves : ∀ mv ∈ moves, mv.step.amends = false)
    (hr : r < s.currentRound ∨ s.currentRound = r
      ∧ ∀ mv ∈ moves, s.roundDeadline < mv.now) :
    payers custody key r m moves = [] := by
  induction moves generalizing m s with
  | nil => rfl
  | cons mv moves ih =>
      have hmem := List.mem_cons_self (a := mv) (l := moves)
      have hst := hmoves mv hmem
      obtain ⟨next, hnext, hgoes⟩ := progress_of_step custody mv.now hst hs
      have hhead : mv.step.payer? r (m.schemes.get? key)
        (m.step custody key mv.now mv.step).1
          = none := by
        cases hc : mv.step.payer? r (m.schemes.get? key)
          (m.step custody key mv.now mv.step).1 with
        | none => rfl
        | some c =>
            obtain ⟨hround, payer, haccept⟩ :=
              accepted_of_payer custody hst hs hc
            have hintime := (Scheme.accept_eq_ok haccept).1
            rcases hr with hleft | ⟨-, hlate⟩
            · omega
            · have := hlate mv hmem
              omega
      have htail := ih hnext
          (fun mv' hmv' => hmoves mv' (List.mem_cons_of_mem mv hmv')) <| by
        rcases hgoes.timing.2 with ⟨hround, hdeadline⟩ | ⟨hround, -⟩
        · rw [hround, hdeadline]
          exact hr.imp_right fun ⟨he, hlate⟩ =>
            ⟨he, fun mv' hmv' => hlate mv' (List.mem_cons_of_mem mv hmv')⟩
        · rw [hround]
          rcases hr with hleft | ⟨he, -⟩ <;> exact Or.inl (by omega)
      rw [payers_cons, hhead, htail]
      rfl

/-- The record names the payers of its round. -/
theorem payers_of_run (hmoves : ∀ mv ∈ moves, mv.step.amends = false)
    (hs : (after custody key .empty moves).schemes.get? key = some s) :
    payers custody key s.currentRound .empty moves = s.paidMembers := by
  rw [← paidInto_of_run hmoves, paidInto_eq hs, if_pos rfl]
  intro s' hs'
  cases hs.symm.trans hs'
  exact Int.le_refl _

/-- The payers of a round that is left are those whom the record named then. -/
theorem payers_of_left {next : Scheme} {mv : Move}
    (hmoves : ∀ mv ∈ moves, mv.step.amends = false)
    (hs : (after custody key .empty moves).schemes.get? key = some s)
    (hnobody : ∀ found b, mv.step.payer? s.currentRound found b = none)
    (hnext : ((after custody key .empty moves).step custody key mv.now
      mv.step).2.schemes.get? key
      = some next)
    (hleft : s.currentRound < next.currentRound)
    (hlater : ∀ mv ∈ later, mv.step.amends = false) :
    payers custody key s.currentRound .empty (moves ++ mv :: later)
      = s.paidMembers := by
  have hsplit : payers custody key s.currentRound .empty (moves ++ mv :: later)
      = payers custody key s.currentRound .empty moves
        ++ payers custody key s.currentRound (after custody key .empty moves)
            (mv :: later) :=
    Course.notes_append
  rw [hsplit, payers_of_run hmoves hs, payers_cons, hnobody,
    payers_eq_nil hnext hlater (Or.inl hleft), Option.toList_none,
    List.append_nil, List.append_nil]

/-- A closure opens the next round after the deadline of the current one, and
enters whoever has not paid as a defaulter. -/
theorem closing_of_step (custody : Text) {caller : Option Text}
    (hs : m.schemes.get? key = some s)
    (hs' : (m.step custody key now
      (.scheme (.closeRound caller))).2.schemes.get? key = some s')
    (hround : s'.currentRound ≠ s.currentRound) :
    s.roundDeadline < now ∧ s' = { s.nextRound now with
      defaulters := Rotation.defaulters s.members s.paidMembers } := by
  have hst : (Step.scheme (.closeRound caller)).amends = false := rfl
  have hends := effect_or_lapse custody key m now hst
  generalize m.step custody key now (.scheme (.closeRound caller))
    = r at hs' hends
  obtain ⟨a, m'⟩ := r
  change m'.schemes.get? key = some s' at hs'
  have hsame : m'.schemes.get? key ≠ m.schemes.get? key := fun hsame => by
    rw [hsame, hs] at hs'
    cases hs'
    exact hround rfl
  have hclosed {s₀ next : Scheme} (hs₀ : m.schemes.get? key = some s₀)
      (hdue : s₀.roundDeadline < now)
      (hnext : ({ s₀ with
        defaulters := Rotation.defaulters s₀.members s₀.paidMembers } :
          Scheme).advance now = .ok next)
      (hput : m'.schemes = m.schemes.put key next) :
      s.roundDeadline < now ∧ s' = { s.nextRound now with
        defaulters := Rotation.defaulters s.members s.paidMembers } := by
    cases hs.symm.trans hs₀
    rw [hput, Registry.get?_put_self] at hs'
    cases hs'
    exact ⟨hdue, (Scheme.advance_eq_ok hnext).2.2⟩
  rcases hends with heffect | ⟨-, hlapse⟩
  · cases heffect with
    | refused | looked => exact absurd rfl hsame
    | closed hs₀ hdue hnext => exact hclosed hs₀ hdue hnext rfl
  · cases hlapse with
    | closed hs₀ hdue hnext => exact hclosed hs₀ hdue hnext rfl

/-- A closure that succeeds opens the next round and answers with what it has
done. -/
theorem closure_of_ok (custody : Text) {caller : Option Text} {b : Answer}
    (hs : m.schemes.get? key = some s)
    (hb : (m.step custody key now (.scheme (.closeRound caller))).1 = .ok b) :
    ∃ s', (m.step custody key now (.scheme (.closeRound caller))).2.schemes.get?
      key = some s'
      ∧ s'.currentRound = s.currentRound + 1
      ∧ b = .closure ⟨s.currentRound, s'.defaulters, s'.state⟩ := by
  have hst : (Step.scheme (.closeRound caller)).amends = false := rfl
  have heffect := effect_of_ok custody hst hb
  generalize (m.step custody key now (.scheme (.closeRound caller))).2
    = m' at heffect ⊢
  cases heffect with
  | looked hop ha => cases hop
  | closed hs₀ hdue hnext =>
      cases hs.symm.trans hs₀
      obtain ⟨-, -, rfl⟩ := Scheme.advance_eq_ok hnext
      exact ⟨_, Registry.get?_put_self .., rfl, rfl⟩

/-- Whatever comes after a closure, whoever is entered as a defaulter is a
member and no payer of the round. -/
theorem defaulters_of_closing {caller : Option Text}
    (hmoves : ∀ mv ∈ moves, mv.step.amends = false)
    (hs : (after custody key .empty moves).schemes.get? key = some s)
    (hnext : ((after custody key .empty moves).step custody key now
        (.scheme (.closeRound caller))).2.schemes.get? key
      = some { s.nextRound now with
        defaulters := Rotation.defaulters s.members s.paidMembers })
    (hlater : ∀ mv ∈ later, mv.step.amends = false) (p : Text) :
    p ∈ Rotation.defaulters s.members s.paidMembers
      ↔ p ∈ s.members ∧ p ∉ payers custody key s.currentRound .empty
        (moves ++ ⟨now, .scheme (.closeRound caller)⟩ :: later) := by
  rw [payers_of_left hmoves hs (fun found b => rfl) hnext
    (Int.lt_succ s.currentRound) hlater]
  unfold Rotation.defaulters
  rw [List.mem_filter, decide_eq_true_iff]

-- ==================================================================== all runs

/-- No reading of the clock is before one that was taken earlier. -/
def InOrder (moves : List Move) : Prop :=
  moves.Pairwise fun earlier later => earlier.now ≤ later.now

/-- No deadline is earlier than the one before where no reading is before the
opening of the round. -/
theorem deadline_le_after {opened : Int} (hs : m.schemes.get? key = some s)
    (hdeadline : s.roundDeadline = opened + s.roundDuration)
    (hlater : ∀ mv ∈ later, mv.step.amends = false)
    (hopened : ∀ mv ∈ later, opened ≤ mv.now) :
    ∃ next, (after custody key m later).schemes.get? key = some next
      ∧ s.roundDeadline ≤ next.roundDeadline := by
  have hkeeps : ∀ mv ∈ later, ∀ s₁ next : Scheme,
      s₁.roundDuration = s.roundDuration ∧ s.roundDeadline ≤ s₁.roundDeadline →
        s₁.Progress mv.now next →
          next.roundDuration = s.roundDuration
          ∧ s.roundDeadline ≤ next.roundDeadline := by
    intro mv hmv s₁ next ⟨hduration, hle⟩ hgoes
    obtain ⟨hkept, hround⟩ := hgoes.timing
    have := hopened mv hmv
    refine ⟨hkept.trans hduration, ?_⟩
    rcases hround with ⟨-, hdeadline'⟩ | ⟨-, hdeadline'⟩ <;> omega
  obtain ⟨-, next, hnext, -, hle⟩ :=
    after_progress custody hs ⟨rfl, Int.le_refl _⟩ hlater hkeeps
  exact ⟨next, hnext, hle⟩

/-- The deadline of the current round is its duration after the reading at which
it opened, which is that of the last step that opened a round. A contribution is
taken no later than the deadline and, if the readings are in order, no earlier
than the opening; a closure takes place later than the deadline, and the next
deadline counts from it. Whatever comes after a closure, its defaulters are the
members who are no payers of the round. Where the readings are in order no later
deadline is an earlier moment, and a round that a reading has found late has no
more payers. -/
theorem timing_of_run (custody key : Text) (moves : List Move) (s : Scheme)
    (hmoves : ∀ mv ∈ moves, mv.step.amends = false)
    (hs : (after custody key .empty moves).schemes.get? key = some s) :
    let m := after custody key .empty moves
    ∃ opened, (openings custody key .empty moves).getLast?
      = some ⟨opened, s.currentRound⟩
      ∧ s.roundDeadline = opened + s.roundDuration
      ∧ (∀ now caller c b,
        (m.step custody key now (.scheme (.contribute caller c))).1 = .ok b →
          now ≤ s.roundDeadline ∧ ((∀ mv ∈ moves, mv.now ≤ now) → opened ≤ now))
      ∧ (∀ now caller,
        let r := m.step custody key now (.scheme (.closeRound caller))
        (∀ b, r.1 = .ok b → ∃ next, r.2.schemes.get? key = some next
            ∧ next.currentRound = s.currentRound + 1
            ∧ b = .closure ⟨s.currentRound, next.defaulters, next.state⟩)
          ∧ ∀ next, r.2.schemes.get? key = some next →
            next.currentRound ≠ s.currentRound →
            s.roundDeadline < now ∧ next.roundDeadline = now + s.roundDuration
              ∧ s.roundDeadline + s.roundDuration < next.roundDeadline
              ∧ ∀ later, (∀ mv ∈ later, mv.step.amends = false) →
                ∀ p, p ∈ next.defaulters
                ↔ p ∈ s.members ∧ p ∉ payers custody key s.currentRound .empty
                  (moves ++ ⟨now, .scheme (.closeRound caller)⟩ :: later))
      ∧ ∀ later, (∀ mv ∈ later, mv.step.amends = false) →
        InOrder (moves ++ later) →
          (∃ next, (after custody key m later).schemes.get? key = some next
            ∧ s.roundDeadline ≤ next.roundDeadline)
          ∧ ∀ late ∈ moves, s.roundDeadline < late.now →
            payers custody key s.currentRound m later = [] := by
  intro m
  obtain ⟨opened, hopened, hdeadline⟩ := opening_of_run hmoves hs
  obtain ⟨opening, hopening, rfl⟩ :=
    now_of_mem_openings (List.mem_of_getLast? hopened)
  refine ⟨_, hopened, hdeadline, ?_, ?_, ?_⟩
  · intro now caller c b hb
    have hpays : (Step.scheme (.contribute caller c)).payer? s.currentRound
        (m.schemes.get? key)
        (m.step custody key now (.scheme (.contribute caller c))).1
          = some c := by
      rw [hs, hb]
      exact if_pos rfl
    obtain ⟨-, payer, haccept⟩ := accepted_of_payer custody rfl hs hpays
    refine ⟨(Scheme.accept_eq_ok haccept).1, fun hordered => ?_⟩
    exact hordered opening hopening
  · intro now caller r
    refine ⟨fun b hb => closure_of_ok custody hs hb,
      fun next hnext hround => ?_⟩
    obtain ⟨hdue, rfl⟩ := closing_of_step custody hs hnext hround
    refine ⟨hdue, rfl, Int.add_lt_add_right hdue _, fun later hlater p => ?_⟩
    exact defaulters_of_closing hmoves hs hnext hlater p
  · intro later hlater hordered
    obtain ⟨-, -, hcross⟩ := List.pairwise_append.mp hordered
    refine ⟨deadline_le_after hs hdeadline hlater fun mv hmv => ?_, ?_⟩
    · exact hcross opening hopening mv hmv
    · intro late hlate hpast
      refine payers_eq_nil hs hlater (Or.inr ⟨rfl, fun mv hmv => ?_⟩)
      exact Int.lt_of_lt_of_le hpast (hcross late hlate mv hmv)

/-- A run in which the second round opens early, one of two members pays into it
and the other is late. -/
def lateRun : List Move :=
  [⟨0, .ledger (.mint "usd" "ana" 20)⟩, ⟨0, .ledger (.mint "usd" "bo" 20)⟩,
    ⟨1, .scheme
      (.establish ⟨"ana", ["ana", "bo"], .integer 5, "usd", .integer 100⟩)⟩,
    ⟨2, .scheme (.contribute (some "ana") "ana")⟩,
    ⟨3, .scheme (.contribute (some "bo") "bo")⟩,
    ⟨103, .scheme (.contribute (some "bo") "bo")⟩,
    ⟨104, .scheme (.contribute (some "ana") "ana")⟩]

theorem timing_of_lateRun :
    let m := after "custody" "s" .empty lateRun
    (openings "custody" "s" .empty lateRun).getLast? = some ⟨3, 1⟩
      ∧ payers "custody" "s" 1 m
        [⟨104, .scheme (.contribute (some "ana") "ana")⟩] = []
      ∧ ∀ later, (∀ mv ∈ later, mv.step.amends = false) →
        ("ana" : Text) ∉ payers "custody" "s" 1 .empty
          (lateRun ++ ⟨104, .scheme (.closeRound (some "ana"))⟩ :: later) := by
  have hmoves : ∀ mv ∈ lateRun, mv.step.amends = false := by decide
  have hs : (after "custody" "s" .empty lateRun).schemes.get? "s"
      = some ⟨"ana", ["ana", "bo"], 5, "usd", 100, 103, 1, ["bo"], []⟩ := by
    decide +kernel
  have hclosure : ((after "custody" "s" .empty lateRun).step "custody" "s" 104
      (.scheme (.closeRound (some "ana")))).1
      = .ok (.closure ⟨1, ["ana"], ⟨2, [], 204⟩⟩) := by
    decide +kernel
  obtain ⟨opened, hopened, hdeadline, -, hcloses, hlate⟩ :=
    timing_of_run "custody" "s" lateRun _ hmoves hs
  obtain ⟨hanswers, hcloses⟩ := hcloses 104 (some "ana")
  obtain ⟨next, hnext, hround, hanswer⟩ := hanswers _ hclosure
  obtain ⟨-, -, -, hdefaulters⟩ := hcloses next hnext (by rw [hround]; decide)
  have hthree : opened = 3 := by
    change (103 : Int) = opened + 100 at hdeadline
    omega
  have hana : ("ana" : Text) ∈ next.defaulters := by
    injection hanswer with hanswer
    injection hanswer with _ hnames
    rw [← hnames]
    exact List.mem_singleton_self _
  rw [hthree] at hopened
  refine ⟨hopened, ?_,
    fun later hlater => ((hdefaulters later hlater "ana").mp hana).2⟩
  have hordered : InOrder
      (lateRun ++ [⟨104, .scheme (.contribute (some "ana") "ana")⟩]) := by
    unfold InOrder
    decide
  exact (hlate _ (by decide) hordered).2
    ⟨104, .scheme (.contribute (some "ana") "ana")⟩ (by decide) (by decide)

end Memory

end SavingsClub
