/-
# How many ids a device gets

A registration looks its entry up and writes it later. As long as the
registrations of one device do not overlap between the two, they are claims on a
directory: a device has one id, whoever registers it and how often. Where they
overlap, every registration whose lookup gave nothing adds an id.
-/

import XorcGateway.Abstract.Directory
import XorcGateway.Properties.StoreWrites

namespace XorcGateway

open Abstract Effects Events Rust Program

namespace Registration

variable {X : Crates} {g : Gateway.Globals} {reg : Registration}

/-- Behind a write stands one lookup, which found what is written or nothing, and
no other write. -/
theorem lookup_of_insert (hX : X.DocumentedIds) {t : List (Event Calls)} {p : Request Result}
    {a i d : Uuid} {written : Except QueryError Frame}
    (h : Steps (reg.program X g) (t ++ [⟨Call.query (.insertKnownIfa a i d), written⟩]) p) :
    reg.key X = some (a, i) ∧
    (∃ answer, (⟨Call.query (.selectEntityId a i), answer⟩ : Event Calls) ∈ t ∧
      (IfaMatching.foundIn answer = some d ∨ IfaMatching.foundIn answer = none)) ∧
    ∀ a' i' d' written',
      (⟨Call.query (.insertKnownIfa a' i' d'), written'⟩ : Event Calls) ∉ t := by
  have hkey : reg.key X = some (a, i) :=
    (of_insert_mem hX h (List.mem_append_right t (List.mem_singleton_self _))).1
  obtain ⟨rest, r, _, hruns⟩ := h.exists_runs
  rw [List.append_assoc, List.singleton_append] at hruns
  rcases runs_of_key hX hkey hruns with ⟨e, htrace⟩ |
    ⟨u, answer, written', before, after, htrace, horigin, hquiet, _⟩
  · rcases List.append_eq_singleton_iff.mp htrace with ⟨_, hlast⟩ | ⟨_, hlast⟩
    · cases congrArg Event.call (List.cons.inj hlast).1
    · cases hlast
  · have hinsert : (⟨Call.query (.insertKnownIfa a i d), written⟩ : Event Calls) =
        ⟨Call.query (.insertKnownIfa a i u), written'⟩ := by
      have hmem : (⟨Call.query (.insertKnownIfa a i d), written⟩ : Event Calls) ∈
          t ++ ⟨Call.query (.insertKnownIfa a i d), written⟩ :: rest :=
        List.mem_append_right t List.mem_cons_self
      rw [htrace, query_mem_iff (by simp) hquiet] at hmem
      rcases hmem with hselect | hinsert
      · cases congrArg Event.call hselect
      · exact hinsert
    obtain rfl : d = u := by
      cases congrArg Event.call hinsert
      rfl
    rw [← hinsert] at htrace
    -- the run has one write, so what stands in front of it is what the run did so far
    have hfront : (⟨Call.query (.insertKnownIfa a i d), written⟩ : Event Calls) ∉
        ⟨Call.blocking, .ok ()⟩ :: ⟨Call.query (.selectEntityId a i), answer⟩ :: before := by
      intro hmem
      simp only [List.mem_cons, Event.mk.injEq, Call.query.injEq, reduceCtorEq, false_and,
        false_or] at hmem
      exact hquiet _ (List.mem_append_left after hmem) _ rfl
    have hback : (⟨Call.query (.insertKnownIfa a i d), written⟩ : Event Calls) ∉ after :=
      fun hmem => hquiet _ (List.mem_append_right before hmem) _ rfl
    obtain ⟨rfl, _, _⟩ := (List.append_cons_inj_of_notMem hfront hback).mp htrace.symm
    refine ⟨hkey, ⟨answer, by simp, ?_⟩, fun a' i' d' written'' hmem => ?_⟩
    · exact horigin.imp And.left And.left
    · simp only [List.mem_cons, Event.mk.injEq, Call.query.injEq, reduceCtorEq, false_and,
        false_or] at hmem
      exact hquiet _ (List.mem_append_left after hmem) _ rfl

end Registration

/-! ## Registrations that do not overlap -/

/-- The entry a statement writes, with its value. -/
def writtenEntry : Event Calls → Option ((Uuid × Uuid) × Uuid)
  | ⟨.query (.insertKnownIfa a i d), _⟩ => some ((a, i), d)
  | _ => none

section

variable {ι : Type}

/-- The writes of a history, in order. -/
def writtenEntries (history : List (ι × Event Calls)) : List ((Uuid × Uuid) × Uuid) :=
  history.filterMap fun x => writtenEntry x.2

/-- The registration has written. -/
def HasWritten (history : List (ι × Event Calls)) (j : ι) : Prop :=
  ∃ a i d written, (j, (⟨Call.query (.insertKnownIfa a i d), written⟩ : Event Calls)) ∈ history

/-- The registration has looked its entry up and not written yet. -/
def IsBetween (history : List (ι × Event Calls)) (j : ι) : Prop :=
  (∃ a i answer, (j, (⟨Call.query (.selectEntityId a i), answer⟩ : Event Calls)) ∈ history) ∧
    ¬ HasWritten history j

/-- At no time are two registrations of one entry between lookup and write. -/
def NeverOverlap (X : Crates) (regs : ι → Registration) (history : List (ι × Event Calls)) :
    Prop :=
  ∀ first, first <+: history → ∀ j j' key, (regs j).key X = some key →
    (regs j').key X = some key → IsBetween first j → IsBetween first j' → j = j'

theorem mem_writtenEntries {history : List (ι × Event Calls)} {j : ι} {a i d : Uuid}
    {written : Except QueryError Frame}
    (h : (j, (⟨Call.query (.insertKnownIfa a i d), written⟩ : Event Calls)) ∈ history) :
    ((a, i), d) ∈ writtenEntries history :=
  List.mem_filterMap.mpr ⟨_, h, rfl⟩

variable [DecidableEq ι] {X : Crates} {g : Gateway.Globals} {regs : ι → Registration}
  {P Q : Pool Calls ι KnownIfas Registration.Result} {history : List (ι × Event Calls)}

/-- What a registration has found stays as it is until the registration writes it
back. -/
def FoundStays (history : List (ι × Event Calls))
    (Q : Pool Calls ι KnownIfas Registration.Result) : Prop :=
  ∀ j a i answer, (j, (⟨Call.query (.selectEntityId a i), answer⟩ : Event Calls)) ∈ history →
    ¬ HasWritten history j → IfaMatching.foundIn answer = Q.state (a, i)

omit [DecidableEq ι] in
theorem HasWritten.append {j : ι} (h : HasWritten history j) (later : List (ι × Event Calls)) :
    HasWritten (history ++ later) j := by
  obtain ⟨a, i, d, written, hmem⟩ := h
  exact ⟨a, i, d, written, List.mem_append_left later hmem⟩

/-- A write is a claim: nobody else has written the entry since it was looked
up. -/
theorem claim_of_insert (hX : X.DocumentedIds) {j : ι} {a i d : Uuid}
    {written : Except QueryError Frame}
    (hstays : FoundStays history Q) {p : Request Registration.Result}
    (hsteps : Steps ((regs j).program X g)
      (Pool.own j history ++ [⟨Call.query (.insertKnownIfa a i d), written⟩]) p) :
    IsBetween history j ∧
      Directory.Claim Q.state (a, i) d (Function.update Q.state (a, i) (some d)) := by
  obtain ⟨_, ⟨answer, hselect, hlookup⟩, hfirst⟩ := Registration.lookup_of_insert hX hsteps
  have hselected := Pool.mem_own_iff.mp hselect
  have hnot : ¬ HasWritten history j := by
    rintro ⟨a', i', d', written', hmem⟩
    exact hfirst a' i' d' written' (Pool.mem_own_iff.mpr hmem)
  refine ⟨⟨⟨a, i, answer, hselected⟩, hnot⟩, ?_⟩
  have hentry := hstays j a i answer hselected hnot
  rcases hlookup with hfound | hmissed
  · have hsame : Q.state (a, i) = some d := hentry.symm.trans hfound
    rw [← hsame, Function.update_eq_self]
    exact .found hsame
  · exact .settled (hentry.symm.trans hmissed)

/-- Without overlaps the writes of a run are claims. -/
theorem claims_of_run (hX : X.DocumentedIds)
    (hthreads : ∀ j, P.threads j = (regs j).program X g)
    (hrun : Pool.Run KnownIfas.reliableWorld P history Q)
    (hserial : NeverOverlap X regs history) :
    Directory.Claims P.state (writtenEntries history) Q.state ∧ FoundStays history Q := by
  induction hrun with
  | refl => exact ⟨.nil _, by simp [FoundStays]⟩
  | @step Q history run j c next answer store waiting allowed ih =>
      obtain ⟨hclaims, hstays⟩ := ih fun first hfirst =>
        hserial first (hfirst.trans (List.prefix_append _ _))
      have hsteps := (Pool.Run.step run j answer waiting allowed).steps
      obtain ⟨hreliable, rfl⟩ := allowed
      by_cases hinsert : ∃ a i d, c = Call.query (.insertKnownIfa a i d)
      · obtain ⟨a, i, d, rfl⟩ := hinsert
        have hown := hsteps j
        rw [Pool.own_append, Pool.own_cons_self, Pool.own_nil, hthreads] at hown
        obtain ⟨hbetween, hclaim⟩ := claim_of_insert hX hstays hown
        obtain ⟨frame, rfl⟩ := hreliable
        have hafter : Q.state.after ⟨Call.query (.insertKnownIfa a i d), .ok frame⟩ =
            Function.update Q.state (a, i) (some d) := by
          simp [KnownIfas.after, KnownIfas.carriedOut]
        refine ⟨?_, fun j' a' i' answer hmem hnot => ?_⟩
        · simpa [writtenEntries, writtenEntry, hafter] using hclaims.snoc hclaim
        · have hselected : (j', (⟨Call.query (.selectEntityId a' i'), answer⟩ : Event Calls)) ∈
              history := by simpa using hmem
          have hnot' : ¬ HasWritten history j' := fun h => hnot (h.append _)
          have hother : (a', i') ≠ (a, i) := by
            intro hsame
            -- another registration of the entry would be between lookup and write as well
            have hkey := (Registration.lookup_of_insert hX hown).1
            have hkey' := Registration.of_select_mem hX (hthreads j' ▸ run.steps j')
              (Pool.mem_own_iff.mpr hselected)
            obtain rfl := hserial history (List.prefix_append _ _) j j' _ hkey (hsame ▸ hkey')
              hbetween ⟨⟨a', i', answer, hselected⟩, hnot'⟩
            exact hnot ⟨a, i, d, .ok frame, by simp⟩
          have hentry : Q.state.after ⟨Call.query (.insertKnownIfa a i d), .ok frame⟩ (a', i') =
              Q.state (a', i') := by
            rw [hafter, Function.update_of_ne hother]
          exact (hstays j' a' i' answer hselected hnot').trans hentry.symm
      · have hsame : Q.state.after ⟨c, answer⟩ = Q.state := by
          rcases Q.state.after_eq_or ⟨c, answer⟩ with hsame | ⟨a, i, d, _, hevent, _⟩
          · exact hsame
          · exact absurd ⟨a, i, d, congrArg Event.call hevent⟩ hinsert
        have hnone : writtenEntry ⟨c, answer⟩ = none := by
          cases c with
          | query statement =>
              cases statement with
              | insertKnownIfa a i d => exact absurd ⟨a, i, d, rfl⟩ hinsert
              | selectEntityId a i => rfl
          | _ => rfl
        refine ⟨by simpa [writtenEntries, hnone, hsame] using hclaims,
          fun j' a i answer' hmem hnot => ?_⟩
        rw [hsame]
        rcases List.mem_append.mp hmem with hmem | hmem
        · exact hstays j' a i answer' hmem fun h => hnot (h.append _)
        · cases List.mem_singleton.mp hmem
          exact hreliable.foundIn

/-- A registration with a key that has ended has written what it hands out. -/
theorem written_of_finished (hX : X.DocumentedIds)
    (hthreads : ∀ j, P.threads j = (regs j).program X g)
    (hrun : Pool.Run KnownIfas.reliableWorld P history Q) {j : ι} {a i : Uuid}
    (hkey : (regs j).key X = some (a, i)) {r : Outcome Registration.Result}
    (hended : Q.threads j = ofOutcome r) :
    ∃ d written, (regs j).HandsOut X g d r ∧
      (j, (⟨Call.query (.insertKnownIfa a i d), written⟩ : Event Calls)) ∈ history := by
  have hruns := hrun.runs hended
  rw [hthreads] at hruns
  rcases Registration.runs_of_key hX hkey hruns with ⟨e, hown⟩ |
    ⟨d, _, written, _, _, hown, _, _, hhands⟩
  · -- the blocking section is not refused in a store without failures
    have hmem : (j, (⟨Call.blocking, .error e⟩ : Event Calls)) ∈ history := by
      rw [← Pool.mem_own_iff, hown]
      exact List.mem_singleton_self _
    obtain ⟨first, second, rfl⟩ := List.append_of_mem hmem
    obtain ⟨_, _, _, ⟨hreliable, _⟩, _⟩ := hrun.allowed
    cases hreliable
  · refine ⟨d, written, hhands, Pool.mem_own_iff.mp ?_⟩
    rw [hown]
    simp

/-- No two entries have one id. -/
def IsInjective (store : KnownIfas) : Prop :=
  ∀ key key' d, store key = some d → store key' = some d → key = key'

/-- Registrations of any devices over a store without failures, in any interleaving
in which no two of one device overlap between lookup and write: their writes are
claims on the directory of devices, and whoever has ended hands out what the
directory has for its device. With fresh ids no two devices come to share one. -/
theorem registrations_are_claims (hX : X.DocumentedIds)
    (hthreads : ∀ j, P.threads j = (regs j).program X g)
    (hrun : Pool.Run KnownIfas.reliableWorld P history Q)
    (hserial : NeverOverlap X regs history) :
    Directory.Claims P.state (writtenEntries history) Q.state ∧
    (∀ j a i r, (regs j).key X = some (a, i) → Q.threads j = ofOutcome r →
      ∃ d, (regs j).HandsOut X g d r ∧ ((a, i), d) ∈ writtenEntries history ∧
        Q.state (a, i) = some d) ∧
    (FreshIds P.state history → IsInjective P.state → IsInjective Q.state) := by
  have hclaims := (claims_of_run hX hthreads hrun hserial).1
  refine ⟨hclaims, fun j a i r hkey hended => ?_, fun hfresh hinjective key key' d h h' => ?_⟩
  · obtain ⟨d, written, hhands, hmem⟩ := written_of_finished hX hthreads hrun hkey hended
    have hclaimed := mem_writtenEntries hmem
    exact ⟨d, hhands, hclaimed, hclaims.entry hclaimed⟩
  · by_contra hne
    obtain ⟨hinitial, hinitial'⟩ := no_crossing hX hthreads
      (hrun.mono KnownIfas.world_of_reliable) hfresh hne (Or.inl h) (Or.inl h')
    exact hne (hinjective key key' d hinitial hinitial')

end

/-- Of two registrations, the second behind the first, only one is between lookup and
write at a time. -/
theorem neverOverlap_in_turn {X : Crates} {regs : Bool → Registration}
    {t t' : List (Event Calls)} (hwritten : HasWritten (t.map (Prod.mk false)) false) :
    NeverOverlap X regs (t.map (Prod.mk false) ++ t'.map (Prod.mk true)) := by
  intro first hfirst j j' key _ _ hj hj'
  rcases List.prefix_or_prefix_of_prefix hfirst (List.prefix_append _ _) with
    hbefore | ⟨later, rfl⟩
  · -- only the first has made a call
    have hown : ∀ k, IsBetween first k → k = false := by
      rintro k ⟨⟨a, i, answer, hmem⟩, _⟩
      obtain ⟨e, _, heq⟩ := List.mem_map.mp (hbefore.subset hmem)
      exact (Prod.mk.inj heq).1.symm
    rw [hown j hj, hown j' hj']
  · -- the first has written
    have hbehind : ∀ k, IsBetween (t.map (Prod.mk false) ++ later) k → k = true := by
      rintro k ⟨_, hnot⟩
      cases k with
      | false => exact absurd (hwritten.append later) hnot
      | true => rfl
    rw [hbehind j hj, hbehind j' hj']

/-- Over an empty table, two registrations of one device, the second behind the first,
hand out the one id the directory has for it. -/
theorem registering_in_turn_claims_one_id : ∃ history Q r r',
    Pool.Run KnownIfas.reliableWorld ⟨fun _ => none, fun _ : Bool =>
      Reference.registering.program Reference.crates Reference.globals⟩ history Q ∧
    Q.threads false = ofOutcome r ∧ Q.threads true = ofOutcome r' ∧ ∃ d,
      Reference.registering.HandsOut Reference.crates Reference.globals d r ∧
      Reference.registering.HandsOut Reference.crates Reference.globals d r' ∧
      ((Reference.appUuid, Reference.ifaUuid), d) ∈ writtenEntries history ∧
      Q.state (Reference.appUuid, Reference.ifaUuid) = some d := by
  have hkey : ∀ _ : Bool, Reference.registering.key Reference.crates =
      some (Reference.appUuid, Reference.ifaUuid) := fun _ => Reference.registering_key
  obtain ⟨t, t', M, Q, hfirst, hsecond, _, _, ⟨r, hended⟩, hfinished⟩ :=
    exists_run_in_turn (g := Reference.globals) Reference.crates_documentedIds hkey 1
  obtain ⟨u, written, _, hinsert⟩ := written_of_finished Reference.crates_documentedIds
    (fun _ => rfl) hfirst (hkey false) hended
  have hrun := hfirst.trans hsecond
  have hclaims := (registrations_are_claims Reference.crates_documentedIds (fun _ => rfl) hrun
    (neverOverlap_in_turn ⟨_, _, u, written, hinsert⟩)).2.1
  obtain ⟨r, hended⟩ := hfinished false
  obtain ⟨r', hended'⟩ := hfinished true
  obtain ⟨d, hhands, hclaimed, hentry⟩ := hclaims false _ _ r (hkey false) hended
  obtain ⟨d', hhands', _, hentry'⟩ := hclaims true _ _ r' (hkey true) hended'
  obtain rfl := Option.some.inj (hentry.symm.trans hentry')
  exact ⟨_, Q, r, r', hrun, hended, hended', d, hhands, hhands', hclaimed, hentry⟩

/-! ## Registrations that do overlap -/

section

variable {ι : Type} [DecidableEq ι] {X : Crates} {g : Gateway.Globals}
  {regs : ι → Registration} {P Q : Pool Calls ι KnownIfas Registration.Result}
  {history : List (ι × Event Calls)} {a i : Uuid}

/-- The ids the registrations have ended with. -/
def handedOut (X : Crates) (g : Gateway.Globals) (regs : ι → Registration)
    (Q : Pool Calls ι KnownIfas Registration.Result) : Set Uuid :=
  {d | ∃ j r, Q.threads j = ofOutcome r ∧ (regs j).HandsOut X g d r}

omit [DecidableEq ι] in
/-- A history is finite, and so are those in it who missed. -/
theorem finite_missed (history : List (ι × Event Calls)) (a i : Uuid) :
    {j | Missed history a i j}.Finite := by
  refine (history.map Prod.fst).finite_toSet.subset fun j hj => ?_
  obtain ⟨_, hmem, _⟩ := hj
  exact List.mem_map_of_mem (f := Prod.fst) hmem

variable (hX : X.DocumentedIds) (hthreads : ∀ j, P.threads j = (regs j).program X g)
  (hkey : ∀ j, (regs j).key X = some (a, i))
  (hrun : Pool.Run KnownIfas.reliableWorld P history Q)
  (hfinished : ∀ j, ∃ r, Q.threads j = ofOutcome r)

include hX hthreads hkey hrun hfinished

/-- Over an entry that is there, everybody ends with it. -/
theorem handedOut_of_entry [Nonempty ι] {d : Uuid} (hentry : P.state (a, i) = some d) :
    handedOut X g regs Q = {d} := by
  have hfound := (rooted_of_run hX hthreads (hrun.mono KnownIfas.world_of_reliable)).2
  have hmissed := not_missed_of_entry (Q := Q) hrun (by simp [hentry] : P.state (a, i) ≠ none)
  have hhands : ∀ j r, Q.threads j = ofOutcome r → (regs j).HandsOut X g d r := by
    intro j r hended
    obtain ⟨u, hhands, _, ⟨_, _, answer, hmem, hanswer⟩ | ⟨hmiss, _⟩⟩ :=
      finished_registration hX hthreads hkey hrun hended
    · rcases hfound j a i answer u hmem hanswer with hinitial | ⟨j', _, hdrawn⟩
      · rwa [Option.some.inj (hentry.symm.trans hinitial)]
      · -- whoever draws an id has missed, and nobody has
        obtain ⟨r', hended'⟩ := hfinished j'
        obtain ⟨_, _, _, ⟨_, hnone, _⟩ | ⟨hmiss, _⟩⟩ :=
          finished_registration hX hthreads hkey hrun hended'
        · exact absurd hdrawn (hnone u)
        · exact absurd hmiss (hmissed j')
    · exact absurd hmiss (hmissed j)
  ext u
  rw [Set.mem_singleton_iff]
  refine ⟨fun hu => ?_, fun hu => ?_⟩
  · obtain ⟨j, r, hended, hu⟩ := hu
    exact hu.unique hX.uuid (hhands j r hended)
  · obtain ⟨j⟩ := ‹Nonempty ι›
    obtain ⟨r, hended⟩ := hfinished j
    exact ⟨j, r, hended, hu ▸ hhands j r hended⟩

/-- Without an entry, the ids handed out are the ids drawn by those who missed. -/
theorem mem_handedOut_iff (hempty : P.state (a, i) = none) {d : Uuid} :
    d ∈ handedOut X g regs Q ↔
      ∃ j, Missed history a i j ∧ (j, (⟨Call.newV4, d⟩ : Event Calls)) ∈ history := by
  have hfound := (rooted_of_run hX hthreads (hrun.mono KnownIfas.world_of_reliable)).2
  have hmissed : ∀ j u, (j, (⟨Call.newV4, u⟩ : Event Calls)) ∈ history →
      Missed history a i j ∧ u ∈ handedOut X g regs Q := by
    intro j u hdrawn
    obtain ⟨r, hended⟩ := hfinished j
    obtain ⟨u', hhands, _, ⟨_, hnone, _⟩ | ⟨hmiss, hiff⟩⟩ :=
      finished_registration hX hthreads hkey hrun hended
    · exact absurd hdrawn (hnone u)
    · obtain rfl := (hiff u).mp hdrawn
      exact ⟨hmiss, j, r, hended, hhands⟩
  refine ⟨fun hd => ?_, fun hd => ?_⟩
  · obtain ⟨j, r, hended, hd⟩ := hd
    obtain ⟨u, hhands, _, ⟨_, _, answer, hmem, hanswer⟩ | ⟨hmiss, hiff⟩⟩ :=
      finished_registration hX hthreads hkey hrun hended
    · obtain rfl := hd.unique hX.uuid hhands
      rcases hfound j a i answer d hmem hanswer with hinitial | ⟨j', _, hdrawn⟩
      · simp [hempty] at hinitial
      · exact ⟨j', (hmissed j' d hdrawn).1, hdrawn⟩
    · exact ⟨j, hmiss, (hiff d).mpr (hd.unique hX.uuid hhands)⟩
  · obtain ⟨j, _, hdrawn⟩ := hd
    exact (hmissed j d hdrawn).2

/-- Any number of registrations of one device over a store without failures, in any
interleaving: once all have ended, and with fresh ids, they have handed out as many
ids as there were lookups that gave nothing, and one where there was none. -/
theorem ncard_handedOut [Nonempty ι] (hfresh : FreshIds P.state history) :
    (handedOut X g regs Q).ncard = max 1 {j | Missed history a i j}.ncard := by
  cases hentry : P.state (a, i) with
  | some d =>
      have hnobody : {j | Missed history a i j} = ∅ :=
        Set.eq_empty_of_forall_notMem fun j hj =>
          not_missed_of_entry (Q := Q) hrun (by simp [hentry]) j hj
      rw [handedOut_of_entry hX hthreads hkey hrun hfinished hentry, hnobody,
        Set.ncard_singleton, Set.ncard_empty, Nat.max_eq_left zero_le_one]
  | none =>
      have hiff := fun d => mem_handedOut_iff hX hthreads hkey hrun hfinished hentry (d := d)
      have hdraws : ∀ j, Missed history a i j →
          ∃ u, ∀ d, (j, (⟨Call.newV4, d⟩ : Event Calls)) ∈ history ↔ d = u := by
        intro j hmiss
        obtain ⟨r, hended⟩ := hfinished j
        obtain ⟨u, _, _, ⟨hhit, _⟩ | ⟨_, hdrawn⟩⟩ :=
          finished_registration hX hthreads hkey hrun hended
        · exact absurd hmiss hhit
        · exact ⟨u, hdrawn⟩
      choose drawn hdrawn using hdraws
      -- everybody who missed has drawn one id, and no id was drawn twice
      have hcount : {j | Missed history a i j}.ncard = (handedOut X g regs Q).ncard := by
        refine Set.ncard_congr drawn (fun j hj => ?_) (fun j j' hj hj' hsame => ?_)
          (fun d hd => ?_)
        · exact (hiff _).mpr ⟨j, hj, (hdrawn j hj _).mpr rfl⟩
        · exact hfresh.thread_unique ((hdrawn j hj _).mpr rfl) ((hdrawn j' hj' _).mpr hsame)
        · obtain ⟨j, hj, hmem⟩ := (hiff d).mp hd
          exact ⟨j, hj, ((hdrawn j hj d).mp hmem).symm⟩
      have hpos : 0 < (handedOut X g regs Q).ncard := by
        obtain ⟨j⟩ := ‹Nonempty ι›
        obtain ⟨r, hended⟩ := hfinished j
        obtain ⟨u, hhands, _, _⟩ := finished_registration hX hthreads hkey hrun hended
        obtain ⟨j', hmiss, _⟩ := (hiff u).mp ⟨j, r, hended, hhands⟩
        rw [← hcount]
        exact (Set.ncard_pos (finite_missed history a i)).mpr ⟨j', hmiss⟩
      rw [hcount, Nat.max_eq_right hpos]

end

/-- Over an empty table, two registrations of one device that overlap make two ids. -/
theorem registering_overlapping_makes_two_ids : ∃ history Q,
    Pool.Run KnownIfas.reliableWorld ⟨fun _ => none, fun _ : Bool =>
      Reference.registering.program Reference.crates Reference.globals⟩ history Q ∧
    (handedOut Reference.crates Reference.globals (fun _ => Reference.registering) Q).ncard = 2 ∧
    {j | Missed history Reference.appUuid Reference.ifaUuid j}.ncard = 2 := by
  have hkey : ∀ _ : Bool, Reference.registering.key Reference.crates =
      some (Reference.appUuid, Reference.ifaUuid) := fun _ => Reference.registering_key
  obtain ⟨before, after, Q, r, r', htrace, hrun, hended, hhands, hended', hhands'⟩ :=
    exists_overlap (g := Reference.globals) Reference.crates_documentedIds hkey 1 2
  have hfinished : ∀ j, ∃ r, Q.threads j = ofOutcome r := by
    intro j
    cases j with
    | false => exact ⟨r, hended⟩
    | true => exact ⟨r', hended'⟩
  have hdrawn : before.filterMap drawnId ++ after.filterMap drawnId = [1] := by
    rw [← List.filterMap_append, ← htrace]
    decide +kernel
  have hdrawn' : ((Reference.registering.program Reference.crates Reference.globals).exec
      (Reference.workingWith 2).reply).1.filterMap drawnId = [2] := by decide +kernel
  generalize ((Reference.registering.program Reference.crates Reference.globals).exec
    (Reference.workingWith 2).reply).1 = t at hrun hdrawn'
  have hfresh : FreshIds (fun _ => none)
      (before.map (Prod.mk false) ++ t.map (Prod.mk true) ++ after.map (Prod.mk false)) := by
    refine ⟨?_, fun _ _ _ => nofun⟩
    simp only [drawnIds_append, drawnIds_map, hdrawn']
    rw [List.append_assoc, List.singleton_append, List.perm_middle.nodup_iff, hdrawn]
    decide
  have hids : handedOut Reference.crates Reference.globals (fun _ => Reference.registering) Q =
      {1, 2} := by
    ext d
    constructor
    · rintro ⟨j, s, hs, hd⟩
      cases j with
      | false =>
          obtain rfl := ofOutcome_inj.mp (hended.symm.trans hs)
          exact Or.inl (hd.unique Reference.uuid_documented hhands)
      | true =>
          obtain rfl := ofOutcome_inj.mp (hended'.symm.trans hs)
          exact Or.inr (hd.unique Reference.uuid_documented hhands')
    · rintro (rfl | rfl)
      · exact ⟨false, r, hended, hhands⟩
      · exact ⟨true, r', hended', hhands'⟩
  have htwo : (handedOut Reference.crates Reference.globals
      (fun _ => Reference.registering) Q).ncard = 2 := by
    rw [hids, Set.ncard_pair (by decide)]
  have hcount := ncard_handedOut Reference.crates_documentedIds (fun _ => rfl) hkey hrun
    hfinished hfresh
  exact ⟨_, Q, hrun, htwo, by omega⟩

/-! ## Entries under failures -/

namespace Registration

variable {X : Crates} {g : Gateway.Globals} {reg : Registration}

/-- A registration looks its entry up once. -/
theorem lookup_unique (hX : X.DocumentedIds) {t : List (Event Calls)} {p : Request Result}
    (h : Steps (reg.program X g) t p) {a i : Uuid} {answer answer' : Except QueryError Frame}
    (hmem : (⟨Call.query (.selectEntityId a i), answer⟩ : Event Calls) ∈ t)
    (hmem' : (⟨Call.query (.selectEntityId a i), answer'⟩ : Event Calls) ∈ t) :
    answer = answer' := by
  obtain ⟨rest, r, _, hruns⟩ := h.exists_runs
  rcases runs_of_key hX (of_select_mem hX h hmem) hruns with ⟨e, htrace⟩ |
    ⟨u, found, written, before, after, htrace, _, hquiet, _⟩
  · have hblocked := htrace ▸ List.mem_append_left rest hmem
    simp at hblocked
  · have hfound : ∀ answer, (⟨Call.query (.selectEntityId a i), answer⟩ : Event Calls) ∈ t →
        answer = found := by
      intro answer hmem
      have hwhole := htrace ▸ List.mem_append_left rest hmem
      rw [query_mem_iff (by simp) hquiet] at hwhole
      simpa using hwhole
    rw [hfound answer hmem, hfound answer' hmem']

end Registration

section

variable {ι : Type} [DecidableEq ι] {X : Crates} {g : Gateway.Globals}
  {regs : ι → Registration} {P Q : Pool Calls ι KnownIfas Registration.Result}
  {history : List (ι × Event Calls)} {a i d : Uuid}

/-- The registration missed the entry and got its write through all the same. -/
def Overwrites (history : List (ι × Event Calls)) (a i : Uuid) (j : ι) : Prop :=
  Missed history a i j ∧ ∃ u written, KnownIfas.carriedOut written = true ∧
    (j, (⟨Call.query (.insertKnownIfa a i u), written⟩ : Event Calls)) ∈ history

omit [DecidableEq ι] in
theorem Overwrites.append {j : ι} (h : Overwrites history a i j)
    (later : List (ι × Event Calls)) : Overwrites (history ++ later) a i j := by
  obtain ⟨⟨answer, hlookup, hnone⟩, u, written, hcarried, hmem⟩ := h
  exact ⟨⟨answer, List.mem_append_left later hlookup, hnone⟩, u, written, hcarried,
    List.mem_append_left later hmem⟩

variable (hX : X.DocumentedIds) (hthreads : ∀ j, P.threads j = (regs j).program X g)
  (hrun : Pool.Run KnownIfas.world P history Q) (hentry : P.state (a, i) = some d)

include hX hthreads hrun hentry

/-- An entry nobody overwrites stays, and nobody finds another id there. -/
theorem entry_of_not_overwrites (hnot : ∀ j, ¬ Overwrites history a i j) :
    Q.state (a, i) = some d ∧ ∀ j answer u,
      (j, (⟨Call.query (.selectEntityId a i), answer⟩ : Event Calls)) ∈ history →
      IfaMatching.foundIn answer = some u → u = d := by
  induction hrun with
  | refl => exact ⟨hentry, by simp⟩
  | @step Q history run j c next answer store waiting allowed ih =>
      obtain ⟨hstays, hfound⟩ := ih fun j' h => hnot j' (h.append _)
      have hsteps := (Pool.Run.step run j answer waiting allowed).steps j
      obtain ⟨hallows, rfl⟩ := allowed
      refine ⟨?_, fun j' answer' u hmem hanswer => ?_⟩
      · rcases Q.state.after_eq_or ⟨c, answer⟩ with hsame | ⟨a', i', u, written, hevent,
          hcarried, hafter⟩
        · exact (congrFun hsame (a, i)).trans hstays
        · simp only [hafter]
          by_cases hkey : (a, i) = (a', i')
          · cases hkey
            rw [Function.update_self]
            rw [Pool.own_append, Pool.own_cons_self, Pool.own_nil, hthreads, hevent] at hsteps
            obtain ⟨_, ⟨lookup, hselect, horigin⟩, _⟩ :=
              Registration.lookup_of_insert hX hsteps
            have hselected := Pool.mem_own_iff.mp hselect
            rcases horigin with hhit | hmissed
            · rw [hfound j lookup u hselected hhit]
            · exact absurd ⟨⟨lookup, List.mem_append_left _ hselected, hmissed⟩, u, written,
                hcarried, by simp [hevent]⟩ (hnot j)
          · rwa [Function.update_of_ne hkey]
      · rcases List.mem_append.mp hmem with hmem | hmem
        · exact hfound j' answer' u hmem hanswer
        · obtain ⟨rfl, hevent⟩ : j' = j ∧ (⟨Call.query (.selectEntityId a i), answer'⟩ :
              Event Calls) = ⟨c, answer⟩ := by simpa using hmem
          rw [← hevent] at hallows
          exact Option.some.inj ((hallows.foundIn hanswer).symm.trans hstays)

/-- With fresh ids, an overwritten entry has lost its id. -/
theorem ne_of_overwrites (hfresh : FreshIds P.state history) {j : ι}
    (h : Overwrites history a i j) : ∃ first M, first <+: history ∧
      Pool.Run KnownIfas.world P first M ∧ M.state (a, i) ≠ some d := by
  obtain ⟨⟨answer, hlookup, hmissed⟩, u, written, hcarried, hmem⟩ := h
  obtain ⟨first, second, rfl⟩ := List.append_of_mem hmem
  have hcut : first ++ (j, ⟨Call.query (.insertKnownIfa a i u), written⟩) :: second =
      (first ++ [(j, ⟨Call.query (.insertKnownIfa a i u), written⟩)]) ++ second := by simp
  rw [hcut] at hrun
  obtain ⟨M, hwrite, _⟩ := hrun.split
  obtain ⟨before, _, _, ⟨_, hafter⟩, hdone⟩ := hwrite.allowed
  have hM : M.state (a, i) = some u := by
    have hevolved := hdone.evolves
    simp only [List.map_nil, Evolves.nil_iff] at hevolved
    rw [hevolved, hafter]
    simp [KnownIfas.after, hcarried]
  refine ⟨_, M, ⟨second, by simp⟩, hwrite, fun hsame => ?_⟩
  -- what the write left behind was drawn, so the entry did not have it before
  have hsteps := hwrite.steps j
  have hwhole := hrun.steps j
  rw [hthreads] at hsteps hwhole
  rw [Pool.own_append, Pool.own_cons_self, Pool.own_nil] at hsteps
  obtain ⟨lookup, hselect, horigin⟩ := Registration.before_insert hX hsteps
  have hlooked : lookup = answer := by
    refine Registration.lookup_unique hX hwhole ?_ (Pool.mem_own_iff.mpr (hcut ▸ hlookup))
    rw [Pool.own_append, Pool.own_append]
    exact List.mem_append_left _ (List.mem_append_left _ hselect)
  rcases horigin with hhit | hdrawn
  · rw [hlooked, hmissed] at hhit
    cases hhit
  · have hunused := hfresh.unused u (mem_drawnIds (List.mem_append_left _
      (Pool.mem_own_iff.mp hdrawn))) (a, i)
    exact hunused (hentry.trans (hsame.symm.trans hM))

/-- Registrations of any devices, in any interleaving and with any store failures.
With fresh ids, an entry is what it was at every time exactly if nobody's write to it
got through after a lookup that gave nothing. Then whoever has ended a registration
of the device was refused its blocking section, hands out the entry, or has missed it
and hands out an id it drew. -/
theorem entry_lasts_iff (hfresh : FreshIds P.state history) :
    ((∀ first M, first <+: history → Pool.Run KnownIfas.world P first M →
        M.state (a, i) = some d) ↔ ∀ j, ¬ Overwrites history a i j) ∧
    ((∀ j, ¬ Overwrites history a i j) → ∀ j r, (regs j).key X = some (a, i) →
      Q.threads j = ofOutcome r →
        (∃ e, Pool.own j history = [⟨Call.blocking, .error e⟩]) ∨
        (regs j).HandsOut X g d r ∨
        (Missed history a i j ∧ ∃ u, (j, (⟨Call.newV4, u⟩ : Event Calls)) ∈ history ∧
          (regs j).HandsOut X g u r)) := by
  refine ⟨⟨fun hlasts j hover => ?_, fun hnot first M hfirst hreached => ?_⟩,
    fun hnot j r hkey hended => ?_⟩
  · obtain ⟨first, M, hfirst, hreached, hlost⟩ :=
      ne_of_overwrites hX hthreads hrun hentry hfresh hover
    exact hlost (hlasts first M hfirst hreached)
  · obtain ⟨later, rfl⟩ := hfirst
    exact (entry_of_not_overwrites hX hthreads hreached hentry
      fun j h => hnot j (h.append later)).1
  · have hruns := hrun.runs hended
    rw [hthreads] at hruns
    have hfound := (entry_of_not_overwrites hX hthreads hrun hentry hnot).2
    rcases Registration.runs_of_key hX hkey hruns with hblocked |
      ⟨u, answer, written, before, after, hown, horigin, _, hhands⟩
    · exact Or.inl hblocked
    · have hselected : (j, (⟨Call.query (.selectEntityId a i), answer⟩ : Event Calls)) ∈
          history := by
        rw [← Pool.mem_own_iff, hown]
        simp
      rcases horigin with ⟨hhit, _⟩ | ⟨hmissed, hdrawn⟩
      · exact Or.inr (Or.inl (hfound j answer u hselected hhit ▸ hhands))
      · exact Or.inr (Or.inr ⟨⟨answer, hselected, hmissed⟩, u,
          Pool.mem_own_iff.mp ((hdrawn u).mpr rfl), hhands⟩)

end

/-- An entry lasts through a registration without a connection, which misses it and
fails to write, and through one that finds it. -/
theorem registering_without_connection_lasts : ∃ history Q u,
    Pool.Run KnownIfas.world ⟨established 7, fun _ : Bool =>
      Reference.registering.program Reference.crates Reference.globals⟩ history Q ∧
    Missed history Reference.appUuid Reference.ifaUuid false ∧
    (false, (⟨Call.query (.insertKnownIfa Reference.appUuid Reference.ifaUuid u),
      .error .noConnection⟩ : Event Calls)) ∈ history ∧
    ¬ Missed history Reference.appUuid Reference.ifaUuid true ∧
    ∀ first M, first <+: history →
      Pool.Run KnownIfas.world ⟨established 7, fun _ : Bool =>
        Reference.registering.program Reference.crates Reference.globals⟩ first M →
      M.state (Reference.appUuid, Reference.ifaUuid) = some 7 := by
  let program := Reference.registering.program Reference.crates Reference.globals
  let unconnected : Replies := { uuid := 1 }
  let finding := { Reference.working with query := fun _ => .ok ⟨some ⟨some [⟨some 7⟩]⟩⟩ }
  have hentry : established 7 (Reference.appUuid, Reference.ifaUuid) = some 7 := by
    simp [established]
  have hfirst : Evolves KnownIfas.world (established 7) (program.exec unconnected.reply).1
      (established 7) :=
    KnownIfas.evolves_unconnected program (fun _ => rfl) _
  obtain ⟨hsecond, _⟩ := Registration.evolves_exec (g := Reference.globals) (u := 7)
    Reference.crates_documentedIds Reference.registering_key finding (established 7) rfl
    (by rw [hentry]; rfl) (by rw [hentry]; rfl) ⟨_, rfl⟩
  obtain ⟨u, hlookup, hinsert⟩ := Registration.statements_of_exec (g := Reference.globals)
    Reference.crates_documentedIds Reference.registering_key unconnected rfl
  have hruns := runs_exec unconnected.reply program
  have hruns' := runs_exec finding.reply program
  have hfails : ∀ statement answer,
      (⟨Call.query statement, answer⟩ : Event Calls) ∈ (program.exec unconnected.reply).1 →
      answer = .error .noConnection := fun _ _ hmem => answer_eq_of_mem_exec hmem
  have hfinds : ∀ statement answer,
      (⟨Call.query statement, answer⟩ : Event Calls) ∈ (program.exec finding.reply).1 →
      answer = .ok ⟨some ⟨some [⟨some 7⟩]⟩⟩ := fun _ _ hmem => answer_eq_of_mem_exec hmem
  have hdrawn : (program.exec unconnected.reply).1.filterMap drawnId = [1] := by decide +kernel
  have hdrawn' : (program.exec finding.reply).1.filterMap drawnId = [] := by decide +kernel
  rw [show Reference.registering.program Reference.crates Reference.globals = program from rfl]
    at hlookup hinsert
  generalize (program.exec unconnected.reply).1 = t at hfirst hruns hfails hdrawn hlookup hinsert
  generalize (program.exec finding.reply).1 = t' at hsecond hruns' hfinds hdrawn'
  have hrun : Pool.Run KnownIfas.world ⟨established 7, fun _ : Bool => program⟩ _ ⟨_, _⟩ :=
    Pool.run_two_threads (show true ≠ false by decide) hruns hruns' hfirst
      (hsecond.mono KnownIfas.world_of_reliable)
  have hfresh : FreshIds (established 7) (t.map (Prod.mk false) ++ t'.map (Prod.mk true)) := by
    constructor
    · rw [drawnIds_append, drawnIds_map, drawnIds_map, hdrawn, hdrawn']
      decide
    · intro u hu key
      rw [drawnIds_append, drawnIds_map, drawnIds_map, hdrawn, hdrawn', List.append_nil,
        List.mem_singleton] at hu
      rw [hu, established, Function.update_apply]
      split <;> decide
  have hfound : ¬ Missed (t.map (Prod.mk false) ++ t'.map (Prod.mk true)) Reference.appUuid
      Reference.ifaUuid true := by
    rintro ⟨answer, hmem, hnone⟩
    rw [hfinds _ answer (by simpa using hmem)] at hnone
    cases hnone
  have hlasts := (entry_lasts_iff (a := Reference.appUuid) (i := Reference.ifaUuid) (d := 7)
    Reference.crates_documentedIds (fun _ => rfl) hrun hentry hfresh).1.mpr fun j hover => by
      cases j with
      | false =>
          obtain ⟨_, u, written, hcarried, hmem⟩ := hover
          rw [hfails _ written (by simpa using hmem)] at hcarried
          cases hcarried
      | true => exact hfound hover.1
  exact ⟨_, _, u, hrun, ⟨_, List.mem_append_left _ (List.mem_map_of_mem hlookup), rfl⟩,
    List.mem_append_left _ (List.mem_map_of_mem hinsert), hfound, hlasts⟩

end XorcGateway
