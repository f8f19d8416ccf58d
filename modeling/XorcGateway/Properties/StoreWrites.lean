/-
# What registrations do to an entry

A registration writes its id back whether it found it or made it, and makes one
whenever its lookup gives nothing, for whatever reason. So an established entry
survives exactly the registrations that find it (or fail to write), and
concurrent registrations of one device agree exactly when at most one of them
looks the entry up before it exists.
-/

import XorcGateway.Properties.Provenance

namespace XorcGateway

open Effects Events Rust Program

/-! ## One registration of an established identity -/

namespace KnownIfas

theorem eq_of_evolves {store store' : KnownIfas} {t : List (Event Calls)}
    (h : Evolves world store t store') (hquiet : ∀ e ∈ t, ∀ statement, e.call ≠ .query statement) :
    store' = store := by
  have hstep : ∀ e ∈ t, ∀ before after, world before e after → before = store →
      after = store := by
    intro e he before after hworld hbefore
    rw [hworld.2, after_of_ne_query (hquiet e he), hbefore]
  exact Evolves.preserves (fun s => s = store) hstep h rfl

/-- A lookup and a write with nothing of the store in between: the lookup is
answered from the table as it was, and the write decides what it becomes. -/
theorem evolves_statements {store store' : KnownIfas} {a i u : Uuid}
    {answer written : Except QueryError Frame} {first : Event Calls}
    {before after : List (Event Calls)}
    (h : Evolves world store (first :: ⟨Call.query (.selectEntityId a i), answer⟩ :: before ++
      ⟨Call.query (.insertKnownIfa a i u), written⟩ :: after) store')
    (hfirst : ∀ statement, first.call ≠ .query statement)
    (hquiet : ∀ e ∈ before ++ after, ∀ statement, e.call ≠ .query statement) :
    store.Reports (a, i) answer ∧
      store' = store.after ⟨Call.query (.insertKnownIfa a i u), written⟩ := by
  rw [List.cons_append, List.cons_append, Evolves.cons_iff] at h
  obtain ⟨_, ⟨_, rfl⟩, h⟩ := h
  rw [after_of_ne_query hfirst, Evolves.cons_iff] at h
  obtain ⟨looked, ⟨hreports, hlooked⟩, h⟩ := h
  rw [show looked = store from hlooked] at h
  obtain ⟨middle, hbefore, h⟩ := Evolves.append_iff.mp h
  have hmiddle : middle = store :=
    eq_of_evolves hbefore fun e he => hquiet e (List.mem_append_left after he)
  obtain ⟨_, ⟨_, rfl⟩, hafter⟩ := Evolves.cons_iff.mp h
  rw [hmiddle] at hafter
  exact ⟨hreports, eq_of_evolves hafter fun e he => hquiet e (List.mem_append_right before he)⟩

end KnownIfas

/-- The statements of a run whose other calls are none. -/
theorem query_mem_iff {first select insert : Event Calls} {before after : List (Event Calls)}
    (hfirst : ∀ statement, first.call ≠ .query statement)
    (hquiet : ∀ e ∈ before ++ after, ∀ statement, e.call ≠ .query statement)
    {statement : Query} {answer : Except QueryError Frame} :
    (⟨Call.query statement, answer⟩ : Event Calls) ∈
        first :: select :: before ++ insert :: after ↔
      ⟨Call.query statement, answer⟩ = select ∨ ⟨Call.query statement, answer⟩ = insert := by
  have hne : (⟨Call.query statement, answer⟩ : Event Calls) ≠ first := by
    intro heq
    exact hfirst statement (by rw [← heq])
  have hnot : (⟨Call.query statement, answer⟩ : Event Calls) ∉ before ++ after :=
    fun hmem => hquiet _ hmem statement rfl
  simp only [List.cons_append, List.mem_cons, List.mem_append] at hnot ⊢
  tauto

section

variable {X : Crates} {g : Gateway.Globals} {reg : Registration} {a i : Uuid}

/-- A registration of an entry that holds `d` leaves the table as it was, but
for that entry, and leaves the entry at `d` exactly when its lookup finds it,
its write is not carried out, or it happens to draw `d` itself. -/
theorem registration_keeps_entry_iff (hX : X.DocumentedIds) (hkey : reg.key X = some (a, i))
    {store store' : KnownIfas} {d : Uuid} (hentry : store (a, i) = some d)
    {t : List (Event Calls)} {r : Outcome Registration.Result}
    (hrun : Runs (reg.program X g) t r) (hworld : Evolves KnownIfas.world store t store') :
    (store' (a, i) = some d ∧ ∀ key, key ≠ (a, i) → store' key = store key) ↔
      (∀ answer, (⟨Call.query (.selectEntityId a i), answer⟩ : Event Calls) ∈ t →
          IfaMatching.foundIn answer ≠ none) ∨
        (∀ u written, (⟨Call.query (.insertKnownIfa a i u), written⟩ : Event Calls) ∈ t →
          KnownIfas.carriedOut written = false) ∨
        (⟨Call.newV4, d⟩ : Event Calls) ∈ t := by
  rcases Registration.runs_of_key hX hkey hrun with ⟨e, rfl⟩ |
    ⟨u, answer, written, before, after, rfl, horigin, hquiet, _⟩
  · -- refused its blocking section, it sends no statement
    have hsame : store' = store := KnownIfas.eq_of_evolves hworld (by simp)
    simp [hsame, hentry]
  · obtain ⟨hreports, rfl⟩ := KnownIfas.evolves_statements hworld (by simp) hquiet
    have hothers : ∀ key, key ≠ (a, i) →
        store.after ⟨Call.query (.insertKnownIfa a i u), written⟩ key = store key := by
      intro key hne
      simp only [KnownIfas.after]
      split
      · exact Function.update_of_ne hne ..
      · rfl
    have hselect : ∀ answer', (⟨Call.query (.selectEntityId a i), answer'⟩ : Event Calls) ∈
        ⟨Call.blocking, .ok ()⟩ :: ⟨Call.query (.selectEntityId a i), answer⟩ :: before ++
          ⟨Call.query (.insertKnownIfa a i u), written⟩ :: after ↔ answer' = answer := by
      intro answer'
      rw [query_mem_iff (by simp) hquiet]
      simp
    have hinsert : ∀ u' written',
        (⟨Call.query (.insertKnownIfa a i u'), written'⟩ : Event Calls) ∈
        ⟨Call.blocking, .ok ()⟩ :: ⟨Call.query (.selectEntityId a i), answer⟩ :: before ++
          ⟨Call.query (.insertKnownIfa a i u), written⟩ :: after ↔
        u' = u ∧ HEq written' written := by
      intro u' written'
      rw [query_mem_iff (by simp) hquiet]
      simp
    have hlost : (∀ u' written',
        (⟨Call.query (.insertKnownIfa a i u'), written'⟩ : Event Calls) ∈
        ⟨Call.blocking, .ok ()⟩ :: ⟨Call.query (.selectEntityId a i), answer⟩ :: before ++
          ⟨Call.query (.insertKnownIfa a i u), written⟩ :: after →
        KnownIfas.carriedOut written' = false) ↔ KnownIfas.carriedOut written = false := by
      refine ⟨fun h => h u written ((hinsert u written).mpr ⟨rfl, HEq.rfl⟩), ?_⟩
      intro hwritten u' written' hmem
      obtain ⟨rfl, hsame⟩ := (hinsert u' written').mp hmem
      exact eq_of_heq hsame ▸ hwritten
    rw [and_iff_left hothers, hlost]
    simp only [hselect, forall_eq]
    cases hcarried : KnownIfas.carriedOut written with
    | false => simp [KnownIfas.after, hcarried, hentry]
    | true =>
        have hafter : store.after ⟨Call.query (.insertKnownIfa a i u), written⟩ (a, i) =
            some u := by
          simp [KnownIfas.after, hcarried]
        rw [hafter]
        rcases horigin with ⟨hfound, hnone⟩ | ⟨hmissed, hdrawn⟩
        · have hsame : u = d := by
            have hstored := hreports.foundIn hfound
            rw [hentry] at hstored
            exact (Option.some.inj hstored).symm
          simp [hfound, hsame]
        · simp only [hmissed, hdrawn, ne_eq, not_true_eq_false, Bool.true_eq_false, false_or,
            Option.some.injEq]
          exact eq_comm

end

/-- A table with one entry, for the reference registration. -/
def established (d : Uuid) : KnownIfas :=
  Function.update (fun _ => none) (Reference.appUuid, Reference.ifaUuid) (some d)

/-- A registration that finds the entry keeps it. -/
theorem registering_keeps_found_entry : ∃ t r store',
    Runs (Reference.registering.program Reference.crates Reference.globals) t r ∧
    Evolves KnownIfas.world (established 7) t store' ∧
    store' (Reference.appUuid, Reference.ifaUuid) = some 7 := by
  let replies := { Reference.working with query := fun _ => .ok ⟨some ⟨some [⟨some 7⟩]⟩⟩ }
  have hentry : established 7 (Reference.appUuid, Reference.ifaUuid) = some 7 := by
    simp [established]
  have hrun := runs_exec replies.reply
    (Reference.registering.program Reference.crates Reference.globals)
  obtain ⟨hevolves, _⟩ := Registration.evolves_exec (g := Reference.globals) (u := 7)
    Reference.crates_documentedIds Reference.registering_key replies (established 7) rfl
    (by rw [hentry]; rfl) (by rw [hentry]; rfl) ⟨_, rfl⟩
  have hworld := hevolves.mono KnownIfas.world_of_reliable
  refine ⟨_, _, _, hrun, hworld, ((registration_keeps_entry_iff Reference.crates_documentedIds
    Reference.registering_key hentry hrun hworld).mpr (Or.inl fun answer hmem => ?_)).1⟩
  rw [answer_eq_of_mem_exec hmem]
  decide

/-- A registration whose lookup fails replaces it. -/
theorem registering_replaces_unread_entry : ∃ t r store',
    Runs (Reference.registering.program Reference.crates Reference.globals) t r ∧
    Evolves KnownIfas.world (established 7) t store' ∧
    established 7 (Reference.appUuid, Reference.ifaUuid) = some 7 ∧
    store' (Reference.appUuid, Reference.ifaUuid) = some 1 := by
  let replies : Replies := {
    uuid := 1
    query := Query.answering (.error (.queryFailed false)) (.ok ⟨some ⟨none⟩⟩) }
  have hreports : (established 7).Reports (Reference.appUuid, Reference.ifaUuid)
      (.error (.queryFailed false)) := trivial
  have hrun := runs_exec replies.reply
    (Reference.registering.program Reference.crates Reference.globals)
  obtain ⟨rest, ht, _, hevolves⟩ := Registration.exec_of_key (g := Reference.globals) (u := 1)
    Reference.crates_documentedIds Reference.registering_key replies rfl rfl ⟨_, rfl⟩
  have hworld := Evolves.append_iff.mpr ⟨established 7, KnownIfas.evolves_lookup _ hreports,
    (hevolves (established 7)).mono KnownIfas.world_of_reliable⟩
  rw [ht] at hrun
  exact ⟨_, _, _, hrun, hworld, by simp [established], by simp⟩

/-! ## Concurrent registrations of one device -/

/-- No call removes an entry. -/
theorem KnownIfas.entry_persists {store store' : KnownIfas} {t : List (Event Calls)}
    (h : Evolves reliableWorld store t store') {key : Uuid × Uuid} (hentry : store key ≠ none) :
    store' key ≠ none := by
  have hstep : ∀ e ∈ t, ∀ before after, reliableWorld before e after → before key ≠ none →
      after key ≠ none := by
    intro e _ before after hworld hbefore
    rw [hworld.2]
    rcases before.after_eq_or e with hsame | ⟨a, i, d, _, _, _, hafter⟩
    · rwa [hsame]
    · rw [hafter]
      by_cases hkey : key = (a, i)
      · simp [hkey]
      · rwa [Function.update_of_ne hkey]
  exact Evolves.preserves (fun s => s key ≠ none) hstep h hentry

section

variable {ι : Type} [DecidableEq ι] {X : Crates} {g : Gateway.Globals}
  {regs : ι → Registration} {P Q : Pool Calls ι KnownIfas Registration.Result}
  {history : List (ι × Event Calls)} {a i : Uuid}

/-- The registration's lookup gave nothing. -/
def Missed (history : List (ι × Event Calls)) (a i : Uuid) (j : ι) : Prop :=
  ∃ answer, (j, (⟨Call.query (.selectEntityId a i), answer⟩ : Event Calls)) ∈ history ∧
    IfaMatching.foundIn answer = none

/-- All registrations have ended with one id, and it is the one stored. -/
def Agree (X : Crates) (g : Gateway.Globals) (regs : ι → Registration)
    (Q : Pool Calls ι KnownIfas Registration.Result) (a i : Uuid) : Prop :=
  ∃ d, (∀ j, ∃ r, Q.threads j = ofOutcome r ∧ (regs j).HandsOut X g d r) ∧
    (Nonempty ι → Q.state (a, i) = some d)

variable (hX : X.DocumentedIds) (hthreads : ∀ j, P.threads j = (regs j).program X g)
  (hkey : ∀ j, (regs j).key X = some (a, i))
  (hrun : Pool.Run KnownIfas.reliableWorld P history Q)

include hrun

/-- An entry that is there from the start is found by every lookup. -/
theorem not_missed_of_entry (hentry : P.state (a, i) ≠ none) (j : ι) :
    ¬ Missed history a i j := by
  intro hmissed
  obtain ⟨answer, hmem, hnone⟩ := hmissed
  obtain ⟨first, second, rfl⟩ := List.append_of_mem hmem
  obtain ⟨M, _, hfirst, ⟨hreliable, _⟩, _⟩ := hrun.allowed
  have hstored := KnownIfas.entry_persists hfirst.evolves hentry
  exact hstored (hreliable.foundIn ▸ hnone)

/-- A write leaves an entry behind for good. -/
theorem entry_of_insert {j : ι} {u : Uuid} {written : Except QueryError Frame}
    (hmem : (j, (⟨Call.query (.insertKnownIfa a i u), written⟩ : Event Calls)) ∈ history) :
    Q.state (a, i) ≠ none := by
  obtain ⟨first, second, rfl⟩ := List.append_of_mem hmem
  obtain ⟨M, after, _, ⟨hreliable, hafter⟩, hsecond⟩ := hrun.allowed
  refine KnownIfas.entry_persists hsecond.evolves ?_
  obtain ⟨frame, rfl⟩ := hreliable
  simp [hafter, KnownIfas.after, KnownIfas.carriedOut]

include hX hthreads hkey

/-- A registration that has ended hands out what it found, or after a miss the
one id it drew, and there is an entry by then. -/
theorem finished_registration {j : ι} {r : Outcome Registration.Result}
    (hended : Q.threads j = ofOutcome r) :
    ∃ u, (regs j).HandsOut X g u r ∧ Q.state (a, i) ≠ none ∧
      ((¬ Missed history a i j ∧ (∀ d, (j, (⟨Call.newV4, d⟩ : Event Calls)) ∉ history) ∧
          ∃ answer, (j, (⟨Call.query (.selectEntityId a i), answer⟩ : Event Calls)) ∈ history ∧
            IfaMatching.foundIn answer = some u) ∨
        (Missed history a i j ∧
          ∀ d, (j, (⟨Call.newV4, d⟩ : Event Calls)) ∈ history ↔ d = u)) := by
  have hruns := hrun.runs hended
  rw [hthreads] at hruns
  rcases Registration.runs_of_key hX (hkey j) hruns with ⟨e, hown⟩ |
    ⟨u, answer, written, before, after, hown, horigin, hquiet, hhands⟩
  · -- the blocking section is not refused in a store without failures
    have hmem : (j, (⟨Call.blocking, .error e⟩ : Event Calls)) ∈ history := by
      rw [← Pool.mem_own_iff, hown]
      exact List.mem_singleton_self _
    obtain ⟨first, second, rfl⟩ := List.append_of_mem hmem
    obtain ⟨_, _, _, ⟨hreliable, _⟩, _⟩ := hrun.allowed
    cases hreliable
  · have hselect : ∀ answer',
        (j, (⟨Call.query (.selectEntityId a i), answer'⟩ : Event Calls)) ∈ history ↔
          answer' = answer := by
      intro answer'
      rw [← Pool.mem_own_iff, hown, query_mem_iff (by simp) hquiet]
      simp
    have hinsert : (j, (⟨Call.query (.insertKnownIfa a i u), written⟩ : Event Calls)) ∈
        history := by
      rw [← Pool.mem_own_iff, hown]
      simp
    refine ⟨u, hhands, entry_of_insert hrun hinsert, ?_⟩
    rcases horigin with ⟨hfound, hnone⟩ | ⟨hmissed, hdrawn⟩
    · refine Or.inl ⟨?_, fun d hmem => hnone d (Pool.mem_own_iff.mpr hmem), answer,
        (hselect answer).mpr rfl, hfound⟩
      intro hmissed
      obtain ⟨answer', hmem, hnone⟩ := hmissed
      rw [(hselect answer').mp hmem, hfound] at hnone
      cases hnone
    · refine Or.inr ⟨⟨answer, (hselect answer).mpr rfl, hmissed⟩, fun d => ?_⟩
      rw [← hdrawn d, Pool.mem_own_iff]

/-- Registrations of one device that have all ended agree when at most one of
them looked the entry up in vain. -/
theorem agree_of_missed_unique (hfinished : ∀ j, ∃ r, Q.threads j = ofOutcome r)
    (hunique : ∀ j j', Missed history a i j → Missed history a i j' → j = j') :
    Agree X g regs Q a i := by
  obtain ⟨hstored, hfound⟩ :=
    rooted_of_run hX hthreads (hrun.mono KnownIfas.world_of_reliable)
  -- whatever is rooted under the entry is the one initial or drawn id
  have hrooted : ∀ d d', Rooted X regs P.state history (a, i) d →
      Rooted X regs P.state history (a, i) d' → d = d' := by
    have hdrawn : ∀ j d, (j, (⟨Call.newV4, d⟩ : Event Calls)) ∈ history →
        Missed history a i j ∧
          ∀ d', (j, (⟨Call.newV4, d'⟩ : Event Calls)) ∈ history → d' = d := by
      intro j d hmem
      obtain ⟨r, hended⟩ := hfinished j
      obtain ⟨u, _, _, ⟨_, hnone, _⟩ | ⟨hmissed, hiff⟩⟩ :=
        finished_registration hX hthreads hkey hrun hended
      · exact absurd hmem (hnone d)
      · refine ⟨hmissed, fun d' hmem' => ?_⟩
        rw [(hiff d').mp hmem', (hiff d).mp hmem]
    intro d d' hd hd'
    rcases hd with hinitial | ⟨j, _, hj⟩ <;> rcases hd' with hinitial' | ⟨j', _, hj'⟩
    · exact Option.some.inj (hinitial.symm.trans hinitial')
    · exact absurd (hdrawn j' d' hj').1 (not_missed_of_entry hrun (by simp [hinitial]) j')
    · exact absurd (hdrawn j d hj).1 (not_missed_of_entry hrun (by simp [hinitial']) j)
    · obtain rfl := hunique j j' (hdrawn j d hj).1 (hdrawn j' d' hj').1
      exact (hdrawn j d' hj').2 d hj
  have hhanded : ∀ j, ∃ r d, Q.threads j = ofOutcome r ∧ (regs j).HandsOut X g d r ∧
      Rooted X regs P.state history (a, i) d ∧ Q.state (a, i) = some d := by
    intro j
    obtain ⟨r, hended⟩ := hfinished j
    obtain ⟨u, hhands, hentry, horigin⟩ := finished_registration hX hthreads hkey hrun hended
    have hu : Rooted X regs P.state history (a, i) u := by
      rcases horigin with ⟨_, _, answer, hmem, hanswer⟩ | ⟨_, hdrawn⟩
      · exact hfound j a i answer u hmem hanswer
      · exact Or.inr ⟨j, hkey j, (hdrawn u).mpr rfl⟩
    obtain ⟨d, hd⟩ := Option.ne_none_iff_exists'.mp hentry
    rw [hrooted u d hu (hstored (a, i) d hd)] at hhands hu
    exact ⟨r, d, hended, hhands, hu, hd⟩
  by_cases hne : Nonempty ι
  · obtain ⟨j₀⟩ := hne
    obtain ⟨_, d, _, _, _, hd⟩ := hhanded j₀
    refine ⟨d, fun j => ?_, fun _ => hd⟩
    obtain ⟨r, d', hended, hhands, _, hd'⟩ := hhanded j
    obtain rfl : d = d' := Option.some.inj (hd.symm.trans hd')
    exact ⟨r, hended, hhands⟩
  · exact ⟨Uuid.nil, fun j => absurd ⟨j⟩ hne, fun h => absurd h hne⟩

/-- With fresh ids, two lookups in vain make two ids. -/
theorem missed_unique_of_agree (hfresh : FreshIds P.state history)
    (hagree : Agree X g regs Q a i) {j j' : ι} (hj : Missed history a i j)
    (hj' : Missed history a i j') : j = j' := by
  obtain ⟨d, hall, _⟩ := hagree
  have hdrawn : ∀ j, Missed history a i j → (j, (⟨Call.newV4, d⟩ : Event Calls)) ∈ history := by
    intro j hmissed
    obtain ⟨r, hended, hhands⟩ := hall j
    obtain ⟨u, hu, _, ⟨hhit, _⟩ | ⟨_, hiff⟩⟩ :=
      finished_registration hX hthreads hkey hrun hended
    · exact absurd hmissed hhit
    · exact (hiff d).mpr (hhands.unique hX.uuid hu)
  exact hfresh.thread_unique (hdrawn j hj) (hdrawn j' hj')

/-- Concurrent registrations of one device, over a store without failures and in
any interleaving. When all have ended they agree if at most one of them looked
the entry up in vain, and with fresh ids only then. -/
theorem registrations_agree_iff (hfinished : ∀ j, ∃ r, Q.threads j = ofOutcome r) :
    ((∀ j j', Missed history a i j → Missed history a i j' → j = j') → Agree X g regs Q a i) ∧
      (FreshIds P.state history → Agree X g regs Q a i →
        ∀ j j', Missed history a i j → Missed history a i j' → j = j') :=
  ⟨agree_of_missed_unique hX hthreads hkey hrun hfinished,
    fun hfresh hagree _ _ => missed_unique_of_agree hX hthreads hkey hrun hfresh hagree⟩

end

/-- Two registrations of one device over an empty table, the second behind the first:
the first finds nothing, and leaves an id behind. -/
theorem exists_run_in_turn {X : Crates} {g : Gateway.Globals} {regs : Bool → Registration}
    (hX : X.DocumentedIds) {a i : Uuid} (hkey : ∀ j, (regs j).key X = some (a, i)) (u : Uuid) :
    ∃ (t t' : List (Event Calls)) (M Q : Pool Calls Bool KnownIfas Registration.Result),
      Pool.Run KnownIfas.reliableWorld ⟨fun _ => none, fun j => (regs j).program X g⟩
        (t.map (Prod.mk false)) M ∧
      Pool.Run KnownIfas.reliableWorld M (t'.map (Prod.mk true)) Q ∧
      Missed (t.map (Prod.mk false)) a i false ∧ M.state (a, i) = some u ∧
      (∃ r, M.threads false = ofOutcome r) ∧ ∀ j, ∃ r, Q.threads j = ofOutcome r := by
  let programs : Bool → Request Registration.Result := fun j => (regs j).program X g
  obtain ⟨t, r, hfirst, ⟨answer, hlookup, hfound⟩, _⟩ := Registration.exists_thread_run (u := u)
    hX (hkey false) programs false rfl (fun _ => none) u rfl
  obtain ⟨t', r', hsecond, _⟩ := Registration.exists_thread_run (u := u) hX (hkey true)
    (Function.update programs false (ofOutcome r)) true rfl
    (Function.update (fun _ => none) (a, i) (some u)) u (by simp)
  refine ⟨t, t', _, _, hfirst, hsecond, ⟨answer, List.mem_map_of_mem hlookup, hfound⟩, by simp,
    ⟨r, rfl⟩, fun j => ?_⟩
  cases j with
  | false => exact ⟨r, rfl⟩
  | true => exact ⟨r', rfl⟩

/-- Only the first of them looks the entry up in vain, and they agree. -/
theorem registering_in_turn_agrees : ∃ history Q,
    Pool.Run KnownIfas.reliableWorld ⟨fun _ => none, fun _ : Bool =>
      Reference.registering.program Reference.crates Reference.globals⟩ history Q ∧
    Missed history Reference.appUuid Reference.ifaUuid false ∧
    ¬ Missed history Reference.appUuid Reference.ifaUuid true ∧
    Agree Reference.crates Reference.globals (fun _ => Reference.registering) Q
      Reference.appUuid Reference.ifaUuid := by
  have hkey : ∀ _ : Bool, Reference.registering.key Reference.crates =
      some (Reference.appUuid, Reference.ifaUuid) := fun _ => Reference.registering_key
  obtain ⟨t, t', M, Q, hfirst, hsecond, ⟨answer, hlookup, hnone⟩, hentry, _, hfinished⟩ :=
    exists_run_in_turn (g := Reference.globals) Reference.crates_documentedIds hkey 1
  have hmissed : Missed (t.map (Prod.mk false) ++ t'.map (Prod.mk true)) Reference.appUuid
      Reference.ifaUuid false := ⟨answer, List.mem_append_left _ hlookup, hnone⟩
  have hfound : ¬ Missed (t.map (Prod.mk false) ++ t'.map (Prod.mk true)) Reference.appUuid
      Reference.ifaUuid true := by
    rintro ⟨answer, hmem, hnone⟩
    exact not_missed_of_entry hsecond (by simp [hentry]) true ⟨answer, by simpa using hmem, hnone⟩
  have hrun := hfirst.trans hsecond
  refine ⟨_, Q, hrun, hmissed, hfound, (registrations_agree_iff Reference.crates_documentedIds
    (fun _ => rfl) hkey hrun hfinished).1 fun j j' hj hj' => ?_⟩
  cases j with
  | true => exact absurd hj hfound
  | false =>
      cases j' with
      | true => exact absurd hj' hfound
      | false => rfl

/-- Two registrations of one device over an empty table, one of which runs from start
to end between the other's lookup and its write: each hands out the id it draws. -/
theorem exists_overlap {X : Crates} {g : Gateway.Globals} {regs : Bool → Registration}
    (hX : X.DocumentedIds) {a i : Uuid} (hkey : ∀ j, (regs j).key X = some (a, i)) (u u' : Uuid) :
    ∃ (before after : List (Event Calls)) (Q : Pool Calls Bool KnownIfas Registration.Result)
      (r r' : Outcome Registration.Result),
      (((regs false).program X g).exec (Reference.workingWith u).reply).1 = before ++ after ∧
      Pool.Run KnownIfas.reliableWorld ⟨fun _ => none, fun j => (regs j).program X g⟩
        (before.map (Prod.mk false) ++
          (((regs true).program X g).exec (Reference.workingWith u').reply).1.map (Prod.mk true) ++
          after.map (Prod.mk false)) Q ∧
      Q.threads false = ofOutcome r ∧ (regs false).HandsOut X g u r ∧
      Q.threads true = ofOutcome r' ∧ (regs true).HandsOut X g u' r' := by
  let programs : Bool → Request Registration.Result := fun j => (regs j).program X g
  obtain ⟨rest, ht, hhands, hevolves⟩ := Registration.exec_of_key (g := g) (u := u) hX
    (hkey false) (Reference.workingWith u) rfl rfl ⟨_, rfl⟩
  have hrun := runs_exec (Reference.workingWith u).reply (programs false)
  rw [ht] at hrun
  obtain ⟨middle, hbefore, hafter⟩ := hrun.split
  have hlookup : Pool.Run KnownIfas.reliableWorld ⟨fun _ => none, programs⟩ _
      ⟨fun _ => none, Function.update programs false middle⟩ :=
    Pool.run_thread hbefore rfl (KnownIfas.evolves_reliable_lookup _ rfl)
  obtain ⟨hworld, _, hhands'⟩ := Registration.evolves_exec (g := g) (u := u') hX (hkey true)
    (Reference.workingWith u') (fun _ => none) rfl rfl rfl ⟨_, rfl⟩
  have hstarting : Function.update programs false middle true = programs true := rfl
  have hbetween := Pool.run_thread (runs_exec (Reference.workingWith u').reply (programs true))
    hstarting hworld
  have hwaiting : Function.update (Function.update programs false middle) true
      (ofOutcome ((programs true).exec (Reference.workingWith u').reply).2) false = middle := rfl
  have hwrite := Pool.run_thread hafter hwaiting
    (hevolves (Function.update (fun _ => none) (a, i) (some u')))
  exact ⟨_, rest, _, _, _, ht, (hlookup.trans hbetween).trans hwrite, rfl, hhands, rfl, hhands'⟩

/-- So with different ids they do not agree. -/
theorem exists_disagreement {X : Crates} {g : Gateway.Globals} {regs : Bool → Registration}
    (hX : X.DocumentedIds) {a i : Uuid} (hkey : ∀ j, (regs j).key X = some (a, i)) {u u' : Uuid}
    (hne : u ≠ u') :
    ∃ history Q, Pool.Run KnownIfas.reliableWorld
        ⟨fun _ => none, fun j => (regs j).program X g⟩ history Q ∧
      (∀ j, ∃ r, Q.threads j = ofOutcome r) ∧ ¬ Agree X g regs Q a i := by
  obtain ⟨before, after, Q, r, r', _, hrun, hended, hhands, hended', hhands'⟩ :=
    exists_overlap (g := g) hX hkey u u'
  refine ⟨_, Q, hrun, fun j => ?_, fun hagree => ?_⟩
  · cases j with
    | false => exact ⟨r, hended⟩
    | true => exact ⟨r', hended'⟩
  · obtain ⟨d, hall, _⟩ := hagree
    obtain ⟨s, hs, hd⟩ := hall false
    obtain ⟨s', hs', hd'⟩ := hall true
    obtain rfl := ofOutcome_inj.mp (hended.symm.trans hs)
    obtain rfl := ofOutcome_inj.mp (hended'.symm.trans hs')
    exact hne ((hhands.unique hX.uuid hd).trans (hhands'.unique hX.uuid hd').symm)

/-- So two registrations of the reference device may disagree. -/
theorem registering_twice_disagrees : ∃ history Q,
    Pool.Run KnownIfas.reliableWorld ⟨fun _ => none, fun _ : Bool =>
      Reference.registering.program Reference.crates Reference.globals⟩ history Q ∧
    (∀ j, ∃ r, Q.threads j = ofOutcome r) ∧
    ¬ Agree Reference.crates Reference.globals (fun _ => Reference.registering) Q
      Reference.appUuid Reference.ifaUuid :=
  exists_disagreement Reference.crates_documentedIds (fun _ => Reference.registering_key)
    (show (1 : Uuid) ≠ 2 by decide)

end XorcGateway
