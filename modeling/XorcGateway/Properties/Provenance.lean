/-
# Where the identities of the store come from

Any number of registrations run against one table, in any interleaving and with
any store failures. The invariant is `Rooted`: an id found or stored under an
entry was there from the start, or was drawn by a registration of that very
entry. Everything about provenance follows from it and from what one
registration's calls say about itself.
-/

import XorcGateway.Reference
import XorcGateway.Semantics.Replay

namespace XorcGateway

open Effects Events Rust Program

/-- What a registration has to satisfy to use an entry of the store. -/
structure Registration.MayUse (X : Crates) (reg : Registration) (a i : Uuid) : Prop where
  /-- The request did not come with a device id. -/
  no_deviceId : reg.context.deviceId = none
  appId : X.uuid.parseStr reg.context.appId = some a
  ifa : ∃ text, reg.event.device.ifa = some text ∧ X.uuid.parseStr text = some i
  ifa_ne_nil : i ≠ Uuid.nil
  tracking : reg.event.device.ifaTrackingEnabled = true

theorem Registration.mayUse_iff {X : Crates} {reg : Registration} {a i : Uuid} :
    reg.MayUse X a i ↔ reg.key X = some (a, i) := by
  rw [key_eq_some_iff]
  exact ⟨fun h => ⟨h.1, h.2, h.3, h.4, h.5⟩, fun h => ⟨h.1, h.2.1, h.2.2.1, h.2.2.2.1, h.2.2.2.2⟩⟩

/-- The entry a statement is about. -/
def Query.key : Query → Uuid × Uuid
  | .selectEntityId a i => (a, i)
  | .insertKnownIfa a i _ => (a, i)

/-! ## Drawn ids -/

/-- The UUID an event draws. -/
def drawnId : Event Calls → Option Uuid
  | ⟨.newV4, u⟩ => some u
  | _ => none

/-- The UUIDs drawn in a history, in order. -/
def drawnIds {ι : Type} (history : List (ι × Event Calls)) : List Uuid :=
  history.filterMap fun x => drawnId x.2

/-- No UUID is drawn twice, and none is drawn that the store already had. -/
structure FreshIds {ι : Type} (store : KnownIfas) (history : List (ι × Event Calls)) : Prop where
  nodup : (drawnIds history).Nodup
  unused : ∀ u ∈ drawnIds history, ∀ key, store key ≠ some u

variable {ι : Type} {history : List (ι × Event Calls)}

@[simp]
theorem drawnIds_append (first second : List (ι × Event Calls)) :
    drawnIds (first ++ second) = drawnIds first ++ drawnIds second :=
  List.filterMap_append

@[simp]
theorem drawnIds_map (j : ι) (t : List (Event Calls)) :
    drawnIds (t.map (Prod.mk j)) = t.filterMap drawnId :=
  List.filterMap_map

theorem mem_drawnIds {j : ι} {u : Uuid} (h : (j, (⟨Call.newV4, u⟩ : Event Calls)) ∈ history) :
    u ∈ drawnIds history :=
  List.mem_filterMap.mpr ⟨_, h, rfl⟩

/-- A fresh id was drawn by one thread. -/
theorem FreshIds.thread_unique {store : KnownIfas} (hfresh : FreshIds store history)
    {j j' : ι} {u : Uuid} (hj : (j, (⟨Call.newV4, u⟩ : Event Calls)) ∈ history)
    (hj' : (j', (⟨Call.newV4, u⟩ : Event Calls)) ∈ history) : j = j' :=
  Pool.thread_unique hfresh.nodup hj hj' rfl rfl

/-! ## The invariant -/

variable {X : Crates} {g : Gateway.Globals} {regs : ι → Registration}
  {P Q : Pool Calls ι KnownIfas Registration.Result}

/-- The id was stored under the entry from the start, or drawn by a registration
of that entry. -/
def Rooted (X : Crates) (regs : ι → Registration) (store : KnownIfas)
    (history : List (ι × Event Calls)) (key : Uuid × Uuid) (d : Uuid) : Prop :=
  store key = some d ∨
    ∃ j, (regs j).key X = some key ∧ (j, (⟨Call.newV4, d⟩ : Event Calls)) ∈ history

theorem Rooted.append {store : KnownIfas} {key : Uuid × Uuid} {d : Uuid}
    (h : Rooted X regs store history key d) (later : List (ι × Event Calls)) :
    Rooted X regs store (history ++ later) key d := by
  rcases h with hstore | ⟨j, hkey, hdrawn⟩
  · exact Or.inl hstore
  · exact Or.inr ⟨j, hkey, List.mem_append_left later hdrawn⟩

variable [DecidableEq ι]

/-- Whatever is stored or found under an entry is rooted there. A write carries
on what the same registration found or drew, a lookup what is stored. -/
theorem rooted_of_run (hX : X.DocumentedIds)
    (hthreads : ∀ j, P.threads j = (regs j).program X g)
    (hrun : Pool.Run KnownIfas.world P history Q) :
    (∀ key d, Q.state key = some d → Rooted X regs P.state history key d) ∧
      ∀ j a i answer d,
        (j, (⟨Call.query (.selectEntityId a i), answer⟩ : Event Calls)) ∈ history →
        IfaMatching.foundIn answer = some d → Rooted X regs P.state history (a, i) d := by
  induction hrun with
  | refl => exact ⟨fun key d hstore => Or.inl hstore, by simp⟩
  | @step Q history run j c next answer store waiting allowed ih =>
      obtain ⟨hstored, hfound⟩ := ih
      obtain ⟨hallows, rfl⟩ := allowed
      refine ⟨fun key d hafter => ?_, fun j' a i answer' d hmem hanswer => ?_⟩
      · rcases KnownIfas.after_apply hafter with hbefore | ⟨written, _, hevent⟩
        · exact (hstored key d hbefore).append _
        · have hsteps := (Pool.Run.step run j answer waiting ⟨hallows, rfl⟩).steps j
          rw [Pool.own_append, hevent, hthreads, Pool.own_cons_self] at hsteps
          obtain ⟨lookup, hselect, horigin⟩ := Registration.before_insert hX hsteps
          rcases horigin with hsame | hdrawn
          · have hselected := Pool.mem_own_iff.mp hselect
            exact (hfound j key.1 key.2 lookup d hselected hsame).append _
          · have hkey := Registration.of_select_mem hX hsteps (List.mem_append_left _ hselect)
            exact Or.inr ⟨j, hkey, List.mem_append_left _ (Pool.mem_own_iff.mp hdrawn)⟩
      · rcases List.mem_append.mp hmem with hmem | hmem
        · exact (hfound j' a i answer' d hmem hanswer).append _
        · obtain ⟨rfl, hevent⟩ : j' = j ∧ (⟨Call.query (.selectEntityId a i), answer'⟩ :
              Event Calls) = ⟨c, answer⟩ := by simpa using hmem
          rw [← hevent] at hallows
          exact (hstored (a, i) d (hallows.foundIn hanswer)).append _

/-- The registration is bound to the id: every way it can still end hands it
out. -/
def Bound (X : Crates) (g : Gateway.Globals) (regs : ι → Registration)
    (Q : Pool Calls ι KnownIfas Registration.Result) (j : ι) (d : Uuid) : Prop :=
  ∀ rest r, Runs (Q.threads j) rest r → (regs j).HandsOut X g d r

/-- The id stands under the entry, or a registration of the entry is bound to
it. -/
def IsUsedAt (X : Crates) (g : Gateway.Globals) (regs : ι → Registration)
    (Q : Pool Calls ι KnownIfas Registration.Result) (key : Uuid × Uuid) (d : Uuid) : Prop :=
  Q.state key = some d ∨ ∃ j, (regs j).key X = some key ∧ Bound X g regs Q j d

section

variable (hX : X.DocumentedIds) (hthreads : ∀ j, P.threads j = (regs j).program X g)
  (hrun : Pool.Run KnownIfas.world P history Q)

include hX hthreads hrun

/-- An entry that was not there from the start was written by a registration
that is bound to it. -/
theorem entry_provenance {a i d : Uuid} (hentry : Q.state (a, i) = some d) :
    P.state (a, i) = some d ∨ ∃ j, (regs j).MayUse X a i ∧ Bound X g regs Q j d := by
  have hwritten : P.state (a, i) = some d ∨ ∃ j answer,
      (j, (⟨Call.query (.insertKnownIfa a i d), answer⟩ : Event Calls)) ∈ history := by
    clear hthreads hX
    induction hrun with
    | refl => exact Or.inl hentry
    | @step Q history run j c next answer store waiting allowed ih =>
        obtain ⟨_, rfl⟩ := allowed
        rcases KnownIfas.after_apply hentry with hbefore | ⟨written, _, hevent⟩
        · rcases ih hbefore with hinitial | ⟨j', answer', hmem⟩
          · exact Or.inl hinitial
          · exact Or.inr ⟨j', answer', List.mem_append_left _ hmem⟩
        · exact Or.inr ⟨j, written, by simp [hevent]⟩
  rcases hwritten with hinitial | ⟨j, answer, hmem⟩
  · exact Or.inl hinitial
  · have hsteps := hrun.steps j
    rw [hthreads] at hsteps
    obtain ⟨hkey, hbound⟩ := Registration.of_insert_mem hX hsteps (Pool.mem_own_iff.mpr hmem)
    exact Or.inr ⟨j, Registration.mayUse_iff.mpr hkey, hbound⟩

/-- The id a registration without one of its own is bound to, it has drawn, or
it has read from its own entry when it was stored there. -/
theorem bound_provenance {j : ι} {d : Uuid} (hunknown : (regs j).context.deviceId = none)
    (hbound : Bound X g regs Q j d) :
    (j, (⟨Call.newV4, d⟩ : Event Calls)) ∈ history ∨
      ∃ a i, (regs j).MayUse X a i ∧ ∃ first second answer M,
        history = first ++ (j, ⟨Call.query (.selectEntityId a i), answer⟩) :: second ∧
        Pool.Run KnownIfas.world P first M ∧ M.state (a, i) = some d ∧
        IfaMatching.foundIn answer = some d := by
  have hsteps := hrun.steps j
  rw [hthreads] at hsteps
  rcases Registration.origin_of_handsOut hX hsteps hunknown hbound with hdrawn |
    ⟨a, i, answer, hkey, hselect, hfound⟩
  · exact Or.inl (Pool.mem_own_iff.mp hdrawn)
  · obtain ⟨first, second, rfl⟩ := List.append_of_mem (Pool.mem_own_iff.mp hselect)
    obtain ⟨M, _, hfirst, ⟨hallows, _⟩, _⟩ := hrun.allowed
    exact Or.inr ⟨a, i, Registration.mayUse_iff.mpr hkey, first, second, answer, M, rfl, hfirst,
      hallows.foundIn hfound, hfound⟩

/-- What is used at an entry is rooted there. -/
theorem IsUsedAt.rooted {key : Uuid × Uuid} {d : Uuid} (h : IsUsedAt X g regs Q key d) :
    Rooted X regs P.state history key d := by
  obtain ⟨hstored, hfound⟩ := rooted_of_run hX hthreads hrun
  rcases h with hentry | ⟨j, hkey, hbound⟩
  · exact hstored key d hentry
  · obtain ⟨a, i⟩ := key
    have hunknown := (Registration.mayUse_iff.mpr hkey).no_deviceId
    rcases bound_provenance hX hthreads hrun hunknown hbound with hdrawn |
      ⟨a', i', hmay, first, second, answer, _, hhistory, _, _, hanswer⟩
    · exact Or.inr ⟨j, hkey, hdrawn⟩
    · have hsame : (a', i') = (a, i) :=
        Option.some.inj ((Registration.mayUse_iff.mp hmay).symm.trans hkey)
      rw [← hsame]
      exact hfound j a' i' answer d (by simp [hhistory]) hanswer

/-- With fresh ids, an id is used at two entries only if it stood under both
from the start. -/
theorem no_crossing (hfresh : FreshIds P.state history) {key key' : Uuid × Uuid} {d : Uuid}
    (hne : key ≠ key') (h : IsUsedAt X g regs Q key d) (h' : IsUsedAt X g regs Q key' d) :
    P.state key = some d ∧ P.state key' = some d := by
  rcases h.rooted hX hthreads hrun with hinitial | ⟨j, hkey, hdrawn⟩ <;>
    rcases h'.rooted hX hthreads hrun with hinitial' | ⟨j', hkey', hdrawn'⟩
  · exact ⟨hinitial, hinitial'⟩
  · exact absurd hinitial (hfresh.unused d (mem_drawnIds hdrawn') key)
  · exact absurd hinitial' (hfresh.unused d (mem_drawnIds hdrawn) key')
  · obtain rfl := hfresh.thread_unique hdrawn hdrawn'
    exact absurd (Option.some.inj (hkey.symm.trans hkey')) hne

/-- A registration's statements are about the one entry it may use. -/
theorem query_provenance {j : ι} {statement : Query} {answer : Except QueryError Frame}
    (hmem : (j, (⟨Call.query statement, answer⟩ : Event Calls)) ∈ history) :
    (regs j).MayUse X statement.key.1 statement.key.2 := by
  have hsteps := hrun.steps j
  rw [hthreads] at hsteps
  rw [← Pool.mem_own_iff] at hmem
  apply Registration.mayUse_iff.mpr
  cases statement with
  | selectEntityId a i => exact Registration.of_select_mem hX hsteps hmem
  | insertKnownIfa a i d => exact (Registration.of_insert_mem hX hsteps hmem).1

/-- The provenance of the store, over whole runs. In every state that any number
of registrations reach, in any interleaving and with any store failures: an
entry was there from the start or is the id of a registration that may use it;
a registration's id was drawn by it or read from its own entry; a registration
that may not use an entry sends no statement; and with fresh ids no id gets from
one entry to another. -/
theorem knownIfas_provenance :
    (∀ a i d, Q.state (a, i) = some d →
      P.state (a, i) = some d ∨ ∃ j, (regs j).MayUse X a i ∧ Bound X g regs Q j d) ∧
    (∀ j d, (regs j).context.deviceId = none → Bound X g regs Q j d →
      (j, (⟨Call.newV4, d⟩ : Event Calls)) ∈ history ∨
        ∃ a i, (regs j).MayUse X a i ∧ ∃ first second answer M,
          history = first ++ (j, ⟨Call.query (.selectEntityId a i), answer⟩) :: second ∧
          Pool.Run KnownIfas.world P first M ∧ M.state (a, i) = some d ∧
          IfaMatching.foundIn answer = some d) ∧
    (∀ j statement answer,
      (j, (⟨Call.query statement, answer⟩ : Event Calls)) ∈ history →
        (regs j).MayUse X statement.key.1 statement.key.2) ∧
    (FreshIds P.state history → ∀ key key' d, key ≠ key' →
      IsUsedAt X g regs Q key d → IsUsedAt X g regs Q key' d →
        P.state key = some d ∧ P.state key' = some d) :=
  ⟨fun _ _ _ hentry => entry_provenance hX hthreads hrun hentry,
    fun _ _ hunknown hbound => bound_provenance hX hthreads hrun hunknown hbound,
    fun _ _ _ hmem => query_provenance hX hthreads hrun hmem,
    fun hfresh _ _ _ hne h h' => no_crossing hX hthreads hrun hfresh hne h h'⟩

end

/-- The run of a registration over an empty entry, with the UUID it draws. -/
def Reference.registeredWith (reg : Registration) (u : Uuid) :
    List (Event Calls) × Outcome Registration.Result :=
  (reg.program crates globals).exec (workingWith u).reply

theorem Reference.runs_registeredWith (reg : Registration) (u : Uuid) :
    Runs (reg.program crates globals) (registeredWith reg u).1 (registeredWith reg u).2 :=
  runs_exec _ _

theorem Reference.evolves_registeredWith {reg : Registration} {a i : Uuid}
    (hkey : reg.key crates = some (a, i)) {store : KnownIfas} (hentry : store (a, i) = none)
    (u : Uuid) : Evolves KnownIfas.reliableWorld store (registeredWith reg u).1
      (Function.update store (a, i) (some u)) :=
  (Registration.evolves_exec crates_documentedIds hkey (workingWith u) store rfl
    (by rw [hentry]; rfl) (by rw [hentry]; rfl) ⟨_, rfl⟩).1

/-- The registrations of two devices. -/
def Reference.devices : Bool → Registration
  | false => registering
  | true => registeringOther

/-- Over an empty table each of them leaves its own id behind, and neither comes to
use the other's. -/
theorem registering_leaves_own_ids : ∃ history Q,
    Pool.Run KnownIfas.world ⟨fun _ => none, fun j =>
      (Reference.devices j).program Reference.crates Reference.globals⟩ history Q ∧
    Q.state (Reference.appUuid, Reference.ifaUuid) = some 1 ∧
    Q.state (Reference.appUuid, Reference.otherIfaUuid) = some 2 ∧
    (∃ j, Bound Reference.crates Reference.globals Reference.devices Q j 1) ∧
    (∃ j, Bound Reference.crates Reference.globals Reference.devices Q j 2) ∧
    ∀ d, ¬ (IsUsedAt Reference.crates Reference.globals Reference.devices Q
        (Reference.appUuid, Reference.ifaUuid) d ∧
      IsUsedAt Reference.crates Reference.globals Reference.devices Q
        (Reference.appUuid, Reference.otherIfaUuid) d) := by
  have hne : (Reference.appUuid, Reference.ifaUuid) ≠
      (Reference.appUuid, Reference.otherIfaUuid) := by decide
  let empty : KnownIfas := fun _ => none
  let one : KnownIfas := Function.update empty (Reference.appUuid, Reference.ifaUuid) (some 1)
  let both : KnownIfas :=
    Function.update one (Reference.appUuid, Reference.otherIfaUuid) (some 2)
  have hfirst : Evolves KnownIfas.reliableWorld empty _ one :=
    Reference.evolves_registeredWith Reference.registering_key rfl 1
  have hsecond : Evolves KnownIfas.reliableWorld one _ both :=
    Reference.evolves_registeredWith Reference.registeringOther_key
      (Function.update_of_ne hne.symm ..) 2
  have hdrawn : (Reference.registeredWith Reference.registering 1).1.filterMap drawnId = [1] := by
    decide +kernel
  have hdrawn' : (Reference.registeredWith Reference.registeringOther 2).1.filterMap drawnId =
      [2] := by decide +kernel
  have hrun : Pool.Run KnownIfas.reliableWorld ⟨empty, fun j =>
      (Reference.devices j).program Reference.crates Reference.globals⟩ _ ⟨both, _⟩ :=
    Pool.run_two_threads (show true ≠ false by decide)
      (Reference.runs_registeredWith Reference.registering 1)
      (Reference.runs_registeredWith Reference.registeringOther 2) hfirst hsecond
  have hworld := hrun.mono KnownIfas.world_of_reliable
  have hfresh : FreshIds empty
      ((Reference.registeredWith Reference.registering 1).1.map (Prod.mk false) ++
        (Reference.registeredWith Reference.registeringOther 2).1.map (Prod.mk true)) := by
    refine ⟨?_, fun _ _ _ => nofun⟩
    rw [drawnIds_append, drawnIds_map, drawnIds_map, hdrawn, hdrawn']
    decide
  obtain ⟨hentries, _, _, hapart⟩ :=
    knownIfas_provenance Reference.crates_documentedIds (fun _ => rfl) hworld
  have hstored : both (Reference.appUuid, Reference.ifaUuid) = some 1 :=
    (Function.update_of_ne hne ..).trans (Function.update_self ..)
  have hstored' : both (Reference.appUuid, Reference.otherIfaUuid) = some 2 :=
    Function.update_self ..
  refine ⟨_, _, hworld, hstored, hstored', ?_, ?_, fun d hused => ?_⟩
  · rcases hentries Reference.appUuid Reference.ifaUuid 1 hstored with hinitial | ⟨j, _, hbound⟩
    · cases hinitial
    · exact ⟨j, hbound⟩
  · rcases hentries Reference.appUuid Reference.otherIfaUuid 2 hstored' with
      hinitial | ⟨j, _, hbound⟩
    · cases hinitial
    · exact ⟨j, hbound⟩
  · cases (hapart hfresh _ _ d hne hused.1 hused.2).1

end XorcGateway
