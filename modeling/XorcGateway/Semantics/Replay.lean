/-
# Registrations played through

The converse of what the runs of a registration look like: whatever the store
replies to its lookup, there is a run of the registration with that reply, and a
table it can be played against. Between the lookup and the write other
registrations may run, so the two halves of such a run are kept apart.
-/

import XorcGateway.Semantics.Store

namespace XorcGateway

open Effects Events Rust Program

namespace KnownIfas

/-- Calls other than statements leave the table alone. -/
theorem after_of_ne_query {store : KnownIfas} {e : Event Calls}
    (h : ∀ statement, e.call ≠ Call.query statement) : store.after e = store := by
  rcases store.after_eq_or e with hsame | ⟨a, i, d, answer, rfl, _⟩
  · exact hsame
  · exact absurd rfl (h _)

/-- Against a table without failures, replies to other calls are possible as
long as the blocking section is not refused. -/
theorem reliableWorld_reply (store : KnownIfas) {replies : Replies}
    (hblocking : replies.blocking = .ok ()) {call : Call}
    (h : ∀ statement, call ≠ Call.query statement) :
    reliableWorld store ⟨call, replies.reply call⟩ store := by
  refine ⟨?_, (after_of_ne_query h).symm⟩
  cases call with
  | query statement => exact absurd rfl (h statement)
  | blocking => exact hblocking
  | _ => trivial

theorem world_of_reliable (store : KnownIfas) (e : Event Calls) (store' : KnownIfas)
    (h : reliableWorld store e store') : world store e store' :=
  ⟨h.1.allows, h.2⟩

/-- A registration up to its lookup, which gets any answer the table allows. -/
theorem evolves_lookup (store : KnownIfas) {a i : Uuid} {answer : Except QueryError Frame}
    (h : store.Reports (a, i) answer) :
    Evolves world store
      [⟨Call.blocking, .ok ()⟩, ⟨Call.query (.selectEntityId a i), answer⟩] store :=
  Evolves.cons_iff.mpr ⟨store, ⟨trivial, rfl⟩, .step ⟨h, rfl⟩ (.refl store)⟩

/-- The same without failures. -/
theorem evolves_reliable_lookup (store : KnownIfas) {a i : Uuid}
    {answer : Except QueryError Frame}
    (h : answer = .ok ⟨some ⟨some ((store (a, i)).toList.map fun d => ⟨some d⟩)⟩⟩) :
    Evolves reliableWorld store
      [⟨Call.blocking, .ok ()⟩, ⟨Call.query (.selectEntityId a i), answer⟩] store :=
  Evolves.cons_iff.mpr ⟨store, ⟨rfl, rfl⟩, .step ⟨h, rfl⟩ (.refl store)⟩

/-- Without a connection the table stays as it is, whatever runs. -/
theorem evolves_unconnected {α : Type} (p : Request α) {replies : Replies}
    (h : ∀ statement, replies.query statement = .error .noConnection) (store : KnownIfas) :
    Evolves world store (p.exec replies.reply).1 store := by
  apply Evolves.of_loop
  intro e he
  rw [answer_of_mem_exec he]
  generalize e.call = c
  cases c with
  | query statement =>
      rw [show replies.reply (.query statement) = .error .noConnection from h statement]
      cases statement with
      | selectEntityId a i => exact ⟨trivial, rfl⟩
      | insertKnownIfa a i d => exact ⟨trivial, rfl⟩
  | _ => exact ⟨trivial, rfl⟩

end KnownIfas

namespace Registration

variable {X : Crates} {g : Gateway.Globals} {reg : Registration}

/-- A registration with a key, played through with any replies, hands out what
its lookup found or, after a miss, the UUID it drew, and a write that succeeds
leaves that id in the table. -/
theorem exec_of_key (hX : X.DocumentedIds) {a i u : Uuid} (hkey : reg.key X = some (a, i))
    (replies : Replies) (hblocking : replies.blocking = .ok ())
    (hfound : (IfaMatching.foundIn (replies.query (.selectEntityId a i))).getD replies.uuid = u)
    (hwritten : ∃ frame, replies.query (.insertKnownIfa a i u) = .ok frame) :
    ∃ rest, ((reg.program X g).exec replies.reply).1 = [⟨Call.blocking, .ok ()⟩,
        ⟨Call.query (.selectEntityId a i), replies.query (.selectEntityId a i)⟩] ++ rest ∧
      reg.HandsOut X g u ((reg.program X g).exec replies.reply).2 ∧ ∀ store : KnownIfas,
        Evolves KnownIfas.reliableWorld store rest (Function.update store (a, i) (some u)) := by
  have hrun := runs_exec replies.reply (reg.program X g)
  have hreply : ∀ c (answer : Calls.Answer c),
      ⟨c, answer⟩ ∈ ((reg.program X g).exec replies.reply).1 → answer = replies.reply c :=
    fun c answer hmem => answer_eq_of_mem_exec hmem
  generalize ((reg.program X g).exec replies.reply).1 = t at hrun hreply ⊢
  generalize ((reg.program X g).exec replies.reply).2 = r at hrun ⊢
  rcases runs_of_key hX hkey hrun with ⟨e, rfl⟩ |
    ⟨v, answer, written, before, after, rfl, horigin, hquiet, hhands⟩
  · -- not with a blocking section that is open
    have hrefused : Except.error e = replies.blocking := hreply Call.blocking _ (by simp)
    rw [hblocking] at hrefused
    cases hrefused
  · obtain rfl : answer = replies.query (.selectEntityId a i) :=
      hreply (Call.query (.selectEntityId a i)) answer (by simp)
    obtain rfl : written = replies.query (.insertKnownIfa a i v) :=
      hreply (Call.query (.insertKnownIfa a i v)) written (by simp)
    have huv : u = v := by
      rcases horigin with ⟨hhit, _⟩ | ⟨hmissed, hdrawn⟩
      · rw [← hfound, hhit, Option.getD_some]
      · rw [← hfound, hmissed, Option.getD_none]
        exact (hreply Call.newV4 v ((hdrawn v).mpr rfl)).symm
    subst huv
    refine ⟨before ++ ⟨Call.query (.insertKnownIfa a i u), _⟩ :: after, rfl, hhands,
      fun store => ?_⟩
    have hloop : ∀ store : KnownIfas, ∀ e ∈ before ++ after,
        KnownIfas.reliableWorld store e store := by
      intro store e he
      obtain ⟨c, answer⟩ := e
      obtain rfl := hreply c answer (by simp only [List.mem_append, List.mem_cons] at he ⊢; tauto)
      exact KnownIfas.reliableWorld_reply store hblocking (hquiet _ he)
    obtain ⟨frame, hframe⟩ := hwritten
    have hinsert : KnownIfas.reliableWorld store ⟨Call.query (.insertKnownIfa a i u),
        replies.query (.insertKnownIfa a i u)⟩ (Function.update store (a, i) (some u)) :=
      ⟨⟨frame, hframe⟩, by simp [KnownIfas.after, KnownIfas.carriedOut, hframe]⟩
    exact Evolves.append_iff.mpr ⟨store,
      Evolves.of_loop fun e he => hloop store e (List.mem_append_left after he),
      .step hinsert (Evolves.of_loop fun e he => hloop _ e (List.mem_append_right before he))⟩

/-- A registration with a key that is let into its blocking section makes both of its
statements there. -/
theorem statements_of_exec (hX : X.DocumentedIds) {a i : Uuid} (hkey : reg.key X = some (a, i))
    (replies : Replies) (hblocking : replies.blocking = .ok ()) :
    ∃ u, (⟨Call.query (.selectEntityId a i), replies.query (.selectEntityId a i)⟩ :
        Event Calls) ∈ ((reg.program X g).exec replies.reply).1 ∧
      (⟨Call.query (.insertKnownIfa a i u), replies.query (.insertKnownIfa a i u)⟩ :
        Event Calls) ∈ ((reg.program X g).exec replies.reply).1 := by
  have hreply : ∀ c (answer : Calls.Answer c),
      ⟨c, answer⟩ ∈ ((reg.program X g).exec replies.reply).1 → answer = replies.reply c :=
    fun c answer hmem => answer_eq_of_mem_exec hmem
  rcases runs_of_key hX hkey (runs_exec replies.reply (reg.program X g)) with ⟨e, ht⟩ |
    ⟨u, answer, written, before, after, ht, _⟩
  · have hrefused : Except.error e = replies.blocking := hreply Call.blocking _ (by simp [ht])
    rw [hblocking] at hrefused
    cases hrefused
  · obtain rfl : answer = replies.query (.selectEntityId a i) :=
      hreply (Call.query (.selectEntityId a i)) answer (by simp [ht])
    obtain rfl : written = replies.query (.insertKnownIfa a i u) :=
      hreply (Call.query (.insertKnownIfa a i u)) written (by simp [ht])
    exact ⟨u, by simp [ht], by simp [ht]⟩

/-- Without failures, a table the replies agree with has the id in the end. -/
theorem evolves_exec (hX : X.DocumentedIds) {a i u : Uuid} (hkey : reg.key X = some (a, i))
    (replies : Replies) (store : KnownIfas) (hblocking : replies.blocking = .ok ())
    (hlookup : replies.query (.selectEntityId a i) =
      .ok ⟨some ⟨some ((store (a, i)).toList.map fun d => ⟨some d⟩)⟩⟩)
    (hfound : (store (a, i)).getD replies.uuid = u)
    (hwritten : ∃ frame, replies.query (.insertKnownIfa a i u) = .ok frame) :
    Evolves KnownIfas.reliableWorld store ((reg.program X g).exec replies.reply).1
        (Function.update store (a, i) (some u)) ∧
      (⟨Call.query (.selectEntityId a i), replies.query (.selectEntityId a i)⟩ : Event Calls) ∈
        ((reg.program X g).exec replies.reply).1 ∧
      reg.HandsOut X g u ((reg.program X g).exec replies.reply).2 := by
  have hreliable : store.Reliable ⟨Call.query (.selectEntityId a i),
    replies.query (.selectEntityId a i)⟩ := hlookup
  rw [← hreliable.foundIn] at hfound
  obtain ⟨rest, ht, hhands, hevolves⟩ := exec_of_key (g := g) hX hkey replies hblocking hfound
    hwritten
  rw [ht]
  exact ⟨Evolves.append_iff.mpr ⟨store, KnownIfas.evolves_reliable_lookup store hlookup,
    hevolves store⟩, by simp, hhands⟩

/-- Then one registration can run from start to end while the others stand still. -/
theorem exists_thread_run {ι : Type} [DecidableEq ι] (hX : X.DocumentedIds) {a i : Uuid}
    (hkey : reg.key X = some (a, i)) (threads : ι → Request Result) (j : ι)
    (hthread : threads j = reg.program X g) (store : KnownIfas) (drawn : Uuid) {u : Uuid}
    (hfound : (store (a, i)).getD drawn = u) :
    ∃ (t : List (Event Calls)) (r : Outcome Result),
      Pool.Run KnownIfas.reliableWorld ⟨store, threads⟩ (t.map (Prod.mk j))
        ⟨Function.update store (a, i) (some u), Function.update threads j (ofOutcome r)⟩ ∧
      (∃ answer, (⟨Call.query (.selectEntityId a i), answer⟩ : Event Calls) ∈ t ∧
        IfaMatching.foundIn answer = store (a, i)) ∧
      reg.HandsOut X g u r := by
  let looked : Except QueryError Frame :=
    .ok ⟨some ⟨some ((store (a, i)).toList.map fun d => ⟨some d⟩)⟩⟩
  have hreliable : store.Reliable ⟨Call.query (.selectEntityId a i), looked⟩ := rfl
  let replies : Replies := { query := Query.answering looked (.ok ⟨some ⟨none⟩⟩), uuid := drawn }
  obtain ⟨hevolves, hlookup, hhands⟩ := evolves_exec (g := g) (u := u) hX hkey replies store
    rfl rfl hfound ⟨_, rfl⟩
  exact ⟨_, _, Pool.run_thread (runs_exec replies.reply (reg.program X g)) hthread hevolves,
    ⟨looked, hlookup, hreliable.foundIn⟩, hhands⟩

end Registration

end XorcGateway
