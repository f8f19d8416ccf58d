/-
# Registrations against one store

A registration is one run of `createNewDevice`; any number of them share the
`gw_known_ifas` table. What a lookup may be answered and what a write does are
stated once, with every failure the driver knows, and the facts about a single
registration's calls are stated for registrations under way as well as for
finished ones.
-/

import XorcGateway.Effects.Pool
import XorcGateway.Semantics.Registration

namespace XorcGateway

open Effects Events Rust Program

/-! ## The table -/

/-- `gw_known_ifas`: at most one entity id under each application id and
advertising identifier, its primary key. -/
abbrev KnownIfas := Uuid × Uuid → Option Uuid

namespace KnownIfas

/-- What a lookup may be answered. It may fail in any way; a result set that can
be decoded has the entry's row or, without an entry, none; the column of a row
may still be unreadable. -/
def Reports (store : KnownIfas) (key : Uuid × Uuid) : Except QueryError Frame → Prop
  | .ok ⟨some ⟨some rows⟩⟩ =>
      (store key = none ∧ rows = []) ∨
        ∃ d, store key = some d ∧ (rows = [⟨some d⟩] ∨ rows = [⟨none⟩])
  | _ => True

/-- A failed statement that was never sent is not carried out; the driver's own
failures leave it open. -/
def carriedOut : Except QueryError Frame → Bool
  | .ok _ => true
  | .error .noConnection => false
  | .error (.queryFailed carriedOut) => carriedOut

/-- The answers the table allows. -/
def Allows (store : KnownIfas) : Event Calls → Prop
  | ⟨.query (.selectEntityId a i), answer⟩ => store.Reports (a, i) answer
  | _ => True

/-- What a call leaves in the table. -/
def after (store : KnownIfas) : Event Calls → KnownIfas
  | ⟨.query (.insertKnownIfa a i d), answer⟩ =>
      if carriedOut answer then Function.update store (a, i) (some d) else store
  | _ => store

/-- The table as a world: lookups and writes succeed or fail in any order. -/
def world : World Calls KnownIfas :=
  fun store e store' => store.Allows e ∧ store' = store.after e

/-- No store failure: a lookup gets the table's answer, a write is carried out,
and a registration gets to its blocking section. -/
def Reliable (store : KnownIfas) : Event Calls → Prop
  | ⟨.query (.selectEntityId a i), answer⟩ =>
      answer = .ok ⟨some ⟨some ((store (a, i)).toList.map fun d => ⟨some d⟩)⟩⟩
  | ⟨.query (.insertKnownIfa _ _ _), answer⟩ => ∃ frame, answer = .ok frame
  | ⟨.blocking, answer⟩ => answer = .ok ()
  | _ => True

/-- The table without failures. -/
def reliableWorld : World Calls KnownIfas :=
  fun store e store' => store.Reliable e ∧ store' = store.after e

/-- Nothing the table reports is made up. -/
theorem Reports.foundIn {store : KnownIfas} {key : Uuid × Uuid}
    {answer : Except QueryError Frame} (h : store.Reports key answer) {d : Uuid}
    (hfound : IfaMatching.foundIn answer = some d) : store key = some d := by
  rcases answer with e | ⟨_ | ⟨_ | rows⟩⟩
  · simp [IfaMatching.foundIn] at hfound
  · simp [IfaMatching.foundIn] at hfound
  · simp [IfaMatching.foundIn] at hfound
  · rcases h with ⟨_, rfl⟩ | ⟨u, hstore, rfl | rfl⟩
    · simp [IfaMatching.foundIn, IfaMatching.firstEntityId] at hfound
    · have hu : u = d := by simpa [IfaMatching.foundIn, IfaMatching.firstEntityId] using hfound
      rwa [hu] at hstore
    · simp [IfaMatching.foundIn, IfaMatching.firstEntityId] at hfound

/-- Without failures a lookup finds exactly what is stored. -/
theorem Reliable.foundIn {store : KnownIfas} {a i : Uuid} {answer : Except QueryError Frame}
    (h : store.Reliable ⟨Call.query (.selectEntityId a i), answer⟩) :
    IfaMatching.foundIn answer = store (a, i) := by
  simp only [Reliable] at h
  subst h
  cases hstore : store (a, i) <;> simp [IfaMatching.foundIn, IfaMatching.firstEntityId]

/-- The table without failures is one of the tables with them. -/
theorem Reliable.allows {store : KnownIfas} {e : Event Calls} (h : store.Reliable e) :
    store.Allows e := by
  obtain ⟨call, answer⟩ := e
  cases call with
  | query statement =>
      cases statement with
      | selectEntityId a i =>
          simp only [Reliable] at h
          subst h
          cases hstore : store (a, i) with
          | none => exact Or.inl ⟨hstore, by simp⟩
          | some d => exact Or.inr ⟨d, hstore, Or.inl (by simp)⟩
      | insertKnownIfa a i d => trivial
  | _ => trivial

/-- A call either leaves the table alone or is a write that was carried out. -/
theorem after_eq_or (store : KnownIfas) (e : Event Calls) :
    store.after e = store ∨ ∃ a i d answer,
      e = ⟨Call.query (.insertKnownIfa a i d), answer⟩ ∧ carriedOut answer = true ∧
        store.after e = Function.update store (a, i) (some d) := by
  obtain ⟨call, answer⟩ := e
  cases call with
  | query statement =>
      cases statement with
      | selectEntityId a i => exact Or.inl rfl
      | insertKnownIfa a i d =>
          cases hcarried : carriedOut answer with
          | false => exact Or.inl (by simp [after, hcarried])
          | true => exact Or.inr ⟨a, i, d, answer, rfl, hcarried, by simp [after, hcarried]⟩
  | _ => exact Or.inl rfl

/-- A call changes an entry only by writing it. -/
theorem after_apply {store : KnownIfas} {e : Event Calls} {key : Uuid × Uuid} {d : Uuid}
    (h : store.after e key = some d) :
    store key = some d ∨ ∃ answer, carriedOut answer = true ∧
      e = ⟨Call.query (.insertKnownIfa key.1 key.2 d), answer⟩ := by
  rcases store.after_eq_or e with hsame | ⟨a, i, u, answer, rfl, hcarried, hafter⟩
  · exact Or.inl (hsame ▸ h)
  · rw [hafter] at h
    by_cases hkey : key = (a, i)
    · subst hkey
      obtain rfl : u = d := by simpa using h
      exact Or.inr ⟨answer, hcarried, rfl⟩
    · rw [Function.update_of_ne hkey] at h
      exact Or.inl h

end KnownIfas

/-! ## One registration -/

/-- A request that asks for a device id, from its registration on. -/
structure Registration where
  context : Context
  event : SDKEventBatch
  eventId : String

namespace Registration

variable (X : Crates) (g : Gateway.Globals) (reg : Registration)

abbrev Result := Except GatewayError (List EventResult × Context × SDKEventBatch)

def program : Request Result :=
  Gateway.createNewDevice X g reg.context reg.event reg.eventId

/-- The entry the registration may look up and write: none when its context
already has a device id. -/
def key : Option (Uuid × Uuid) :=
  if reg.context.deviceId = none then
    IfaMatching.storeKey X reg.context.appId reg.event.device.ifa
      reg.event.device.ifaTrackingEnabled
  else none

theorem key_eq_some_iff {a i : Uuid} :
    reg.key X = some (a, i) ↔ reg.context.deviceId = none ∧
      X.uuid.parseStr reg.context.appId = some a ∧
      (∃ text, reg.event.device.ifa = some text ∧ X.uuid.parseStr text = some i) ∧
      i ≠ Uuid.nil ∧ reg.event.device.ifaTrackingEnabled = true := by
  rw [key]
  split
  · rename_i hunknown
    simp [hunknown, IfaMatching.storeKey_eq_some_iff]
  · rename_i hknown
    simp [hknown]

/-- The answer of a registration that hands out a device id. -/
def answer (deviceId : DeviceId) (token : Option String) : Result :=
  .ok (Gateway.registrationResults reg.eventId deviceId token,
    Gateway.registered reg.context deviceId token, reg.event)

/-- The registration ends with the id `d`: as its own device id, behind the
ciphertext it hands out. -/
def HandsOut (d : Uuid) (r : Outcome Result) : Prop :=
  ∃ c token, r = .returned (reg.answer ⟨c, ⟨X.uuid.hyphenated d⟩⟩ token) ∧
    Cleartext.decrypt X g.secret c = .ok (.ok ⟨X.uuid.hyphenated d⟩)

variable {X g reg}

/-- One registration ends with at most one id. -/
theorem HandsOut.unique (huuid : X.uuid.Documented) {d d' : Uuid} {r : Outcome Result}
    (h : reg.HandsOut X g d r) (h' : reg.HandsOut X g d' r) : d = d' := by
  obtain ⟨c, token, rfl, _⟩ := h
  obtain ⟨c', token', hr, _⟩ := h'
  have htext : X.uuid.hyphenated d = X.uuid.hyphenated d' := by
    simp only [answer, Gateway.registered, Outcome.returned.injEq, Except.ok.injEq,
      Prod.mk.injEq, Context.mk.injEq, Option.some.injEq, DeviceId.mk.injEq,
      Cleartext.mk.injEq] at hr
    exact hr.2.1.2.2.2.1.2
  have hparse := huuid.parseStr_hyphenated d
  rw [htext, huuid.parseStr_hyphenated] at hparse
  exact (Option.some.inj hparse).symm

theorem not_inSection_of_tokenRead {sent token : Option String} {appId : String}
    {t : List (Event Calls)} (h : Gateway.TokenRead sent appId t token) :
    ∀ e ∈ t, ¬ e.call.InSection := by
  intro e he
  rw [h.loads e he]
  simp [Call.InSection, IfaMatching.IsReport]

section

variable (hX : X.DocumentedIds)

include hX

/-- The complete runs of a registration: it already has its id, it is refused
its blocking section, or it acquires an id there. -/
theorem runs_program {t : List (Event Calls)} {r : Outcome Result}
    (h : Runs (reg.program X g) t r) :
    (∃ deviceId token, reg.context.deviceId = some deviceId ∧ (∀ e ∈ t, ¬ e.call.InSection) ∧
        r = .returned (reg.answer deviceId token)) ∨
      reg.context.deviceId = none ∧
        ((∃ e, t = [⟨Call.blocking, .error e⟩] ∧
            r = .returned (.error (.serviceUnavailable "Aerospike is acting slow today"))) ∨
          ∃ get last u c, t = ⟨Call.blocking, .ok ()⟩ :: get ++ last ∧
            Gateway.Acquires X g reg.context.appId reg.event.device.ifa
              reg.event.device.ifaTrackingEnabled get u c ∧
            (∀ e ∈ last, ¬ e.call.InSection) ∧ reg.HandsOut X g u r) := by
  rcases Gateway.runs_createNewDevice X g h with ⟨deviceId, token, hregisters, hr⟩ |
    ⟨hunknown, hrefused | ⟨get, _, _, hget⟩⟩
  · cases hregisters with
    | known hknown htoken =>
        exact Or.inl ⟨deviceId, token, hknown, not_inSection_of_tokenRead htoken, hr⟩
    | acquired hunknown hget htoken =>
        obtain ⟨u, c, hacquires, hreturned⟩ := Gateway.runs_getId X g hX.aead hX.uuid hget
        obtain rfl := Outcome.returned.inj hreturned
        obtain ⟨nonce, hencrypt⟩ := hacquires.encrypt
        have hdecrypt := decrypt_encrypt_of_length hX.aead hX.base64
          (hX.uuid.length_hyphenated u) hencrypt
        exact Or.inr ⟨hunknown, Or.inr ⟨_, _, u, c, rfl, hacquires,
          not_inSection_of_tokenRead htoken, c, token, hr, hdecrypt⟩⟩
  · exact Or.inr ⟨hunknown, Or.inl hrefused⟩
  · obtain ⟨_, _, _, hreturned⟩ := Gateway.runs_getId X g hX.aead hX.uuid hget
    cases hreturned

/-- Once a registration has made a call of the blocking section, it has no id
of its own yet and ends with the one it acquires there. -/
theorem runs_of_mem {t : List (Event Calls)} {r : Outcome Result}
    (h : Runs (reg.program X g) t r) {e : Event Calls} (he : e ∈ t) (hsection : e.call.InSection) :
    reg.context.deviceId = none ∧ ∃ get last u c,
      t = ⟨Call.blocking, .ok ()⟩ :: get ++ last ∧ e ∈ get ∧
      Gateway.Acquires X g reg.context.appId reg.event.device.ifa
        reg.event.device.ifaTrackingEnabled get u c ∧
      (∀ e ∈ last, ¬ e.call.InSection) ∧ reg.HandsOut X g u r := by
  rcases runs_program hX h with ⟨_, _, _, hnot, _⟩ |
    ⟨hunknown, ⟨_, rfl, _⟩ | ⟨get, last, u, c, rfl, hacquires, hlast, hhands⟩⟩
  · exact absurd hsection (hnot e he)
  · obtain rfl := List.mem_singleton.mp he
    exact absurd hsection (by simp [Call.InSection, IfaMatching.IsReport])
  · refine ⟨hunknown, get, last, u, c, rfl, ?_, hacquires, hlast, hhands⟩
    rcases List.mem_append.mp he with he | he
    · rcases List.mem_cons.mp he with rfl | he
      · exact absurd hsection (by simp [Call.InSection, IfaMatching.IsReport])
      · exact he
    · exact absurd hsection (hlast e he)

/-- A registration that writes, writes its own entry, and every way it can still
end hands out the id it has written. -/
theorem of_insert_mem {t : List (Event Calls)} {p : Request Result}
    (h : Steps (reg.program X g) t p) {a i d : Uuid} {written : Except QueryError Frame}
    (he : (⟨Call.query (.insertKnownIfa a i d), written⟩ : Event Calls) ∈ t) :
    reg.key X = some (a, i) ∧ ∀ rest r, Runs p rest r → reg.HandsOut X g d r := by
  have hends : ∀ rest r, Runs p rest r → reg.key X = some (a, i) ∧ reg.HandsOut X g d r := by
    intro rest r hrest
    obtain ⟨hunknown, get, _, u, c, _, hget, hacquires, _, hhands⟩ :=
      runs_of_mem hX (h.trans hrest) (List.mem_append_left rest he) (by trivial)
    obtain ⟨_, _, hkey, hselect | hinsert⟩ := hacquires.of_query_mem hget
    · cases hselect
    · cases hinsert
      exact ⟨by rw [key, if_pos hunknown, hkey], hhands⟩
  obtain ⟨rest, r, hrest, _⟩ := h.exists_runs
  exact ⟨(hends rest r hrest).1, fun rest r hrest => (hends rest r hrest).2⟩

/-- A registration looks up only its own entry. -/
theorem of_select_mem {t : List (Event Calls)} {p : Request Result}
    (h : Steps (reg.program X g) t p) {a i : Uuid} {answer : Except QueryError Frame}
    (he : (⟨Call.query (.selectEntityId a i), answer⟩ : Event Calls) ∈ t) :
    reg.key X = some (a, i) := by
  obtain ⟨rest, r, _, hruns⟩ := h.exists_runs
  obtain ⟨hunknown, get, _, u, c, _, hget, hacquires, _, _⟩ :=
    runs_of_mem hX hruns (List.mem_append_left rest he) (by trivial)
  obtain ⟨_, _, hkey, hselect | hinsert⟩ := hacquires.of_query_mem hget
  · cases hselect
    rw [key, if_pos hunknown, hkey]
  · cases hinsert

/-- What a registration writes it has found under its own entry or drawn
before. -/
theorem before_insert {t : List (Event Calls)} {p : Request Result} {a i d : Uuid}
    {written : Except QueryError Frame}
    (h : Steps (reg.program X g) (t ++ [⟨Call.query (.insertKnownIfa a i d), written⟩]) p) :
    ∃ answer, (⟨Call.query (.selectEntityId a i), answer⟩ : Event Calls) ∈ t ∧
      (IfaMatching.foundIn answer = some d ∨ (⟨Call.newV4, d⟩ : Event Calls) ∈ t) := by
  obtain ⟨rest, r, _, hruns⟩ := h.exists_runs
  rw [List.append_assoc, List.singleton_append] at hruns
  obtain ⟨hunknown, get, last, u, c, htrace, hget, hacquires, hlast, _⟩ :=
    runs_of_mem hX hruns (List.mem_append_right t List.mem_cons_self) (by trivial)
  obtain ⟨_, _, hkey, hselect | hinsert⟩ := hacquires.of_query_mem hget
  · cases hselect
  cases hinsert
  obtain ⟨answer, written', before, after, rfl, horigin, hbefore, hafter⟩ :=
    hacquires.exists_statements hkey
  -- the run has one write, so what stands in front of it is what the run did so far
  have hsplit : t ++ ⟨Call.query (.insertKnownIfa a i d), written⟩ :: rest =
      (⟨Call.blocking, .ok ()⟩ :: ⟨Call.query (.selectEntityId a i), answer⟩ :: before) ++
        ⟨Call.query (.insertKnownIfa a i d), written'⟩ :: (after ++ last) := by
    rw [htrace]
    simp
  have hfront : (⟨Call.query (.insertKnownIfa a i d), written⟩ : Event Calls) ∉
      ⟨Call.blocking, .ok ()⟩ :: ⟨Call.query (.selectEntityId a i), answer⟩ :: before := by
    intro hmem
    simp only [List.mem_cons, Event.mk.injEq, Call.query.injEq, reduceCtorEq, false_and,
      false_or] at hmem
    exact hbefore _ hmem _ rfl
  have hback : (⟨Call.query (.insertKnownIfa a i d), written⟩ : Event Calls) ∉ after ++ last := by
    intro hmem
    rcases List.mem_append.mp hmem with hmem | hmem
    · exact (hafter _ hmem).elim
    · exact hlast _ hmem (by trivial)
  obtain ⟨rfl, _, _⟩ := (List.append_cons_inj_of_notMem hfront hback).mp hsplit.symm
  refine ⟨answer, by simp, ?_⟩
  rcases horigin with ⟨hfound, _⟩ | ⟨_, hdrawn⟩
  · exact Or.inl hfound
  · exact Or.inr (by simp [hdrawn])

/-- A finished registration with a key was refused its blocking section, or it
made one lookup and one write there, of the id it ends with; it drew that id
exactly if the lookup gave nothing, and drew no other. -/
theorem runs_of_key {a i : Uuid} (hkey : reg.key X = some (a, i)) {t : List (Event Calls)}
    {r : Outcome Result} (h : Runs (reg.program X g) t r) :
    (∃ e, t = [⟨Call.blocking, .error e⟩]) ∨
      ∃ u answer written before after,
        t = ⟨Call.blocking, .ok ()⟩ :: ⟨Call.query (.selectEntityId a i), answer⟩ :: before ++
          ⟨Call.query (.insertKnownIfa a i u), written⟩ :: after ∧
        ((IfaMatching.foundIn answer = some u ∧ ∀ d, (⟨Call.newV4, d⟩ : Event Calls) ∉ t) ∨
          (IfaMatching.foundIn answer = none ∧
            ∀ d, (⟨Call.newV4, d⟩ : Event Calls) ∈ t ↔ d = u)) ∧
        (∀ e ∈ before ++ after, ∀ statement, e.call ≠ Call.query statement) ∧
        reg.HandsOut X g u r := by
  have hunknown := (key_eq_some_iff X reg).mp hkey |>.1
  rcases runs_program hX h with ⟨_, _, hknown, _⟩ |
    ⟨_, ⟨e, ht, _⟩ | ⟨get, last, u, c, rfl, hacquires, hlast, hhands⟩⟩
  · simp [hknown] at hunknown
  · exact Or.inl ⟨e, ht⟩
  · rw [key, if_pos hunknown] at hkey
    obtain ⟨answer, written, before, after, rfl, horigin, hbefore, hafter⟩ :=
      hacquires.exists_statements hkey
    have hquiet : ∀ e ∈ after ++ last, ¬ (∃ statement, e.call = Call.query statement) ∧
        e.call ≠ Call.newV4 := by
      intro e he
      rcases List.mem_append.mp he with he | he
      · have hreport := hafter e he
        refine ⟨?_, ?_⟩
        · rintro ⟨statement, hcall⟩
          rw [hcall] at hreport
          exact hreport
        · intro hcall
          rw [hcall] at hreport
          exact hreport
      · have hnot := hlast e he
        refine ⟨?_, ?_⟩
        · rintro ⟨statement, hcall⟩
          exact hnot (by rw [hcall]; trivial)
        · intro hcall
          exact hnot (by rw [hcall]; trivial)
    have hdrawn : ∀ d, (⟨Call.newV4, d⟩ : Event Calls) ∈ ⟨Call.blocking, .ok ()⟩ ::
        (⟨Call.query (.selectEntityId a i), answer⟩ :: before ++
          ⟨Call.query (.insertKnownIfa a i u), written⟩ :: after) ++ last ↔
        (⟨Call.newV4, d⟩ : Event Calls) ∈ before := by
      intro d
      have hnot : (⟨Call.newV4, d⟩ : Event Calls) ∉ after ++ last :=
        fun hmem => (hquiet _ hmem).2 rfl
      simp only [List.mem_append] at hnot
      simp only [List.cons_append, List.mem_cons, List.mem_append, Event.mk.injEq, reduceCtorEq,
        false_and, false_or]
      tauto
    refine Or.inr ⟨u, answer, written, before, after ++ last, by simp, ?_, ?_, hhands⟩
    · simpa only [hdrawn] using horigin
    · intro e he statement
      rcases List.mem_append.mp he with he | he
      · exact hbefore e he statement
      · exact fun hcall => (hquiet e he).1 ⟨statement, hcall⟩

/-- The id a registration is bound to hand out, it has drawn, or found under its
own entry. -/
theorem origin_of_handsOut {t : List (Event Calls)} {p : Request Result}
    (h : Steps (reg.program X g) t p) (hunknown : reg.context.deviceId = none) {d : Uuid}
    (hhands : ∀ rest r, Runs p rest r → reg.HandsOut X g d r) :
    (⟨Call.newV4, d⟩ : Event Calls) ∈ t ∨
      ∃ a i answer, reg.key X = some (a, i) ∧
        (⟨Call.query (.selectEntityId a i), answer⟩ : Event Calls) ∈ t ∧
        IfaMatching.foundIn answer = some d := by
  -- let every query fail from here on and every UUID drawn be another one
  let reply := ({ uuid := d + 1 } : Replies).reply
  have hrest := runs_exec reply p
  have hreply : ∀ e ∈ (p.exec reply).1, e = ⟨e.call, reply e.call⟩ :=
    fun e he => answer_of_mem_exec he
  generalize (p.exec reply).1 = rest at hrest hreply
  generalize (p.exec reply).2 = r at hrest
  have hends := hhands rest r hrest
  rcases runs_program hX (h.trans hrest) with ⟨_, _, hknown, _⟩ |
    ⟨_, ⟨_, _, rfl⟩ | ⟨get, last, u, c, htrace, hacquires, _, hacquired⟩⟩
  · simp [hknown] at hunknown
  · obtain ⟨_, _, hr, _⟩ := hends
    cases hr
  · obtain rfl := hends.unique hX.uuid hacquired
    have hget : ∀ e ∈ get, e ∈ t ∨ e ∈ rest := by
      intro e he
      rw [← List.mem_append, htrace]
      simp [he]
    rcases hacquires.origin with hdrawn | ⟨a, i, answer, hkey, hselect, hfound⟩
    · rcases hget _ hdrawn with ht | hrest
      · exact Or.inl ht
      · have hother : d = d + 1 := by simpa [reply, Replies.reply] using hreply _ hrest
        exact absurd hother (by bv_omega)
    · rcases hget _ hselect with ht | hrest
      · exact Or.inr ⟨a, i, answer, by rw [key, if_pos hunknown, hkey], ht, hfound⟩
      · have hfailed : answer = .error .noConnection := by
          simpa [reply, Replies.reply] using hreply _ hrest
        simp [hfailed, IfaMatching.foundIn] at hfound

end

end Registration

end XorcGateway
