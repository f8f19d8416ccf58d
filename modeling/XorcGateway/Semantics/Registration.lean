/-
# What a registration does

The runs of the registration functions, described once: which statements reach
the IFA store, where the device id comes from, and what is handed out. Every
result about identities is a case analysis over these descriptions, not over
the programs.
-/

import XorcGateway.Gateway

namespace XorcGateway

open Effects Events Rust Program

variable (X : Crates) (g : Gateway.Globals)

namespace IfaMatching

/-- The entry of the store a request may touch: both identifiers parse, the
advertising identifier is not nil, and tracking is enabled. -/
def storeKey (appId : String) (ifa : Option String) (ifaTrackingEnabled : Bool) :
    Option (Uuid × Uuid) :=
  (parseIfa X ifa ifaTrackingEnabled).bind fun ifa =>
    (X.uuid.parseStr appId).map fun appId => (appId, ifa)

theorem storeKey_eq_some_iff {appId : String} {ifa : Option String} {enabled : Bool}
    {a i : Uuid} :
    storeKey X appId ifa enabled = some (a, i) ↔
      X.uuid.parseStr appId = some a ∧ (∃ text, ifa = some text ∧ X.uuid.parseStr text = some i) ∧
        i ≠ Uuid.nil ∧ enabled = true := by
  simp only [storeKey, parseIfa, Option.bind_eq_some_iff, Option.map_eq_some_iff]
  grind

/-- What `getIdForIfa` makes of an answer: every failure looks like a miss. -/
def foundIn : Except QueryError Frame → Option Uuid
  | .error _ => none
  | .ok frame => (frame.body.bind ResponseBody.rows).bind firstEntityId

/-- The counting and logging around a statement. -/
def IsReport : Call → Prop
  | .inc (.scylladbRequests _ _) _ => True
  | .log (.couldNotReadIfa _) => True
  | _ => False

/-- A lookup sends at most one statement, on its own key, and returns what it
finds there. -/
theorem runs_getIdForIfa {appId : String} {ifa : Option String} {enabled : Bool}
    {t : List (Event Calls)} {r : Outcome (Option String)}
    (h : Runs (getIdForIfa X appId ifa enabled) t r) :
    ∃ found : Option Uuid, r = .returned (found.map X.uuid.hyphenated) ∧
      ((storeKey X appId ifa enabled = none ∧ t = [] ∧ found = none) ∨
        ∃ a i answer reports, storeKey X appId ifa enabled = some (a, i) ∧
          t = ⟨Call.query (.selectEntityId a i), answer⟩ :: reports ∧
          (∀ e ∈ reports, IsReport e.call) ∧ found = foundIn answer) := by
  rw [getIdForIfa] at h
  cases hifa : parseIfa X ifa enabled with
  | none =>
      rw [hifa] at h
      simp only [pure_eq_done, runs_done_iff] at h
      exact ⟨none, h.2, Or.inl ⟨by simp [storeKey, hifa], h.1, rfl⟩⟩
  | some i =>
      rw [hifa] at h
      cases happ : X.uuid.parseStr appId with
      | none =>
          rw [happ] at h
          simp only [pure_eq_done, runs_done_iff] at h
          exact ⟨none, h.2, Or.inl ⟨by simp [storeKey, hifa, happ], h.1, rfl⟩⟩
      | some a =>
          rw [happ] at h
          simp only [runQuery, perform, Program.perform, bind_eq_bind, call_bind, done_bind,
            runs_call_iff] at h
          obtain ⟨answer, rest, rfl, h⟩ := h
          have hkey : storeKey X appId ifa enabled = some (a, i) := by
            simp [storeKey, hifa, happ]
          suffices (∀ e ∈ rest, IsReport e.call) ∧
              r = .returned ((foundIn answer).map X.uuid.hyphenated) from
            ⟨_, this.2, Or.inr ⟨a, i, answer, rest, hkey, rfl, this.1, rfl⟩⟩
          cases answer with
          | error e =>
              simp only [pure_eq_done, runs_call_iff, runs_done_iff] at h
              obtain ⟨_, _, rfl, _, _, rfl, rfl, rfl⟩ := h
              simp [IsReport, foundIn]
          | ok frame =>
              rcases frame with ⟨_ | ⟨_ | rows⟩⟩
              · simp only [pure_eq_done, runs_done_iff] at h
                obtain ⟨rfl, rfl⟩ := h
                simp [foundIn]
              · simp only [pure_eq_done, runs_done_iff] at h
                obtain ⟨rfl, rfl⟩ := h
                simp [foundIn]
              · cases hrow : firstEntityId rows with
                | none =>
                    simp only [hrow, pure_eq_done, runs_call_iff, runs_done_iff] at h
                    obtain ⟨_, _, rfl, rfl, rfl⟩ := h
                    simp [IsReport, foundIn, hrow]
                | some id =>
                    simp only [hrow, pure_eq_done, runs_call_iff, runs_done_iff] at h
                    obtain ⟨_, _, rfl, rfl, rfl⟩ := h
                    simp [IsReport, foundIn, hrow]

/-- A write sends at most one statement, for its own key and the id it was
given, and never panics. -/
theorem runs_putIdForIfa {appId : String} {deviceId : Cleartext} {ifa : Option String}
    {enabled : Bool} {t : List (Event Calls)} {r : Outcome (Except PutError Unit)}
    (h : Runs (putIdForIfa X appId deviceId ifa enabled) t r) :
    (∃ result, r = .returned result) ∧
      (((storeKey X appId ifa enabled = none ∨ X.uuid.parseStr deviceId.value = none) ∧ t = []) ∨
        ∃ a i d answer reports, storeKey X appId ifa enabled = some (a, i) ∧
          X.uuid.parseStr deviceId.value = some d ∧
          t = ⟨Call.query (.insertKnownIfa a i d), answer⟩ :: reports ∧
          ∀ e ∈ reports, IsReport e.call) := by
  rw [putIdForIfa] at h
  cases hifa : parseIfa X ifa enabled with
  | none =>
      rw [hifa] at h
      simp only [pure_eq_done, runs_done_iff] at h
      exact ⟨⟨_, h.2⟩, Or.inl ⟨Or.inl (by simp [storeKey, hifa]), h.1⟩⟩
  | some i =>
      rw [hifa] at h
      cases happ : X.uuid.parseStr appId with
      | none =>
          rw [happ] at h
          simp only [pure_eq_done, runs_done_iff] at h
          exact ⟨⟨_, h.2⟩, Or.inl ⟨Or.inl (by simp [storeKey, hifa, happ]), h.1⟩⟩
      | some a =>
          cases hid : X.uuid.parseStr deviceId.value with
          | none =>
              simp only [happ, hid, pure_eq_done, runs_done_iff] at h
              exact ⟨⟨_, h.2⟩, Or.inl ⟨Or.inr rfl, h.1⟩⟩
          | some d =>
              simp only [happ, hid, runQuery, perform, Program.perform, bind_eq_bind, call_bind,
                done_bind, runs_call_iff] at h
              obtain ⟨answer, rest, rfl, h⟩ := h
              cases answer with
              | error e =>
                  simp only [pure_eq_done, runs_call_iff, runs_done_iff] at h
                  obtain ⟨_, _, rfl, rfl, rfl⟩ := h
                  exact ⟨⟨_, rfl⟩, Or.inr ⟨a, i, d, _, _, by simp [storeKey, hifa, happ], rfl, rfl,
                    by simp [IsReport]⟩⟩
              | ok frame =>
                  simp only [pure_eq_done, runs_call_iff, runs_done_iff] at h
                  obtain ⟨_, _, rfl, rfl, rfl⟩ := h
                  exact ⟨⟨_, rfl⟩, Or.inr ⟨a, i, d, _, _, by simp [storeKey, hifa, happ], rfl, rfl,
                    by simp [IsReport]⟩⟩

end IfaMatching

/-! ## The blocking section -/

/-- The calls a registration may make inside its blocking section. -/
def Call.InSection : Call → Prop
  | .query _ => True
  | .fillNonce => True
  | .newV4 => True
  | c => IfaMatching.IsReport c

namespace IfaMatching

theorem confined_getIdForIfa (appId : String) (ifa : Option String) (enabled : Bool) :
    Confined Call.InSection (getIdForIfa X appId ifa enabled) := by
  rw [getIdForIfa]
  cases parseIfa X ifa enabled with
  | none => exact .done none
  | some i =>
      cases X.uuid.parseStr appId with
      | none => exact .done none
      | some a =>
          refine .call (by trivial) fun answer => ?_
          cases answer with
          | error e => exact .call (by trivial) fun _ => .call (by trivial) fun _ => .done none
          | ok frame =>
              rcases frame with ⟨_ | ⟨_ | rows⟩⟩
              · exact .done none
              · exact .done none
              · simp only [done_bind]
                cases firstEntityId rows with
                | none => exact .call (by trivial) fun _ => .done none
                | some id => exact .call (by trivial) fun _ => .done _

theorem confined_putIdForIfa (appId : String) (deviceId : Cleartext) (ifa : Option String)
    (enabled : Bool) : Confined Call.InSection (putIdForIfa X appId deviceId ifa enabled) := by
  rw [putIdForIfa]
  cases parseIfa X ifa enabled with
  | none => exact .done _
  | some i =>
      cases X.uuid.parseStr appId with
      | none => exact .done _
      | some a =>
          cases X.uuid.parseStr deviceId.value with
          | none => exact .done _
          | some d =>
              refine .call (by trivial) fun answer => ?_
              cases answer with
              | error e => exact .call (by trivial) fun _ => .done _
              | ok frame => exact .call (by trivial) fun _ => .done _

end IfaMatching

theorem confined_liftPanic {α : Type} {allowed : Call → Prop} (value : Except Panic α) :
    Confined (S := Calls) allowed (liftPanic value) := by
  cases value with
  | error panic => exact .panic
  | ok value => exact .done value

namespace Gateway

theorem confined_identityFor (found : Option String) :
    Confined Call.InSection (identityFor X g found) := by
  have hencrypt : ∀ (cleartext : Cleartext) (nonce : Nonce), Confined Call.InSection
      ((liftPanic (Ciphertext.encrypt X g.secret nonce cleartext)).bind fun ciphertext =>
        .done (DeviceId.mk ciphertext cleartext)) := fun cleartext nonce =>
    (confined_liftPanic _).bind fun ciphertext => .done _
  cases found with
  | none =>
      exact .call (by trivial) fun uuid => .call (by trivial) fun nonce => hencrypt _ nonce
  | some deviceId => exact .call (by trivial) fun nonce => hencrypt _ nonce

/-- The blocking section stays inside the blocking section. -/
theorem confined_getId (appId : String) (ifa : Option String) (enabled : Bool) :
    Confined Call.InSection (getId X g appId ifa enabled) :=
  (IfaMatching.confined_getIdForIfa X appId ifa enabled).bind fun found =>
    (confined_identityFor X g found).bind fun deviceId =>
      (IfaMatching.confined_putIdForIfa X appId deviceId.cleartext ifa enabled).bind fun _ =>
        .done _

/-- The complete runs of the blocking section, by how they come to the id they
hand out: without a key there is nothing to look up; with one, the id is found
or made, and written back in either case. -/
inductive Acquires (appId : String) (ifa : Option String) (enabled : Bool) :
    List (Event Calls) → Uuid → Ciphertext → Prop
  | unkeyed {u : Uuid} {nonce : Nonce} {c : Ciphertext}
      (hkey : IfaMatching.storeKey X appId ifa enabled = none)
      (hencrypt : Ciphertext.encrypt X g.secret nonce ⟨X.uuid.hyphenated u⟩ = .ok c) :
      Acquires appId ifa enabled [⟨Call.newV4, u⟩, ⟨Call.fillNonce, nonce⟩] u c
  | found {a i u : Uuid} {nonce : Nonce} {c : Ciphertext} {answer written : Except QueryError Frame}
      {before after : List (Event Calls)}
      (hkey : IfaMatching.storeKey X appId ifa enabled = some (a, i))
      (hanswer : IfaMatching.foundIn answer = some u)
      (hencrypt : Ciphertext.encrypt X g.secret nonce ⟨X.uuid.hyphenated u⟩ = .ok c)
      (hbefore : ∀ e ∈ before, IfaMatching.IsReport e.call)
      (hafter : ∀ e ∈ after, IfaMatching.IsReport e.call) :
      Acquires appId ifa enabled
        (⟨Call.query (.selectEntityId a i), answer⟩ :: before ++
          ⟨Call.fillNonce, nonce⟩ :: ⟨Call.query (.insertKnownIfa a i u), written⟩ :: after) u c
  | missed {a i u : Uuid} {nonce : Nonce} {c : Ciphertext}
      {answer written : Except QueryError Frame} {before after : List (Event Calls)}
      (hkey : IfaMatching.storeKey X appId ifa enabled = some (a, i))
      (hanswer : IfaMatching.foundIn answer = none)
      (hencrypt : Ciphertext.encrypt X g.secret nonce ⟨X.uuid.hyphenated u⟩ = .ok c)
      (hbefore : ∀ e ∈ before, IfaMatching.IsReport e.call)
      (hafter : ∀ e ∈ after, IfaMatching.IsReport e.call) :
      Acquires appId ifa enabled
        (⟨Call.query (.selectEntityId a i), answer⟩ :: before ++
          ⟨Call.newV4, u⟩ :: ⟨Call.fillNonce, nonce⟩ ::
            ⟨Call.query (.insertKnownIfa a i u), written⟩ :: after) u c

namespace Acquires

variable {X g} {appId : String} {ifa : Option String} {enabled : Bool} {t : List (Event Calls)}
  {u : Uuid} {c : Ciphertext}

/-- The ciphertext handed out is an encryption of the id. -/
theorem encrypt (h : Acquires X g appId ifa enabled t u c) :
    ∃ nonce, Ciphertext.encrypt X g.secret nonce ⟨X.uuid.hyphenated u⟩ = .ok c := by
  cases h with
  | unkeyed _ hencrypt => exact ⟨_, hencrypt⟩
  | found _ _ hencrypt _ _ => exact ⟨_, hencrypt⟩
  | missed _ _ hencrypt _ _ => exact ⟨_, hencrypt⟩

/-- The id is drawn, or it was found under the own entry. -/
theorem origin (h : Acquires X g appId ifa enabled t u c) :
    (⟨Call.newV4, u⟩ : Event Calls) ∈ t ∨
      ∃ a i answer, IfaMatching.storeKey X appId ifa enabled = some (a, i) ∧
        (⟨Call.query (.selectEntityId a i), answer⟩ : Event Calls) ∈ t ∧
        IfaMatching.foundIn answer = some u := by
  cases h with
  | unkeyed => exact Or.inl (by simp)
  | found hkey hanswer => exact Or.inr ⟨_, _, _, hkey, by simp, hanswer⟩
  | missed => exact Or.inl (by simp)

/-- With a key there is a lookup first and a write at the end, of the id that
was found or, after a miss, of the one drawn in between. -/
theorem exists_statements (h : Acquires X g appId ifa enabled t u c) {a i : Uuid}
    (hkey : IfaMatching.storeKey X appId ifa enabled = some (a, i)) :
    ∃ answer written before after,
      t = ⟨Call.query (.selectEntityId a i), answer⟩ :: before ++
        ⟨Call.query (.insertKnownIfa a i u), written⟩ :: after ∧
      ((IfaMatching.foundIn answer = some u ∧ ∀ d, (⟨Call.newV4, d⟩ : Event Calls) ∉ before) ∨
        (IfaMatching.foundIn answer = none ∧
          ∀ d, (⟨Call.newV4, d⟩ : Event Calls) ∈ before ↔ d = u)) ∧
      (∀ e ∈ before, ∀ statement, e.call ≠ Call.query statement) ∧
      ∀ e ∈ after, IfaMatching.IsReport e.call := by
  have hreport : ∀ {reports : List (Event Calls)}, (∀ e ∈ reports, IfaMatching.IsReport e.call) →
      ∀ {call : Call}, ¬ IfaMatching.IsReport call → ∀ e ∈ reports, e.call ≠ call := by
    intro reports hreports call hcall e he heq
    exact hcall (heq ▸ hreports e he)
  cases h with
  | unkeyed hnone => simp [hnone] at hkey
  | @found a' i' u nonce c answer written before after hkey' hanswer _ hbefore hafter =>
      obtain ⟨rfl, rfl⟩ : a' = a ∧ i' = i := by simpa [hkey'] using hkey
      refine ⟨answer, written, before ++ [⟨Call.fillNonce, nonce⟩], after, by simp,
        Or.inl ⟨hanswer, fun d hd => ?_⟩, fun e he statement => ?_, hafter⟩
      · rcases List.mem_append.mp hd with hd | hd
        · exact hreport hbefore (by simp [IfaMatching.IsReport]) _ hd rfl
        · simp at hd
      · rcases List.mem_append.mp he with he | he
        · exact hreport hbefore (by simp [IfaMatching.IsReport]) e he
        · simp [List.mem_singleton.mp he]
  | @missed a' i' u nonce c answer written before after hkey' hanswer _ hbefore hafter =>
      obtain ⟨rfl, rfl⟩ : a' = a ∧ i' = i := by simpa [hkey'] using hkey
      refine ⟨answer, written, before ++ [⟨Call.newV4, u⟩, ⟨Call.fillNonce, nonce⟩], after,
        by simp, Or.inr ⟨hanswer, fun d => ⟨fun hd => ?_, fun hd => by simp [hd]⟩⟩,
        fun e he statement => ?_, hafter⟩
      · rcases List.mem_append.mp hd with hd | hd
        · exact absurd rfl (hreport hbefore (by simp [IfaMatching.IsReport]) _ hd)
        · simpa using hd
      · rcases List.mem_append.mp he with he | he
        · exact hreport hbefore (by simp [IfaMatching.IsReport]) e he
        · rcases List.mem_pair.mp he with rfl | rfl <;> simp

/-- The statements made are the lookup of the own entry and the write of it, with
the id that is handed out. -/
theorem of_query_mem (h : Acquires X g appId ifa enabled t u c) {statement : Query}
    {answer : Except QueryError Frame}
    (he : (⟨Call.query statement, answer⟩ : Event Calls) ∈ t) :
    ∃ a i, IfaMatching.storeKey X appId ifa enabled = some (a, i) ∧
      (statement = .selectEntityId a i ∨ statement = .insertKnownIfa a i u) := by
  cases hkey : IfaMatching.storeKey X appId ifa enabled with
  | none =>
      cases h with
      | unkeyed => simp at he
      | found hsome => simp [hkey] at hsome
      | missed hsome => simp [hkey] at hsome
  | some key =>
      obtain ⟨_, written, before, after, rfl, _, hbefore, hafter⟩ := h.exists_statements hkey
      refine ⟨key.1, key.2, rfl, ?_⟩
      rcases List.mem_append.mp he with he | he
      · rcases List.mem_cons.mp he with hselect | he
        · exact Or.inl (Call.query.inj (congrArg Event.call hselect))
        · exact absurd rfl (hbefore _ he statement)
      · rcases List.mem_cons.mp he with hinsert | he
        · exact Or.inr (Call.query.inj (congrArg Event.call hinsert))
        · exact (hafter _ he).elim

end Acquires

section

variable (haead : X.aead.Documented) (huuid : X.uuid.Documented)

include haead huuid

variable {X g} in
/-- Encrypting an id made from a UUID stays inside the buffers. -/
theorem exists_encrypt_hyphenated (nonce : Nonce) (u : Uuid) :
    ∃ c, Ciphertext.encrypt X g.secret nonce ⟨X.uuid.hyphenated u⟩ = .ok c := by
  have hlength : (asBytes (Cleartext.mk (X.uuid.hyphenated u)).value).length ≤ 52 := by
    simp [huuid.length_hyphenated u]
  obtain ⟨sealed, hencrypt, _⟩ := encrypt_of_le g.secret haead nonce hlength
  exact ⟨_, hencrypt⟩

theorem runs_identityFor {found : Option Uuid} {t : List (Event Calls)} {r : Outcome DeviceId}
    (h : Runs (identityFor X g (found.map X.uuid.hyphenated)) t r) :
    ∃ u nonce c, Ciphertext.encrypt X g.secret nonce ⟨X.uuid.hyphenated u⟩ = .ok c ∧
      r = .returned ⟨c, ⟨X.uuid.hyphenated u⟩⟩ ∧
      ((found = some u ∧ t = [⟨Call.fillNonce, nonce⟩]) ∨
        (found = none ∧ t = [⟨Call.newV4, u⟩, ⟨Call.fillNonce, nonce⟩])) := by
  cases found with
  | none =>
      simp only [Option.map_none, identityFor, DeviceId.generate, perform, Program.perform,
        bind_eq_bind, call_bind, done_bind, runs_call_iff] at h
      obtain ⟨u, _, rfl, nonce, rest, rfl, h⟩ := h
      obtain ⟨c, hc⟩ := exists_encrypt_hyphenated (g := g) haead huuid nonce u
      simp only [hc, liftPanic_ok, done_bind, pure_eq_done, runs_done_iff] at h
      obtain ⟨rfl, rfl⟩ := h
      exact ⟨u, nonce, c, hc, rfl, Or.inr ⟨rfl, rfl⟩⟩
  | some u =>
      simp only [Option.map_some, identityFor, perform, Program.perform, bind_eq_bind, call_bind,
        done_bind, runs_call_iff] at h
      obtain ⟨nonce, rest, rfl, h⟩ := h
      obtain ⟨c, hc⟩ := exists_encrypt_hyphenated (g := g) haead huuid nonce u
      simp only [hc, liftPanic_ok, done_bind, pure_eq_done, runs_done_iff] at h
      obtain ⟨rfl, rfl⟩ := h
      exact ⟨u, nonce, c, hc, rfl, Or.inl ⟨rfl, rfl⟩⟩

/-- Every complete run of the blocking section is one of the three, and none
panics. -/
theorem runs_getId {appId : String} {ifa : Option String} {enabled : Bool}
    {t : List (Event Calls)} {r : Outcome DeviceId} (h : Runs (getId X g appId ifa enabled) t r) :
    ∃ u c, Acquires X g appId ifa enabled t u c ∧
      r = .returned ⟨c, ⟨X.uuid.hyphenated u⟩⟩ := by
  rw [getId] at h
  simp only [bind_eq_bind, pure_eq_done] at h
  rcases runs_bind_iff.mp h with ⟨found, lookup, rest, rfl, hlookup, hrest⟩ | ⟨hpanic, _⟩
  · obtain ⟨ofound, hfound, hlooked⟩ := IfaMatching.runs_getIdForIfa X hlookup
    cases hfound
    rcases runs_bind_iff.mp hrest with ⟨deviceId, drawn, rest, rfl, hdrawn, hrest⟩ | ⟨hpanic, _⟩
    · obtain ⟨u, nonce, c, hencrypt, hr, horigin⟩ := runs_identityFor X g haead huuid hdrawn
      cases hr
      have hparse := huuid.parseStr_hyphenated u
      rcases runs_bind_iff.mp hrest with ⟨result, write, last, rfl, hwrite, hlast⟩ | ⟨hpanic, _⟩
      · obtain ⟨rfl, rfl⟩ := runs_done_iff.mp hlast
        refine ⟨u, c, ?_, rfl⟩
        rw [List.append_nil]
        obtain ⟨_, hwritten⟩ := IfaMatching.runs_putIdForIfa X hwrite
        rcases hlooked with ⟨hkey, rfl, rfl⟩ | ⟨a, i, answer, reports, hkey, rfl, hreports, rfl⟩
        · rcases horigin with ⟨hfound, _⟩ | ⟨_, rfl⟩
          · simp at hfound
          · rcases hwritten with ⟨_, rfl⟩ | ⟨a, i, d, _, _, hkey', _⟩
            · exact .unkeyed hkey hencrypt
            · simp [hkey] at hkey'
        · rcases hwritten with ⟨hnone, rfl⟩ | ⟨a', i', d, written, after, hkey', hd, rfl, hafter⟩
          · simp [hkey, hparse] at hnone
          · obtain ⟨rfl, rfl⟩ : a = a' ∧ i = i' := by simpa [hkey] using hkey'
            obtain rfl : u = d := by simpa [hparse] using hd
            rcases horigin with ⟨hfound, rfl⟩ | ⟨hfound, rfl⟩
            · simpa using Acquires.found hkey hfound hencrypt hreports hafter
            · simpa using Acquires.missed hkey hfound hencrypt hreports hafter
      · obtain ⟨⟨_, hreturned⟩, _⟩ := IfaMatching.runs_putIdForIfa X hpanic
        cases hreturned
    · obtain ⟨_, _, _, _, hreturned, _⟩ := runs_identityFor X g haead huuid hpanic
      cases hreturned
  · obtain ⟨_, hreturned, _⟩ := IfaMatching.runs_getIdForIfa X hpanic
    cases hreturned

end

/-! ## Whole registrations -/

/-- The token a registration hands out: the one its request sent, or the
application's own as the table has it at that moment. -/
inductive TokenRead (sent : Option String) (appId : String) :
    List (Event Calls) → Option String → Prop
  | sent {s : String} (h : sent = some s) : TokenRead sent appId [] (some s)
  | own (apps : HashMap String Application) (h : sent = none) :
      TokenRead sent appId [⟨Call.loadApps, apps⟩] ((apps appId).bind Application.token)

/-- Reading the token at most loads the table. -/
theorem TokenRead.loads {sent token : Option String} {appId : String} {t : List (Event Calls)}
    (h : TokenRead sent appId t token) : ∀ e ∈ t, e.call = Call.loadApps := by
  cases h <;> simp

theorem runs_withToken {context : Context} {t : List (Event Calls)} {r : Outcome Context}
    (h : Runs (withToken g context) t r) :
    ∃ token, TokenRead context.apiToken context.appId t token ∧
      r = .returned { context with apiToken := token } := by
  rw [withToken] at h
  cases htoken : context.apiToken with
  | some s =>
      simp only [htoken, pure_eq_done, runs_done_iff] at h
      obtain ⟨rfl, rfl⟩ := h
      exact ⟨some s, .sent rfl, by rw [← htoken]⟩
  | none =>
      simp only [htoken, perform, Program.perform, bind_eq_bind, call_bind, done_bind,
        pure_eq_done, runs_call_iff, runs_done_iff] at h
      obtain ⟨apps, rest, rfl, rfl, rfl⟩ := h
      exact ⟨_, .own apps rfl, rfl⟩

/-- The runs of a registration that succeed, with the device id and the token
they hand out. -/
inductive Registers (context : Context) (event : SDKEventBatch) :
    List (Event Calls) → DeviceId → Option String → Prop
  | known {deviceId : DeviceId} {token : Option String} {t : List (Event Calls)}
      (hknown : context.deviceId = some deviceId)
      (htoken : TokenRead context.apiToken context.appId t token) :
      Registers context event t deviceId token
  | acquired {deviceId : DeviceId} {token : Option String} {get t : List (Event Calls)}
      (hunknown : context.deviceId = none)
      (hget : Runs (getId X g context.appId event.device.ifa event.device.ifaTrackingEnabled)
        get (.returned deviceId))
      (htoken : TokenRead context.apiToken context.appId t token) :
      Registers context event (⟨Call.blocking, .ok ()⟩ :: get ++ t) deviceId token

/-- The context a registration leaves behind. -/
def registered (context : Context) (deviceId : DeviceId) (token : Option String) : Context :=
  { context with deviceId := some deviceId, apiToken := token }

/-- What a registration answers. -/
def registrationResults (eventId : String) (deviceId : DeviceId) (token : Option String) :
    List EventResult :=
  [EventResult.register eventId .success token deviceId.ciphertext]

/-- A registration succeeds, is refused its blocking section, or panics inside
it. -/
theorem runs_createNewDevice {context : Context} {event : SDKEventBatch} {eventId : String}
    {t : List (Event Calls)}
    {r : Outcome (Except GatewayError (List EventResult × Context × SDKEventBatch))}
    (h : Runs (createNewDevice X g context event eventId) t r) :
    (∃ deviceId token, Registers X g context event t deviceId token ∧
        r = .returned (.ok (registrationResults eventId deviceId token,
          registered context deviceId token, event))) ∨
      context.deviceId = none ∧
        ((∃ e, t = [⟨Call.blocking, .error e⟩] ∧
            r = .returned (.error (.serviceUnavailable "Aerospike is acting slow today"))) ∨
          ∃ get, t = ⟨Call.blocking, .ok ()⟩ :: get ∧ r = .panicked ∧
            Runs (getId X g context.appId event.device.ifa event.device.ifaTrackingEnabled)
              get .panicked) := by
  rw [createNewDevice, fetchId] at h
  cases hdevice : context.deviceId with
  | some deviceId =>
      simp only [hdevice, pure_eq_done, bind_eq_bind, done_bind, Option.isNone_some,
        Bool.false_eq_true, if_false] at h
      rcases runs_bind_iff.mp h with ⟨_, tokenRead, rest, rfl, htoken, hrest⟩ | ⟨hpanic, _⟩
      · obtain ⟨rfl, rfl⟩ := runs_done_iff.mp hrest
        obtain ⟨token, hread, hreturned⟩ := runs_withToken g htoken
        obtain rfl := Outcome.returned.inj hreturned
        rw [List.append_nil]
        exact Or.inl ⟨deviceId, token, .known hdevice hread, by
          rw [registered, registrationResults, hdevice]⟩
      · obtain ⟨_, _, hreturned⟩ := runs_withToken g hpanic
        cases hreturned
  | none =>
      simp only [hdevice, perform, Program.perform, pure_eq_done, bind_eq_bind, call_bind,
        done_bind, Option.isNone_none, if_true, runs_call_iff] at h
      obtain ⟨answer, rest, rfl, h⟩ := h
      cases answer with
      | error e =>
          obtain ⟨rfl, rfl⟩ := runs_done_iff.mp h
          exact Or.inr ⟨rfl, Or.inl ⟨e, rfl, rfl⟩⟩
      | ok _ =>
          simp only [bind_assoc, done_bind] at h
          rcases runs_bind_iff.mp h with ⟨deviceId, get, rest, rfl, hget, hrest⟩ | ⟨hpanic, rfl⟩
          · rcases runs_bind_iff.mp hrest with
              ⟨_, tokenRead, rest, rfl, htoken, hdone⟩ | ⟨hpanic, _⟩
            · obtain ⟨rfl, rfl⟩ := runs_done_iff.mp hdone
              obtain ⟨token, hread, hreturned⟩ := runs_withToken g htoken
              obtain rfl := Outcome.returned.inj hreturned
              rw [List.append_nil]
              exact Or.inl ⟨deviceId, token, .acquired hdevice hget hread, rfl⟩
            · obtain ⟨_, _, hreturned⟩ := runs_withToken g hpanic
              cases hreturned
          · exact Or.inr ⟨rfl, Or.inr ⟨rest, rfl, rfl, hpanic⟩⟩

end Gateway

end XorcGateway
