/-
# Under which nonce an id is sealed

AES-GCM keeps its promises only while no nonce seals twice under one key. A text a
request is handed is the one it brought, or the request has sealed it itself, under
the one nonce it drew. So while no nonce is drawn twice, every text handed out for
the first time has a nonce of its own, and with it every session its own text. With
ids that are not drawn twice either, devices that were new share no Kafka key.
-/

import XorcGateway.Properties.Sessions

namespace XorcGateway

open Effects Events Rust Program

/-- The nonce of a text: what its first twelve bytes are. -/
def Ciphertext.nonceOf (X : Crates) (c : Ciphertext) : Option (List UInt8) :=
  (X.base64.decode (asBytes c.value)).map (List.take 12)

theorem Ciphertext.nonceOf_encrypt {X : Crates} {secret : SecretKey} (haead : X.aead.Documented)
    (hbase64 : X.base64.Documented) {nonce : Nonce} {cleartext : Cleartext} {c : Ciphertext}
    (hlength : (asBytes cleartext.value).length ≤ 52)
    (h : Ciphertext.encrypt X secret nonce cleartext = .ok c) : c.nonceOf X = some nonce.1 := by
  obtain ⟨sealed, hencrypt, _⟩ := encrypt_of_le secret haead nonce hlength
  rw [hencrypt] at h
  obtain rfl := Except.ok.inj h
  rw [nonceOf, hbase64.decode_encode, Option.map_some, List.take_left' nonce.2]

/-- Keys of ids of one length are the same for one application and id only. -/
theorem FutureRecord.IsFor.key_eq_iff {record record' : FutureRecord} {d d' : Cleartext}
    (h : record.IsFor d) (h' : record'.IsFor d')
    (hlength : (asBytes d.value).length = (asBytes d'.value).length) :
    record.key = record'.key ↔
      record.payload.header.source = record'.payload.header.source ∧ d = d' := by
  simp only [h.key, h'.key, Option.some.injEq, asBytes_append]
  constructor
  · intro hkey
    obtain ⟨hsource, hid⟩ := List.append_inj' hkey hlength
    rw [List.append_left_inj, asBytes_inj] at hsource
    refine ⟨hsource, ?_⟩
    cases d
    cases d'
    rw [Cleartext.mk.injEq]
    exact asBytes_inj.mp hid
  · rintro ⟨hsource, rfl⟩
    rw [hsource]

/-- The calls have drawn the nonce the text is sealed under, and no other id than
the one sealed in it. -/
structure Seals (X : Crates) (g : Gateway.Globals) (t : List (Event Calls)) (nonce : Nonce)
    (u : Uuid) (c : Ciphertext) : Prop where
  nonce_drawn : (⟨Call.fillNonce, nonce⟩ : Event Calls) ∈ t
  encrypt : Ciphertext.encrypt X g.secret nonce ⟨X.uuid.hyphenated u⟩ = .ok c
  id_drawn : ∀ v, (⟨Call.newV4, v⟩ : Event Calls) ∈ t → v = u

namespace Gateway

variable {X : Crates} {g : Globals}

/-- An id that is acquired is sealed by the request. -/
theorem Acquires.seals {appId : String} {ifa : Option String} {enabled : Bool}
    {t : List (Event Calls)} {u : Uuid} {c : Ciphertext}
    (h : Acquires X g appId ifa enabled t u c) : ∃ nonce, Seals X g t nonce u c := by
  have hreport : ∀ {reports : List (Event Calls)}, (∀ e ∈ reports, IfaMatching.IsReport e.call) →
      ∀ v, (⟨Call.newV4, v⟩ : Event Calls) ∉ reports := fun hreports v hv => hreports _ hv
  cases h with
  | unkeyed _ hencrypt => exact ⟨_, by simp, hencrypt, by simp⟩
  | found _ _ hencrypt hbefore hafter =>
      refine ⟨_, by simp, hencrypt, fun v hv => ?_⟩
      simp [hreport hbefore, hreport hafter] at hv
  | missed _ _ hencrypt hbefore hafter =>
      refine ⟨_, by simp, hencrypt, fun v hv => ?_⟩
      simpa [hreport hbefore, hreport hafter] using hv

/-- What a request without an id is handed, it has sealed before it published. -/
theorem Publication.seals (hX : X.DocumentedIds) {incoming : Incoming}
    (p : Publication X g incoming)
    (hnone : Context.deviceIdOf X g.secret incoming.headers = .ok none) {data : RegistrationData}
    (hdata : data ∈ p.results.filterMap EventResult.registrationData) :
    ∃ nonce u, Seals X g p.before nonce u data.deviceId := by
  have hunknown : p.context.deviceId = none := by
    obtain ⟨_, hread, hcontext⟩ := Context.new_eq_ok_iff.mp p.accepts.context_new
    rw [hcontext]
    exact Except.ok.inj (hread.symm.trans hnone)
  obtain ⟨d, hregisters, _⟩ := p.registers_of_mem hdata
  rw [before]
  generalize p.pre = pre at hregisters ⊢
  cases hregisters with
  | known hknown _ =>
      rw [hunknown] at hknown
      cases hknown
  | @acquired _ _ get last _ hget htoken =>
      obtain ⟨u, c, hacquires, hreturned⟩ := runs_getId X g hX.aead hX.uuid hget
      cases Outcome.returned.inj hreturned
      obtain ⟨nonce, hseals⟩ := hacquires.seals
      refine ⟨nonce, u, by simp [hseals.nonce_drawn], hseals.encrypt, fun v hv => ?_⟩
      have hloads : (⟨Call.newV4, v⟩ : Event Calls) ∉ last := by
        intro hmem
        cases htoken.loads _ hmem
      exact hseals.id_drawn v (by simpa [hloads] using hv)

end Gateway

/-! ## Runs -/

/-- The id a call draws. -/
def drawnUuid : Event ServiceCalls → Option Uuid
  | ⟨.inl .newV4, u⟩ => some u
  | _ => none

theorem eq_newV4_of_drawnUuid {e : Event ServiceCalls} {u : Uuid} (h : drawnUuid e = some u) :
    e = ⟨.inl .newV4, u⟩ := by
  obtain ⟨c | _, answer⟩ := e
  · cases c with
    | newV4 =>
        cases h
        rfl
    | _ => cases h
  · cases h

/-- The nonce a call draws. -/
def drawnNonce : Event ServiceCalls → Option Nonce
  | ⟨.inl .fillNonce, nonce⟩ => some nonce
  | _ => none

/-- No nonce is drawn twice. -/
abbrev FreshNonces {ι : Type} (history : List (ι × Event ServiceCalls)) : Prop :=
  (history.filterMap fun x => drawnNonce x.2).Nodup

/-- No id and no nonce is drawn twice. -/
structure FreshDraws {ι : Type} (history : List (ι × Event ServiceCalls)) : Prop where
  ids : (history.filterMap fun x => drawnUuid x.2).Nodup
  nonces : FreshNonces history

/-- The request has drawn the nonce the text is sealed under, and no other id than
the one sealed in it. -/
structure SealedBy {ι : Type} (X : Crates) (g : Gateway.Globals)
    (history : List (ι × Event ServiceCalls)) (j : ι) (nonce : Nonce) (u : Uuid)
    (c : Ciphertext) : Prop where
  nonce_drawn : (j, (⟨.inl .fillNonce, nonce⟩ : Event ServiceCalls)) ∈ history
  encrypt : Ciphertext.encrypt X g.secret nonce ⟨X.uuid.hyphenated u⟩ = .ok c
  id_drawn : ∀ v, (j, (⟨.inl .newV4, v⟩ : Event ServiceCalls)) ∈ history → v = u

section

variable {ι : Type} {X : Crates} {g : Gateway.Globals} {history : List (ι × Event ServiceCalls)}
  {j j' : ι} {nonce nonce' : Nonce} {u u' : Uuid} {c c' : Ciphertext}

/-- It opens to that id, and its nonce is that nonce. -/
theorem SealedBy.decrypt (h : SealedBy X g history j nonce u c) (hX : X.DocumentedIds) :
    Cleartext.decrypt X g.secret c = .ok (.ok ⟨X.uuid.hyphenated u⟩) :=
  decrypt_encrypt_of_length hX.aead hX.base64 (hX.uuid.length_hyphenated u) h.encrypt

theorem SealedBy.nonceOf (h : SealedBy X g history j nonce u c) (hX : X.DocumentedIds) :
    c.nonceOf X = some nonce.1 :=
  Ciphertext.nonceOf_encrypt hX.aead hX.base64 (by simp [hX.uuid.length_hyphenated u]) h.encrypt

/-- With fresh nonces, one nonce is one request's. -/
theorem SealedBy.thread_unique (hX : X.DocumentedIds) (hfresh : FreshNonces history)
    (h : SealedBy X g history j nonce u c) (h' : SealedBy X g history j' nonce' u' c')
    (hnonce : c.nonceOf X = c'.nonceOf X) : j = j' := by
  rw [h.nonceOf hX, h'.nonceOf hX] at hnonce
  obtain rfl := Subtype.ext (Option.some.inj hnonce)
  exact Pool.thread_unique hfresh h.nonce_drawn h'.nonce_drawn rfl rfl

end

section

variable {ι σ : Type} [DecidableEq ι] {X : Crates} {g : Gateway.Globals} {encoder : TextEncoder}
  {W : World ServiceCalls σ} {requests : ι → HttpRequest}
  {P Q : Pool ServiceCalls ι σ Response} {history : List (ι × Event ServiceCalls)}
  (hthreads : ∀ j, P.threads j = Gateway.service X g encoder (requests j))
  (hrun : Pool.Run W P history Q) (hX : X.DocumentedIds)

include hthreads hrun hX

/-- What a request without an id is handed, it has sealed. -/
theorem HandedTo.sealedBy {j : ι} {c : Ciphertext} (h : HandedTo Q j c)
    (hnone : Context.deviceIdOf X g.secret (requests j).incoming.headers = .ok none) :
    ∃ nonce u, SealedBy X g history j nonce u c := by
  obtain ⟨p, delivery, last, hown, hlast, data, hdata, rfl⟩ :=
    h.exists_publication hthreads hrun
  obtain ⟨nonce, u, hseals⟩ := p.seals hX hnone hdata
  refine ⟨nonce, u, ?_, hseals.encrypt, fun v hv => ?_⟩
  · rw [← Pool.mem_own_iff, hown]
    exact List.mem_map_of_mem (f := Event.left) (List.mem_append_left _ hseals.nonce_drawn)
  · rw [← Pool.mem_own_iff, hown] at hv
    obtain ⟨⟨call, answer⟩, hmem, heq⟩ := List.mem_map.mp hv
    cases heq
    rcases List.mem_append.mp hmem with hmem | hmem
    · exact hseals.id_drawn _ hmem
    · rcases List.mem_cons.mp hmem with hsend | hmem
      · cases hsend
      · exact absurd trivial (hlast _ hmem).1

/-- What a request is handed it has brought, or sealed. -/
theorem HandedTo.brought_or_sealed {j : ι} {c : Ciphertext} (h : HandedTo Q j c) :
    (∃ d, Context.deviceIdOf X g.secret (requests j).incoming.headers = .ok (some ⟨c, d⟩)) ∨
      Context.deviceIdOf X g.secret (requests j).incoming.headers = .ok none ∧
        ∃ nonce u, SealedBy X g history j nonce u c := by
  obtain ⟨p, _, _, _, _, data, hdata, hhanded⟩ := h.exists_publication hthreads hrun
  obtain ⟨read, hread, _⟩ := Context.new_eq_ok_iff.mp p.accepts.context_new
  cases read with
  | none => exact Or.inr ⟨hread, h.sealedBy hthreads hrun hX hread⟩
  | some deviceId =>
      obtain rfl := hhanded.symm.trans ((p.of_brought hread).2 data hdata)
      exact Or.inl ⟨deviceId.cleartext, hread⟩

/-- In every run of any HTTP requests, in any interleaving and any world: what a
request is handed is the text it brought, or it has sealed it under a nonce it drew
itself; and while no nonce is drawn twice, no two requests that brought no id are
handed texts with the same nonce. -/
theorem nonces_used_once :
    (∀ j c, HandedTo Q j c →
      (∃ d, Context.deviceIdOf X g.secret (requests j).incoming.headers = .ok (some ⟨c, d⟩)) ∨
        Context.deviceIdOf X g.secret (requests j).incoming.headers = .ok none ∧
          ∃ nonce u, SealedBy X g history j nonce u c) ∧
    (FreshNonces history → ∀ j j' c c', HandedTo Q j c → HandedTo Q j' c' →
      Context.deviceIdOf X g.secret (requests j).incoming.headers = .ok none →
      Context.deviceIdOf X g.secret (requests j').incoming.headers = .ok none →
      c.nonceOf X = c'.nonceOf X → j = j') := by
  constructor
  · exact fun j c hhanded => hhanded.brought_or_sealed hthreads hrun hX
  · intro hfresh j j' c c' hhanded hhanded' hnone hnone' hnonce
    obtain ⟨_, _, hsealed⟩ := hhanded.sealedBy hthreads hrun hX hnone
    obtain ⟨_, _, hsealed'⟩ := hhanded'.sealedBy hthreads hrun hX hnone'
    exact hsealed.thread_unique hX hfresh hsealed' hnonce

/-- In every run of any HTTP requests, in any interleaving and any world, two
sessions that begin with requests without an id: their records share a Kafka key
exactly if they are for one application and one id. While no nonce and no id is drawn
twice, no request is in both sessions, and if both first requests drew their ids, the
ids are different. -/
theorem sessions_separate (hhttp : X.http.Documented) {start start' : ι} {c c' : Ciphertext}
    (hstart : HandedTo Q start c) (hstart' : HandedTo Q start' c')
    (hnone : Context.deviceIdOf X g.secret (requests start).incoming.headers = .ok none)
    (hnone' : Context.deviceIdOf X g.secret (requests start').incoming.headers = .ok none) :
    ∃ d d', Cleartext.decrypt X g.secret c = .ok (.ok d) ∧
      Cleartext.decrypt X g.secret c' = .ok (.ok d') ∧
      (∀ j j' record record' answer answer',
        Session requests Q start j → Session requests Q start' j' →
        (j, (⟨.inl (.send record), answer⟩ : Event ServiceCalls)) ∈ history →
        (j', (⟨.inl (.send record'), answer'⟩ : Event ServiceCalls)) ∈ history →
        (record.key = record'.key ↔
          record.payload.header.source = record'.payload.header.source ∧ d = d')) ∧
      (FreshDraws history → start ≠ start' →
        (∀ j, Session requests Q start j → ¬ Session requests Q start' j) ∧
        ∀ v v', (start, (⟨.inl .newV4, v⟩ : Event ServiceCalls)) ∈ history →
          (start', (⟨.inl .newV4, v'⟩ : Event ServiceCalls)) ∈ history → d ≠ d') := by
  obtain ⟨nonce, u, hsealed⟩ := hstart.sealedBy hthreads hrun hX hnone
  obtain ⟨nonce', u', hsealed'⟩ := hstart'.sealedBy hthreads hrun hX hnone'
  obtain ⟨d, hdecrypt, hspec⟩ := Session.speaksFor hthreads hrun hhttp hX hstart
  obtain ⟨d', hdecrypt', hspec'⟩ := Session.speaksFor hthreads hrun hhttp hX hstart'
  have hd : d = ⟨X.uuid.hyphenated u⟩ :=
    Except.ok.inj (Except.ok.inj (hdecrypt.symm.trans (hsealed.decrypt hX)))
  have hd' : d' = ⟨X.uuid.hyphenated u'⟩ :=
    Except.ok.inj (Except.ok.inj (hdecrypt'.symm.trans (hsealed'.decrypt hX)))
  refine ⟨d, d', hdecrypt, hdecrypt', ?_, fun hfresh hne => ⟨?_, ?_⟩⟩
  · intro j j' record record' answer answer' hsession hsession' hsent hsent'
    have hlength : (asBytes d.value).length = (asBytes d'.value).length := by
      rw [hd, hd', hX.uuid.length_hyphenated, hX.uuid.length_hyphenated]
    exact ((hspec j hsession).1.published _ _ hsent).key_eq_iff
      ((hspec' j' hsession').1.published _ _ hsent') hlength
  · intro j hsession hsession'
    rcases (hspec j hsession).2 with rfl | hbrought
    · rcases (hspec' j hsession').2 with heq | hbrought'
      · exact hne heq
      · rw [hnone] at hbrought'
        cases hbrought'
    · rcases (hspec' j hsession').2 with rfl | hbrought'
      · rw [hnone'] at hbrought
        cases hbrought
      · -- what the request brought is the text of both
        have hsame := hbrought.symm.trans hbrought'
        simp only [Except.ok.injEq, Option.some.injEq, DeviceId.mk.injEq] at hsame
        obtain ⟨rfl, _⟩ := hsame
        exact hne (hsealed.thread_unique hX hfresh.nonces hsealed' rfl)
  · intro v v' hdrawn hdrawn' hsame
    obtain rfl := hsealed.id_drawn v hdrawn
    obtain rfl := hsealed'.id_drawn v' hdrawn'
    rw [hd, hd', Cleartext.mk.injEq] at hsame
    have hparsed := hX.uuid.parseStr_hyphenated v
    rw [hsame, hX.uuid.parseStr_hyphenated v', Option.some.injEq] at hparsed
    exact hne (Pool.thread_unique hfresh.ids hdrawn hdrawn' rfl (congrArg some hparsed))

end

namespace Reference

/-- A device that has never been here. -/
def newDevice : HttpRequest where
  method := .post
  path := "/xray/events/xorc/sdk/v1"
  incoming := post registerBody []

/-- What is drawn for each of two of them. -/
def drawing (j : Bool) : Replies :=
  { working with
    uuid := if j then 1 else 0
    nonce := ⟨List.replicate 12 (if j then 1 else 0), by simp⟩ }

def registeredBy (j : Bool) : List (Event Calls) × Outcome Response :=
  handledBy globals newDevice.incoming (drawing j)

/-- Their registrations, one after the other. -/
def twoRegistrations : List (Bool × Event ServiceCalls) :=
  ((registeredBy false).1.map Event.left).map (Prod.mk false) ++
    ((registeredBy true).1.map Event.left).map (Prod.mk true)

theorem freshDraws_twoRegistrations : FreshDraws twoRegistrations :=
  ⟨by decide +kernel, by decide +kernel⟩

theorem exists_drawn (j : Bool) :
    ∃ v, (j, (⟨.inl .newV4, v⟩ : Event ServiceCalls)) ∈ twoRegistrations := by
  have hany : (twoRegistrations.any fun x => x.1 == j && (drawnUuid x.2).isSome) = true := by
    cases j <;> decide +kernel
  obtain ⟨⟨j', e⟩, hmem, hdrawn⟩ := List.any_eq_true.mp hany
  rw [Bool.and_eq_true, beq_iff_eq, Option.isSome_iff_exists] at hdrawn
  obtain ⟨rfl, v, hv⟩ := hdrawn
  exact ⟨v, eq_newV4_of_drawnUuid hv ▸ hmem⟩

theorem exists_handed_newDevice (j : Bool) : ∃ response data,
    (registeredBy j).2 = .returned response ∧ data ∈ response.registrationData :=
  exists_handed (by cases j <;> decide +kernel)

/-- Both have been handed a text. -/
theorem exists_twoRegistrations_run :
    ∃ (P Q : Pool ServiceCalls Bool MetricFamilies Response) (c c' : Ciphertext),
      (∀ j, P.threads j = Gateway.service crates globals encoder newDevice) ∧
      Pool.Run countersWorld P twoRegistrations Q ∧ HandedTo Q false c ∧ HandedTo Q true c' := by
  let threads : Bool → Program ServiceCalls Response := fun _ =>
    Gateway.service crates globals encoder newDevice
  have hthreads : ∀ j, threads j = Gateway.service crates globals encoder newDevice :=
    fun _ => rfl
  have hruns : ∀ j, Runs (threads j) ((registeredBy j).1.map Event.left) (registeredBy j).2 :=
    fun j => runs_service globals (drawing j) rfl
  clear_value threads
  obtain ⟨response, data, hresponse, hdata⟩ := exists_handed_newDevice false
  obtain ⟨response', data', hresponse', hdata'⟩ := exists_handed_newDevice true
  rw [twoRegistrations]
  generalize registeredBy = registeredBy at hruns hresponse hresponse' ⊢
  have hrun : Pool.Run countersWorld ⟨fun _ => 0, threads⟩ _ ⟨_, _⟩ :=
    Pool.run_two_threads (show true ≠ false by decide) (hruns false) (hruns true)
      (evolves_countersWorld (fun _ => 0) _) (evolves_countersWorld _ _)
  exact ⟨_, _, data.deviceId, data'.deviceId, hthreads, hrun,
    ⟨response, data, by simp [hresponse], hdata, rfl⟩,
    response', data', by simp [hresponse'], hdata', rfl⟩

theorem deviceIdOf_newDevice :
    Context.deviceIdOf crates globals.secret newDevice.incoming.headers = .ok none := rfl

end Reference

/-- Two devices that register have texts with different nonces. -/
theorem new_devices_sealed_apart :
    ∃ (P Q : Pool ServiceCalls Bool MetricFamilies Response) (history : _) (c c' : Ciphertext),
      Pool.Run countersWorld P history Q ∧ HandedTo Q false c ∧ HandedTo Q true c' ∧
      c.nonceOf Reference.crates ≠ c'.nonceOf Reference.crates := by
  obtain ⟨P, Q, c, c', hthreads, hrun, hhanded, hhanded'⟩ := Reference.exists_twoRegistrations_run
  refine ⟨P, Q, _, c, c', hrun, hhanded, hhanded', fun hnonce => ?_⟩
  exact absurd ((nonces_used_once hthreads hrun Reference.crates_documentedIds).2
    Reference.freshDraws_twoRegistrations.nonces false true c c' hhanded hhanded'
    Reference.deviceIdOf_newDevice Reference.deviceIdOf_newDevice hnonce) (by decide)

/-- And ids that are different. -/
theorem new_devices_separate :
    ∃ (P Q : Pool ServiceCalls Bool MetricFamilies Response) (history : _) (c c' : Ciphertext)
      (d d' : Cleartext),
      Pool.Run countersWorld P history Q ∧ HandedTo Q false c ∧ HandedTo Q true c' ∧
      Cleartext.decrypt Reference.crates Reference.secret c = .ok (.ok d) ∧
      Cleartext.decrypt Reference.crates Reference.secret c' = .ok (.ok d') ∧ d ≠ d' := by
  obtain ⟨P, Q, c, c', hthreads, hrun, hhanded, hhanded'⟩ := Reference.exists_twoRegistrations_run
  obtain ⟨v, hv⟩ := Reference.exists_drawn false
  obtain ⟨v', hv'⟩ := Reference.exists_drawn true
  obtain ⟨d, d', hdecrypt, hdecrypt', _, hapart⟩ := sessions_separate hthreads hrun
    Reference.crates_documentedIds Reference.http_documented hhanded hhanded'
    Reference.deviceIdOf_newDevice Reference.deviceIdOf_newDevice
  exact ⟨P, Q, _, c, c', d, d', hrun, hhanded, hhanded', hdecrypt, hdecrypt',
    (hapart Reference.freshDraws_twoRegistrations (by decide)).2 v v' hv hv'⟩

end XorcGateway
