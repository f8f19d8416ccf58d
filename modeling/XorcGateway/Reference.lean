/-
# A reference implementation of the libraries

The parameters of the model, filled in: header text, base64, AES-256-GCM, UUIDs
and hexadecimal secrets as the libraries document them, each with the proof that
it meets the documented facts the results assume. Body parsing is given for the
bodies below only; everything about addresses is left at its refusal, and so is
the signature check of the gateways that do without it.
-/

import Mathlib.Data.List.Sort
import XorcGateway.Codec.Aes
import XorcGateway.Codec.Base64
import XorcGateway.Codec.Gcm
import XorcGateway.Codec.Hex
import XorcGateway.Codec.Sha512
import XorcGateway.Registry.Refresh
import XorcGateway.Semantics.Store

namespace XorcGateway.Reference

open Effects Events Rust

/-! ## Headers -/

def http : Http where
  toStr value :=
    if value.bytes.all isVisibleAscii then some (.ofList (value.bytes.map asciiChar)) else none
  fromStr s := if h : (asBytes s).all isHeaderByte then some (.fromStatic s h) else none

theorem isHeaderByte_of_isVisibleAscii {b : UInt8} (h : isVisibleAscii b) : isHeaderByte b := by
  simp only [isVisibleAscii, isHeaderByte, Bool.or_eq_true, Bool.and_eq_true, decide_eq_true_eq,
    beq_iff_eq, bne_iff_ne] at h ⊢
  refine h.imp_left fun hrange => ⟨hrange.1, ?_⟩
  intro hdel
  rw [hdel] at hrange
  exact absurd hrange.2 (by decide)

theorem toStr_eq (value : HeaderValue) : http.toStr value =
    if value.bytes.all isVisibleAscii then some (.ofList (value.bytes.map asciiChar))
    else none := rfl

theorem http_documented : http.Documented where
  toStr_eq_some_iff value s := by
    have htext : ∀ hvisible : ∀ b ∈ value.bytes, isVisibleAscii b,
        asBytes (.ofList (value.bytes.map asciiChar)) = value.bytes := fun hvisible =>
      asBytes_ofList_ascii fun b hb => lt_of_isVisibleAscii (hvisible b hb)
    rw [toStr_eq, Option.ite_none_right_eq_some, Option.some.injEq, List.all_eq_true]
    refine and_congr_right fun hvisible => ?_
    rw [← asBytes_inj, htext hvisible, eq_comm]
  fromStr_eq_some s hvisible :=
    ⟨_, dif_pos (List.all_eq_true.mpr fun b hb =>
      isHeaderByte_of_isVisibleAscii (hvisible b hb)), rfl⟩

/-! ## Sealed text -/

def base64 : XorcGateway.Base64 where
  encode bytes := .ofList ((Codec.Base64.encode bytes).map asciiChar)
  decode := Codec.Base64.decode

theorem asBytes_encode (bytes : List UInt8) :
    asBytes (base64.encode bytes) = Codec.Base64.encode bytes :=
  asBytes_ofList_ascii fun b hb =>
    UInt8.lt_trans (Codec.Base64.encode_visible bytes b hb).2 (by decide)

theorem base64_documented : base64.Documented where
  decode_encode bytes := by
    rw [asBytes_encode]
    exact Codec.Base64.decode_encode bytes
  encode_visible bytes b hb := by
    rw [asBytes_encode] at hb
    simp [isVisibleAscii, Codec.Base64.encode_visible bytes b hb]

/-- AES-256-GCM, which insists on its key and nonce lengths and on a suffix for
exactly the tag. -/
def aead : Aead where
  sealInPlace key nonce ad inOut suffixCapacity :=
    if key.length = 32 ∧ nonce.length = 12 ∧ suffixCapacity = 16 ∧ 16 ≤ inOut.length then
      some (Codec.Gcm.sealText (Codec.Aes.encipher key) nonce ad (inOut.take (inOut.length - 16)))
    else none
  openInPlace key nonce ad inPrefixLen inOut :=
    if key.length = 32 ∧ nonce.length = 12 then
      Codec.Gcm.openText (Codec.Aes.encipher key) nonce ad (inOut.drop inPrefixLen)
    else none

theorem aead_documented : aead.Documented where
  seal_open key nonce buffer hkey hnonce hbuffer _ := by
    refine ⟨_, if_pos ⟨hkey, hnonce, rfl, hbuffer⟩, ?_, ?_⟩
    · rw [Codec.Gcm.length_sealText, List.length_take]
      omega
    · exact (if_pos ⟨hkey, hnonce⟩).trans (Codec.Gcm.openText_sealText ..)

/-! ## Identifiers -/

/-- The digits in each group of a hyphenated UUID. -/
def uuidGroups : List ℕ := [8, 4, 4, 4, 12]

def hyphen : UInt8 := 45

/-- A UUID in any of its three forms: digits only, hyphenated, or as a URN. -/
def parseUuid (text : List UInt8) : Option Uuid :=
  let text := if text.length = 45 ∧ text.take 9 = asBytes "urn:uuid:" then text.drop 9 else text
  let digits :=
    if text.length = 32 then some text
    else if text.length = 36 then Codec.Hex.split hyphen uuidGroups text
    else none
  (digits.bind Codec.Hex.decode).map (BitVec.ofNat 128)

def hyphenatedUuid (u : Uuid) : List UInt8 :=
  Codec.Hex.join hyphen uuidGroups (Codec.Hex.encode 32 u.toNat)

theorem length_digits (u : Uuid) : (Codec.Hex.encode 32 u.toNat).length = uuidGroups.sum := by
  rw [Codec.Hex.length_encode]
  rfl

theorem length_hyphenatedUuid (u : Uuid) : (hyphenatedUuid u).length = 36 := by
  rw [hyphenatedUuid, Codec.Hex.length_join _ _ _ (length_digits u), length_digits]
  rfl

theorem hyphenatedUuid_lt (u : Uuid) : ∀ b ∈ hyphenatedUuid u, b < 128 := by
  intro b hb
  rcases Codec.Hex.mem_join hb with rfl | hb
  · decide
  · exact Codec.Hex.encode_lt _ _ b hb

theorem parseUuid_hyphenatedUuid (u : Uuid) : parseUuid (hyphenatedUuid u) = some u := by
  have hlength := length_hyphenatedUuid u
  have hsplit : Codec.Hex.split hyphen uuidGroups (hyphenatedUuid u) =
      some (Codec.Hex.encode 32 u.toNat) :=
    Codec.Hex.split_join _ _ _ (length_digits u)
  have hdecode : Codec.Hex.decode (Codec.Hex.encode 32 u.toNat) = some u.toNat :=
    Codec.Hex.decode_encode (Nat.lt_of_lt_of_le u.isLt (by decide))
  simp [parseUuid, hlength, hsplit, hdecode]

def uuid : UuidText where
  parseStr s := parseUuid (asBytes s)
  hyphenated u := .ofList ((hyphenatedUuid u).map asciiChar)

theorem parseStr_eq (s : String) : uuid.parseStr s = parseUuid (asBytes s) := rfl

theorem asBytes_hyphenated (u : Uuid) : asBytes (uuid.hyphenated u) = hyphenatedUuid u :=
  asBytes_ofList_ascii (hyphenatedUuid_lt u)

theorem uuid_documented : uuid.Documented where
  parseStr_hyphenated u := by rw [parseStr_eq, asBytes_hyphenated, parseUuid_hyphenatedUuid]
  length_hyphenated u := by rw [asBytes_hyphenated, length_hyphenatedUuid]

/-! ## Request bodies -/

/-- The application all bodies are sent for. -/
def appId : String := "22222222-0000-0000-0000-000000000000"

/-- An event of a user opening the application. -/
def openBody : String :=
  "\x7b\"environment\":\x7b\"app_id\":\"22222222-0000-0000-0000-000000000000\"\x7d," ++
  "\"events\":[\x7b\"id\":\"1\",\"timestamp\":\"1\",\"name\":\"open\"\x7d],\"device\":\x7b\x7d\x7d"

def openBatch : SDKEventBatch where
  environment := { appId }
  events := [{ id := "1", timestamp := 1, name := "open" }]
  device := {}

/-- The same event, for a recipient of the client's choice. -/
def recipientBody : String :=
  "\x7b\"environment\":\x7b\"app_id\":\"22222222-0000-0000-0000-000000000000\"\x7d," ++
  "\"events\":[\x7b\"id\":\"1\",\"timestamp\":\"1\",\"name\":\"open\"\x7d],\"device\":\x7b\x7d," ++
  "\"recipient_id\":\"somebody\"\x7d"

def recipientBatch : SDKEventBatch :=
  { openBatch with recipientId := some "somebody" }

/-- A registration of a device that lets itself be tracked. -/
def registerBody : String :=
  "\x7b\"environment\":\x7b\"app_id\":\"22222222-0000-0000-0000-000000000000\"\x7d," ++
  "\"events\":[\x7b\"id\":\"1\",\"timestamp\":\"1\",\"name\":\"xorc_register\"\x7d]," ++
  "\"device\":\x7b\"ifa\":\"33333333-0000-0000-0000-000000000000\"," ++
  "\"ifa_tracking_enabled\":true\x7d\x7d"

def registerBatch : SDKEventBatch where
  environment := { appId }
  events := [{ id := "1", timestamp := 1, name := "xorc_register" }]
  device := { ifa := some "33333333-0000-0000-0000-000000000000", ifaTrackingEnabled := true }

/-- A user opening the application, in a browser. -/
def webBody : String :=
  "\x7b\"environment\":\x7b\"app_id\":\"22222222-0000-0000-0000-000000000000\"\x7d," ++
  "\"events\":[\x7b\"id\":\"1\",\"timestamp\":\"1\",\"name\":\"open\"\x7d]," ++
  "\"device\":\x7b\"platform\":\"web\"\x7d\x7d"

def webBatch : SDKEventBatch :=
  { openBatch with device := { platform := some "web" } }

/-- A registration together with another event. -/
def mixedBody : String :=
  "\x7b\"environment\":\x7b\"app_id\":\"22222222-0000-0000-0000-000000000000\"\x7d," ++
  "\"events\":[\x7b\"id\":\"1\",\"timestamp\":\"1\",\"name\":\"open\"\x7d," ++
  "\x7b\"id\":\"2\",\"timestamp\":\"2\",\"name\":\"xorc_register\"\x7d]," ++
  "\"device\":\x7b\x7d\x7d"

def mixedBatch : SDKEventBatch :=
  { openBatch with events :=
      [{ id := "1", timestamp := 1, name := "open" },
        { id := "2", timestamp := 2, name := "xorc_register" }] }

/-- A user opening the application and leaving it. -/
def visitBody : String :=
  "\x7b\"environment\":\x7b\"app_id\":\"22222222-0000-0000-0000-000000000000\"\x7d," ++
  "\"events\":[\x7b\"id\":\"1\",\"timestamp\":\"1\",\"name\":\"open\"\x7d," ++
  "\x7b\"id\":\"2\",\"timestamp\":\"2\",\"name\":\"close\"\x7d]," ++
  "\"device\":\x7b\x7d\x7d"

def visitBatch : SDKEventBatch :=
  { openBatch with events :=
      [{ id := "1", timestamp := 1, name := "open" },
        { id := "2", timestamp := 2, name := "close" }] }

/-- The bodies with what they parse to. -/
def bodies : List (String × SDKEventBatch) :=
  [(openBody, openBatch), (recipientBody, recipientBatch), (registerBody, registerBatch),
    (webBody, webBatch), (mixedBody, mixedBatch), (visitBody, visitBatch)]

/-! ## Database rows -/

/-- The values the columns of the applications table can have. -/
inductive Column
  | null
  | uuid (value : Uuid)
  | text (value : String)

/-- A row is its columns with their names. -/
def cdrs : Cdrs (List (String × Column)) where
  columns row := row.map Prod.fst
  byName row name :=
    match row.lookup name with
    | some .null => some none
    | some (.text value) => some (some value)
    | _ => none
  rByName row name :=
    match row.lookup name with
    | some (.uuid value) => some value
    | _ => none

theorem lookup_of_not_mem {row : List (String × Column)} {name : String}
    (h : name ∉ cdrs.columns row) : row.lookup name = none := by
  rw [List.lookup_eq_none_iff]
  intro column hcolumn
  simpa using fun hname : name = column.1 => h (hname ▸ List.mem_map_of_mem hcolumn)

theorem cdrs_documented : cdrs.Documented where
  byName_of_not_mem row name h := by simp [cdrs, lookup_of_not_mem h]
  rByName_of_not_mem row name h := by simp [cdrs, lookup_of_not_mem h]

/-! ## The libraries together -/

def crates : Crates where
  http := http
  base64 := base64
  aead := aead
  hmac := { verify := fun _ _ _ => false }
  hex := { decode := Codec.Hex.decodeBytes }
  uuid := uuid
  location := {
    parseIp := fun _ => none
    displayIp := fun _ => ""
    blake2b := fun _ => []
    country := fun _ => none }
  fromSlice body := (bodies.find? fun entry => asBytes entry.1 = body).map Prod.snd
  sortUnstableBy order events := events.insertionSort fun e₁ e₂ => (order e₁ e₂).isLE

/-- The same, with the signature check filled in. -/
def signingCrates : Crates :=
  { crates with hmac := {
      verify := fun key message signature => signature == Codec.Sha512.hmac key message } }

theorem hmac_documented : signingCrates.hmac.Documented :=
  ⟨Codec.Sha512.hmac, fun _ _ _ => beq_iff_eq⟩

theorem hex_documented : signingCrates.hex.Documented where
  decode_nil := rfl

theorem crates_documentedSort : crates.DocumentedSort where
  perm order events := List.perm_insertionSort _ events
  ordered order events htotal := by
    have : Std.Total fun e₁ e₂ : SDKEvent => (order e₁ e₂).isLE :=
      ⟨fun e₁ e₂ => by
        have hswap : order e₂ e₁ = (order e₁ e₂).swap := Std.OrientedCmp.eq_swap
        rw [hswap]
        cases order e₁ e₂ <;> simp⟩
    have : IsTrans SDKEvent fun e₁ e₂ => (order e₁ e₂).isLE :=
      ⟨fun _ _ _ => Std.TransCmp.isLE_trans⟩
    exact List.pairwise_insertionSort _ events

theorem crates_documentedIds : crates.DocumentedIds :=
  ⟨aead_documented, base64_documented, uuid_documented⟩

/-! ## A gateway -/

/-- The key of a development gateway. -/
def secret : SecretKey :=
  ⟨[129, 164, 171, 19, 88, 96, 172, 49, 218, 122, 106, 79, 226, 124, 112, 233, 172, 165, 64, 54,
    31, 139, 249, 226, 199, 148, 8, 27, 76, 91, 164, 146], rfl⟩

def testApp : TestAppConfig where
  appId := appId
  token := some "46732a28cd44"
  secretIos := none
  secretAndroid := none
  secretWeb := none

/-- A gateway with one configured application that takes unsigned requests. -/
def globals : Gateway.Globals where
  secret := secret
  config := {
    kafka := { topic := "sdk" }
    gateway := { defaultToken := "T0BdxB0O", allowEmptySignature := true }
    cors := none
    origins := none
    testApps := some [testApp]
    cassandra := {
      keyspace := "staging"
      contactPoints := "localhost:9042"
      manageApps := false } }

/-- The same gateway with one allowed origin. -/
def corsGlobals : Gateway.Globals :=
  { globals with config := { globals.config with
      cors := some { allowedMethods := "POST,OPTIONS", allowedHeaders := "Content-Type" }
      origins := some [{ appId, allowed := ["https://www.example.com"] }] } }

/-- A page of that origin. -/
def fromExample : HeaderMap :=
  [(.origin, .fromStatic "https://www.example.com" (by decide))]

/-- The row its application table is built from. -/
def row : AppRow := testApp.toRow

/-- Its application table. -/
def apps : HashMap String Application := AppRegistry.buildApps crates [row]

/-- The registration as it gets past validation without any header. -/
def registering : Registration where
  context := {
    appId
    platform := .unknown
    apiToken := none
    deviceId := none
    signature := none
    ip := none
    origin := none }
  event := registerBatch
  eventId := "1"

/-- The application id and the advertising identifier of the registration. -/
def appUuid : Uuid := 0x22222222000000000000000000000000

def ifaUuid : Uuid := 0x33333333000000000000000000000000

theorem registering_key : registering.key crates = some (appUuid, ifaUuid) := by decide +kernel

/-- The registration of another device. -/
def registeringOther : Registration :=
  { registering with event := { registerBatch with device := { registerBatch.device with
      ifa := some "44444444-0000-0000-0000-000000000000" } } }

def otherIfaUuid : Uuid := 0x44444444000000000000000000000000

theorem registeringOther_key : registeringOther.key crates = some (appUuid, otherIfaUuid) := by
  decide +kernel

/-- An outside world in which everything works, over an empty IFA store. -/
def working : Replies where
  apps := apps
  query := Query.answering (.ok ⟨some ⟨some []⟩⟩) (.ok ⟨some ⟨none⟩⟩)
  send := .ok (.ok (0, 0))

/-- The same, with the UUID that is drawn there. -/
def workingWith (u : Uuid) : Replies := { working with uuid := u }

/-- A POST request with the body and headers. -/
def post (body : String) (headers : HeaderMap) : Gateway.Incoming where
  headers := headers
  body := some (asBytes body)

/-- The run of a request in which every call has its one reply. -/
def handledBy (g : Gateway.Globals) (incoming : Gateway.Incoming) (replies : Replies) :
    List (Event Calls) × Outcome Response :=
  (Gateway.handleSdk crates g incoming).exec replies.reply

theorem runs_handledBy (g : Gateway.Globals) (incoming : Gateway.Incoming) (replies : Replies) :
    (Gateway.handleSdk crates g incoming).Runs (handledBy g incoming replies).1
      (handledBy g incoming replies).2 :=
  Program.runs_exec replies.reply _

/-- The same by the gateway without CORS. -/
def handled (incoming : Gateway.Incoming) (replies : Replies) :
    List (Event Calls) × Outcome Response :=
  (Gateway.handleSdk crates globals incoming).exec replies.reply

theorem runs_handled (incoming : Gateway.Incoming) (replies : Replies) :
    (Gateway.handleSdk crates globals incoming).Runs (handled incoming replies).1
      (handled incoming replies).2 :=
  runs_handledBy globals incoming replies

theorem fromSlice_openBody : crates.fromSlice (asBytes openBody) = some openBatch := by
  decide +kernel

theorem fromSlice_visitBody : crates.fromSlice (asBytes visitBody) = some visitBatch := by
  decide +kernel

theorem fromSlice_registerBody :
    crates.fromSlice (asBytes registerBody) = some registerBatch := by
  decide +kernel

/-- A plain request is answered with a success. -/
theorem open_answered : ∃ response,
    (handled (post openBody []) working).2 = .returned response ∧ response.status = 200 := by
  have hanswered : (handled (post openBody []) working).2.any
      (fun response => response.status == 200) = true := by decide +kernel
  obtain ⟨response, hresponse, hok⟩ := Outcome.any_eq_true.mp hanswered
  exact ⟨response, hresponse, eq_of_beq hok⟩

/-- And so is one with two events. -/
theorem visit_answered : ∃ response,
    (handled (post visitBody []) working).2 = .returned response ∧ response.status = 200 := by
  have hanswered : (handled (post visitBody []) working).2.any
      (fun response => response.status == 200) = true := by decide +kernel
  obtain ⟨response, hresponse, hok⟩ := Outcome.any_eq_true.mp hanswered
  exact ⟨response, hresponse, eq_of_beq hok⟩

end XorcGateway.Reference
