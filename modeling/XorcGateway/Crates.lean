/-
# Third-party code

What the gateway calls and this repository does not contain is a parameter: one
record per crate, holding the functions the gateway uses. Beside each record
stand the documented facts the gateway relies on, as a proposition, so that a
result names exactly what it assumes of which crate.
-/

import Mathlib.Algebra.Group.Nat.Defs
import XorcGateway.Events.Input
import XorcGateway.Rust.Text

namespace XorcGateway

open Events Rust

/-! ## http -/

/-- The bytes an HTTP header value may contain: visible ASCII, tab and the
opaque bytes from 0x80 on. -/
def isHeaderByte (b : UInt8) : Bool := (32 ≤ b && b != 127) || b == 9

/-- The bytes `to_str` accepts. -/
def isVisibleAscii (b : UInt8) : Bool := (32 ≤ b && b < 127) || b == 9

/-- `http::HeaderValue`. -/
structure HeaderValue where
  bytes : List UInt8
  valid : ∀ b ∈ bytes, isHeaderByte b
  deriving DecidableEq

/-- The header names the gateway reads or writes. Header names are
case-insensitive, so a name is not its spelling. -/
inductive HeaderName
  | xorcDeviceId
  | xorcApiToken
  | xorcSignature
  | xRealIp
  | origin
  | contentType
  | accessControlAllowOrigin
  | accessControlAllowMethods
  | accessControlAllowHeaders
  | other (name : String)
  deriving DecidableEq

/-- `http::HeaderMap`, in the order the headers were received. -/
abbrev HeaderMap := List (HeaderName × HeaderValue)

/-- `HeaderMap::get`: the first value sent under the name. -/
def HeaderMap.get (headers : HeaderMap) (name : HeaderName) : Option HeaderValue :=
  (headers.find? fun entry => entry.1 = name).map Prod.snd

/-- The conversions of `http::HeaderValue`. -/
structure Http where
  toStr : HeaderValue → Option String
  fromStr : String → Option HeaderValue

/-- `to_str` yields the value's text if it is visible ASCII, and fails
otherwise; `from_str` accepts at least visible ASCII. -/
structure Http.Documented (http : Http) : Prop where
  toStr_eq_some_iff : ∀ value s, http.toStr value = some s ↔
    (∀ b ∈ value.bytes, isVisibleAscii b) ∧ asBytes s = value.bytes
  fromStr_eq_some : ∀ s, (∀ b ∈ asBytes s, isVisibleAscii b) →
    ∃ value, http.fromStr s = some value ∧ value.bytes = asBytes s

theorem lt_of_isVisibleAscii {b : UInt8} (h : isVisibleAscii b) : b < 128 := by
  simp only [isVisibleAscii, Bool.or_eq_true, Bool.and_eq_true, decide_eq_true_eq,
    beq_iff_eq] at h
  rcases h with ⟨_, hlt⟩ | rfl
  · exact UInt8.lt_trans hlt (by decide)
  · decide

/-- A value can be read as text exactly when it is visible ASCII. -/
theorem Http.Documented.toStr_isSome_iff {http : Http} (h : http.Documented)
    {value : HeaderValue} :
    (∃ s, http.toStr value = some s) ↔ ∀ b ∈ value.bytes, isVisibleAscii b := by
  refine ⟨fun hs => ?_, fun hvisible => ?_⟩
  · obtain ⟨s, hs⟩ := hs
    exact ((h.toStr_eq_some_iff value s).mp hs).1
  · refine ⟨_, (h.toStr_eq_some_iff value _).mpr ⟨hvisible, asBytes_ofList_ascii ?_⟩⟩
    exact fun b hb => lt_of_isVisibleAscii (hvisible b hb)

/-! ## base64 -/

/-- `base64::encode` and `base64::decode`. -/
structure Base64 where
  encode : List UInt8 → String
  decode : List UInt8 → Option (List UInt8)

/-- Decoding undoes encoding, and encoded text is visible ASCII. -/
structure Base64.Documented (base64 : Base64) : Prop where
  decode_encode : ∀ bytes, base64.decode (asBytes (base64.encode bytes)) = some bytes
  encode_visible : ∀ bytes, ∀ b ∈ asBytes (base64.encode bytes), isVisibleAscii b

/-! ## ring -/

/-- `ring::aead` with AES-256-GCM. `sealInPlace` and `openInPlace` return the
buffer they overwrite and the opened part of it. -/
structure Aead where
  sealInPlace : (key nonce ad inOut : List UInt8) → (suffixCapacity : ℕ) → Option (List UInt8)
  openInPlace : (key nonce ad : List UInt8) → (inPrefixLen : ℕ) → (inOut : List UInt8) →
    Option (List UInt8)

/-- Sealing under a 32-byte key with a 12-byte nonce encrypts all but the last
16 bytes of the buffer, which are at most 2^36 - 32, and writes the tag there;
opening under the same key and nonce gives those bytes back. -/
structure Aead.Documented (aead : Aead) : Prop where
  seal_open : ∀ key nonce buffer : List UInt8, key.length = 32 → nonce.length = 12 →
    16 ≤ buffer.length → buffer.length ≤ 2 ^ 36 - 16 →
    ∃ sealed, aead.sealInPlace key nonce [] buffer 16 = some sealed ∧
      sealed.length = buffer.length ∧
      aead.openInPlace key nonce [] 0 sealed = some (buffer.take (buffer.length - 16))

/-- `ring::hmac::verify` under a SHA-512 verification key. -/
structure Hmac where
  verify : (key message signature : List UInt8) → Bool

/-- Verification accepts the signature of the message under the key and nothing
else. -/
structure Hmac.Documented (hmac : Hmac) : Prop where
  exists_sign : ∃ sign : (key message : List UInt8) → List UInt8, ∀ key message signature,
    hmac.verify key message signature = true ↔ signature = sign key message

/-! ## hex -/

/-- `hex::decode`. -/
structure Hex where
  decode : List UInt8 → Option (List UInt8)

/-- Two digits make a byte, so the empty text is valid: it stands for no
bytes. -/
structure Hex.Documented (hex : Hex) : Prop where
  decode_nil : hex.decode [] = some []

/-! ## uuid -/

/-- `uuid::Uuid`. -/
abbrev Uuid := BitVec 128

/-- `Uuid::nil`. -/
def Uuid.nil : Uuid := 0

/-- `Uuid::parse_str` and `Uuid::hyphenated`. -/
structure UuidText where
  parseStr : String → Option Uuid
  hyphenated : Uuid → String

/-- The hyphenated form is 36 bytes of text and parses back. -/
structure UuidText.Documented (uuid : UuidText) : Prop where
  parseStr_hyphenated : ∀ u, uuid.parseStr (uuid.hyphenated u) = some u
  length_hyphenated : ∀ u, (asBytes (uuid.hyphenated u)).length = 36

/-! ## The remaining libraries -/

/-- `std::net::IpAddr`. -/
inductive IpAddr
  | v4 (address : BitVec 32)
  | v6 (address : BitVec 128)
  deriving DecidableEq

/-- Parsing and printing of addresses, the Blake2b digest, and the country of
an address in the GeoIP database (`none` when the lookup fails or has no ISO
code). -/
structure Location where
  parseIp : String → Option IpAddr
  displayIp : IpAddr → String
  blake2b : List UInt8 → List UInt8
  country : IpAddr → Option String

/-- Everything the gateway calls outside this repository. `fromSlice` is
`serde_json::from_slice::<SDKEventBatch>`; `sortUnstableBy` sorts by the key it
is given. -/
structure Crates where
  http : Http
  base64 : Base64
  aead : Aead
  hmac : Hmac
  hex : Hex
  uuid : UuidText
  location : Location
  fromSlice : List UInt8 → Option SDKEventBatch
  sortUnstableBy : (SDKEvent → SDKEvent → Ordering) → List SDKEvent → List SDKEvent

/-- Sorting permutes the list, and orders it if the comparator is a total
order. -/
structure Crates.DocumentedSort (X : Crates) : Prop where
  perm : ∀ order events, (X.sortUnstableBy order events).Perm events
  ordered : ∀ order events, Std.TransCmp order →
    (X.sortUnstableBy order events).Pairwise fun e₁ e₂ => (order e₁ e₂).isLE

/-- What device ids rest on: sealing and base64 are undone, and the text of a
UUID has 36 bytes and parses back. -/
structure Crates.DocumentedIds (X : Crates) : Prop where
  aead : X.aead.Documented
  base64 : X.base64.Documented
  uuid : X.uuid.Documented

end XorcGateway
