import Pairwise.Crypto.Suite
import Pairwise.Error
/-!
# Public keys

A key is a byte string and its kind. It is written in two ways: as a fingerprint, which tells its
kind, and as bare base 58, which does not.

`Key.fingerprint` and `Key.ofFingerprint` write and read the first, `Key.base58` and `Key.ofBase58`
the second, `Key.toX25519` gives the agreement key that belongs to a signing key.
-/
namespace Pairwise

namespace KeyKind

/-- The code in front of a key. -/
def code : KeyKind → Nat
  | .ed25519 => Multicodec.ed25519Public
  | .x25519 => Multicodec.x25519Public

/-- The kind of a code. -/
def ofCode? (code : Nat) : Option KeyKind :=
  if code = Multicodec.ed25519Public then some .ed25519
  else if code = Multicodec.x25519Public then some .x25519
  else none

theorem ofCode?_code (k : KeyKind) : ofCode? k.code = some k := by cases k <;> rfl

/-- The kind of a name. -/
def ofName? : String → Option KeyKind
  | "ed25519" => some .ed25519
  | "x25519" => some .x25519
  | _ => none

end KeyKind

/-- A public key. -/
structure Key where
  bytes : Bytes
  kind : KeyKind
  deriving DecidableEq, Repr, Inhabited

namespace Key

/-- The bytes of a key. -/
def length : Nat := 32

/-- The bare text of a key. -/
def base58 (k : Key) : String := Base58.encode k.bytes

/-- Reads base 58. -/
def decodeBase58 (text : String) : Except Error Bytes :=
  (Base58.decode text).mapError (Error.base58 text)

/-- Reads a text that tells its base. -/
def decodeMultibase (text : String) : Except Error Bytes :=
  match Multibase.body? text with
  | none => .error (.unknownBase text)
  | some body => decodeBase58 body

/-- The key of a kind with the given bare text. -/
def ofBase58 (text : String) (kind : KeyKind) : Except Error Key := do
  let bytes ← decodeBase58 text
  if bytes.length = length then return ⟨bytes, kind⟩ else .error (.keyLength bytes.length)

/-- The key with the code of its kind in front. -/
def tagged (k : Key) : Bytes := Multicodec.tag k.kind.code k.bytes

/-- The text that tells the kind of a key and the key. -/
def fingerprint (k : Key) : String := Multibase.encode k.tagged

/-- The key of a fingerprint. -/
def ofFingerprint (text : String) : Except Error Key := do
  let bytes ← decodeMultibase text
  let (code, rest) ← (Multicodec.split bytes).mapError Error.multicodec
  match KeyKind.ofCode? code with
  | none => .error (.unsupportedKeyCode code)
  | some kind =>
    if rest.length = length then return ⟨rest, kind⟩ else .error (.fingerprintLength text)

/-- The agreement key that belongs to a signing key; an agreement key is its own. -/
def toX25519 [Suite] (k : Key) : Except Error Key :=
  match k.kind with
  | .x25519 => .ok k
  | .ed25519 =>
    if k.bytes.length ≠ length then .error .conversionKeyLength
    else match Suite.agreementKey? k.bytes with
      | some bytes => .ok ⟨bytes, .x25519⟩
      | none => .error .notAPoint

/-- A key as it is shown in messages. -/
def label (k : Key) : String := "Key(" ++ k.kind.label ++ ", " ++ k.base58 ++ ")"

/-- Whether a signature of a text stands under a signing key given by its bytes. -/
def verifyBytes [Suite] (key text signature : Bytes) : Except Error Bool :=
  if key.length ≠ length then .error .verificationKeyLength
  else if (Suite.agreementKey? key).isNone then .error .notAPoint
  else .ok (Suite.verify key text signature)

/-- Whether a signature of a text stands under a key. -/
def verify [Suite] (k : Key) (text signature : Bytes) : Except Error Bool :=
  match k.kind with
  | .x25519 => .error (.invalidSignature ("key " ++ k.label ++ " can not verify signatures"))
  | .ed25519 => verifyBytes k.bytes text signature

/-- The keys of bare texts, all of them signing keys. -/
def allOfBase58 (texts : List String) : Except Error (List Key) :=
  texts.mapM fun t => ofBase58 t .ed25519

end Key

end Pairwise
