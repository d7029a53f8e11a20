import HookRelay.Hash.Hmac
import HookRelay.Text.Hex
import HookRelay.Json.Writer
import HookRelay.Delivery.Error

namespace HookRelay.Signature

def keyedDigest? (secret : Secret) (body : Bytes) : Except SignatureError Bytes :=
  if secret.isEmpty then .error .emptySecret else .ok (Hmac.digest secret.bytes body)

/-- The signature of bytes that are sent as they are. -/
def signBytes (body : Bytes) (secret : Secret) : Except SignatureError String :=
  (keyedDigest? secret body).map fun digest => String.ofList (Hex.encode digest)

def sign (payload : Json.Value) (secret : Secret) : Except SignatureError String :=
  signBytes (Json.canonical payload) secret

/-- A digest is thirty-two bytes, two digits each. -/
def hexLength : Nat := 64

def ofHeader? (header : List Char) : Option Bytes :=
  let trimmed := Text.trim header
  let digits := (Text.afterLiteral? "sha256=".toList trimmed).getD trimmed
  if digits.length = hexLength then Hex.decode? digits else none

/-- Whether a header signs the bytes under the secret; nothing is signed under an empty one. -/
def verifyBytes (body : Bytes) (header : List Char) (secret : Secret) : Bool :=
  match ofHeader? header, keyedDigest? secret body with
  | some claimed, .ok digest => claimed = digest
  | _, _ => false

def verify (payload : Json.Value) (header : List Char) (secret : Secret) : Bool :=
  verifyBytes (Json.canonical payload) header secret

end HookRelay.Signature
