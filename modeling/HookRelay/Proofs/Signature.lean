import HookRelay.Signature.Inbound

namespace HookRelay

namespace Signature

variable {body : Bytes} {secret : Secret} {signature : String}

theorem signBytes_of_usable (usable : secret.isEmpty = false) (body : Bytes) :
    signBytes body secret = .ok (String.ofList (Hex.encode (Hmac.digest secret.bytes body))) := by
  simp [signBytes, keyedDigest?, usable, Except.map]

theorem signBytes_eq_ok (signed : signBytes body secret = .ok signature) :
    secret.isEmpty = false ∧
      signature.toList = Hex.encode (Hmac.digest secret.bytes body) := by
  cases empty : secret.isEmpty with
  | true => simp [signBytes, keyedDigest?, empty, Except.map] at signed
  | false =>
    rw [signBytes_of_usable empty] at signed
    cases signed
    exact ⟨rfl, String.toList_ofList⟩

private theorem digit_solid : ∀ value < 16, Text.isBlank (Hex.digit value) = false := by decide

private theorem digit_ne_mark : ∀ value < 16, 's' ≠ Hex.digit value := by decide

private theorem afterLiteral?_encode (bytes : Bytes) :
    Text.afterLiteral? "sha256=".toList (Hex.encode bytes) = none := by
  cases written : Hex.encode bytes with
  | nil => rfl
  | cons first rest =>
    obtain ⟨value, small, rfl⟩ := Hex.mem_encode (written ▸ List.mem_cons_self)
    exact if_neg (digit_ne_mark value small)

theorem ofHeader?_encode {digest : Bytes} (size : digest.length = 32) :
    ofHeader? (Hex.encode digest) = some digest := by
  have solid : ∀ char ∈ Hex.encode digest, Text.isBlank char = false := by
    intro char member
    obtain ⟨value, small, rfl⟩ := Hex.mem_encode member
    exact digit_solid value small
  have length : (Hex.encode digest).length = hexLength := by rw [Hex.length_encode, size]; rfl
  rw [ofHeader?, Text.trim_of_solid solid, afterLiteral?_encode, Option.getD_none, if_pos length,
    Hex.decode?_encode]

/-- What is signed verifies. -/
theorem verifyBytes_of_signBytes (signed : signBytes body secret = .ok signature) :
    verifyBytes body signature.toList secret = true := by
  obtain ⟨usable, written⟩ := signBytes_eq_ok signed
  have size : (Hmac.digest secret.bytes body).length = 32 := Sha256.length_digest _
  simp [verifyBytes, written, ofHeader?_encode size, keyedDigest?, usable]

end Signature

namespace Inbound

variable {tolerance : Duration} {now : Instant} {timestampHeader : Option (List Char)}
  {subscription : Subscription} {secrets : List Secret}

/-- A fresh request is judged by its signature alone. -/
theorem validate_of_fresh (fresh : isFresh tolerance now timestampHeader = true)
    (active : subscription.activeSecrets now = .ok secrets) (payload : Json.Value)
    (signature : List Char) :
    validate tolerance now payload (some signature) timestampHeader subscription =
      .ok (secrets.any fun secret =>
        Signature.verifyBytes (Json.canonical payload) signature secret) := by
  simp [validate, fresh, active, Except.map]

end Inbound

end HookRelay
