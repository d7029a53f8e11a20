import HookRelay.Proofs.Signature

namespace HookRelay.Signature

/-- A header writes some digits: blanks may stand around them, and one mark in front of them. -/
inductive Writes : (header digits : List Char) → Prop where
  | bare {before digits after : List Char} (blank : Text.AllBlank before)
      (empty : Text.AllBlank after) : Writes (before ++ digits ++ after) digits
  | marked {before digits after : List Char} (blank : Text.AllBlank before)
      (empty : Text.AllBlank after) :
      Writes (before ++ ("sha256=".toList ++ digits) ++ after) digits

variable {header digits : List Char} {digest : Bytes}

private theorem solid_of_decode? (read : Hex.decode? digits = some digest) :
    ∀ char ∈ digits, Text.isBlank char = false ∧ char ≠ 's' := by
  intro char member
  obtain ⟨value, found⟩ := Hex.value?_of_mem_decoded read member
  constructor
  · have range : 48 ≤ char.toNat ∧ char.toNat ≤ 102 := by
      unfold Hex.value? at found
      grind
    simp only [Text.isBlank, Bool.or_eq_false_iff, Bool.and_eq_false_iff, decide_eq_false_iff_not,
      beq_eq_false_iff_ne]
    omega
  · rintro rfl
    cases found

/-- Sixty-four digits are all that a header may write to be read. -/
theorem ofHeader?_eq_some_iff (header : List Char) (digest : Bytes) :
    ofHeader? header = some digest ↔
      ∃ digits, Writes header digits ∧ digits.length = hexLength ∧
        Hex.decode? digits = some digest := by
  constructor
  · intro found
    obtain ⟨_, before, after, blank, empty, split⟩ := (Text.trim_eq_iff header _).mp rfl
    simp only [ofHeader?] at found
    split at found
    · rename_i long
      refine ⟨_, ?_, long, found⟩
      cases marked : Text.afterLiteral? "sha256=".toList (Text.trim header) with
      | none =>
        have writes : Writes (before ++ Text.trim header ++ after) (Text.trim header) :=
          .bare blank empty
        rwa [← split] at writes
      | some digits =>
        rw [(Text.afterLiteral?_eq_some_iff _ _ _).mp marked] at split
        rw [Option.getD_some, split]
        exact .marked blank empty
    · cases found
  · rintro ⟨digits, writes, long, read⟩
    have solid := solid_of_decode? read
    cases writes with
    | @bare before _ after blank empty =>
      have trimmed : Text.trim (before ++ digits ++ after) = digits :=
        (Text.trim_eq_iff _ _).mpr
          ⟨.of_solid fun char member => (solid char member).1, before, after, blank, empty, rfl⟩
      have unmarked : Text.afterLiteral? "sha256=".toList digits = none := by
        apply Option.eq_none_iff_forall_ne_some.mpr
        intro rest marked
        have opens : 's' ∈ digits := by
          rw [(Text.afterLiteral?_eq_some_iff _ _ _).mp marked]
          exact List.mem_cons_self
        exact (solid 's' opens).2 rfl
      rw [ofHeader?, trimmed, unmarked, Option.getD_none, if_pos long, read]
    | @marked before _ after blank empty =>
      have mark : ∀ char ∈ "sha256=".toList, Text.isBlank char = false := by simp [Text.isBlank]
      have trimmed : Text.trim (before ++ ("sha256=".toList ++ digits) ++ after) =
          "sha256=".toList ++ digits := by
        refine (Text.trim_eq_iff _ _).mpr ⟨.of_solid ?_, before, after, blank, empty, rfl⟩
        intro char member
        rcases List.mem_append.mp member with front | back
        · exact mark char front
        · exact (solid char back).1
      have rest : Text.afterLiteral? "sha256=".toList ("sha256=".toList ++ digits) = some digits :=
        (Text.afterLiteral?_eq_some_iff _ _ _).mpr rfl
      rw [ofHeader?, trimmed, rest, Option.getD_some, if_pos long, read]

theorem verifyBytes_iff (body : Bytes) (header : List Char) (secret : Secret) :
    verifyBytes body header secret = true ↔
      secret.isEmpty = false ∧ ofHeader? header = some (Hmac.digest secret.bytes body) := by
  unfold verifyBytes keyedDigest?
  cases empty : secret.isEmpty with
  | true => simp
  | false =>
    cases claimed : ofHeader? header with
    | none => simp
    | some digest => simp

/-- Digits sign a body under a secret that is not empty if their lower-case form is its signature. -/
theorem signs_iff (body : Bytes) (digits : List Char) (secret : Secret) :
    signBytes body secret = .ok (String.ofList (Text.lowerAscii digits)) ↔
      secret.isEmpty = false ∧ Hex.decode? digits = some (Hmac.digest secret.bytes body) := by
  rw [Hex.decode?_eq_some_iff]
  constructor
  · intro signed
    obtain ⟨usable, written⟩ := signBytes_eq_ok signed
    rw [String.toList_ofList] at written
    exact ⟨usable, written⟩
  · rintro ⟨usable, written⟩
    rw [written, signBytes_of_usable usable]

/-- A header verifies exactly if it writes the signature, in sixty-four digits of either case; every
payload has one under a secret that is not empty, and none under the empty secret. -/
theorem verify_exact (payload : Json.Value) (secret : Secret) :
    (∀ header, verify payload header secret = true ↔ secret.isEmpty = false ∧
      ∃ digits, Writes header digits ∧ digits.length = 64 ∧
        (∀ char ∈ digits, char.isHexDigit = true) ∧
        sign payload secret = .ok (String.ofList (Text.lowerAscii digits))) ∧
    (secret.isEmpty = false ↔ ∃ signature, sign payload secret = .ok signature ∧
      verify payload signature.toList secret = true) ∧
    ((∃ header, verify payload header secret = true) → secret.isEmpty = false) := by
  have accepts (header : List Char) : verify payload header secret = true ↔
      secret.isEmpty = false ∧ ∃ digits, Writes header digits ∧ digits.length = 64 ∧
        (∀ char ∈ digits, char.isHexDigit = true) ∧
        sign payload secret = .ok (String.ofList (Text.lowerAscii digits)) := by
    rw [verify, verifyBytes_iff, ofHeader?_eq_some_iff]
    constructor
    · rintro ⟨usable, digits, writes, long, read⟩
      refine ⟨usable, digits, writes, long, ?_, (signs_iff _ _ _).mpr ⟨usable, read⟩⟩
      intro char member
      obtain ⟨value, found⟩ := Hex.value?_of_mem_decoded read member
      exact Hex.isHexDigit_of_value? found
    · rintro ⟨usable, digits, writes, long, _, signed⟩
      exact ⟨usable, digits, writes, long, ((signs_iff _ _ _).mp signed).2⟩
  refine ⟨accepts, ?_, ?_⟩
  · constructor
    · intro usable
      exact ⟨_, signBytes_of_usable usable _,
        verifyBytes_of_signBytes (signBytes_of_usable usable _)⟩
    · rintro ⟨signature, _, verified⟩
      exact ((accepts _).mp verified).1
  · rintro ⟨header, verified⟩
    exact ((accepts header).mp verified).1

end HookRelay.Signature
