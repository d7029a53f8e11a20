import HookRelay.Text.Visible

namespace HookRelay.Percent

def encodeByte (byte : UInt8) : List Char :=
  '%' :: (Hex.encode [byte]).map Char.toUpper

/-- Encodes the characters that `isReserved` picks, and all outside ASCII's printable ones. -/
def encode (isReserved : Char → Bool) (text : List Char) : List Char :=
  text.flatMap fun char =>
    if char.toNat ≤ 0x1F || 0x7F ≤ char.toNat || isReserved char then
      (Utf8.encodeChar char).flatMap encodeByte
    else [char]

/-- The bytes that a text stands for; a `%` without two digits stands for itself. -/
def decode : List Char → Bytes
  | [] => []
  | '%' :: high :: low :: rest =>
    match Hex.value? high, Hex.value? low with
    | some high, some low => (high * 16 + low).toUInt8 :: decode rest
    | _, _ => Utf8.encodeChar '%' ++ decode (high :: low :: rest)
  | char :: rest => Utf8.encodeChar char ++ decode rest

theorem visible_encodeByte (byte : UInt8) : Text.Visible (encodeByte byte) := by
  have digits : ∀ value < 16, 0x20 ≤ (Hex.digit value).toUpper.toNat := by decide
  refine Text.Visible.cons_iff.mpr ⟨by decide, ?_⟩
  intro char member
  obtain ⟨digit, written, rfl⟩ := List.mem_map.mp member
  obtain ⟨value, small, rfl⟩ := Hex.mem_encode written
  exact digits value small

theorem visible_encode (isReserved : Char → Bool) (text : List Char) :
    Text.Visible (encode isReserved text) := by
  refine Text.Visible.flatMap fun char _ => ?_
  split
  · exact Text.Visible.flatMap fun byte _ => visible_encodeByte byte
  · rename_i plain
    simp only [Bool.or_eq_true, decide_eq_true_eq, not_or] at plain
    simp only [Text.Visible.cons_iff, Text.Visible.nil, and_true]
    omega

end HookRelay.Percent
