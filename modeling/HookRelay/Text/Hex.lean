import HookRelay.Text.Blank
import HookRelay.Text.Utf8

namespace HookRelay.Hex

def digit (value : Nat) : Char :=
  if value < 10 then Char.ofNat (48 + value) else Char.ofNat (87 + value)

def value? (char : Char) : Option Nat :=
  let code := char.toNat
  if 48 ≤ code ∧ code ≤ 57 then some (code - 48)
  else if 97 ≤ code ∧ code ≤ 102 then some (code - 87)
  else if 65 ≤ code ∧ code ≤ 70 then some (code - 55)
  else none

def encode (bytes : Bytes) : List Char :=
  bytes.flatMap fun byte => [digit (byte.toNat / 16), digit (byte.toNat % 16)]

/-- Refuses an odd number of digits and any other character. -/
def decode? : List Char → Option Bytes
  | [] => some []
  | [_] => none
  | high :: low :: rest => do
    let high ← value? high
    let low ← value? low
    let bytes ← decode? rest
    pure ((high * 16 + low).toUInt8 :: bytes)

def natValue? (digits : List Char) : Option Nat :=
  digits.foldlM (fun total char => (value? char).map (total * 16 + ·)) 0

private def padOnto (reversed : List Char) (number : Nat) : Nat → List Char
  | 0 => reversed
  | width + 1 => padOnto (digit (number % 16) :: reversed) (number / 16) width

def padded (width number : Nat) : List Char := padOnto [] number width

theorem value?_digit : ∀ value < 16, value? (digit value) = some value := by decide

private theorem padOnto_eq_append (reversed : List Char) (width number : Nat) :
    padOnto reversed number width = padded width number ++ reversed := by
  rw [padded]
  induction width generalizing reversed number with
  | zero => rfl
  | succ width ih =>
    rw [padOnto, padOnto, ih, ih [_], List.append_assoc, List.singleton_append]

theorem padded_succ (width number : Nat) :
    padded (width + 1) number = padded width (number / 16) ++ [digit (number % 16)] :=
  padOnto_eq_append [digit (number % 16)] width (number / 16)

theorem length_padded (width number : Nat) : (padded width number).length = width := by
  induction width generalizing number with
  | zero => rfl
  | succ width ih => rw [padded_succ, List.length_append, ih, List.length_singleton]

theorem natValue?_padded {width number : Nat} (fits : number < Nat.pow 16 width) :
    natValue? (padded width number) = some number := by
  induction width generalizing number with
  | zero => rw [Nat.lt_one_iff.mp fits]; rfl
  | succ width ih =>
    have front : natValue? (padded width (number / 16)) = some (number / 16) :=
      ih (Nat.div_lt_of_lt_mul (Nat.mul_comm .. ▸ fits))
    rw [natValue?] at front ⊢
    rw [padded_succ, List.foldlM_append, front]
    have last := value?_digit (number % 16) (by omega)
    simp [last]
    omega

theorem length_encode (bytes : Bytes) : (encode bytes).length = 2 * bytes.length := by
  induction bytes with
  | nil => rfl
  | cons byte rest ih =>
    show (encode rest).length + 2 = 2 * (rest.length + 1)
    omega

theorem decode?_encode (bytes : Bytes) : decode? (encode bytes) = some bytes := by
  induction bytes with
  | nil => rfl
  | cons byte rest ih =>
    have small : byte.toNat < 256 := byte.toNat_lt
    have high := value?_digit (byte.toNat / 16) (by omega)
    have low := value?_digit (byte.toNat % 16) (by omega)
    have whole : (byte.toNat / 16 * 16 + byte.toNat % 16).toUInt8 = byte := by
      rw [show byte.toNat / 16 * 16 + byte.toNat % 16 = byte.toNat by omega]
      exact UInt8.ofNat_toNat
    show decode? (digit (byte.toNat / 16) :: digit (byte.toNat % 16) :: encode rest) = _
    simp only [decode?, high, low, ih, Option.bind_eq_bind, Option.bind_some, whole, pure]

theorem mem_encode {char : Char} {bytes : Bytes} (member : char ∈ encode bytes) :
    ∃ value < 16, char = digit value := by
  obtain ⟨byte, _, digits⟩ := List.mem_flatMap.mp member
  have small : byte.toNat < 256 := byte.toNat_lt
  rcases List.mem_cons.mp digits with high | low
  · exact ⟨byte.toNat / 16, by omega, high⟩
  · exact ⟨byte.toNat % 16, by omega, List.mem_singleton.mp low⟩

/-! ### Digits in either case -/

theorem toNat_toLower (char : Char) : char.toLower.toNat =
    if 65 ≤ char.toNat ∧ char.toNat ≤ 90 then char.toNat + 32 else char.toNat := by
  have bounds : (char.val ≥ 'A'.val ∧ char.val ≤ 'Z'.val) ↔
      65 ≤ char.toNat ∧ char.toNat ≤ 90 := by
    simp only [ge_iff_le, UInt32.le_iff_toNat_le]
    exact Iff.rfl
  unfold Char.toLower
  split
  · rename_i upper
    have small : char.val.toNat ≤ 90 := (bounds.mp upper).2
    rw [if_pos (bounds.mp upper), Char.toNat_mk, UInt32.toNat_add]
    exact Nat.mod_eq_of_lt (show char.val.toNat + 32 < 2 ^ 32 by omega)
  · rename_i other
    rw [if_neg fun upper => other (bounds.mpr upper)]

private theorem toNat_digit : ∀ value < 16,
    (digit value).toNat = if value < 10 then 48 + value else 87 + value := by decide

/-- A digit in either case is read as the value for which its lower-case form is written. -/
theorem value?_eq_some_iff (char : Char) (value : Nat) :
    value? char = some value ↔ value < 16 ∧ char.toLower = digit value := by
  have lower := toNat_toLower char
  constructor
  · intro found
    have range : value < 16 ∧
        char.toLower.toNat = if value < 10 then 48 + value else 87 + value := by
      unfold value? at found
      grind
    exact ⟨range.1, Char.toNat_inj.mp (range.2.trans (toNat_digit value range.1).symm)⟩
  · rintro ⟨small, same⟩
    have written := toNat_digit value small
    rw [← same] at written
    unfold value?
    grind

theorem value?_toLower (char : Char) : value? char.toLower = value? char := by
  have lower := toNat_toLower char
  unfold value?
  grind

theorem isHexDigit_of_value? {char : Char} {value : Nat} (found : value? char = some value) :
    char.isHexDigit = true := by
  simp only [Char.isHexDigit, Char.isDigit, Bool.or_eq_true, Bool.and_eq_true, decide_eq_true_eq,
    ge_iff_le, UInt32.le_iff_toNat_le]
  show (48 ≤ char.toNat ∧ char.toNat ≤ 57 ∨ 97 ≤ char.toNat ∧ char.toNat ≤ 102) ∨
    65 ≤ char.toNat ∧ char.toNat ≤ 70
  unfold value? at found
  grind

theorem decode?_lowerAscii (digits : List Char) :
    decode? (Text.lowerAscii digits) = decode? digits := by
  match digits with
  | [] => rfl
  | [_] => rfl
  | high :: low :: rest =>
    simp only [Text.lowerAscii, List.map_cons, decode?, value?_toLower]
    rw [← Text.lowerAscii, decode?_lowerAscii rest]

private theorem encode_cons (byte : UInt8) (rest : Bytes) :
    encode (byte :: rest) = digit (byte.toNat / 16) :: digit (byte.toNat % 16) :: encode rest := rfl

theorem lowerAscii_of_decode? {digits : List Char} {bytes : Bytes}
    (found : decode? digits = some bytes) : Text.lowerAscii digits = encode bytes := by
  match digits with
  | [] =>
    cases found
    rfl
  | [_] => cases found
  | high :: low :: rest =>
    simp only [decode?, Option.bind_eq_bind, Option.bind_eq_some_iff, Option.pure_def,
      Option.some.injEq] at found
    obtain ⟨first, firstRead, second, secondRead, others, read, rfl⟩ := found
    obtain ⟨firstSmall, firstSame⟩ := (value?_eq_some_iff high first).mp firstRead
    obtain ⟨secondSmall, secondSame⟩ := (value?_eq_some_iff low second).mp secondRead
    have whole : (first * 16 + second).toUInt8.toNat = first * 16 + second :=
      UInt8.toNat_ofNat_of_lt (show first * 16 + second < 256 by omega)
    rw [encode_cons, whole, show (first * 16 + second) / 16 = first by omega,
      show (first * 16 + second) % 16 = second by omega, ← firstSame, ← secondSame,
      ← lowerAscii_of_decode? read]
    rfl

theorem value?_of_mem_decoded {digits : List Char} {bytes : Bytes} {char : Char}
    (found : decode? digits = some bytes) (member : char ∈ digits) :
    ∃ value, value? char = some value := by
  have lower : char.toLower ∈ encode bytes :=
    lowerAscii_of_decode? found ▸ List.mem_map_of_mem member
  obtain ⟨value, small, same⟩ := mem_encode lower
  exact ⟨value, (value?_eq_some_iff char value).mpr ⟨small, same⟩⟩

theorem decode?_eq_some_iff (digits : List Char) (bytes : Bytes) :
    decode? digits = some bytes ↔ Text.lowerAscii digits = encode bytes := by
  constructor
  · exact lowerAscii_of_decode?
  · intro written
    rw [← decode?_lowerAscii, written, decode?_encode]

theorem natValue?_lowerAscii (digits : List Char) :
    natValue? (Text.lowerAscii digits) = natValue? digits := by
  rw [natValue?, Text.lowerAscii, List.foldlM_map]
  simp only [value?_toLower]
  rfl

end HookRelay.Hex
