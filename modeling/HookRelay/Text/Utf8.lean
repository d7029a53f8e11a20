/-!
UTF-8: characters to bytes, bytes to characters, and the lossy reading that puts U+FFFD for every
longest ill-formed part. Both readers take one character at a time off the front with `scan`.
-/
namespace HookRelay

abbrev Bytes := List UInt8

namespace Utf8

def encodeChar (char : Char) : Bytes :=
  let value := char.toNat
  if value < 0x80 then [value.toUInt8]
  else if value < 0x800 then [(0xC0 + value / 0x40).toUInt8, (0x80 + value % 0x40).toUInt8]
  else if value < 0x10000 then
    [(0xE0 + value / 0x1000).toUInt8, (0x80 + value / 0x40 % 0x40).toUInt8,
      (0x80 + value % 0x40).toUInt8]
  else
    [(0xF0 + value / 0x40000).toUInt8, (0x80 + value / 0x1000 % 0x40).toUInt8,
      (0x80 + value / 0x40 % 0x40).toUInt8, (0x80 + value % 0x40).toUInt8]

def encode (text : List Char) : Bytes := text.flatMap encodeChar

/-- What a first byte announces: the value it carries, how many bytes follow, and the range of the
second byte, which excludes overlong forms, surrogates and values past U+10FFFF. -/
structure Lead where
  value : Nat
  follow : Nat
  low : Nat
  high : Nat

def Lead.ofByte? (byte : UInt8) : Option Lead :=
  let value := byte.toNat
  if value < 0x80 then some ⟨value, 0, 0x80, 0xBF⟩
  else if value < 0xC2 then none
  else if value < 0xE0 then some ⟨value - 0xC0, 1, 0x80, 0xBF⟩
  else if value = 0xE0 then some ⟨0, 2, 0xA0, 0xBF⟩
  else if value = 0xED then some ⟨0xD, 2, 0x80, 0x9F⟩
  else if value < 0xF0 then some ⟨value - 0xE0, 2, 0x80, 0xBF⟩
  else if value = 0xF0 then some ⟨0, 3, 0x90, 0xBF⟩
  else if value < 0xF4 then some ⟨value - 0xF0, 3, 0x80, 0xBF⟩
  else if value = 0xF4 then some ⟨4, 3, 0x80, 0x8F⟩
  else none

/-- Reads the `follow` bytes owed to a character: its value if none is missing or out of range, and
how many bytes belong to it either way. -/
def takeTails (low high value : Nat) : Nat → Bytes → Option Nat × Nat
  | 0, _ => (some value, 0)
  | _ + 1, [] => (none, 0)
  | follow + 1, byte :: rest =>
    if low ≤ byte.toNat ∧ byte.toNat ≤ high then
      let (result, used) := takeTails 0x80 0xBF (value * 0x40 + (byte.toNat - 0x80)) follow rest
      (result, used + 1)
    else (none, 0)

/-- The character that starts with `byte`, if it is well formed, and the number of bytes of `rest`
that it or its longest well-formed beginning takes up. -/
def scan (byte : UInt8) (rest : Bytes) : Option Char × Nat :=
  match Lead.ofByte? byte with
  | none => (none, 0)
  | some lead =>
    let (value, used) := takeTails lead.low lead.high lead.value lead.follow rest
    (value.map Char.ofNat, used)

private def decodeOnto (reversed : List Char) : Bytes → Option (List Char)
  | [] => some reversed.reverse
  | byte :: rest =>
    match scan byte rest with
    | (some char, used) => decodeOnto (char :: reversed) (rest.drop used)
    | (none, _) => none
termination_by bytes => bytes.length
decreasing_by simp only [List.length_cons, List.length_drop]; omega

def decode? (bytes : Bytes) : Option (List Char) := decodeOnto [] bytes

def replacement : Char := '\uFFFD'

private def decodeLossyOnto (reversed : List Char) : Bytes → List Char
  | [] => reversed.reverse
  | byte :: rest =>
    let (char, used) := scan byte rest
    decodeLossyOnto (char.getD replacement :: reversed) (rest.drop used)
termination_by bytes => bytes.length
decreasing_by simp only [List.length_cons, List.length_drop]; omega

/-- The text of any bytes, each longest ill-formed part read as U+FFFD. -/
def decodeLossy (bytes : Bytes) : List Char := decodeLossyOnto [] bytes

def ofString (text : String) : Bytes := encode text.toList

def toString? (bytes : Bytes) : Option String := (decode? bytes).map String.ofList

def toStringLossy (bytes : Bytes) : String := String.ofList (decodeLossy bytes)

def size (text : List Char) : Nat := (encode text).length

theorem size_append (text more : List Char) : size (text ++ more) = size text + size more := by
  rw [size, encode, List.flatMap_append, List.length_append]
  rfl

private theorem toNat_toUInt8 {value : Nat} (small : value < 0x100) :
    value.toUInt8.toNat = value :=
  UInt8.toNat_ofNat_of_lt small

private theorem takeTails_written (later : List Nat) {number low high : Nat} (value : Nat)
    (above : low ≤ 0x80 + number % 0x40) (below : 0x80 + number % 0x40 ≤ high) (rest : Bytes) :
    takeTails low high value (later.length + 1)
        ((number :: later).map (fun number => (0x80 + number % 0x40).toUInt8) ++ rest) =
      (some ((number :: later).foldl (fun total number => total * 0x40 + number % 0x40) value),
        later.length + 1) := by
  have same : (0x80 + number % 0x40).toUInt8.toNat = 0x80 + number % 0x40 :=
    toNat_toUInt8 (by omega)
  induction later generalizing number low high value with
  | nil =>
    have allowed : low ≤ 0x80 + number % 0x40 ∧ 0x80 + number % 0x40 ≤ high := ⟨above, below⟩
    simp only [List.map_cons, List.map_nil, List.cons_append, List.nil_append, List.length_nil,
      takeTails, same, if_pos allowed, Nat.add_sub_cancel_left, List.foldl_cons, List.foldl_nil]
  | cons next more ih =>
    have ended := ih (value * 0x40 + number % 0x40) (Nat.le_add_right 0x80 (next % 0x40))
      (show 0x80 + next % 0x40 ≤ 0xBF by omega) (toNat_toUInt8 (by omega))
    rw [List.map_cons, List.cons_append, takeTails, same, if_pos ⟨above, below⟩,
      Nat.add_sub_cancel_left, List.length_cons, ended]
    rfl

private theorem scan_written (later : List Nat) {byte : UInt8} {value number low high : Nat}
    {char : Char} (lead : Lead.ofByte? byte = some ⟨value, later.length + 1, low, high⟩)
    (above : low ≤ 0x80 + number % 0x40) (below : 0x80 + number % 0x40 ≤ high)
    (whole : (number :: later).foldl (fun total number => total * 0x40 + number % 0x40) value =
      char.toNat) (rest : Bytes) :
    scan byte ((number :: later).map (fun number => (0x80 + number % 0x40).toUInt8) ++ rest) =
      (some char, later.length + 1) := by
  rw [scan, lead]
  dsimp only
  rw [takeTails_written later value above below rest, whole, Option.map_some, Char.ofNat_toNat]

private theorem lead_one {value : Nat} (small : value < 0x80) :
    Lead.ofByte? value.toUInt8 = some ⟨value, 0, 0x80, 0xBF⟩ := by
  rw [Lead.ofByte?, toNat_toUInt8 (by omega), if_pos small]

private theorem lead_two {value : Nat} (least : 2 ≤ value) (small : value < 0x20) :
    Lead.ofByte? (0xC0 + value).toUInt8 = some ⟨value, 1, 0x80, 0xBF⟩ := by
  rw [Lead.ofByte?, toNat_toUInt8 (by omega), if_neg (by omega), if_neg (by omega),
    if_pos (by omega), Nat.add_sub_cancel_left]

private theorem lead_three (value number : Nat) (small : value < 0x10)
    (long : value = 0 → 0x20 ≤ number % 0x40) (plain : value = 0xD → number % 0x40 < 0x20) :
    ∃ low high, Lead.ofByte? (0xE0 + value).toUInt8 = some ⟨value, 2, low, high⟩ ∧
      low ≤ 0x80 + number % 0x40 ∧ 0x80 + number % 0x40 ≤ high := by
  rw [Lead.ofByte?, toNat_toUInt8 (by omega), if_neg (by omega), if_neg (by omega),
    if_neg (by omega)]
  by_cases zero : value = 0
  · exact ⟨0xA0, 0xBF, by simp [zero], by have := long zero; omega, by omega⟩
  by_cases last : value = 0xD
  · exact ⟨0x80, 0x9F, by simp [last], by omega, by have := plain last; omega⟩
  refine ⟨0x80, 0xBF, ?_, by omega, by omega⟩
  rw [if_neg (by omega), if_neg (by omega), if_pos (by omega), Nat.add_sub_cancel_left]

private theorem lead_four (value number : Nat) (small : value ≤ 4)
    (long : value = 0 → 0x10 ≤ number % 0x40) (within : value = 4 → number % 0x40 < 0x10) :
    ∃ low high, Lead.ofByte? (0xF0 + value).toUInt8 = some ⟨value, 3, low, high⟩ ∧
      low ≤ 0x80 + number % 0x40 ∧ 0x80 + number % 0x40 ≤ high := by
  rw [Lead.ofByte?, toNat_toUInt8 (by omega), if_neg (by omega), if_neg (by omega),
    if_neg (by omega), if_neg (by omega), if_neg (by omega), if_neg (by omega)]
  by_cases zero : value = 0
  · exact ⟨0x90, 0xBF, by simp [zero], by have := long zero; omega, by omega⟩
  by_cases last : value = 4
  · exact ⟨0x80, 0x8F, by simp [last], by omega, by have := within last; omega⟩
  refine ⟨0x80, 0xBF, ?_, by omega, by omega⟩
  rw [if_neg (by omega), if_pos (by omega), Nat.add_sub_cancel_left]

/-- The bytes of a character are scanned as that character, whatever follows them. -/
theorem scan_encodeChar (char : Char) (rest : Bytes) :
    ∃ byte more, encodeChar char = byte :: more ∧
      scan byte (more ++ rest) = (some char, more.length) := by
  have range : char.toNat < 0xD800 ∨ 0xDFFF < char.toNat ∧ char.toNat < 0x110000 := char.valid
  rw [encodeChar]
  split
  · rename_i one
    refine ⟨_, [], rfl, ?_⟩
    simp [scan, lead_one one, takeTails]
  split
  · rename_i two
    refine ⟨_, _, rfl, scan_written [] (lead_two (by omega) (by omega))
      (Nat.le_add_right 0x80 (char.toNat % 0x40)) (by omega) ?_ rest⟩
    simp only [List.foldl_cons, List.foldl_nil]
    omega
  split
  · rename_i three
    obtain ⟨low, high, lead, above, below⟩ :=
      lead_three (char.toNat / 0x1000) (char.toNat / 0x40) (by omega) (by omega) (by omega)
    refine ⟨_, _, rfl, scan_written [char.toNat] lead above below ?_ rest⟩
    simp only [List.foldl_cons, List.foldl_nil]
    omega
  · rename_i four
    obtain ⟨low, high, lead, above, below⟩ :=
      lead_four (char.toNat / 0x40000) (char.toNat / 0x1000) (by omega) (by omega) (by omega)
    refine ⟨_, _, rfl, scan_written [char.toNat / 0x40, char.toNat] lead above below ?_ rest⟩
    simp only [List.foldl_cons, List.foldl_nil]
    omega

private theorem decodeOnto_encode (reversed text : List Char) :
    decodeOnto reversed (encode text) = some (reversed.reverse ++ text) := by
  induction text generalizing reversed with
  | nil => simp [encode, decodeOnto]
  | cons char text ih =>
    obtain ⟨byte, more, written, scanned⟩ := scan_encodeChar char (encode text)
    have spelled : encode (char :: text) = byte :: (more ++ encode text) := by
      rw [encode, List.flatMap_cons, written, List.cons_append, ← encode]
    rw [spelled, decodeOnto, scanned]
    simp [ih]

theorem decode?_encode (text : List Char) : decode? (encode text) = some text :=
  decodeOnto_encode [] text

/-! ### Readers, a character at a time -/

private theorem length_drop_lt (byte : UInt8) (rest : Bytes) (used : Nat) :
    (rest.drop used).length < (byte :: rest).length := by
  simp only [List.length_cons, List.length_drop]
  omega

private theorem decodeOnto_eq (reversed : List Char) : (bytes : Bytes) →
    decodeOnto reversed bytes = (decodeOnto [] bytes).map (reversed.reverse ++ ·)
  | [] => by simp [decodeOnto]
  | byte :: rest => by
    rw [decodeOnto, decodeOnto]
    split
    · rename_i char used scanned
      rw [decodeOnto_eq (char :: reversed), decodeOnto_eq [char], Option.map_map]
      congr 1
      funext text
      simp
    · rfl
termination_by bytes => bytes.length
decreasing_by all_goals exact length_drop_lt ..

private theorem decodeLossyOnto_eq (reversed : List Char) : (bytes : Bytes) →
    decodeLossyOnto reversed bytes = reversed.reverse ++ decodeLossyOnto [] bytes
  | [] => by simp [decodeLossyOnto]
  | byte :: rest => by
    rw [decodeLossyOnto, decodeLossyOnto]
    dsimp only
    rw [decodeLossyOnto_eq (_ :: reversed), decodeLossyOnto_eq [_]]
    simp
termination_by bytes => bytes.length
decreasing_by all_goals exact length_drop_lt ..

theorem decode?_nil : decode? [] = some [] := by simp [decode?, decodeOnto]

/-- Reading goes on behind a character, and stops at the first ill-formed part. -/
theorem decode?_cons (byte : UInt8) (rest : Bytes) : decode? (byte :: rest) =
    match scan byte rest with
    | (some char, used) => (decode? (rest.drop used)).map (char :: ·)
    | (none, _) => none := by
  rw [decode?, decodeOnto]
  split
  · rw [decodeOnto_eq]
    rfl
  · rfl

theorem decodeLossy_nil : decodeLossy [] = [] := by simp [decodeLossy, decodeLossyOnto]

/-- Lossy reading goes on behind an ill-formed part as well. -/
theorem decodeLossy_cons (byte : UInt8) (rest : Bytes) : decodeLossy (byte :: rest) =
    (scan byte rest).1.getD replacement :: decodeLossy (rest.drop (scan byte rest).2) := by
  rw [decodeLossy, decodeLossyOnto]
  exact decodeLossyOnto_eq [_] _

/-! ### Bytes in order -/

private theorem cons_lt_cons {first second : Nat} {rest others : Bytes} (small : second < 0x100)
    (above : first ≤ second) (later : first = second → rest < others) :
    first.toUInt8 :: rest < second.toUInt8 :: others := by
  rcases Nat.lt_or_eq_of_le above with below | rfl
  · refine List.cons_lt_cons_iff.mpr (.inl (UInt8.lt_iff_toNat_lt.mpr ?_))
    rwa [toNat_toUInt8 (by omega), toNat_toUInt8 small]
  · exact List.cons_lt_cons_iff.mpr (.inr ⟨rfl, later rfl⟩)

/-- The bytes of a smaller character come first, whatever follows either. -/
theorem encodeChar_lt {char other : Char} (below : char < other) (rest others : Bytes) :
    encodeChar char ++ rest < encodeChar other ++ others := by
  have below : char.toNat < other.toNat := below
  have range : other.toNat < 0x110000 := by
    have valid : other.toNat < 0xD800 ∨ 0xDFFF < other.toNat ∧ other.toNat < 0x110000 := other.valid
    omega
  simp only [encodeChar]
  repeat' split
  -- A longer form has a greater first byte; forms of one length are told apart six bits at a time.
  all_goals simp only [List.cons_append, List.nil_append]
  all_goals refine cons_lt_cons (by omega) (by omega) fun first => ?_
  all_goals try omega
  all_goals refine cons_lt_cons (by omega) (by omega) fun second => ?_
  all_goals try omega
  all_goals refine cons_lt_cons (by omega) (by omega) fun third => ?_
  all_goals try omega
  exact cons_lt_cons (by omega) (by omega) fun fourth => by omega

/-- Texts in order of their characters have their bytes in order. -/
theorem encode_lt {text other : List Char} (below : text < other) : encode text < encode other := by
  induction text generalizing other with
  | nil =>
    cases other with
    | nil => exact absurd below (List.lt_irrefl [])
    | cons char other =>
      obtain ⟨byte, more, written, -⟩ := scan_encodeChar char []
      rw [encode, encode, List.flatMap_cons, written]
      exact List.nil_lt_cons _ _
  | cons char text ih =>
    cases other with
    | nil => exact absurd below (List.not_lt_nil _)
    | cons next other =>
      rw [encode, encode, List.flatMap_cons, List.flatMap_cons]
      rcases List.cons_lt_cons_iff.mp below with before | ⟨rfl, later⟩
      · exact encodeChar_lt before _ _
      · exact List.append_left_lt (ih later)

theorem ofString_lt {text other : String} (below : text < other) : ofString text < ofString other :=
  encode_lt (String.lt_iff.mp below)

end Utf8

end HookRelay
