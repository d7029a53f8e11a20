import HookRelay.Text.Utf8
import Mathlib.Data.List.Basic

/-!
What lossy reading makes of bytes, part by part: the characters among them are read as they are
written, and each longest ill-formed part in between as one U+FFFD. Since that takes three bytes to
write, text that is read grows by what its ill-formed parts are short of that.
-/
namespace HookRelay.Utf8

/-! ### A character and its bytes -/

/-- A byte that follows a lead byte carries six bits. -/
private def tail (number : Nat) : UInt8 := (0x80 + number).toUInt8

private theorem tail_sub {byte : UInt8} (above : 0x80 ≤ byte.toNat) :
    tail (byte.toNat - 0x80) = byte := by
  rw [tail, Nat.add_sub_cancel' above]
  exact UInt8.ofNat_toNat

private theorem takeTails_eq_some {low high value follow result used : Nat} {bytes : Bytes}
    (above : 0x80 ≤ low) (below : high ≤ 0xBF)
    (taken : takeTails low high value follow bytes = (some result, used)) :
    used = follow ∧ ∃ numbers : List Nat, numbers.length = follow ∧
      bytes.take follow = numbers.map tail ∧ (∀ number ∈ numbers, number < 0x40) ∧
      (∀ first ∈ numbers.head?, low ≤ 0x80 + first ∧ 0x80 + first ≤ high) ∧
      result = numbers.foldl (fun total number => total * 0x40 + number) value := by
  induction follow generalizing low high value bytes used with
  | zero =>
    cases taken
    exact ⟨rfl, [], by simp⟩
  | succ follow ih =>
    cases bytes with
    | nil => cases taken
    | cons byte rest =>
      rw [takeTails] at taken
      split at taken
      · rename_i allowed
        cases taken' : takeTails 0x80 0xBF (value * 0x40 + (byte.toNat - 0x80)) follow rest with
        | mk found more =>
          rw [taken'] at taken
          cases taken
          obtain ⟨rfl, numbers, length, written, small, _, whole⟩ :=
            ih (Nat.le_refl _) (Nat.le_refl _) taken'
          refine ⟨rfl, (byte.toNat - 0x80) :: numbers, by rw [List.length_cons, length], ?_, ?_, ?_,
            by rw [whole, List.foldl_cons]⟩
          · rw [List.take_succ_cons, List.map_cons, written, tail_sub (by omega)]
          · intro number member
            rcases List.mem_cons.mp member with first | later
            · omega
            · exact small number later
          · intro first head
            have same : byte.toNat - 0x80 = first := Option.some.inj head
            omega
      · cases taken

private theorem lead_cases {byte : UInt8} {lead : Lead} (found : Lead.ofByte? byte = some lead) :
    0x80 ≤ lead.low ∧ lead.high ≤ 0xBF ∧
      ((lead.follow = 0 ∧ byte.toNat < 0x80 ∧ byte.toNat = lead.value) ∨
        (lead.follow = 1 ∧ 2 ≤ lead.value ∧ lead.value < 0x20 ∧ byte.toNat = 0xC0 + lead.value) ∨
        (lead.follow = 2 ∧ lead.value < 0x10 ∧ byte.toNat = 0xE0 + lead.value ∧
          (lead.value = 0 → 0xA0 ≤ lead.low) ∧ (lead.value = 0xD → lead.high ≤ 0x9F)) ∨
        (lead.follow = 3 ∧ lead.value ≤ 4 ∧ byte.toNat = 0xF0 + lead.value ∧
          (lead.value = 0 → 0x90 ≤ lead.low) ∧ (lead.value = 4 → lead.high ≤ 0x8F))) := by
  simp only [Lead.ofByte?] at found
  repeat' split at found
  all_goals simp only [Option.some.injEq, reduceCtorEq] at found
  all_goals subst found
  all_goals dsimp only
  all_goals omega

private theorem toNat_ofNat {value : Nat}
    (valid : value < 0xD800 ∨ 0xDFFF < value ∧ value < 0x110000) :
    (Char.ofNat value).toNat = value := by
  rw [Char.ofNat, dif_pos valid]
  rfl

private theorem encodeChar_one {value : Nat} (small : value < 0x80) :
    encodeChar (Char.ofNat value) = [value.toUInt8] := by
  rw [encodeChar, toNat_ofNat (by omega), if_pos small]

private theorem encodeChar_two {value a : Nat} (least : 2 ≤ value) (most : value < 0x20)
    (small : a < 0x40) : encodeChar (Char.ofNat (value * 0x40 + a)) =
      [(0xC0 + value).toUInt8, tail a] := by
  have whole : (value * 0x40 + a) / 0x40 = value := by omega
  have last : (value * 0x40 + a) % 0x40 = a := by omega
  rw [encodeChar, toNat_ofNat (by omega), if_neg (by omega), if_pos (by omega), whole, last]
  rfl

private theorem encodeChar_three {value a b : Nat} (most : value < 0x10) (small : a < 0x40)
    (tiny : b < 0x40) (long : value = 0 → 0x20 ≤ a) (plain : value = 0xD → a < 0x20) :
    encodeChar (Char.ofNat ((value * 0x40 + a) * 0x40 + b)) =
      [(0xE0 + value).toUInt8, tail a, tail b] := by
  have whole : ((value * 0x40 + a) * 0x40 + b) / 0x1000 = value := by omega
  have middle : ((value * 0x40 + a) * 0x40 + b) / 0x40 % 0x40 = a := by omega
  have last : ((value * 0x40 + a) * 0x40 + b) % 0x40 = b := by omega
  rw [encodeChar, toNat_ofNat (by omega), if_neg (by omega), if_neg (by omega),
    if_pos (by omega), whole, middle, last]
  rfl

private theorem encodeChar_four {value a b c : Nat} (most : value ≤ 4) (small : a < 0x40)
    (tiny : b < 0x40) (least : c < 0x40) (long : value = 0 → 0x10 ≤ a)
    (within : value = 4 → a < 0x10) :
    encodeChar (Char.ofNat (((value * 0x40 + a) * 0x40 + b) * 0x40 + c)) =
      [(0xF0 + value).toUInt8, tail a, tail b, tail c] := by
  have whole : (((value * 0x40 + a) * 0x40 + b) * 0x40 + c) / 0x40000 = value := by omega
  have second : (((value * 0x40 + a) * 0x40 + b) * 0x40 + c) / 0x1000 % 0x40 = a := by omega
  have third : (((value * 0x40 + a) * 0x40 + b) * 0x40 + c) / 0x40 % 0x40 = b := by omega
  have last : (((value * 0x40 + a) * 0x40 + b) * 0x40 + c) % 0x40 = c := by omega
  rw [encodeChar, toNat_ofNat (by omega), if_neg (by omega), if_neg (by omega),
    if_neg (by omega), whole, second, third, last]
  rfl

theorem encodeChar_of_scan {byte : UInt8} {rest : Bytes} {char : Char} {used : Nat}
    (scanned : scan byte rest = (some char, used)) :
    encodeChar char = byte :: rest.take used := by
  rw [scan] at scanned
  split at scanned
  · cases scanned
  rename_i lead found
  obtain ⟨above, below, kind⟩ := lead_cases found
  cases taken : takeTails lead.low lead.high lead.value lead.follow rest with
  | mk result more =>
    rw [taken] at scanned
    cases result with
    | none => cases scanned
    | some result =>
      cases scanned
      obtain ⟨rfl, numbers, length, written, small, range, rfl⟩ :=
        takeTails_eq_some above below taken
      rw [written, ← UInt8.ofNat_toNat (x := byte)]
      rcases kind with ⟨none, first, same⟩ | ⟨one, least, most, same⟩ |
        ⟨two, most, same, long, plain⟩ | ⟨three, most, same, long, within⟩
      · rw [none] at length
        cases List.eq_nil_of_length_eq_zero length
        rw [same] at first ⊢
        exact encodeChar_one first
      · rw [one] at length
        obtain ⟨a, rfl⟩ := List.length_eq_one_iff.mp length
        rw [same]
        exact encodeChar_two least most (small a (by simp))
      · rw [two] at length
        obtain ⟨a, b, rfl⟩ := List.length_eq_two.mp length
        have := range a rfl
        rw [same]
        exact encodeChar_three most (small a (by simp)) (small b (by simp)) (by omega) (by omega)
      · rw [three] at length
        obtain ⟨a, b, c, rfl⟩ := List.length_eq_three.mp length
        have := range a rfl
        rw [same]
        exact encodeChar_four most (small a (by simp)) (small b (by simp)) (small c (by simp))
          (by omega) (by omega)

private theorem takeTails_eq_none {low high value follow used : Nat} {bytes : Bytes}
    (taken : takeTails low high value follow bytes = (none, used)) :
    used < follow ∧ used ≤ bytes.length := by
  induction follow generalizing low high value bytes used with
  | zero => cases taken
  | succ follow ih =>
    cases bytes with
    | nil =>
      cases taken
      exact ⟨Nat.succ_pos follow, Nat.le_refl 0⟩
    | cons byte rest =>
      rw [takeTails] at taken
      split at taken
      · cases later : takeTails 0x80 0xBF (value * 0x40 + (byte.toNat - 0x80)) follow rest with
        | mk result more =>
          rw [later] at taken
          cases taken
          obtain ⟨short, present⟩ := ih later
          exact ⟨Nat.succ_lt_succ short, Nat.succ_le_succ present⟩
      · cases taken
        exact ⟨Nat.succ_pos follow, Nat.zero_le _⟩

/-- One longest ill-formed part has at most three bytes. -/
theorem scan_eq_none {byte : UInt8} {rest : Bytes} {used : Nat}
    (scanned : scan byte rest = (none, used)) : used ≤ 2 ∧ used ≤ rest.length := by
  rw [scan] at scanned
  split at scanned
  · cases scanned
    exact ⟨Nat.zero_le 2, Nat.zero_le _⟩
  · rename_i lead found
    cases taken : takeTails lead.low lead.high lead.value lead.follow rest with
    | mk result more =>
      rw [taken] at scanned
      cases result with
      | some value => cases scanned
      | none =>
        cases scanned
        obtain ⟨short, present⟩ := takeTails_eq_none taken
        obtain ⟨_, _, kind⟩ := lead_cases found
        exact ⟨by omega, present⟩

private theorem takeTails_take {low high value follow result used : Nat} {bytes : Bytes}
    (taken : takeTails low high value follow bytes = (some result, used)) (most : Nat) :
    takeTails low high value follow (bytes.take most) =
      if used ≤ most then (some result, used) else (none, most) := by
  induction follow generalizing low high value bytes used most with
  | zero =>
    cases taken
    rw [if_pos (Nat.zero_le most)]
    rfl
  | succ follow ih =>
    cases bytes with
    | nil => cases taken
    | cons byte rest =>
      rw [takeTails] at taken
      split at taken
      · rename_i allowed
        cases later : takeTails 0x80 0xBF (value * 0x40 + (byte.toNat - 0x80)) follow rest with
        | mk found more =>
          rw [later] at taken
          cases taken
          cases most with
          | zero => rfl
          | succ most =>
            rw [List.take_succ_cons, takeTails, if_pos allowed, ih later most]
            by_cases enough : more ≤ most
            · rw [if_pos enough, if_pos (Nat.succ_le_succ enough)]
            · rw [if_neg enough, if_neg fun whole => enough (Nat.le_of_succ_le_succ whole)]
      · cases taken

theorem scan_take {byte : UInt8} {rest : Bytes} {char : Char} {used : Nat}
    (scanned : scan byte rest = (some char, used)) (most : Nat) :
    scan byte (rest.take most) =
      if used ≤ most then (some char, used) else (none, most) := by
  rw [scan] at scanned ⊢
  split at scanned
  · cases scanned
  · rename_i lead found
    cases taken : takeTails lead.low lead.high lead.value lead.follow rest with
    | mk result more =>
      rw [taken] at scanned
      cases result with
      | none => cases scanned
      | some value =>
        cases scanned
        dsimp only
        rw [takeTails_take taken most]
        split <;> rfl

/-! ### Bytes in parts -/

/-- A part of some bytes: a character, or what no character can be read from. -/
inductive Part where
  | whole (char : Char)
  | broken (bytes : Bytes)
deriving DecidableEq, Repr

namespace Part

def bytes : Part → Bytes
  | whole char => encodeChar char
  | broken bytes => bytes

def read : Part → Char
  | whole char => char
  | broken _ => replacement

/-- By how many bytes a part grows when it is read and written again. -/
def growth : Part → Nat
  | whole _ => 0
  | broken bytes => 3 - bytes.length

def growthOf : List Part → Nat
  | [] => 0
  | part :: list => part.growth + growthOf list

theorem growthOf_cons (part : Part) (list : List Part) :
    growthOf (part :: list) = part.growth + growthOf list := rfl

theorem growthOf_eq_zero_iff {list : List Part} :
    growthOf list = 0 ↔ ∀ part ∈ list, part.growth = 0 := by
  induction list with
  | nil => simp [growthOf]
  | cons part list ih => rw [growthOf_cons, Nat.add_eq_zero_iff, ih, List.forall_mem_cons]

/-- Ill-formed parts have one to three bytes. -/
def Sound : Part → Prop
  | whole _ => True
  | broken bytes => 1 ≤ bytes.length ∧ bytes.length ≤ 3

theorem length_encodeChar_read {part : Part} (sound : part.Sound) :
    (encodeChar part.read).length = part.bytes.length + part.growth := by
  cases part with
  | whole char => rfl
  | broken bytes =>
    have three : (encodeChar replacement).length = 3 := by decide
    obtain ⟨_, most⟩ := sound
    rw [read, three, Part.bytes, growth, Nat.add_sub_cancel' most]

theorem size_map_read {list : List Part} (sound : ∀ part ∈ list, part.Sound) :
    size (list.map read) = (list.flatMap bytes).length + growthOf list := by
  induction list with
  | nil => rfl
  | cons part list ih =>
    obtain ⟨first, others⟩ := List.forall_mem_cons.mp sound
    have later := ih others
    simp only [size, encode, List.map_cons, List.flatMap_cons, List.length_append, growthOf_cons,
      length_encodeChar_read first] at later ⊢
    omega

end Part

def parts : Bytes → List Part
  | [] => []
  | byte :: rest =>
    match scan byte rest with
    | (some char, used) => .whole char :: parts (rest.drop used)
    | (none, used) => .broken (byte :: rest.take used) :: parts (rest.drop used)
termination_by bytes => bytes.length
decreasing_by all_goals simp only [List.length_cons, List.length_drop]; omega

theorem parts_cons_of_char {byte : UInt8} {rest : Bytes} {char : Char} {used : Nat}
    (scanned : scan byte rest = (some char, used)) :
    parts (byte :: rest) = .whole char :: parts (rest.drop used) := by
  rw [parts, scanned]

theorem parts_cons_of_broken {byte : UInt8} {rest : Bytes} {used : Nat}
    (scanned : scan byte rest = (none, used)) :
    parts (byte :: rest) = .broken (byte :: rest.take used) :: parts (rest.drop used) := by
  rw [parts, scanned]

theorem flatMap_parts (bytes : Bytes) : (parts bytes).flatMap Part.bytes = bytes := by
  fun_induction parts bytes with
  | case1 => rfl
  | case2 byte rest char used scanned ih =>
    rw [List.flatMap_cons, ih, Part.bytes, encodeChar_of_scan scanned, List.cons_append,
      List.take_append_drop]
  | case3 byte rest used scanned ih =>
    rw [List.flatMap_cons, ih, Part.bytes, List.cons_append, List.take_append_drop]

theorem map_read_parts (bytes : Bytes) : (parts bytes).map Part.read = decodeLossy bytes := by
  fun_induction parts bytes with
  | case1 => exact decodeLossy_nil.symm
  | case2 byte rest char used scanned ih =>
    rw [decodeLossy_cons, scanned, List.map_cons, ih]
    rfl
  | case3 byte rest used scanned ih =>
    rw [decodeLossy_cons, scanned, List.map_cons, ih]
    rfl

theorem sound_of_mem_parts (bytes : Bytes) : ∀ part ∈ parts bytes, part.Sound := by
  fun_induction parts bytes with
  | case1 => exact fun part member => nomatch member
  | case2 byte rest char used scanned ih => exact List.forall_mem_cons.mpr ⟨trivial, ih⟩
  | case3 byte rest used scanned ih =>
    obtain ⟨short, present⟩ := scan_eq_none scanned
    refine List.forall_mem_cons.mpr ⟨?_, ih⟩
    simp only [Part.Sound, List.length_cons, List.length_take]
    omega

/-- Text that is read takes as many bytes as were read, and what its ill-formed parts grow by. -/
theorem size_decodeLossy (bytes : Bytes) :
    size (decodeLossy bytes) = bytes.length + Part.growthOf (parts bytes) := by
  rw [← map_read_parts, Part.size_map_read (sound_of_mem_parts bytes), flatMap_parts]

theorem length_decodeLossy_le (bytes : Bytes) : (decodeLossy bytes).length ≤ bytes.length := by
  rw [← map_read_parts, List.length_map]
  fun_induction parts bytes with
  | case1 => exact Nat.le_refl 0
  | case2 byte rest char used scanned ih =>
    rw [List.length_drop] at ih
    simp only [List.length_cons]
    omega
  | case3 byte rest used scanned ih =>
    rw [List.length_drop] at ih
    simp only [List.length_cons]
    omega

/-- Growth is greatest where each byte is a part of its own. -/
theorem growthOf_parts_le (bytes : Bytes) : Part.growthOf (parts bytes) ≤ 2 * bytes.length := by
  fun_induction parts bytes with
  | case1 => exact Nat.le_refl 0
  | case2 byte rest char used scanned ih =>
    rw [List.length_drop] at ih
    simp only [Part.growthOf_cons, Part.growth, List.length_cons]
    omega
  | case3 byte rest used scanned ih =>
    obtain ⟨_, present⟩ := scan_eq_none scanned
    rw [List.length_drop] at ih
    simp only [Part.growthOf_cons, Part.growth, List.length_cons, List.length_take]
    omega

/-- Bytes are read in full exactly if no part of them is ill-formed. -/
theorem decode?_eq_some_iff {bytes : Bytes} {text : List Char} :
    decode? bytes = some text ↔ parts bytes = text.map .whole := by
  fun_induction parts bytes generalizing text with
  | case1 => simp [decode?_nil, eq_comm]
  | case2 byte rest char used scanned ih =>
    rw [decode?_cons, scanned]
    cases text with
    | nil => simp
    | cons first text => simp [ih, and_comm]
  | case3 byte rest used scanned ih =>
    rw [decode?_cons, scanned]
    cases text with
    | nil => simp
    | cons first text => simp

theorem growthOf_parts_eq_zero {bytes : Bytes} {text : List Char}
    (decoded : decode? bytes = some text) : Part.growthOf (parts bytes) = 0 := by
  apply Part.growthOf_eq_zero_iff.mpr
  intro part member
  rw [decode?_eq_some_iff.mp decoded] at member
  obtain ⟨char, _, rfl⟩ := List.mem_map.mp member
  rfl

/-- The beginning of well-formed bytes can be ill-formed only where it is cut off. -/
theorem growthOf_parts_take_le {bytes : Bytes} {text : List Char}
    (decoded : decode? bytes = some text) (most : Nat) :
    Part.growthOf (parts (bytes.take most)) ≤ 2 := by
  fun_induction parts bytes generalizing text most with
  | case1 => simp [parts, Part.growthOf]
  | case2 byte rest char used scanned ih =>
    rw [decode?_cons, scanned, Option.map_eq_some_iff] at decoded
    obtain ⟨later, decoded, -⟩ := decoded
    cases most with
    | zero => simp [parts, Part.growthOf]
    | succ most =>
      have cut := scan_take scanned most
      rw [List.take_succ_cons]
      by_cases enough : used ≤ most
      · rw [if_pos enough] at cut
        have shorter := ih decoded (most - used)
        rw [parts_cons_of_char cut, Part.growthOf_cons, List.drop_take, Part.growth, Nat.zero_add]
        exact shorter
      · rw [if_neg enough] at cut
        obtain ⟨_, present⟩ := scan_eq_none cut
        rw [List.length_take] at present
        have nothing : (rest.take most).drop most = [] :=
          List.drop_eq_nil_of_le (List.length_take_le most rest)
        simp only [parts_cons_of_broken cut, nothing, parts, Part.growthOf, Part.growth,
          List.length_cons]
        omega
  | case3 byte rest used scanned ih =>
    rw [decode?_cons, scanned] at decoded
    cases decoded

/-! ### The null character -/

/-- The null byte is no part of any other character. -/
theorem zero_mem_encodeChar_iff (char : Char) : 0 ∈ encodeChar char ↔ char = '\x00' := by
  have range : char.toNat < 0x110000 := by
    have valid : char.toNat < 0xD800 ∨ 0xDFFF < char.toNat ∧ char.toNat < 0x110000 := char.valid
    omega
  have null : char = '\x00' ↔ char.toNat = 0 := by
    rw [← Char.toNat_inj]
    rfl
  have small (number : Nat) (below : number < 0x100) :
      (0 : UInt8) = number.toUInt8 ↔ number = 0 := by
    have same : number.toUInt8.toNat = number := UInt8.toNat_ofNat_of_lt below
    rw [← UInt8.toNat_inj, same]
    exact eq_comm
  simp only [encodeChar]
  repeat' split
  all_goals simp (disch := omega) only [List.mem_cons, List.not_mem_nil, or_false, small, null]
  all_goals omega

private theorem zero_not_mem_of_takeTails {low high value follow used : Nat} {bytes : Bytes}
    (above : 0x80 ≤ low) (taken : takeTails low high value follow bytes = (none, used)) :
    0 ∉ bytes.take used := by
  induction follow generalizing low high value bytes used with
  | zero => cases taken
  | succ follow ih =>
    cases bytes with
    | nil =>
      cases taken
      exact List.not_mem_nil
    | cons byte rest =>
      rw [takeTails] at taken
      split at taken
      · rename_i allowed
        cases later : takeTails 0x80 0xBF (value * 0x40 + (byte.toNat - 0x80)) follow rest with
        | mk result more =>
          rw [later] at taken
          cases taken
          rw [List.take_succ_cons, List.mem_cons]
          rintro (zero | found)
          · rw [← zero] at allowed
            exact absurd (Nat.le_trans above allowed.1) (by decide)
          · exact ih (Nat.le_refl _) later found
      · cases taken
        exact List.not_mem_nil

theorem zero_not_mem_of_broken {byte : UInt8} {rest : Bytes} {used : Nat}
    (scanned : scan byte rest = (none, used)) : 0 ∉ byte :: rest.take used := by
  rw [List.mem_cons, not_or]
  constructor
  · rintro rfl
    cases scanned
  · rw [scan] at scanned
    split at scanned
    · cases scanned
      exact List.not_mem_nil
    · rename_i lead found
      cases taken : takeTails lead.low lead.high lead.value lead.follow rest with
      | mk result more =>
        rw [taken] at scanned
        cases result with
        | some value => cases scanned
        | none =>
          cases scanned
          exact zero_not_mem_of_takeTails (lead_cases found).1 taken

/-- Lossy reading keeps null bytes and makes no others. -/
theorem null_mem_decodeLossy_iff (bytes : Bytes) : '\x00' ∈ decodeLossy bytes ↔ 0 ∈ bytes := by
  fun_induction parts bytes with
  | case1 => simp [decodeLossy_nil]
  | case2 byte rest char used scanned ih =>
    have whole : byte :: rest = encodeChar char ++ rest.drop used := by
      rw [encodeChar_of_scan scanned, List.cons_append, List.take_append_drop]
    rw [decodeLossy_cons, scanned, List.mem_cons, ih, whole, List.mem_append,
      zero_mem_encodeChar_iff, Option.getD_some, eq_comm]
  | case3 byte rest used scanned ih =>
    have whole : byte :: rest = (byte :: rest.take used) ++ rest.drop used := by
      rw [List.cons_append, List.take_append_drop]
    have other : '\x00' ≠ replacement := by decide
    rw [decodeLossy_cons, scanned, List.mem_cons, ih, whole, List.mem_append]
    simp [other, zero_not_mem_of_broken scanned]

end HookRelay.Utf8
