import HookRelay.Json.Reader
import HookRelay.Json.Writer

namespace HookRelay.Json

theorem skipSpace_cons {first : Char} (solid : isSpace first = false) (more : List Char) :
    skipSpace (first :: more) = first :: more :=
  List.dropWhile_cons_of_neg (by simp [solid])

theorem ne_of_isDigit {char other : Char} (digit : Text.isDigit char = true)
    (plain : Text.isDigit other = false) : char ≠ other := by
  rintro rfl
  exact Bool.false_ne_true (plain.symm.trans digit)

theorem isSpace_of_isDigit {char : Char} (digit : Text.isDigit char = true) :
    isSpace char = false := by
  simp only [isSpace, Bool.or_eq_false_iff, decide_eq_false_iff_not]
  exact ⟨⟨⟨ne_of_isDigit digit rfl, ne_of_isDigit digit rfl⟩, ne_of_isDigit digit rfl⟩,
    ne_of_isDigit digit rfl⟩

/-! ### Strings -/

theorem hexUnit?_padded {unit : Nat} (fits : unit < 0x10000) (rest : List Char) :
    hexUnit? (Hex.padded 4 unit ++ rest) = some unit := by
  have four : (Hex.padded 4 unit ++ rest).take 4 = Hex.padded 4 unit :=
    List.take_left' (Hex.length_padded 4 unit)
  rw [hexUnit?, four, if_pos (Hex.length_padded 4 unit)]
  exact Hex.natValue?_padded fits

private theorem escape?_unit {char : Char} (control : char.toNat < 0x20) (rest : List Char) :
    escape? ('u' :: (Hex.padded 4 char.toNat ++ rest)) = some (char, 5) := by
  have unit := hexUnit?_padded (show char.toNat < 0x10000 by omega) rest
  rw [escape?, unit, Option.bind_eq_bind, Option.bind_some, if_neg (by omega), if_neg (by omega),
    Char.ofNat_toNat]

theorem readString?_escape (reversed : List Char) (char : Char) (rest : List Char) :
    readString? reversed (escape char ++ rest) = readString? (char :: reversed) rest := by
  rw [escape]
  -- The seven short escapes come first; each is read by its own letter.
  iterate 7
    split
    · rename_i same
      subst same
      simp [readString?, escape?]
  split
  · rename_i control
    have five : ('u' :: (Hex.padded 4 char.toNat ++ rest)).drop 5 = rest :=
      List.drop_left' (Hex.length_padded 4 char.toNat)
    show readString? reversed ('\\' :: 'u' :: (Hex.padded 4 char.toNat ++ rest)) = _
    rw [readString?, escape?_unit control]
    dsimp only
    rw [five]
  · rename_i quote backslash _ _ _ _ _ control
    rw [List.singleton_append, readString?, if_neg control]
    · exact quote
    · exact backslash

theorem readString?_written (reversed text rest : List Char) :
    readString? reversed (text.flatMap escape ++ '"' :: rest) =
      some (String.ofList (reversed.reverse ++ text), rest) := by
  induction text generalizing reversed with
  | nil => simp [readString?]
  | cons char text ih =>
    rw [List.flatMap_cons, List.append_assoc, readString?_escape, ih, List.reverse_cons,
      List.append_assoc, List.singleton_append]

theorem writeString_append (text : String) (rest : List Char) :
    writeString text ++ rest = '"' :: (text.toList.flatMap escape ++ '"' :: rest) := by
  rw [writeString, List.cons_append, List.append_assoc, List.singleton_append]

theorem readString?_writeString (text : String) (rest : List Char) :
    readString? [] (text.toList.flatMap escape ++ '"' :: rest) = some (text, rest) := by
  rw [readString?_written, List.reverse_nil, List.nil_append, String.ofList_toList]

/-! ### Integers -/

theorem isDigit_of_mem_digits {number : Nat} {char : Char}
    (member : char ∈ Nat.toDigits 10 number) : Text.isDigit char = true := by
  have digit := Char.isDigit_iff_toNat.mp
    (Nat.isDigit_of_mem_toDigits (by decide) (Nat.le_refl 10) member)
  exact Bool.and_eq_true_iff.mpr ⟨decide_eq_true digit.1, decide_eq_true digit.2⟩

theorem digits_cons (number : Nat) :
    ∃ first more, Nat.toDigits 10 number = first :: more ∧ Text.isDigit first = true := by
  obtain ⟨first, more, digits⟩ := List.exists_cons_of_ne_nil
    (Nat.toDigits_ne_nil : Nat.toDigits 10 number ≠ [])
  exact ⟨first, more, digits, isDigit_of_mem_digits (digits ▸ List.mem_cons_self)⟩

/-- Only zero has a leading zero. -/
theorem eq_zero_of_head_digits {number : Nat}
    (zero : (Nat.toDigits 10 number).head? = some '0') : number = 0 := by
  induction number using Nat.strongRecOn with
  | ind number ih =>
    rcases Nat.lt_or_ge number 10 with small | large
    · rw [Nat.toDigits_of_lt_base small] at zero
      exact Nat.digitChar_eq_zero.mp (Option.some.inj zero)
    · rw [Nat.toDigits_of_base_le (by decide) large, List.head?_append,
        Option.or_eq_some_iff] at zero
      rcases zero with zero | ⟨empty, _⟩
      · have front : number / 10 = 0 := ih (number / 10) (by omega) zero
        omega
      · exact absurd (List.head?_eq_none_iff.mp empty) Nat.toDigits_ne_nil

theorem gathered_digits {number : Nat} (fits : number < significandLimit) :
    (Nat.toDigits 10 number).foldl
        (fun gathered char => Gathered.whole gathered (Text.digitValue char)) ⟨0, 0, false⟩ =
      ⟨number, 0, false⟩ := by
  have last {front digit : Nat} (small : digit < 10)
      (fits : front * 10 + digit < significandLimit) :
      Gathered.whole ⟨front, 0, false⟩ (Text.digitValue digit.digitChar) =
        ⟨front * 10 + digit, 0, false⟩ := by
    have same : Text.digitValue digit.digitChar = digit := by
      rw [Text.digitValue, Nat.toNat_digitChar_of_lt_ten small, Nat.add_sub_cancel_left]
    simp [Gathered.whole, same, fits]
  induction number using Nat.strongRecOn with
  | ind number ih =>
    rcases Nat.lt_or_ge number 10 with small | large
    · rw [Nat.toDigits_of_lt_base small, List.foldl_cons, List.foldl_nil, last small (by omega),
        Nat.zero_mul, Nat.zero_add]
    · have whole : number / 10 * 10 + number % 10 = number := by omega
      rw [Nat.toDigits_of_base_le (by decide) large, List.foldl_append,
        ih (number / 10) (by omega) (by omega), List.foldl_cons, List.foldl_nil,
        last (Nat.mod_lt number (by decide)) (whole.symm ▸ fits), whole]

/-- What does not carry a number on: nothing, or no digit, point or exponent mark. -/
def Ends (rest : List Char) : Prop :=
  ∀ char ∈ rest.head?, Text.isDigit char = false ∧ char ≠ '.' ∧ char ≠ 'e' ∧ char ≠ 'E'

theorem readNumber?_digits (negative : Bool) {number : Nat} (fits : number < significandLimit)
    {rest : List Char} (ends : Ends rest) :
    readNumber? negative (Nat.toDigits 10 number ++ rest) =
      some (wholeNumber negative number, rest) := by
  have digits : ∀ char ∈ Nat.toDigits 10 number, Text.isDigit char = true := fun _ =>
    isDigit_of_mem_digits
  have taken :
      (Nat.toDigits 10 number ++ rest).takeWhile Text.isDigit = Nat.toDigits 10 number := by
    rw [List.takeWhile_append_of_pos digits]
    cases rest with
    | nil => exact List.append_nil _
    | cons char rest =>
      rw [List.takeWhile_cons_of_neg (by simp [(ends char rfl).1]), List.append_nil]
  have left : (Nat.toDigits 10 number ++ rest).dropWhile Text.isDigit = rest := by
    rw [List.dropWhile_append_of_pos digits]
    cases rest with
    | nil => rfl
    | cons char rest => exact List.dropWhile_cons_of_neg (by simp [(ends char rfl).1])
  have plain : ((Nat.toDigits 10 number).isEmpty || ((Nat.toDigits 10 number).length > 1 &&
      (Nat.toDigits 10 number).head? == some '0')) = false := by
    rw [List.isEmpty_eq_false_iff.mpr Nat.toDigits_ne_nil, Bool.false_or, Bool.and_eq_false_iff]
    by_cases zero : number = 0
    · exact .inl (by subst zero; rfl)
    · exact .inr (beq_eq_false_iff_ne.mpr fun leading => zero (eq_zero_of_head_digits leading))
  rw [readNumber?, taken, left]
  simp only [plain, gathered_digits fits]
  cases rest with
  | nil => rfl
  | cons char rest =>
    obtain ⟨_, point, lower, upper⟩ := ends char rfl
    simp [finishNumber?, point, lower, upper]

theorem writeInteger_of_neg {number : Int} (negative : number < 0) :
    writeInteger number = '-' :: Nat.toDigits 10 number.natAbs := by
  rw [writeInteger, if_pos negative, List.singleton_append]

theorem writeInteger_of_nonneg {number : Int} (positive : 0 ≤ number) :
    writeInteger number = Nat.toDigits 10 number.natAbs := by
  rw [writeInteger, if_neg (Int.not_lt.mpr positive), List.nil_append]

theorem wholeNumber_of_neg {number : Int} (negative : number < 0)
    (least : -0x8000000000000000 ≤ number) :
    wholeNumber true number.natAbs = .integer number := by
  have signed : -(number.natAbs : Int) = number := by omega
  have held : ¬ (number.natAbs = 0 ∨ 0x8000000000000000 < number.natAbs) := by omega
  simp only [wholeNumber, Bool.not_true, Bool.false_eq_true, if_false, Bool.or_eq_true,
    decide_eq_true_eq, if_neg held, signed]

theorem wholeNumber_of_nonneg {number : Int} (positive : 0 ≤ number) :
    wholeNumber false number.natAbs = .integer number := by
  show Number.integer number.natAbs = .integer number
  rw [Int.natAbs_of_nonneg positive]

end HookRelay.Json
