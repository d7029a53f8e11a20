/-!
Blank characters: the twenty-five with the Unicode property `White_Space`, and what it means to trim
them off a text.
-/
namespace HookRelay.Text

/-- Has the Unicode property `White_Space`. -/
def isBlank (char : Char) : Bool :=
  let code := char.toNat
  (9 ≤ code && code ≤ 13) || code == 0x20 || code == 0x85 || code == 0xA0 || code == 0x1680 ||
    (0x2000 ≤ code && code ≤ 0x200A) || code == 0x2028 || code == 0x2029 || code == 0x202F ||
    code == 0x205F || code == 0x3000

def trimStart (text : List Char) : List Char := text.dropWhile isBlank

def trimEnd (text : List Char) : List Char := (text.reverse.dropWhile isBlank).reverse

def trim (text : List Char) : List Char := trimEnd (trimStart text)

def afterLiteral? : List Char → List Char → Option (List Char)
  | [], text => some text
  | _ :: _, [] => none
  | expected :: literal, char :: text =>
    if expected = char then afterLiteral? literal text else none

def isDigit (char : Char) : Bool := 48 ≤ char.toNat && char.toNat ≤ 57

def digitValue (char : Char) : Nat := char.toNat - 48

def decimalValue (digits : List Char) : Nat :=
  digits.foldl (fun total char => total * 10 + digitValue char) 0

/-- The integer written by an optional sign and one or more decimal digits. -/
def integer? (text : List Char) : Option Int :=
  let digits? (digits : List Char) : Option Nat :=
    if digits.isEmpty || !digits.all isDigit then none else some (decimalValue digits)
  match text with
  | '+' :: rest => (digits? rest).map Int.ofNat
  | '-' :: rest => (digits? rest).map fun value => - Int.ofNat value
  | rest => (digits? rest).map Int.ofNat

/-- A number in decimal, zeros in front up to `width` digits. -/
def padNat (width number : Nat) : List Char :=
  let digits := Nat.toDigits 10 number
  List.replicate (width - digits.length) '0' ++ digits

def lowerAscii (text : List Char) : List Char := text.map Char.toLower

theorem trim_of_solid {text : List Char} (solid : ∀ char ∈ text, isBlank char = false) :
    trim text = text := by
  have kept (text : List Char) (solid : ∀ char ∈ text, isBlank char = false) :
      text.dropWhile isBlank = text := by
    cases text with
    | nil => rfl
    | cons first rest => exact List.dropWhile_cons_of_neg (by simp [solid first])
  have reversed := kept text.reverse fun char member => solid char (List.mem_reverse.mp member)
  rw [trim, trimStart, kept text solid, trimEnd, reversed, List.reverse_reverse]

/-! ### What is trimmed off -/

def AllBlank (text : List Char) : Prop := ∀ char ∈ text, isBlank char = true

/-- Neither begins nor ends with a blank. -/
structure Trimmed (text : List Char) : Prop where
  first : ∀ char ∈ text.head?, isBlank char = false
  last : ∀ char ∈ text.getLast?, isBlank char = false

variable {before text after : List Char}

theorem Trimmed.of_solid (solid : ∀ char ∈ text, isBlank char = false) : Trimmed text :=
  ⟨fun char first => solid char (List.mem_of_mem_head? first),
    fun char last => solid char (List.mem_of_mem_getLast? last)⟩

theorem trimStart_of_solid (solid : ∀ char ∈ text.head?, isBlank char = false) :
    trimStart text = text := by
  cases text with
  | nil => rfl
  | cons first rest =>
    have apart : isBlank first = false := solid first rfl
    exact List.dropWhile_cons_of_neg (by simp [apart])

theorem trimStart_append (blank : AllBlank before) (text : List Char) :
    trimStart (before ++ text) = trimStart text :=
  List.dropWhile_append_of_pos blank

theorem trimEnd_eq (text : List Char) : trimEnd text = (trimStart text.reverse).reverse := rfl

theorem trimEnd_append (blank : AllBlank after) (text : List Char) :
    trimEnd (text ++ after) = trimEnd text := by
  have reversed : AllBlank after.reverse := fun char member => blank char (List.mem_reverse.mp member)
  rw [trimEnd_eq, List.reverse_append, trimStart_append reversed, trimEnd_eq]

theorem trimEnd_of_solid (solid : ∀ char ∈ text.getLast?, isBlank char = false) :
    trimEnd text = text := by
  rw [← List.head?_reverse] at solid
  rw [trimEnd_eq, trimStart_of_solid solid, List.reverse_reverse]

private theorem trimStart_split (text : List Char) :
    ∃ before, AllBlank before ∧ text = before ++ trimStart text ∧
      ∀ char ∈ (trimStart text).head?, isBlank char = false := by
  refine ⟨text.takeWhile isBlank, ?_, List.takeWhile_append_dropWhile.symm, ?_⟩
  · exact List.all_eq_true.mp List.all_takeWhile
  · intro char first
    have stops := List.head?_dropWhile_not isBlank text
    rw [show (text.dropWhile isBlank).head? = some char from first] at stops
    exact stops

private theorem trimEnd_split (text : List Char) :
    ∃ after, AllBlank after ∧ text = trimEnd text ++ after ∧
      ∀ char ∈ (trimEnd text).getLast?, isBlank char = false := by
  obtain ⟨before, blank, split, solid⟩ := trimStart_split text.reverse
  refine ⟨before.reverse, fun char member => blank char (List.mem_reverse.mp member), ?_, ?_⟩
  · rw [trimEnd_eq, ← List.reverse_append, ← split, List.reverse_reverse]
  · rw [trimEnd_eq, List.getLast?_reverse]
    exact solid

/-- Trimming takes off what blanks there are at either end, and nothing else. -/
theorem trim_eq_iff (text core : List Char) :
    trim text = core ↔ Trimmed core ∧
      ∃ before after, AllBlank before ∧ AllBlank after ∧ text = before ++ core ++ after := by
  constructor
  · rintro rfl
    obtain ⟨before, blank, front, first⟩ := trimStart_split text
    obtain ⟨after, empty, back, last⟩ := trimEnd_split (trimStart text)
    refine ⟨⟨?_, last⟩, before, after, blank, empty, ?_⟩
    · intro char found
      apply first char
      rw [back, List.head?_append, show (trimEnd (trimStart text)).head? = some char from found]
      rfl
    · rw [List.append_assoc, trim, ← back]
      exact front
  · rintro ⟨trimmed, before, after, blank, empty, rfl⟩
    rw [trim, List.append_assoc, trimStart_append blank]
    by_cases nothing : core = []
    · subst nothing
      have gone : trimStart (after ++ []) = [] := trimStart_append empty []
      rw [List.append_nil] at gone
      rw [List.nil_append, gone]
      rfl
    · obtain ⟨first, rest, rfl⟩ := List.exists_cons_of_ne_nil nothing
      have front : trimStart (first :: rest ++ after) = first :: rest ++ after :=
        trimStart_of_solid trimmed.first
      rw [front, trimEnd_append empty, trimEnd_of_solid trimmed.last]

theorem afterLiteral?_eq_some_iff (literal text rest : List Char) :
    afterLiteral? literal text = some rest ↔ text = literal ++ rest := by
  induction literal generalizing text with
  | nil => simp [afterLiteral?]
  | cons expected literal ih =>
    cases text with
    | nil => simp [afterLiteral?]
    | cons char text =>
      by_cases same : expected = char
      · simp [afterLiteral?, same, ih]
      · simp [afterLiteral?, same, Ne.symm same]

end HookRelay.Text
