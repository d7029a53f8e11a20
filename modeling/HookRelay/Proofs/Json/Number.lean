import HookRelay.Proofs.Json.Scalar

namespace HookRelay.Json

/-- The characters that numbers and the texts of floats are made of. -/
def isBare (char : Char) : Bool :=
  Text.isDigit char || ['.', 'e', 'E', '+', '-', 'n', 'u', 'l'].contains char

theorem ne_of_isBare_eq_false {char other : Char} (apart : isBare char = false)
    (bare : isBare other = true) : char ≠ other := by
  rintro rfl
  exact Bool.false_ne_true (apart.symm.trans bare)

theorem isBare_of_isDigit {char : Char} (digit : Text.isDigit char = true) :
    isBare char = true := by
  rw [isBare, digit, Bool.true_or]

theorem isDigit_of_isBare_eq_false {char : Char} (apart : isBare char = false) :
    Text.isDigit char = false :=
  (Bool.or_eq_false_iff.mp apart).1

/-- What carries neither a number nor a literal on: nothing, or no character of theirs. -/
def Halts (rest : List Char) : Prop := ∀ char ∈ rest.head?, isBare char = false

variable {rest : List Char}

theorem Halts.nil : Halts [] := fun _ found => nomatch found

theorem Halts.cons {first : Char} (apart : isBare first = false) (more : List Char) :
    Halts (first :: more) := by
  intro char found
  cases found
  exact apart

theorem Halts.ends (halts : Halts rest) : Ends rest := fun char found =>
  have apart := halts char found
  ⟨isDigit_of_isBare_eq_false apart, ne_of_isBare_eq_false apart (by decide),
    ne_of_isBare_eq_false apart (by decide), ne_of_isBare_eq_false apart (by decide)⟩

theorem isBare_of_isSpace {char : Char} (blank : isSpace char = true) : isBare char = false := by
  simp only [isSpace, Bool.or_eq_true, decide_eq_true_eq] at blank
  rcases blank with ((rfl | rfl) | rfl) | rfl <;> rfl

/-- Blanks carry nothing on, so the first character after them decides. -/
theorem halts_of_skipSpace {first : Char} {more : List Char}
    (found : skipSpace rest = first :: more) (apart : isBare first = false) : Halts rest := by
  cases rest with
  | nil => exact .nil
  | cons char rest =>
    refine .cons ?_ rest
    rcases Bool.eq_false_or_eq_true (isSpace char) with blank | solid
    · exact isBare_of_isSpace blank
    · rw [skipSpace_cons solid] at found
      cases found
      exact apart

theorem halts_of_blank (blank : skipSpace rest = []) : Halts rest := by
  cases rest with
  | nil => exact .nil
  | cons char rest =>
    rcases Bool.eq_false_or_eq_true (isSpace char) with space | solid
    · exact .cons (isBare_of_isSpace space) rest
    · rw [skipSpace_cons solid] at blank
      cases blank

theorem span_append {kind : Char → Bool} (bare : ∀ char, kind char = true → isBare char = true)
    (halts : Halts rest) (text : List Char) :
    (text ++ rest).takeWhile kind = text.takeWhile kind ∧
      (text ++ rest).dropWhile kind = text.dropWhile kind ++ rest := by
  induction text with
  | nil =>
    cases rest with
    | nil => exact ⟨rfl, rfl⟩
    | cons first rest =>
      have other : ¬ kind first = true := fun same =>
        Bool.false_ne_true ((halts first rfl).symm.trans (bare first same))
      exact ⟨List.takeWhile_cons_of_neg other, List.dropWhile_cons_of_neg other⟩
  | cons char text ih =>
    by_cases same : kind char = true
    · simp [same, ih]
    · simp [same]

/-- Does not begin with one of some marks. -/
private def Lacks (marks text : List Char) : Prop := ∀ char ∈ text.head?, char ∉ marks

private theorem marked_or_lacks (marks text : List Char) :
    (∃ mark ∈ marks, ∃ more, text = mark :: more) ∨ Lacks marks text := by
  cases text with
  | nil => exact .inr fun char found => nomatch found
  | cons first more =>
    by_cases member : first ∈ marks
    · exact .inl ⟨first, member, more, rfl⟩
    · refine .inr fun char found => ?_
      cases found
      exact member

private theorem Lacks.append {marks text : List Char} (plain : Lacks marks text)
    (bare : ∀ mark ∈ marks, isBare mark = true) (halts : Halts rest) :
    Lacks marks (text ++ rest) := by
  cases text with
  | nil =>
    intro char found member
    exact Bool.false_ne_true ((halts char found).symm.trans (bare char member))
  | cons first more => exact plain

theorem append_inj_of_halts {first second rest others : List Char}
    (bare : ∀ char ∈ first, isBare char = true) (alike : ∀ char ∈ second, isBare char = true)
    (halts : Halts rest) (stops : Halts others) (same : first ++ rest = second ++ others) :
    first = second ∧ rest = others := by
  have front {text rest : List Char} (bare : ∀ char ∈ text, isBare char = true)
      (halts : Halts rest) : (text ++ rest).takeWhile isBare = text := by
    rw [List.takeWhile_append_of_pos bare]
    cases rest with
    | nil => exact List.append_nil text
    | cons char rest =>
      rw [List.takeWhile_cons_of_neg (by simp [halts char rfl]), List.append_nil]
  obtain rfl : first = second := by rw [← front bare halts, same, front alike stops]
  exact ⟨rfl, List.append_cancel_left same⟩

/-! ### The parts of a number -/

/-- The sign of an exponent, and what is after it. -/
private def exponentSign : List Char → Bool × List Char
  | '+' :: rest => (false, rest)
  | '-' :: rest => (true, rest)
  | rest => (false, rest)

private theorem exponentSign_plain {text : List Char} (plain : Lacks ['+', '-'] text) :
    exponentSign text = (false, text) := by
  rw [exponentSign]
  · rintro rest rfl
    exact plain '+' rfl (by decide)
  · rintro rest rfl
    exact plain '-' rfl (by decide)

/-- Concludes a number with the exponent at the front of a text. -/
private def withExponent? (gathered : Gathered) (negative : Bool) (text : List Char) :
    Option (Number × List Char) :=
  let (down, text) := exponentSign text
  let digits := text.takeWhile Text.isDigit
  let rest := text.dropWhile Text.isDigit
  if digits.isEmpty then none
  else
    let exponent := Text.decimalValue digits
    if exponentLimit ≤ exponent then
      if gathered.significand ≠ 0 && !down then none
      else some (.float (Binary64.zero negative), rest)
    else
      let signed : Int := if down then -exponent else exponent
      let gathered := { gathered with exponent := gathered.exponent + signed }
      (gathered.float? negative).map (·, rest)

/-- Concludes a number that has no exponent. -/
private def withoutExponent? (gathered : Gathered) (negative isWhole : Bool) : Option Number :=
  if isWhole && !gathered.full then some (wholeNumber negative gathered.significand)
  else gathered.float? negative

private theorem finishNumber?_mark {mark : Char} (exponent : mark ∈ ['e', 'E'])
    (gathered : Gathered) (negative isWhole : Bool) (text : List Char) :
    finishNumber? gathered negative isWhole (mark :: text) =
      withExponent? gathered negative text := by
  obtain rfl | rfl : mark = 'e' ∨ mark = 'E' := by simpa using exponent
  all_goals rfl

private theorem finishNumber?_plain {text : List Char} (plain : Lacks ['e', 'E'] text)
    (gathered : Gathered) (negative isWhole : Bool) :
    finishNumber? gathered negative isWhole text =
      (withoutExponent? gathered negative isWhole).map (·, text) := by
  rw [finishNumber?]
  · rw [withoutExponent?]
    split <;> rfl
  · rintro rest rfl
    exact plain 'e' rfl (by decide)
  · rintro rest rfl
    exact plain 'E' rfl (by decide)

private def gatherWhole (digits : List Char) : Gathered :=
  digits.foldl (fun gathered char => gathered.whole (Text.digitValue char)) ⟨0, 0, false⟩

private def afterWhole? (gathered : Gathered) (negative : Bool) :
    List Char → Option (Number × List Char)
  | '.' :: rest =>
    let digits := rest.takeWhile Text.isDigit
    let rest := rest.dropWhile Text.isDigit
    if digits.isEmpty then none
    else
      let start : Gathered := { gathered with full := false }
      let gathered :=
        digits.foldl (fun gathered char => gathered.fraction (Text.digitValue char)) start
      finishNumber? gathered negative false rest
  | rest => finishNumber? gathered negative true rest

private theorem readNumber?_eq (negative : Bool) (text : List Char) :
    readNumber? negative text =
      let whole := text.takeWhile Text.isDigit
      if whole.isEmpty || (whole.length > 1 && whole.head? == some '0') then none
      else afterWhole? (gatherWhole whole) negative (text.dropWhile Text.isDigit) := by
  rw [readNumber?]
  rfl

private theorem afterWhole?_plain {text : List Char} (plain : Lacks ['.'] text)
    (gathered : Gathered) (negative : Bool) :
    afterWhole? gathered negative text = finishNumber? gathered negative true text := by
  rw [afterWhole?]
  rintro rest rfl
  exact plain '.' rfl (by decide)

/-! ### Reading alone and within a text -/

/-- Reads from the front of a text, and reads the same where what halts it comes after the text. -/
structure Contained (read : List Char → Option (Number × List Char)) : Prop where
  append : ∀ {rest}, Halts rest → ∀ text,
    read (text ++ rest) = (read text).map fun (number, left) => (number, left ++ rest)
  suffix : ∀ {text number left}, read text = some (number, left) → left <:+ text

private theorem exponentSign_append (halts : Halts rest) (text : List Char) :
    exponentSign (text ++ rest) = ((exponentSign text).1, (exponentSign text).2 ++ rest) := by
  rcases marked_or_lacks ['+', '-'] text with ⟨mark, sign, more, rfl⟩ | plain
  · obtain rfl | rfl : mark = '+' ∨ mark = '-' := by simpa using sign
    all_goals rfl
  · rw [exponentSign_plain plain, exponentSign_plain (plain.append (List.all_eq_true.mp rfl) halts)]

private theorem exponentSign_suffix (text : List Char) : (exponentSign text).2 <:+ text := by
  rw [exponentSign.eq_def]
  split
  · exact List.suffix_cons _ _
  · exact List.suffix_cons _ _
  · exact List.suffix_rfl

private theorem contained_withExponent? (gathered : Gathered) (negative : Bool) :
    Contained (withExponent? gathered negative) where
  append halts text := by
    obtain ⟨taken, left⟩ := span_append (fun _ => isBare_of_isDigit) halts (exponentSign text).2
    simp only [withExponent?, exponentSign_append halts, taken, left]
    split
    · rfl
    · split
      · split <;> rfl
      · rw [Option.map_map]
        rfl
  suffix {text number left} found := by
    have inside : (exponentSign text).2.dropWhile Text.isDigit <:+ text :=
      (List.dropWhile_suffix _).trans (exponentSign_suffix text)
    simp only [withExponent?] at found
    split at found
    · cases found
    · split at found
      · split at found
        · cases found
        · cases found
          exact inside
      · obtain ⟨_, _, same⟩ := Option.map_eq_some_iff.mp found
        cases same
        exact inside

private theorem contained_finishNumber? (gathered : Gathered) (negative isWhole : Bool) :
    Contained (finishNumber? gathered negative isWhole) where
  append halts text := by
    rcases marked_or_lacks ['e', 'E'] text with ⟨mark, exponent, more, rfl⟩ | plain
    · rw [List.cons_append, finishNumber?_mark exponent, finishNumber?_mark exponent,
        (contained_withExponent? gathered negative).append halts]
    · rw [finishNumber?_plain plain,
        finishNumber?_plain (plain.append (List.all_eq_true.mp rfl) halts), Option.map_map]
      rfl
  suffix {text number left} found := by
    rcases marked_or_lacks ['e', 'E'] text with ⟨mark, exponent, more, rfl⟩ | plain
    · rw [finishNumber?_mark exponent] at found
      exact ((contained_withExponent? gathered negative).suffix found).trans
        (List.suffix_cons mark more)
    · rw [finishNumber?_plain plain] at found
      obtain ⟨_, _, same⟩ := Option.map_eq_some_iff.mp found
      cases same
      exact List.suffix_rfl

private theorem contained_afterWhole? (gathered : Gathered) (negative : Bool) :
    Contained (afterWhole? gathered negative) where
  append halts text := by
    rcases marked_or_lacks ['.'] text with ⟨mark, point, more, rfl⟩ | plain
    · cases List.mem_singleton.mp point
      obtain ⟨taken, left⟩ := span_append (fun _ => isBare_of_isDigit) halts more
      simp only [List.cons_append, afterWhole?, taken, left]
      split
      · rfl
      · exact (contained_finishNumber? _ negative false).append halts _
    · rw [afterWhole?_plain plain, afterWhole?_plain (plain.append (List.all_eq_true.mp rfl) halts)]
      exact (contained_finishNumber? _ negative true).append halts _
  suffix {text number left} found := by
    rcases marked_or_lacks ['.'] text with ⟨mark, point, more, rfl⟩ | plain
    · cases List.mem_singleton.mp point
      simp only [afterWhole?] at found
      split at found
      · cases found
      · exact (((contained_finishNumber? _ negative false).suffix found).trans
          (List.dropWhile_suffix _)).trans (List.suffix_cons _ _)
    · rw [afterWhole?_plain plain] at found
      exact (contained_finishNumber? _ negative true).suffix found

theorem contained_readNumber? (negative : Bool) : Contained (readNumber? negative) where
  append halts text := by
    obtain ⟨taken, left⟩ := span_append (fun _ => isBare_of_isDigit) halts text
    simp only [readNumber?_eq, taken, left]
    split
    · rfl
    · exact (contained_afterWhole? _ negative).append halts _
  suffix {text number left} found := by
    rw [readNumber?_eq] at found
    dsimp only at found
    split at found
    · cases found
    · exact ((contained_afterWhole? _ negative).suffix found).trans (List.dropWhile_suffix _)

/-! ### What is read -/

/-- An integer of one of the two word sizes, or a float. -/
def Number.InRange : Number → Prop
  | .integer number => -0x8000000000000000 ≤ number ∧ number < 0x10000000000000000
  | .float _ => True

private theorem whole_lt {gathered : Gathered} (digit : Nat)
    (fits : gathered.significand < significandLimit) :
    (gathered.whole digit).significand < significandLimit := by
  unfold Gathered.whole
  split
  · exact fits
  · rename_i room
    rw [Bool.or_eq_true, not_or, decide_eq_true_eq] at room
    exact Nat.lt_of_not_le room.2

private theorem gatherWhole_lt (digits : List Char) :
    (gatherWhole digits).significand < significandLimit := by
  suffices folded : ∀ gathered : Gathered, gathered.significand < significandLimit →
      (digits.foldl (fun gathered char => Gathered.whole gathered (Text.digitValue char))
        gathered).significand < significandLimit from folded ⟨0, 0, false⟩ (by decide)
  induction digits with
  | nil => exact fun _ fits => fits
  | cons digit rest ih => exact fun gathered fits => ih _ (whole_lt _ fits)

private theorem wholeNumber_inRange (negative : Bool) {number : Nat}
    (fits : number < significandLimit) : (wholeNumber negative number).InRange := by
  rw [significandLimit] at fits
  unfold wholeNumber
  split
  · exact ⟨by omega, by omega⟩
  · split
    · trivial
    · rename_i room
      rw [Bool.or_eq_true, not_or, decide_eq_true_eq, decide_eq_true_eq] at room
      exact ⟨by omega, by omega⟩

private theorem float?_inRange {gathered : Gathered} {negative : Bool} {number : Number}
    (found : gathered.float? negative = some number) : number.InRange := by
  obtain ⟨value, _, rfl⟩ := Option.map_eq_some_iff.mp found
  trivial

private theorem withExponent?_inRange {gathered : Gathered} {negative : Bool}
    {text left : List Char} {number : Number}
    (found : withExponent? gathered negative text = some (number, left)) : number.InRange := by
  simp only [withExponent?] at found
  split at found
  · cases found
  · split at found
    · split at found
      · cases found
      · cases found
        trivial
    · obtain ⟨_, float, same⟩ := Option.map_eq_some_iff.mp found
      cases same
      exact float?_inRange float

private theorem finishNumber?_inRange {gathered : Gathered} {negative isWhole : Bool}
    {text left : List Char} {number : Number}
    (fits : isWhole = true → gathered.significand < significandLimit)
    (found : finishNumber? gathered negative isWhole text = some (number, left)) :
    number.InRange := by
  rcases marked_or_lacks ['e', 'E'] text with ⟨mark, exponent, more, rfl⟩ | plain
  · rw [finishNumber?_mark exponent] at found
    exact withExponent?_inRange found
  · rw [finishNumber?_plain plain, withoutExponent?] at found
    obtain ⟨_, made, same⟩ := Option.map_eq_some_iff.mp found
    cases same
    split at made
    · rename_i whole
      cases made
      exact wholeNumber_inRange negative (fits (Bool.and_eq_true_iff.mp whole).1)
    · exact float?_inRange made

theorem readNumber?_inRange {negative : Bool} {text left : List Char} {number : Number}
    (found : readNumber? negative text = some (number, left)) : number.InRange := by
  rw [readNumber?_eq] at found
  dsimp only at found
  split at found
  · cases found
  · have fits := gatherWhole_lt (text.takeWhile Text.isDigit)
    rw [afterWhole?.eq_def] at found
    split at found
    · dsimp only at found
      split at found
      · cases found
      · exact finishNumber?_inRange (fun whole => absurd whole Bool.false_ne_true) found
    · exact finishNumber?_inRange (fun _ => fits) found

/-! ### The texts of numbers -/

/-- Characters of numbers, the first of them a digit or a sign. -/
def Opens (text : List Char) : Prop :=
  ∃ first more, text = first :: more ∧ (Text.isDigit first = true ∨ first = '-') ∧
    ∀ char ∈ more, isBare char = true

theorem Opens.bare {text : List Char} (opens : Opens text) :
    ∀ char ∈ text, isBare char = true := by
  obtain ⟨first, more, rfl, start, rest⟩ := opens
  refine List.forall_mem_cons.mpr ⟨?_, rest⟩
  rcases start with digit | rfl
  · exact isBare_of_isDigit digit
  · rfl

private theorem Opens.append {text more : List Char} (opens : Opens text)
    (bare : ∀ char ∈ more, isBare char = true) : Opens (text ++ more) := by
  obtain ⟨first, later, rfl, start, rest⟩ := opens
  refine ⟨first, later ++ more, rfl, start, fun char member => ?_⟩
  exact (List.mem_append.mp member).elim (rest char) (bare char)

private theorem Opens.signed {first : Char} {more : List Char} (digit : Text.isDigit first = true)
    (bare : ∀ char ∈ more, isBare char = true) (negative : Bool) :
    Opens ((if negative then ['-'] else []) ++ first :: more) := by
  cases negative with
  | false => exact ⟨first, more, rfl, .inl digit, bare⟩
  | true => exact ⟨'-', first :: more, rfl, .inr rfl,
      List.forall_mem_cons.mpr ⟨isBare_of_isDigit digit, bare⟩⟩

private theorem bare_digits (number : Nat) : ∀ char ∈ Nat.toDigits 10 number, isBare char = true :=
  fun _ member => isBare_of_isDigit (isDigit_of_mem_digits member)

theorem bare_writeInteger (number : Int) : ∀ char ∈ writeInteger number, isBare char = true := by
  rcases Int.lt_or_le number 0 with negative | positive
  · rw [writeInteger_of_neg negative]
    exact List.forall_mem_cons.mpr ⟨rfl, bare_digits _⟩
  · rw [writeInteger_of_nonneg positive]
    exact bare_digits _

private theorem bare_zeros (count : Nat) : ∀ char ∈ List.replicate count '0', isBare char = true :=
  fun _ member => List.eq_of_mem_replicate member ▸ rfl

private theorem opens_take (negative : Bool) (number : Nat) {count : Nat} (some : 0 < count) :
    Opens ((if negative then ['-'] else []) ++ (Nat.toDigits 10 number).take count) := by
  obtain _ | count := count
  · cases some
  obtain ⟨first, more, digits, digit⟩ := digits_cons number
  rw [digits, List.take_succ_cons]
  refine .signed digit (fun char member => bare_digits number char ?_) negative
  exact digits ▸ List.mem_cons_of_mem _ (List.mem_of_mem_take member)

private theorem bare_drop (number count : Nat) :
    ∀ char ∈ (Nat.toDigits 10 number).drop count, isBare char = true :=
  fun char member => bare_digits number char (List.mem_of_mem_drop member)

private theorem opens_write (negative : Bool) (mantissa : Nat) (exponent : Int) :
    Opens (floatLayout.write (.finite negative mantissa exponent)) := by
  simp only [Binary64.Layout.write]
  split
  · exact .signed rfl (List.all_eq_true.mp rfl) negative
  · generalize (Binary64.shortest mantissa exponent).1 = digits
    generalize (Binary64.shortest mantissa exponent).2 = last
    generalize last + ((Nat.toDigits 10 digits).length : Int) - 1 = first
    split
    · split
      · refine .append (.append (.signed rfl ?_ negative) (bare_zeros _)) (bare_digits _)
        exact List.all_eq_true.mp rfl
      · split
        · exact .append (.append (opens_take negative digits (by omega)) (List.all_eq_true.mp rfl))
            (bare_drop digits _)
        · obtain ⟨head, more, text, digit⟩ := digits_cons digits
          refine .append (.append ?_ (bare_zeros _)) (List.all_eq_true.mp rfl)
          rw [text]
          refine .signed digit (fun char member => bare_digits digits char ?_) negative
          exact text ▸ List.mem_cons_of_mem _ member
    · refine .append (.append (.append (.append (opens_take negative digits Nat.one_pos) ?_)
        (List.all_eq_true.mp rfl)) ?_) (bare_digits _)
      · split
        · exact List.forall_mem_nil _
        · exact List.forall_mem_cons.mpr ⟨rfl, bare_drop digits 1⟩
      · split
        · exact List.all_eq_true.mp rfl
        · split <;> exact List.all_eq_true.mp rfl

/-- The text of a float begins with a digit or a sign, or is the one of what is no number. -/
theorem opens_or_null (number : Binary64) :
    Opens (floatLayout.write number) ∨ floatLayout.write number = ['n', 'u', 'l', 'l'] := by
  cases number with
  | nan => exact .inr (by decide)
  | infinite negative =>
    cases negative with
    | false => exact .inr (by decide)
    | true => exact .inl ⟨'-', ['n', 'u', 'l', 'l'], by decide, .inr rfl, List.all_eq_true.mp rfl⟩
  | finite negative mantissa exponent => exact .inl (opens_write negative mantissa exponent)

theorem bare_floatText (number : Binary64) :
    ∀ char ∈ floatLayout.write number, isBare char = true := by
  rcases opens_or_null number with opens | null
  · exact opens.bare
  · rw [null]
    exact List.all_eq_true.mp rfl

end HookRelay.Json
