import HookRelay.Proofs.Json.RoundTrip

/-!
The texts of a value. Members stand in any order, each of them perhaps after others with its key;
blanks stand between the parts, and any character of a string may be escaped. Whatever the text, it
is read as the value.
-/
namespace HookRelay.Json

/-- The letters that stand for characters after a backslash. -/
def shortEscapes : List (Char × Char) :=
  [('"', '"'), ('\\', '\\'), ('/', '/'), ('b', '\x08'), ('f', '\x0c'), ('n', '\n'), ('r', '\x0d'),
    ('t', '\t')]

/-- A code unit in four hexadecimal digits, each in either case. -/
def SpellsUnit (unit : Nat) (digits : List Char) : Prop :=
  Text.lowerAscii digits = Hex.padded 4 unit

instance (unit : Nat) (digits : List Char) : Decidable (SpellsUnit unit digits) :=
  inferInstanceAs (Decidable (_ = _))

/-- What may stand for a character inside a string: itself, a letter after a backslash, or its one or
two code units in UTF-16. -/
inductive SpellsChar : Char → List Char → Prop where
  | plain {char : Char} (printed : 0x20 ≤ char.toNat) (quote : char ≠ '"') (backslash : char ≠ '\\') :
      SpellsChar char [char]
  | short {char letter : Char} (named : (letter, char) ∈ shortEscapes) :
      SpellsChar char ['\\', letter]
  | unit {char : Char} {digits : List Char} (small : char.toNat < 0x10000)
      (spells : SpellsUnit char.toNat digits) : SpellsChar char ('\\' :: 'u' :: digits)
  | pair {char : Char} {high low : List Char} (large : 0x10000 ≤ char.toNat)
      (leads : SpellsUnit (0xD800 + (char.toNat - 0x10000) / 0x400) high)
      (trails : SpellsUnit (0xDC00 + (char.toNat - 0x10000) % 0x400) low) :
      SpellsChar char ('\\' :: 'u' :: (high ++ '\\' :: 'u' :: low))

inductive SpellsChars : List Char → List Char → Prop where
  | nil : SpellsChars [] []
  | cons {char : Char} {piece chars rest : List Char} (first : SpellsChar char piece)
      (later : SpellsChars chars rest) : SpellsChars (char :: chars) (piece ++ rest)

inductive SpellsString : String → List Char → Prop where
  | quoted {text : String} {chars : List Char} (spells : SpellsChars text.toList chars) :
      SpellsString text ('"' :: (chars ++ ['"']))

def Blank (text : List Char) : Prop := ∀ char ∈ text, isSpace char = true

inductive SpellsKey : String → List Char → Prop where
  | padded {key : String} {before quoted after : List Char} (blank : Blank before)
      (spells : SpellsString key quoted) (empty : Blank after) :
      SpellsKey key (before ++ quoted ++ after)

/-- A member of an object as it is written. -/
structure WrittenMember where
  key : String
  quoted : List Char
  value : Value
  text : List Char

def WrittenMember.member (written : WrittenMember) : String × Value := (written.key, written.value)

def WrittenMember.chars (written : WrittenMember) : List Char := written.quoted ++ ':' :: written.text

/-- The texts of a value with at most `depth` containers inside each other. An object has each of its
keys once, and under each of them the value that is written last. -/
inductive Spells : Nat → Value → List Char → Prop where
  | null {depth : Nat} : Spells depth .null ['n', 'u', 'l', 'l']
  | bool {depth : Nat} (flag : Bool) :
      Spells depth (.bool flag) (if flag then "true".toList else "false".toList)
  | number {depth : Nat} {negative : Bool} {digits : List Char} {number : Number}
      (read : readNumber? negative digits = some (number, [])) :
      Spells depth (.number number) ((if negative then ['-'] else []) ++ digits)
  | string {depth : Nat} {text : String} {quoted : List Char} (spells : SpellsString text quoted) :
      Spells depth (.string text) quoted
  | array {depth : Nat} {items : List (Value × List Char)} {inside : List Char}
      (spells : ∀ item ∈ items, Spells depth item.1 item.2) (blank : Blank inside) :
      Spells (depth + 1) (.array (items.map Prod.fst))
        ('[' :: ([','].intercalate (items.map Prod.snd) ++ (inside ++ [']'])))
  | object {depth : Nat} {members : List (String × Value)} {written : List WrittenMember}
      {inside : List Char} (distinct : (members.map Prod.fst).Nodup)
      (last : ∀ key, lookup? key members = lookup? key (written.map WrittenMember.member).reverse)
      (keys : ∀ member ∈ written, SpellsKey member.key member.quoted)
      (spells : ∀ member ∈ written, Spells depth member.value member.text) (blank : Blank inside) :
      Spells (depth + 1) (.object members)
        ('\x7b' :: ([','].intercalate (written.map WrittenMember.chars) ++ (inside ++ ['\x7d'])))
  | padded {depth : Nat} {value : Value} {before text after : List Char} (blank : Blank before)
      (spells : Spells depth value text) (empty : Blank after) :
      Spells depth value (before ++ text ++ after)

variable {depth fuel : Nat} {value : Value} {text rest : List Char}

/-! ### Characters and strings -/

theorem SpellsUnit.length {unit : Nat} {digits : List Char} (spells : SpellsUnit unit digits) :
    digits.length = 4 := by
  have same := congrArg List.length spells
  rwa [Text.lowerAscii, List.length_map, Hex.length_padded] at same

theorem hexUnit?_spelled {unit : Nat} {digits : List Char} (spells : SpellsUnit unit digits)
    (fits : unit < 0x10000) (rest : List Char) : hexUnit? (digits ++ rest) = some unit := by
  have four : (digits ++ rest).take 4 = digits := List.take_left' spells.length
  rw [hexUnit?, four, if_pos spells.length, ← Hex.natValue?_lowerAscii, spells]
  exact Hex.natValue?_padded fits

private theorem escape?_short {char letter : Char} (named : (letter, char) ∈ shortEscapes)
    (rest : List Char) : escape? (letter :: rest) = some (char, 1) := by
  simp only [shortEscapes, List.mem_cons, Prod.mk.injEq, List.not_mem_nil, or_false] at named
  rcases named with ⟨rfl, rfl⟩ | ⟨rfl, rfl⟩ | ⟨rfl, rfl⟩ | ⟨rfl, rfl⟩ | ⟨rfl, rfl⟩ | ⟨rfl, rfl⟩ |
    ⟨rfl, rfl⟩ | ⟨rfl, rfl⟩ <;> rfl

private theorem escape?_unit_spelled {char : Char} {digits : List Char}
    (small : char.toNat < 0x10000) (spells : SpellsUnit char.toNat digits) (rest : List Char) :
    escape? ('u' :: (digits ++ rest)) = some (char, 5) := by
  have valid : char.toNat < 0xD800 ∨ 0xDFFF < char.toNat ∧ char.toNat < 0x110000 := char.valid
  rw [escape?, hexUnit?_spelled spells small, Option.bind_eq_bind, Option.bind_some,
    if_neg (by omega), if_neg (by omega), Char.ofNat_toNat]

private theorem escape?_pair {lead trail : Nat} {high low : List Char}
    (leads : SpellsUnit lead high) (trails : SpellsUnit trail low)
    (upper : 0xD800 ≤ lead ∧ lead < 0xDC00) (lower : 0xDC00 ≤ trail ∧ trail < 0xE000)
    (rest : List Char) :
    escape? ('u' :: (high ++ '\\' :: 'u' :: (low ++ rest))) =
      some (Char.ofNat (0x10000 + (lead - 0xD800) * 0x400 + (trail - 0xDC00)), 11) := by
  have trailing := hexUnit?_spelled trails (by omega) rest
  rw [escape?, hexUnit?_spelled leads (by omega), Option.bind_eq_bind, Option.bind_some,
    if_pos upper, List.drop_left' leads.length]
  simp only [trailing, Option.bind_some, if_pos lower]

private theorem pair_whole {char : Char} (large : 0x10000 ≤ char.toNat) :
    Char.ofNat (0x10000 + (0xD800 + (char.toNat - 0x10000) / 0x400 - 0xD800) * 0x400 +
      (0xDC00 + (char.toNat - 0x10000) % 0x400 - 0xDC00)) = char := by
  have whole : 0x10000 + (0xD800 + (char.toNat - 0x10000) / 0x400 - 0xD800) * 0x400 +
      (0xDC00 + (char.toNat - 0x10000) % 0x400 - 0xDC00) = char.toNat := by omega
  rw [whole, Char.ofNat_toNat]

/-- However a character is spelled, it is taken up as that character. -/
theorem readString?_spelled {char : Char} {piece : List Char} (spells : SpellsChar char piece)
    (reversed rest : List Char) :
    readString? reversed (piece ++ rest) = readString? (char :: reversed) rest := by
  cases spells with
  | plain printed quote backslash =>
    rw [List.singleton_append, readString?, if_neg (by omega)]
    · exact quote
    · exact backslash
  | short named => simp [readString?, escape?_short named]
  | unit small spells => simp [readString?, escape?_unit_spelled small spells, spells.length]
  | @pair high low large leads trails =>
    have valid : char.toNat < 0xD800 ∨ 0xDFFF < char.toNat ∧ char.toNat < 0x110000 := char.valid
    have taken := escape?_pair leads trails (by omega) (by omega) rest
    rw [pair_whole large] at taken
    have gone : high.drop 10 = [] := List.drop_eq_nil_of_le (by rw [leads.length]; decide)
    simp [readString?, taken, List.drop_append, leads.length, trails.length, gone]

theorem SpellsChars.reads {chars spelled : List Char} (spells : SpellsChars chars spelled)
    (reversed rest : List Char) :
    readString? reversed (spelled ++ '"' :: rest) =
      some (String.ofList (reversed.reverse ++ chars), rest) := by
  induction spells generalizing reversed with
  | nil => simp [readString?]
  | cons first later ih => simp [readString?_spelled first, ih]

/-- However a string is spelled, it is read as that string after its opening quote. -/
theorem SpellsString.reads {text : String} {quoted : List Char} (spells : SpellsString text quoted)
    (rest : List Char) :
    ∃ more, quoted ++ rest = '"' :: more ∧ readString? [] more = some (text, rest) := by
  obtain ⟨spells⟩ := spells
  refine ⟨_, List.cons_append, ?_⟩
  rw [List.append_assoc, List.singleton_append, spells.reads, List.reverse_nil, List.nil_append,
    String.ofList_toList]

/-! ### Blanks -/

theorem skipSpace_blank {before : List Char} (blank : Blank before) (text : List Char) :
    skipSpace (before ++ text) = skipSpace text :=
  List.dropWhile_append_of_pos blank

theorem exists_blank_skipSpace (text : List Char) :
    ∃ before, Blank before ∧ text = before ++ skipSpace text :=
  ⟨text.takeWhile isSpace, List.all_eq_true.mp List.all_takeWhile,
    List.takeWhile_append_dropWhile.symm⟩

theorem Halts.after_blank {before : List Char} (blank : Blank before) (halts : Halts rest) :
    Halts (before ++ rest) := by
  cases before with
  | nil => exact halts
  | cons first more => exact .cons (isBare_of_isSpace (blank first List.mem_cons_self)) _

theorem readValue?_blank {before : List Char} (blank : Blank before) (fuel depth : Nat)
    (text : List Char) : readValue? fuel depth (before ++ text) = readValue? fuel depth text := by
  cases fuel with
  | zero => rfl
  | succ fuel => rw [readValue?, readValue?, skipSpace_blank blank]

theorem readItems?_blank {before : List Char} (blank : Blank before) (fuel depth : Nat)
    (reversed : List Value) (text : List Char) :
    readItems? fuel depth reversed (before ++ text) = readItems? fuel depth reversed text := by
  cases fuel with
  | zero => rfl
  | succ fuel => rw [readItems?, readItems?, readValue?_blank blank]

theorem readMembers?_blank {before : List Char} (blank : Blank before) (fuel depth : Nat)
    (reversed : List (String × Value)) (text : List Char) :
    readMembers? fuel depth reversed (before ++ text) = readMembers? fuel depth reversed text := by
  cases fuel with
  | zero => rfl
  | succ fuel => rw [readMembers?, readMembers?, skipSpace_blank blank]

theorem readValue?_items {first : Char} {more : List Char} (opens : skipSpace text = first :: more)
    (apart : first ≠ ']') (fuel depth : Nat) :
    readValue? (fuel + 1) (depth + 1) ('[' :: text) = readItems? fuel depth [] text := by
  obtain ⟨before, blank, split⟩ := exists_blank_skipSpace text
  simp only [readValue?, skipSpace_cons (show isSpace '[' = false by decide), opens]
  split
  · rename_i same
    exact absurd (List.cons.inj same).1 apart
  · rw [split, opens, readItems?_blank blank]

theorem readValue?_members {more : List Char} (opens : skipSpace text = '"' :: more)
    (fuel depth : Nat) :
    readValue? (fuel + 1) (depth + 1) ('\x7b' :: text) = readMembers? fuel depth [] text := by
  obtain ⟨before, blank, split⟩ := exists_blank_skipSpace text
  rw [split, opens, readMembers?_blank blank, ← opens, ← split]
  simp [readValue?, skipSpace_cons (show isSpace '\x7b' = false by decide), opens]

/-! ### Values -/

/-- The text is read off the front of any text that goes on after it, as the value up to the order of
members and with the same left to read up to blanks. -/
private def Reads (depth : Nat) (value : Value) (text : List Char) : Prop :=
  ∀ fuel rest, text.length ≤ fuel → Halts rest → ∃ made left,
    readValue? (fuel + 1) depth (text ++ rest) = some (made, left) ∧
      skipSpace left = skipSpace rest ∧ made.normal = value.normal

theorem digit_of_readNumber? {negative : Bool} {digits left : List Char} {number : Number}
    (read : readNumber? negative digits = some (number, left)) :
    ∃ first more, digits = first :: more ∧ Text.isDigit first = true := by
  cases digits with
  | nil => cases read
  | cons first more =>
    cases digit : Text.isDigit first with
    | true => exact ⟨first, more, rfl, digit⟩
    | false => simp [readNumber?, digit] at read

/-- No text of a value begins as the end of an array does. -/
theorem Spells.opens (spells : Spells depth value text) (rest : List Char) :
    ∃ first more, skipSpace (text ++ rest) = first :: more ∧ first ≠ ']' := by
  induction spells generalizing rest with
  | null => exact ⟨_, _, rfl, by decide⟩
  | bool flag => cases flag <;> exact ⟨_, _, rfl, by decide⟩
  | @number depth negative digits number read =>
    cases negative with
    | true => exact ⟨_, _, rfl, by decide⟩
    | false =>
      obtain ⟨first, more, rfl, digit⟩ := digit_of_readNumber? read
      exact ⟨first, _, skipSpace_cons (isSpace_of_isDigit digit) _, ne_of_isDigit digit rfl⟩
  | string spells =>
    obtain ⟨spells⟩ := spells
    exact ⟨_, _, rfl, by decide⟩
  | array spells blank ih => exact ⟨_, _, rfl, by decide⟩
  | object distinct last keys spells blank ih => exact ⟨_, _, rfl, by decide⟩
  | padded blank spells empty ih =>
    rw [List.append_assoc, List.append_assoc, skipSpace_blank blank]
    exact ih _

private theorem readItems?_spelled {item : Value × List Char} {others : List (Value × List Char)}
    {inside : List Char} (reads : ∀ each ∈ item :: others, Reads depth each.1 each.2)
    (blank : Blank inside) (reversed : List Value) (after : List Char)
    (enough : ([','].intercalate ((item :: others).map Prod.snd) ++ (inside ++ [']'])).length ≤
      fuel) :
    ∃ made, readItems? (fuel + 1) depth reversed
        ([','].intercalate ((item :: others).map Prod.snd) ++ (inside ++ ']' :: after)) =
          some (.array (reversed.reverse ++ made), after) ∧
      made.map Value.normal = (item :: others).map fun each => each.1.normal := by
  have first := reads item List.mem_cons_self
  induction others generalizing item reversed fuel with
  | nil =>
    simp only [List.map_cons, List.map_nil, List.intercalate_singleton, List.length_append,
      List.length_singleton] at enough ⊢
    obtain _ | fuel := fuel
    · cases enough
    obtain ⟨made, left, read, stops, normal⟩ := first fuel (inside ++ ']' :: after) (by omega)
      (.after_blank blank (.cons rfl _))
    have closes : skipSpace left = ']' :: after := by
      rw [stops, skipSpace_blank blank]
      rfl
    refine ⟨[made], ?_, by rw [List.map_singleton, normal]⟩
    rw [readItems?, read]
    simp [closes]
  | cons next more ih =>
    simp only [List.map_cons, List.intercalate_cons_cons, List.length_append,
      List.length_singleton] at enough
    obtain _ | fuel := fuel
    · omega
    have later : ∀ each ∈ next :: more, Reads depth each.1 each.2 := fun each member =>
      reads each (List.mem_cons_of_mem _ member)
    obtain ⟨made, left, read, stops, normal⟩ := first fuel
      (',' :: ([','].intercalate ((next :: more).map Prod.snd) ++ (inside ++ ']' :: after)))
      (by omega) (.cons rfl _)
    -- The comma pays for the step to the next item.
    have spare : ([','].intercalate ((next :: more).map Prod.snd) ++ (inside ++ [']'])).length ≤
        fuel := by
      simp only [List.map_cons, List.length_append, List.length_singleton]
      omega
    obtain ⟨others, rest, same⟩ := ih later (made :: reversed) spare (later next List.mem_cons_self)
    have goesOn : skipSpace left =
        ',' :: ([','].intercalate ((next :: more).map Prod.snd) ++ (inside ++ ']' :: after)) := stops
    refine ⟨made :: others, ?_, ?_⟩
    · simp only [List.map_cons, List.intercalate_cons_cons, List.append_assoc,
        List.cons_append, List.nil_append] at read rest goesOn ⊢
      rw [readItems?, read]
      simp [goesOn, rest]
    · rw [List.map_cons, normal, same]
      rfl

theorem SpellsKey.reads {key : String} {quoted : List Char} (spells : SpellsKey key quoted)
    (rest : List Char) :
    ∃ more left, skipSpace (quoted ++ ':' :: rest) = '"' :: more ∧
      readString? [] more = some (key, left) ∧ skipSpace left = ':' :: rest := by
  cases spells with
  | @padded before quoted after blank spells empty =>
    obtain ⟨more, opens, read⟩ := spells.reads (after ++ ':' :: rest)
    refine ⟨more, _, ?_, read, ?_⟩
    · rw [List.append_assoc, List.append_assoc, skipSpace_blank blank, opens]
      rfl
    · rw [skipSpace_blank empty]
      rfl

private theorem readMembers?_spelled {member : WrittenMember} {others : List WrittenMember}
    {inside : List Char} (keys : ∀ each ∈ member :: others, SpellsKey each.key each.quoted)
    (reads : ∀ each ∈ member :: others, Reads depth each.value each.text)
    (blank : Blank inside) (reversed : List (String × Value)) (after : List Char)
    (enough : ([','].intercalate ((member :: others).map WrittenMember.chars) ++
      (inside ++ ['\x7d'])).length ≤ fuel) :
    ∃ made, readMembers? (fuel + 1) depth reversed
        ([','].intercalate ((member :: others).map WrittenMember.chars) ++
          (inside ++ '\x7d' :: after)) =
          some (.object (reversed.reverse ++ made), after) ∧
      (made.map fun each => (each.1, each.2.normal)) =
        (member :: others).map fun each => (each.key, each.value.normal) := by
  have first := reads member List.mem_cons_self
  have key := keys member List.mem_cons_self
  induction others generalizing member reversed fuel with
  | nil =>
    simp only [List.map_cons, List.map_nil, List.intercalate_singleton, List.length_append,
      WrittenMember.chars, List.length_cons] at enough ⊢
    obtain _ | fuel := fuel
    · cases enough
    obtain ⟨made, left, read, stops, normal⟩ := first fuel (inside ++ '\x7d' :: after) (by omega)
      (.after_blank blank (.cons rfl _))
    obtain ⟨chars, rest, opens, taken, colon⟩ :=
      key.reads (member.text ++ (inside ++ '\x7d' :: after))
    have closes : skipSpace left = '\x7d' :: after := by
      rw [stops, skipSpace_blank blank]
      rfl
    refine ⟨[(member.key, made)], ?_, by rw [List.map_singleton, normal]⟩
    rw [List.append_assoc, List.cons_append, readMembers?, opens]
    simp [taken, colon, read, closes]
  | cons next more ih =>
    simp only [List.map_cons, List.intercalate_cons_cons, List.length_append,
      WrittenMember.chars, List.length_cons] at enough
    obtain _ | fuel := fuel
    · omega
    have spelled : ∀ each ∈ next :: more, SpellsKey each.key each.quoted := fun each found =>
      keys each (List.mem_cons_of_mem _ found)
    have later : ∀ each ∈ next :: more, Reads depth each.value each.text := fun each found =>
      reads each (List.mem_cons_of_mem _ found)
    obtain ⟨made, left, read, stops, normal⟩ := first fuel
      (',' :: ([','].intercalate ((next :: more).map WrittenMember.chars) ++
        (inside ++ '\x7d' :: after))) (by omega) (.cons rfl _)
    obtain ⟨chars, rest, opens, taken, colon⟩ := key.reads (member.text ++
      (',' :: ([','].intercalate ((next :: more).map WrittenMember.chars) ++
        (inside ++ '\x7d' :: after))))
    have spare : ([','].intercalate ((next :: more).map WrittenMember.chars) ++
        (inside ++ ['\x7d'])).length ≤ fuel := by
      simp only [List.map_cons, List.length_append, List.length_singleton, WrittenMember.chars]
      omega
    obtain ⟨others, goesOn, same⟩ := ih spelled later ((member.key, made) :: reversed) spare
      (later next List.mem_cons_self) (spelled next List.mem_cons_self)
    have comma : skipSpace left =
        ',' :: ([','].intercalate ((next :: more).map WrittenMember.chars) ++
          (inside ++ '\x7d' :: after)) := stops
    refine ⟨(member.key, made) :: others, ?_, ?_⟩
    · simp only [List.map_cons, List.intercalate_cons_cons, List.append_assoc,
        List.cons_append, List.nil_append] at read goesOn comma opens ⊢
      rw [WrittenMember.chars, List.append_assoc, List.cons_append, readMembers?, opens]
      simp [taken, colon, read, comma, goesOn]
    · rw [List.map_cons, normal, same]
      rfl

private theorem reads_number {negative : Bool} {digits : List Char} {number : Number}
    (read : readNumber? negative digits = some (number, [])) :
    Reads depth (.number number) ((if negative then ['-'] else []) ++ digits) := by
  intro fuel rest _ halts
  have whole := (contained_readNumber? negative).append halts digits
  rw [read] at whole
  refine ⟨.number number, rest, ?_, rfl, rfl⟩
  cases negative with
  | true =>
    show readValue? (fuel + 1) depth ('-' :: (digits ++ rest)) = _
    rw [readValue?_sign, whole]
    rfl
  | false =>
    obtain ⟨first, more, rfl, digit⟩ := digit_of_readNumber? read
    show readValue? (fuel + 1) depth (first :: (more ++ rest)) = _
    rw [readValue?_digit digit, ← List.cons_append, whole]
    rfl

private theorem reads_array {items : List (Value × List Char)} {inside : List Char}
    (spells : ∀ item ∈ items, Spells depth item.1 item.2)
    (reads : ∀ item ∈ items, Reads depth item.1 item.2) (blank : Blank inside) :
    Reads (depth + 1) (.array (items.map Prod.fst))
      ('[' :: ([','].intercalate (items.map Prod.snd) ++ (inside ++ [']']))) := by
  intro fuel rest enough _
  simp only [List.cons_append, List.append_assoc, List.nil_append]
  cases items with
  | nil =>
    have closes : skipSpace (inside ++ ']' :: rest) = ']' :: rest := skipSpace_blank blank _
    refine ⟨.array [], rest, ?_, rfl, rfl⟩
    simp [readValue?, skipSpace_cons (show isSpace '[' = false by decide), closes]
  | cons item others =>
    obtain _ | fuel := fuel
    · cases enough
    obtain ⟨made, read, normal⟩ := readItems?_spelled reads blank [] rest
      (Nat.le_of_succ_le_succ enough)
    obtain ⟨tail, split⟩ : ∃ tail, [','].intercalate ((item :: others).map Prod.snd) ++
        (inside ++ ']' :: rest) = item.2 ++ tail := by
      cases others <;> simp
    obtain ⟨first, more, opens, apart⟩ := (spells item List.mem_cons_self).opens tail
    refine ⟨.array made, rest, ?_, rfl, ?_⟩
    · rw [readValue?_items (split ▸ opens) apart, read]
      rfl
    · rw [Value.normal, Value.normal, normalItems_eq_map, normalItems_eq_map, normal, List.map_map]
      rfl

private theorem reads_object {members : List (String × Value)} {written : List WrittenMember}
    {inside : List Char} (distinct : (members.map Prod.fst).Nodup)
    (last : ∀ key, lookup? key members = lookup? key (written.map WrittenMember.member).reverse)
    (keys : ∀ member ∈ written, SpellsKey member.key member.quoted)
    (reads : ∀ member ∈ written, Reads depth member.value member.text) (blank : Blank inside) :
    Reads (depth + 1) (.object members)
      ('\x7b' :: ([','].intercalate (written.map WrittenMember.chars) ++
        (inside ++ ['\x7d']))) := by
  intro fuel rest enough _
  simp only [List.cons_append, List.append_assoc, List.nil_append]
  suffices read : ∃ made, readValue? (fuel + 1) (depth + 1)
      ('\x7b' :: ([','].intercalate (written.map WrittenMember.chars) ++
        (inside ++ '\x7d' :: rest))) = some (.object made, rest) ∧
      (made.map fun each => (each.1, each.2.normal)) =
        written.map fun each => (each.key, each.value.normal) by
    obtain ⟨made, read, normal⟩ := read
    refine ⟨.object made, rest, read, rfl, ?_⟩
    rw [← normal_object_of_last distinct last, Value.normal, Value.normal, normalMembers_eq_map,
      normalMembers_eq_map, normal, List.map_map]
    rfl
  cases written with
  | nil =>
    have closes : skipSpace (inside ++ '\x7d' :: rest) = '\x7d' :: rest := skipSpace_blank blank _
    refine ⟨[], ?_, rfl⟩
    simp [readValue?, skipSpace_cons (show isSpace '\x7b' = false by decide), closes]
  | cons member others =>
    obtain _ | fuel := fuel
    · cases enough
    obtain ⟨made, read, normal⟩ := readMembers?_spelled keys reads blank [] rest
      (Nat.le_of_succ_le_succ enough)
    obtain ⟨tail, split⟩ : ∃ tail, [','].intercalate ((member :: others).map WrittenMember.chars) ++
        (inside ++ '\x7d' :: rest) = member.quoted ++ ':' :: tail := by
      cases others <;> simp [WrittenMember.chars]
    obtain ⟨more, left, opens, -, -⟩ := (keys member List.mem_cons_self).reads tail
    refine ⟨made, ?_, normal⟩
    rw [readValue?_members (split ▸ opens), read]
    rfl

private theorem reads_of_spells (spells : Spells depth value text) : Reads depth value text := by
  induction spells with
  | null => exact fun fuel rest _ _ => ⟨.null, rest, rfl, rfl, rfl⟩
  | bool flag =>
    cases flag <;> exact fun fuel rest _ _ => ⟨_, rest, rfl, rfl, rfl⟩
  | number read => exact reads_number read
  | @string depth text quoted spells =>
    intro fuel rest _ _
    obtain ⟨more, opens, read⟩ := spells.reads rest
    refine ⟨.string text, rest, ?_, rfl, rfl⟩
    rw [opens, readValue?_quote, read]
    rfl
  | array spells blank ih => exact reads_array spells ih blank
  | object distinct last keys spells blank ih => exact reads_object distinct last keys ih blank
  | @padded depth value before text after blank spells empty ih =>
    intro fuel rest enough halts
    simp only [List.length_append] at enough
    obtain ⟨made, left, read, stops, normal⟩ :=
      ih fuel (after ++ rest) (by omega) (.after_blank empty halts)
    refine ⟨made, left, ?_, stops.trans (skipSpace_blank empty rest), normal⟩
    rw [List.append_assoc, List.append_assoc, readValue?_blank blank, read]

/-- A text of a value is read as that value, whatever order its members are written in. -/
theorem treeOfText?_of_spells (spells : Spells greatestDepth value text) :
    ∃ tree, treeOfText? text = some tree ∧ tree.normal = value.normal := by
  obtain ⟨tree, left, read, stops, normal⟩ :=
    reads_of_spells spells text.length [] (Nat.le_refl _) .nil
  refine ⟨tree, ?_, normal⟩
  rw [List.append_nil] at read
  rw [treeOfText?, read]
  simp only [stops]
  rfl

theorem read?_of_spells (spells : Spells greatestDepth value text) :
    read? (Utf8.encode text) = some value.normal := by
  obtain ⟨tree, read, normal⟩ := treeOfText?_of_spells spells
  rw [read?, readTree?, Utf8.decode?_encode, Option.bind_some, read, Option.map_some, normal]

end HookRelay.Json
