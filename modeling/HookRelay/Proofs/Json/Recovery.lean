import HookRelay.Proofs.Json.Legible

/-!
Whether canonical bytes stay what they are when they are read and written again. Whatever has no
floats does. A float is written in the fewest digits that denote it, but the reader rounds more than
once, so it may read those digits as a neighbour with another text. A value that was read comes back
to its bytes exactly if each of its floats does.
-/
namespace HookRelay.Json

/-- The canonical bytes are read, and what they are read as has the same canonical bytes. -/
def Value.Recovers (value : Value) : Prop :=
  (read? (canonical value)).map canonical = some (canonical value)

instance (value : Value) : Decidable value.Recovers :=
  inferInstanceAs (Decidable (_ = _))

mutual
/-- The value with every float as its own text is read, or null where that is not read. -/
def Value.reread : Value → Value
  | .number (.float number) => (treeOfText? (floatLayout.write number)).getD .null
  | .array items => .array (rereadItems items)
  | .object members => .object (rereadMembers members)
  | value => value

def rereadItems : List Value → List Value
  | [] => []
  | item :: rest => item.reread :: rereadItems rest

def rereadMembers : List (String × Value) → List (String × Value)
  | [] => []
  | (key, value) :: rest => (key, value.reread) :: rereadMembers rest
end

def Readable (number : Binary64) : Prop := (treeOfText? (floatLayout.write number)).isSome = true

/-- Read again, a float keeps its text. -/
def Kept (number : Binary64) : Prop :=
  (Value.number (.float number)).reread.write = floatLayout.write number

variable {depth fuel : Nat} {value made : Value} {number : Binary64} {rest left : List Char}

theorem rereadItems_eq_map (items : List Value) :
    rereadItems items = items.map Value.reread := by
  induction items with
  | nil => rfl
  | cons item rest ih => rw [rereadItems, ih, List.map_cons]

theorem rereadMembers_eq_map (members : List (String × Value)) :
    rereadMembers members = members.map fun member => (member.1, member.2.reread) := by
  induction members with
  | nil => rfl
  | cons member rest ih => rw [rereadMembers, ih, List.map_cons]

/-! ### One float -/

/-- The text is read from its own characters, as a number or as null, whatever halts it. -/
private structure Alone (text : List Char) (read : Option (Value × List Char)) : Prop where
  suffix : ∀ {made left}, read = some (made, left) → left <:+ text
  kind : ∀ {made left}, read = some (made, left) → made = .null ∨ ∃ number, made = .number number
  reads : ∀ fuel depth {rest}, Halts rest → readValue? (fuel + 1) depth (text ++ rest) =
    read.map fun (made, left) => (made, left ++ rest)

private theorem alone_number {negative : Bool} {text more : List Char} (inside : more <:+ text)
    (reads : ∀ fuel depth rest, readValue? (fuel + 1) depth (text ++ rest) =
      (readNumber? negative (more ++ rest)).map fun (made, left) => (.number made, left)) :
    Alone text ((readNumber? negative more).map fun (made, left) => (.number made, left)) where
  suffix found := by
    obtain ⟨_, read, same⟩ := Option.map_eq_some_iff.mp found
    cases same
    exact ((contained_readNumber? negative).suffix read).trans inside
  kind found := by
    obtain ⟨_, _, same⟩ := Option.map_eq_some_iff.mp found
    cases same
    exact .inr ⟨_, rfl⟩
  reads fuel depth rest halts := by
    rw [reads, (contained_readNumber? negative).append halts, Option.map_map, Option.map_map]
    rfl

private theorem alone_floatText (number : Binary64) :
    ∃ read, Alone (floatLayout.write number) read := by
  rcases opens_or_null number with ⟨first, more, text, digit | rfl, _⟩ | text
  all_goals rw [text]
  · exact ⟨_, alone_number List.suffix_rfl fun fuel depth _ => readValue?_digit digit fuel depth _⟩
  · exact ⟨_, alone_number (List.suffix_cons _ _) fun fuel depth _ => readValue?_sign fuel depth _⟩
  · refine ⟨some (.null, []), fun found => ?_, fun found => ?_, fun fuel depth rest halts => rfl⟩
    · cases found
      exact List.nil_suffix
    · cases found
      exact .inl rfl

private theorem Alone.bare_left {read : Option (Value × List Char)}
    (alone : Alone (floatLayout.write number) read) (found : read = some (made, left)) :
    ∀ char ∈ left, isBare char = true :=
  fun char member => bare_floatText number char ((alone.suffix found).subset member)

private theorem Alone.treeOfText?_iff {read : Option (Value × List Char)}
    (alone : Alone (floatLayout.write number) read) :
    treeOfText? (floatLayout.write number) = some made ↔ read = some (made, []) := by
  have whole := alone.reads (floatLayout.write number).length greatestDepth .nil
  rw [List.append_nil] at whole
  rw [treeOfText?, whole]
  constructor
  · intro found
    obtain _ | ⟨first, left⟩ := read
    · cases found
    · obtain _ | ⟨char, left⟩ := left
      · cases found
        rfl
      · have bare := alone.bare_left rfl char List.mem_cons_self
        have solid : isSpace char = false := Bool.eq_false_iff.mpr fun blank =>
          Bool.false_ne_true ((isBare_of_isSpace blank).symm.trans bare)
        simp [skipSpace_cons solid] at found
  · rintro rfl
    rfl

private theorem readsAs_float (readable : Readable number) :
    (Value.number (.float number)).ReadsAs depth (Value.number (.float number)).reread := by
  obtain ⟨read, alone⟩ := alone_floatText number
  obtain ⟨made, found⟩ := Option.isSome_iff_exists.mp readable
  intro fuel rest _ halts
  show readValue? (fuel + 1) depth (floatLayout.write number ++ rest) =
    some ((treeOfText? (floatLayout.write number)).getD .null, rest)
  rw [alone.reads fuel depth halts, alone.treeOfText?_iff.mp found, found]
  rfl

private theorem readable_of_readValue? (halts : Halts rest)
    (found : readValue? (fuel + 1) depth (floatLayout.write number ++ rest) = some (made, left))
    (stops : Halts left) : Readable number := by
  obtain ⟨read, alone⟩ := alone_floatText number
  rw [alone.reads fuel depth halts] at found
  obtain ⟨⟨first, taken⟩, same, rest⟩ := Option.map_eq_some_iff.mp found
  cases rest
  obtain _ | ⟨char, taken⟩ := taken
  · exact Option.isSome_iff_exists.mpr ⟨_, alone.treeOfText?_iff.mpr same⟩
  · have bare := alone.bare_left same char List.mem_cons_self
    exact absurd ((stops char rfl).symm.trans bare) Bool.false_ne_true

private theorem reread_float (number : Binary64) :
    (Value.number (.float number)).reread = .null ∨
      ∃ again, (Value.number (.float number)).reread = .number again := by
  show (treeOfText? (floatLayout.write number)).getD .null = .null ∨
    ∃ again, (treeOfText? (floatLayout.write number)).getD .null = .number again
  obtain ⟨read, alone⟩ := alone_floatText number
  cases found : treeOfText? (floatLayout.write number) with
  | none => exact .inl rfl
  | some made => exact alone.kind (alone.treeOfText?_iff.mp found)

private theorem bare_reread_float (number : Binary64) :
    ∀ char ∈ (Value.number (.float number)).reread.write, isBare char = true := by
  rcases reread_float number with null | ⟨again | again, same⟩
  · rw [null]
    exact List.all_eq_true.mp rfl
  · rw [same]
    exact bare_writeInteger again
  · rw [same]
    exact bare_floatText again

/-! ### Floats inside a value -/

/-- A value whose floats are read is read with each of them as it is read. -/
theorem Legible.readsAs (legible : Legible depth value)
    (readable : ∀ number ∈ value.floats, Readable number) :
    value.ReadsAs depth value.reread := by
  induction legible with
  | null => exact fun fuel rest enough halts => rfl
  | bool flag => cases flag <;> exact fun fuel rest enough halts => rfl
  | integer least greatest =>
    exact fun fuel rest enough halts => readValue?_integer least greatest fuel _ halts.ends
  | float number => exact readsAs_float (readable number List.mem_cons_self)
  | string text => exact readsAs_string text
  | @array depth items legible ih =>
    rw [Value.floats, itemFloats_eq_flatMap] at readable
    rw [Value.reread, rereadItems_eq_map]
    exact readsAs_array Value.reread fun item member => ih item member fun number found =>
      readable number (List.mem_flatMap.mpr ⟨item, member, found⟩)
  | @object depth members ordered legible ih =>
    rw [Value.floats, memberFloats_eq_flatMap] at readable
    rw [Value.reread, rereadMembers_eq_map]
    exact readsAs_object Value.reread fun member listed => ih member listed fun number found =>
      readable number (List.mem_flatMap.mpr ⟨member, listed, found⟩)

/-- Wherever the value is read off the front of a text, its floats are read. -/
private def Value.Exposes (depth : Nat) (value : Value) : Prop :=
  ∀ {fuel rest made left}, value.write.length ≤ fuel → Halts rest → Halts left →
    readValue? (fuel + 1) depth (value.write ++ rest) = some (made, left) →
      ∀ number ∈ value.floats, Readable number

private theorem exposes_first_item {item : Value} (exposes : item.Exposes depth)
    {reversed : List Value} {after : List Char} (enough : item.write.length ≤ fuel)
    (halts : Halts after)
    (found : readItems? (fuel + 2) depth reversed (item.write ++ after) = some (made, left)) :
    ∀ number ∈ item.floats, Readable number := by
  rw [readItems?] at found
  split at found
  · cases found
  · rename_i taken rest read
    refine exposes enough halts ?_ read
    split at found
    · exact halts_of_skipSpace ‹_› (by decide)
    · exact halts_of_skipSpace ‹_› (by decide)
    · cases found

private theorem exposes_items {item : Value} {others : List Value}
    (exposes : ∀ each ∈ item :: others, each.Exposes depth)
    (reads : ∀ each ∈ item :: others, (∀ number ∈ each.floats, Readable number) →
      each.ReadsAs depth each.reread)
    {reversed : List Value} {after : List Char}
    (enough : (item.write ++ writeItems others).length ≤ fuel)
    (found : readItems? (fuel + 1) depth reversed (item.write ++ (writeItems others ++ after)) =
      some (made, left)) :
    ∀ each ∈ item :: others, ∀ number ∈ each.floats, Readable number := by
  induction others generalizing item reversed fuel with
  | nil =>
    rw [List.length_append, writeItems, List.length_singleton] at enough
    obtain _ | fuel := fuel
    · cases enough
    exact List.forall_mem_singleton.mpr (exposes_first_item (exposes item List.mem_cons_self)
      (by omega) (halts_writeItems _ _) found)
  | cons next more ih =>
    rw [List.length_append, writeItems, List.length_cons] at enough
    obtain _ | fuel := fuel
    · cases enough
    have first := exposes_first_item (exposes item List.mem_cons_self) (by omega)
      (halts_writeItems _ _) found
    have read := reads item List.mem_cons_self first fuel (writeItems (next :: more) ++ after)
      (by omega) (halts_writeItems _ _)
    rw [readItems?, read] at found
    simp only [writeItems, List.cons_append, List.append_assoc,
      skipSpace_cons (show isSpace ',' = false by decide)] at found
    refine List.forall_mem_cons.mpr ⟨first, ih ?_ ?_ (by omega) found⟩
    · exact fun each member => exposes each (List.mem_cons_of_mem _ member)
    · exact fun each member => reads each (List.mem_cons_of_mem _ member)

private theorem exposes_first_member {key : String} (exposes : value.Exposes depth)
    {reversed : List (String × Value)} {after : List Char} (enough : value.write.length ≤ fuel)
    (halts : Halts after)
    (found : readMembers? (fuel + 2) depth reversed
      (writeString key ++ ':' :: (value.write ++ after)) = some (made, left)) :
    ∀ number ∈ value.floats, Readable number := by
  rw [readMembers?, writeString_append] at found
  simp only [skipSpace_cons (show isSpace '"' = false by decide), readString?_writeString,
    skipSpace_cons (show isSpace ':' = false by decide)] at found
  split at found
  · cases found
  · rename_i taken rest read
    refine exposes enough halts ?_ read
    split at found
    · exact halts_of_skipSpace ‹_› (by decide)
    · exact halts_of_skipSpace ‹_› (by decide)
    · cases found

private theorem exposes_members {key : String} {others : List (String × Value)}
    (exposes : ∀ member ∈ (key, value) :: others, member.2.Exposes depth)
    (reads : ∀ member ∈ (key, value) :: others, (∀ number ∈ member.2.floats, Readable number) →
      member.2.ReadsAs depth member.2.reread)
    {reversed : List (String × Value)} {after : List Char}
    (enough : (writeString key ++ ':' :: (value.write ++ writeMembers others)).length ≤ fuel)
    (found : readMembers? (fuel + 1) depth reversed
      (writeString key ++ ':' :: (value.write ++ (writeMembers others ++ after))) =
        some (made, left)) :
    ∀ member ∈ (key, value) :: others, ∀ number ∈ member.2.floats, Readable number := by
  induction others generalizing key value reversed fuel with
  | nil =>
    rw [List.length_append, List.length_cons, List.length_append] at enough
    obtain _ | fuel := fuel
    · cases enough
    have fits : value.write.length ≤ fuel := by omega
    exact List.forall_mem_singleton.mpr (exposes_first_member
      (exposes (key, value) List.mem_cons_self) fits (halts_writeMembers _ _) found)
  | cons next more ih =>
    obtain ⟨nextKey, nextValue⟩ := next
    rw [List.length_append, List.length_cons, List.length_append, writeMembers,
      List.length_cons] at enough
    obtain _ | fuel := fuel
    · cases enough
    have fits : value.write.length ≤ fuel := by omega
    have first := exposes_first_member (exposes (key, value) List.mem_cons_self) fits
      (halts_writeMembers _ _) found
    have read := reads (key, value) List.mem_cons_self first fuel
      (writeMembers ((nextKey, nextValue) :: more) ++ after) fits (halts_writeMembers _ _)
    rw [readMembers?, writeString_append] at found
    simp only [skipSpace_cons (show isSpace '"' = false by decide), readString?_writeString,
      skipSpace_cons (show isSpace ':' = false by decide), read] at found
    simp only [writeMembers, List.cons_append, List.append_assoc,
      skipSpace_cons (show isSpace ',' = false by decide)] at found
    refine List.forall_mem_cons.mpr ⟨first, ih ?_ ?_ (by omega) found⟩
    · exact fun member listed => exposes member (List.mem_cons_of_mem _ listed)
    · exact fun member listed => reads member (List.mem_cons_of_mem _ listed)

theorem Legible.exposes (legible : Legible depth value) : value.Exposes depth := by
  induction legible with
  | null => exact fun _ _ _ _ => List.forall_mem_nil _
  | bool flag => exact fun _ _ _ _ => List.forall_mem_nil _
  | integer least greatest => exact fun _ _ _ _ => List.forall_mem_nil _
  | float number =>
    intro fuel rest made left enough halts stops found
    exact List.forall_mem_singleton.mpr (readable_of_readValue? halts found stops)
  | string text => exact fun _ _ _ _ => List.forall_mem_nil _
  | @array depth items legible ih =>
    intro fuel rest made left enough halts stops found
    rw [Value.floats, itemFloats_eq_flatMap]
    cases items with
    | nil => exact List.forall_mem_nil _
    | cons item others =>
      obtain _ | fuel := fuel
      · cases enough
      obtain ⟨first, more, opened, solid, apart⟩ := item.write_cons
      rw [Value.write, List.cons_append, List.append_assoc, opened, List.cons_append,
        readValue?_array solid apart, ← List.cons_append, ← opened] at found
      have each := exposes_items ih (fun each member => (legible each member).readsAs)
        (Nat.le_of_succ_le_succ enough) found
      intro number member
      obtain ⟨item, listed, member⟩ := List.mem_flatMap.mp member
      exact each item listed number member
  | @object depth members ordered legible ih =>
    intro fuel rest made left enough halts stops found
    rw [Value.floats, memberFloats_eq_flatMap]
    cases members with
    | nil => exact List.forall_mem_nil _
    | cons member others =>
      obtain ⟨key, value⟩ := member
      obtain _ | fuel := fuel
      · cases enough
      rw [Value.write, List.cons_append, List.append_assoc, List.cons_append,
        List.append_assoc, writeString_append, readValue?_object, ← writeString_append] at found
      have each := exposes_members ih (fun each member => (legible each member).readsAs)
        (Nat.le_of_succ_le_succ enough) found
      intro number member
      obtain ⟨item, listed, member⟩ := List.mem_flatMap.mp member
      exact each item listed number member

/-! ### Texts of values that are read again -/

private theorem reread_write_of_floats (same : value.reread = value) (none : value.floats = [])
    (rest others : List Char) :
    value.reread.write ++ rest = value.write ++ others ↔
      (∀ number ∈ value.floats, Kept number) ∧ rest = others := by
  rw [same, none, List.append_cancel_left_eq]
  exact (and_iff_right (List.forall_mem_nil _)).symm

mutual
/-- The text of a value stays the same exactly if the text of each float in it does. -/
theorem reread_write_append (value : Value) {rest others : List Char} (halts : Halts rest)
    (stops : Halts others) :
    value.reread.write ++ rest = value.write ++ others ↔
      (∀ number ∈ value.floats, Kept number) ∧ rest = others := by
  match value with
  | .null => exact reread_write_of_floats rfl rfl rest others
  | .bool flag => exact reread_write_of_floats rfl rfl rest others
  | .number (.integer number) => exact reread_write_of_floats rfl rfl rest others
  | .string text => exact reread_write_of_floats rfl rfl rest others
  | .number (.float number) =>
    rw [Value.floats, List.forall_mem_singleton]
    constructor
    · exact append_inj_of_halts (bare_reread_float number) (bare_floatText number) halts stops
    · rintro ⟨kept, rfl⟩
      exact congrArg (· ++ rest) kept
  | .array [] => exact reread_write_of_floats rfl rfl rest others
  | .array (item :: more) =>
    simp only [Value.reread, rereadItems, Value.write, Value.floats, itemFloats, List.cons_append,
      List.append_assoc, List.cons.injEq, true_and, List.forall_mem_append, and_assoc]
    rw [reread_write_append item (halts_writeItems _ _) (halts_writeItems _ _),
      reread_writeItems_append more halts stops]
  | .object [] => exact reread_write_of_floats rfl rfl rest others
  | .object ((key, value) :: more) =>
    simp only [Value.reread, rereadMembers, Value.write, Value.floats, memberFloats,
      List.cons_append, List.append_assoc, List.cons.injEq, true_and, List.append_cancel_left_eq,
      List.forall_mem_append, and_assoc]
    rw [reread_write_append value (halts_writeMembers _ _) (halts_writeMembers _ _),
      reread_writeMembers_append more halts stops]

theorem reread_writeItems_append (items : List Value) {rest others : List Char}
    (halts : Halts rest) (stops : Halts others) :
    writeItems (rereadItems items) ++ rest = writeItems items ++ others ↔
      (∀ number ∈ itemFloats items, Kept number) ∧ rest = others := by
  match items with
  | [] => simp [rereadItems, writeItems, itemFloats]
  | item :: more =>
    simp only [rereadItems, writeItems, itemFloats, List.cons_append, List.append_assoc,
      List.cons.injEq, true_and, List.forall_mem_append, and_assoc]
    rw [reread_write_append item (halts_writeItems _ _) (halts_writeItems _ _),
      reread_writeItems_append more halts stops]

theorem reread_writeMembers_append (members : List (String × Value)) {rest others : List Char}
    (halts : Halts rest) (stops : Halts others) :
    writeMembers (rereadMembers members) ++ rest = writeMembers members ++ others ↔
      (∀ number ∈ memberFloats members, Kept number) ∧ rest = others := by
  match members with
  | [] => simp [rereadMembers, writeMembers, memberFloats]
  | (key, value) :: more =>
    simp only [rereadMembers, writeMembers, memberFloats, List.cons_append, List.append_assoc,
      List.cons.injEq, true_and, List.append_cancel_left_eq, List.forall_mem_append, and_assoc]
    rw [reread_write_append value (halts_writeMembers _ _) (halts_writeMembers _ _),
      reread_writeMembers_append more halts stops]
end

theorem reread_write_iff (value : Value) :
    value.reread.write = value.write ↔ ∀ number ∈ value.floats, Kept number := by
  have whole := reread_write_append value .nil .nil
  rwa [List.append_nil, List.append_nil, and_iff_left rfl] at whole

theorem Legible.normal_reread (legible : Legible depth value) :
    value.reread.normal = value.reread := by
  induction legible with
  | null => rfl
  | bool flag => rfl
  | integer least greatest => rfl
  | float number =>
    rcases reread_float number with null | ⟨again, same⟩
    · rw [null]
      rfl
    · rw [same]
      rfl
  | string text => rfl
  | @array depth items legible ih =>
    rw [Value.reread, rereadItems_eq_map, Value.normal, normalItems_eq_map, List.map_map]
    exact congrArg Value.array (List.map_congr_left ih)
  | @object depth members ordered legible ih =>
    rw [Value.reread, rereadMembers_eq_map]
    refine (normal_object_iff _).mpr ⟨List.pairwise_map.mpr ordered, fun member found => ?_⟩
    obtain ⟨held, listed, rfl⟩ := List.mem_map.mp found
    exact ih held listed

/-! ### Canonical bytes that are read again -/

theorem Legible.treeOfText?_write (legible : Legible greatestDepth value) :
    treeOfText? value.write = some made ↔
      (∀ number ∈ value.floats, Readable number) ∧ value.reread = made := by
  have reads (readable : ∀ number ∈ value.floats, Readable number) :
      treeOfText? value.write = some value.reread := by
    have read := legible.readsAs readable value.write.length [] (Nat.le_refl _) .nil
    rw [List.append_nil] at read
    rw [treeOfText?, read]
    rfl
  constructor
  · intro found
    have readable : ∀ number ∈ value.floats, Readable number := by
      have whole := found
      rw [treeOfText?, ← List.append_nil value.write] at whole
      split at whole
      · rename_i first left read
        split at whole
        · rename_i blank
          refine legible.exposes ?_ .nil (halts_of_blank (List.isEmpty_iff.mp blank)) read
          exact Nat.le_of_eq (congrArg List.length (List.append_nil _).symm)
        · cases whole
      · cases whole
    exact ⟨readable, Option.some.inj ((reads readable).symm.trans found)⟩
  · rintro ⟨readable, rfl⟩
    exact reads readable

theorem Legible.read?_canonical_iff (legible : Legible greatestDepth value) :
    read? (canonical value) = some made ↔
      (∀ number ∈ value.floats, Readable number) ∧ value.reread = made := by
  rw [read?, readTree?, canonical, legible.normal, Utf8.decode?_encode, Option.bind_some,
    Option.map_eq_some_iff]
  constructor
  · rintro ⟨tree, found, rfl⟩
    obtain ⟨readable, rfl⟩ := legible.treeOfText?_write.mp found
    exact ⟨readable, legible.normal_reread.symm⟩
  · rintro ⟨readable, rfl⟩
    exact ⟨_, legible.treeOfText?_write.mpr ⟨readable, rfl⟩, legible.normal_reread⟩

theorem Legible.reread_of_whole (legible : Legible greatestDepth value)
    (whole : value.floats = []) : value.reread = value :=
  (legible.treeOfText?_write.mp (legible.plain whole).treeOfText?_write).2

/-- A value that texts may be read as comes back to its bytes exactly if all its floats are read, and
as numbers with their texts. -/
theorem Legible.recovers_iff (legible : Legible greatestDepth value) :
    value.Recovers ↔ ∀ number ∈ value.floats, Readable number ∧ Kept number := by
  have text : canonical value.reread = canonical value ↔ value.reread.write = value.write := by
    rw [canonical, canonical, legible.normal, legible.normal_reread]
    refine ⟨fun same => ?_, congrArg Utf8.encode⟩
    have decoded := congrArg Utf8.decode? same
    rw [Utf8.decode?_encode, Utf8.decode?_encode] at decoded
    exact Option.some.inj decoded
  simp only [imp_and, forall_and]
  rw [← reread_write_iff, ← text, Value.Recovers, Option.map_eq_some_iff]
  constructor
  · rintro ⟨again, read, same⟩
    obtain ⟨readable, rfl⟩ := legible.read?_canonical_iff.mp read
    exact ⟨readable, same⟩
  · rintro ⟨readable, same⟩
    exact ⟨_, legible.read?_canonical_iff.mpr ⟨readable, rfl⟩, same⟩

theorem recovers_float_iff (number : Binary64) :
    (Value.number (.float number)).Recovers ↔ Readable number ∧ Kept number := by
  have legible : Legible greatestDepth (.number (.float number)) := .float number
  rw [legible.recovers_iff, Value.floats, List.forall_mem_singleton]

/-- The canonical bytes of what is read are canonical again after reading exactly if those of each of
its floats are; so they are wherever there are none. -/
theorem recovers_iff_floats {bytes : Bytes} (found : read? bytes = some value) :
    value.Recovers ↔ ∀ number ∈ value.floats, (Value.number (.float number)).Recovers := by
  rw [(legible_of_read? found).recovers_iff]
  exact forall₂_congr fun number _ => (recovers_float_iff number).symm

/-- Three floats in other spellings than their own, one of them a zero with a sign. -/
private def spelled : Bytes := Utf8.encode "[ 5e-1, \x7b\"b\": 1e23, \"a\": -0\x7d, 7 ]".toList

theorem recovers_iff_floats_spelled :
    ∃ value, read? spelled = some value ∧ value.floats.length = 3 ∧ value.Recovers := by
  have each : (read? spelled).any (fun value => value.floats.length == 3 &&
      value.floats.all fun number => (Value.number (.float number)).Recovers) = true := by
    decide +kernel
  obtain ⟨value, found, holds⟩ := (Option.any_eq_true _ _).mp each
  obtain ⟨three, recovers⟩ := Bool.and_eq_true_iff.mp holds
  refine ⟨value, found, beq_iff_eq.mp three, (recovers_iff_floats found).mpr ?_⟩
  exact fun number member => of_decide_eq_true (List.all_eq_true.mp recovers number member)

/-- Five times the thirty-second power of ten is read as a float that is written
`5.0000000000000004e+32`, and that text is read as another float, which is written `5e+32`. -/
theorem not_recovers_of_drift :
    ∃ value, read? (Utf8.encode "5e32".toList) = some value ∧ ¬ value.Recovers := by
  have drift : (read? (Utf8.encode "5e32".toList)).any (fun value => !decide value.Recovers) =
      true := by
    decide +kernel
  obtain ⟨value, found, lost⟩ := (Option.any_eq_true _ _).mp drift
  exact ⟨value, found, of_decide_eq_false ((Bool.not_eq_true' _).mp lost)⟩

end HookRelay.Json
