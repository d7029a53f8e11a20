import HookRelay.Proofs.Json.Recovery
import HookRelay.Proofs.Json.Spelling
import HookRelay.Signature.Basic

namespace HookRelay.Json

/-- Stands in a value at any depth, or is that value. -/
inductive Value.Within : Value → Value → Prop where
  | self {value : Value} : Within value value
  | item {inner item : Value} {items : List Value} (member : item ∈ items) (within : Within inner item) :
      Within inner (.array items)
  | member {inner : Value} {member : String × Value} {members : List (String × Value)}
      (found : member ∈ members) (within : Within inner member.2) : Within inner (.object members)

/-- The keys of every object in a value are in strictly increasing order of their bytes. -/
def Value.KeysAscend (value : Value) : Prop :=
  ∀ members, (Value.object members).Within value →
    members.Pairwise fun first second => Utf8.ofString first.1 < Utf8.ofString second.1

/-- The bytes are the text of a value whose keys are in order, and so are the keys of whatever they
are read as. -/
structure KeysAscendIn (bytes : Bytes) : Prop where
  written : ∃ value : Value, bytes = Utf8.encode value.write ∧ value.KeysAscend
  read : ∀ tree, readTree? bytes = some tree → tree.KeysAscend

variable {value inner : Value} {first second : List Char}

theorem Value.Within.normal (within : inner.Within value) (normal : value.normal = value) :
    inner.normal = inner := by
  induction within with
  | self => exact normal
  | item member within ih =>
    rw [Value.normal, normalItems_eq_map, Value.array.injEq] at normal
    exact ih (List.map_inj_left.mp (normal.trans (List.map_id _).symm) _ member)
  | member found within ih => exact ih (((normal_object_iff _).mp normal).2 _ found)

theorem keysAscend_of_normal (normal : value.normal = value) : value.KeysAscend := by
  intro members within
  have ordered := ((normal_object_iff members).mp (within.normal normal)).1
  exact List.Pairwise.imp Utf8.ofString_lt ordered

theorem Legible.keysAscendIn_canonical (legible : Legible greatestDepth value) :
    KeysAscendIn (canonical value) := by
  have same : canonical value = Utf8.encode value.write := by rw [canonical, legible.normal]
  constructor
  · exact ⟨value, same, keysAscend_of_normal legible.normal⟩
  · intro tree read
    rw [same, readTree?, Utf8.decode?_encode, Option.bind_some, legible.treeOfText?_write] at read
    obtain ⟨-, rfl⟩ := read
    exact keysAscend_of_normal legible.normal_reread

/-- Two texts of one value, whatever the order of their members, their blanks and their escapes, are
both read; their canonical bytes are the same, with all keys in order, and so are their signatures. -/
theorem canonical_of_spells (spells : Spells greatestDepth value first)
    (again : Spells greatestDepth value second) :
    ∃ left right, read? (Utf8.encode first) = some left ∧ read? (Utf8.encode second) = some right ∧
      canonical left = canonical right ∧ KeysAscendIn (canonical left) ∧
      ∀ secret, Signature.sign left secret = Signature.sign right secret := by
  have read := read?_of_spells spells
  have reread := read?_of_spells again
  exact ⟨_, _, read, reread, rfl, (legible_of_read? read).keysAscendIn_canonical, fun _ => rfl⟩

/-! ### Two texts of a parcel -/

private theorem spellsString_plain {text : String}
    (plain : (text.toList.all fun char => 0x20 ≤ char.toNat ∧ char ≠ '"' ∧ char ≠ '\\') = true) :
    SpellsString text ('"' :: (text.toList ++ ['"'])) := by
  have chars (chars : List Char) (plain : ∀ char ∈ chars, 0x20 ≤ char.toNat ∧ char ≠ '"' ∧
      char ≠ '\\') : SpellsChars chars chars := by
    induction chars with
    | nil => exact .nil
    | cons char chars ih =>
      obtain ⟨⟨printed, quote, backslash⟩, later⟩ := List.forall_mem_cons.mp plain
      exact .cons (.plain printed quote backslash) (ih later)
  exact .quoted (chars _ fun char member => of_decide_eq_true (List.all_eq_true.mp plain char member))

private theorem SpellsString.key {key : String} {quoted : List Char}
    (spells : SpellsString key quoted) : SpellsKey key quoted := by
  have padded := SpellsKey.padded (List.forall_mem_nil _) spells (List.forall_mem_nil _)
  rwa [List.nil_append, List.append_nil] at padded

private theorem blank_one : Blank [' '] := List.forall_mem_singleton.mpr rfl

private theorem spells_count {depth : Nat} : Spells depth (.int (-2)) "-2".toList :=
  @Spells.number depth true ['2'] (.integer (-2)) rfl

private def line : Value := .object [("n", .int (-2)), ("é", .null)]

private def parcel : Value := .object [("to", .string "😀"), ("lines", .array [line])]

private def straightLines : List Char := "[\x7b\"n\":-2,\"é\":null\x7d]".toList

private def straight : List Char :=
  "\x7b\"to\":\"😀\",\"lines\":".toList ++ straightLines ++ "\x7d".toList

private theorem spells_straight : Spells greatestDepth parcel straight := by
  have row : Spells 125 line "\x7b\"n\":-2,\"é\":null\x7d".toList := by
    refine @Spells.object 124 _ [⟨"n", "\"n\"".toList, .int (-2), "-2".toList⟩,
      ⟨"é", "\"é\"".toList, .null, "null".toList⟩] [] (by decide) ?_ ?_ ?_ (List.forall_mem_nil _)
    · intro key
      grind [lookup?, WrittenMember.member]
    · simp only [List.forall_mem_cons]
      exact ⟨(spellsString_plain (by decide)).key, (spellsString_plain (by decide)).key,
        List.forall_mem_nil _⟩
    · simp only [List.forall_mem_cons]
      exact ⟨spells_count, .null, List.forall_mem_nil _⟩
  have lines : Spells 126 (.array [line]) straightLines :=
    @Spells.array 125 [(_, _)] [] (List.forall_mem_singleton.mpr row) (List.forall_mem_nil _)
  refine @Spells.object 126 _ [⟨"to", "\"to\"".toList, .string "😀", "\"😀\"".toList⟩,
    ⟨"lines", "\"lines\"".toList, .array [line], straightLines⟩] [] (by decide) ?_ ?_ ?_
    (List.forall_mem_nil _)
  · intro key
    grind [lookup?, WrittenMember.member]
  · simp only [List.forall_mem_cons]
    exact ⟨(spellsString_plain (by decide)).key, (spellsString_plain (by decide)).key,
      List.forall_mem_nil _⟩
  · simp only [List.forall_mem_cons]
    exact ⟨.string (spellsString_plain (by decide)), lines, List.forall_mem_nil _⟩

/-- The members are turned round, and one of them stands twice. -/
private def crookedLines : List Char :=
  "[\x7b\"\\u00E9\":null,\"n\":[ ],\"\\u006e\": -2\x7d]".toList

private def crooked : List Char :=
  "\x7b\"lines\" :".toList ++ crookedLines ++ ",\"to\":\"\\uD83d\\uDe00\" \x7d".toList

private theorem spells_crooked : Spells greatestDepth parcel crooked := by
  have acute : SpellsString "é" "\"\\u00E9\"".toList := @SpellsString.quoted "é" _
    (.cons (@SpellsChar.unit 'é' "00E9".toList (by decide) (by decide)) .nil)
  have letter : SpellsString "n" "\"\\u006e\"".toList := @SpellsString.quoted "n" _
    (.cons (@SpellsChar.unit 'n' "006e".toList (by decide) (by decide)) .nil)
  have face : SpellsString "😀" "\"\\uD83d\\uDe00\"".toList := @SpellsString.quoted "😀" _
    (.cons (@SpellsChar.pair '😀' "D83d".toList "De00".toList (by decide) (by decide) (by decide))
      .nil)
  have row : Spells 125 line "\x7b\"\\u00E9\":null,\"n\":[ ],\"\\u006e\": -2\x7d".toList := by
    refine @Spells.object 124 _ [⟨"é", "\"\\u00E9\"".toList, .null, "null".toList⟩,
      ⟨"n", "\"n\"".toList, .array [], "[ ]".toList⟩,
      ⟨"n", "\"\\u006e\"".toList, .int (-2), " -2".toList⟩] [] (by decide) ?_ ?_ ?_
      (List.forall_mem_nil _)
    · intro key
      grind [lookup?, WrittenMember.member]
    · simp only [List.forall_mem_cons]
      exact ⟨acute.key, (spellsString_plain (by decide)).key, letter.key, List.forall_mem_nil _⟩
    · simp only [List.forall_mem_cons]
      exact ⟨.null, @Spells.array 123 [] _ (List.forall_mem_nil _) blank_one,
        .padded blank_one spells_count (List.forall_mem_nil _), List.forall_mem_nil _⟩
  have lines : Spells 126 (.array [line]) crookedLines :=
    @Spells.array 125 [(_, _)] [] (List.forall_mem_singleton.mpr row) (List.forall_mem_nil _)
  refine @Spells.object 126 _ [⟨"lines", "\"lines\" ".toList, .array [line], crookedLines⟩,
    ⟨"to", "\"to\"".toList, .string "😀", "\"\\uD83d\\uDe00\"".toList⟩] [' ']
    (by decide) ?_ ?_ ?_ blank_one
  · intro key
    grind [lookup?, WrittenMember.member]
  · simp only [List.forall_mem_cons]
    exact ⟨.padded (List.forall_mem_nil _) (spellsString_plain (by decide)) blank_one,
      (spellsString_plain (by decide)).key, List.forall_mem_nil _⟩
  · simp only [List.forall_mem_cons]
    exact ⟨lines, .string face, List.forall_mem_nil _⟩

theorem canonical_of_spells_parcel :
    straight ≠ crooked ∧ ∃ left right, read? (Utf8.encode straight) = some left ∧
      read? (Utf8.encode crooked) = some right ∧ canonical left = canonical right := by
  obtain ⟨left, right, read, reread, same, -⟩ := canonical_of_spells spells_straight spells_crooked
  exact ⟨by decide, left, right, read, reread, same⟩

end HookRelay.Json
