import HookRelay.Proofs.Json.Members
import HookRelay.Proofs.Json.Number

namespace HookRelay.Json

/-- A value without floats, with its objects in order, with integers of one of the two word sizes,
and with at most `depth` containers inside each other. -/
inductive Plain : Nat → Value → Prop where
  | null {depth : Nat} : Plain depth .null
  | bool {depth : Nat} (flag : Bool) : Plain depth (.bool flag)
  | integer {depth : Nat} {number : Int} (least : -0x8000000000000000 ≤ number)
      (greatest : number < 0x10000000000000000) : Plain depth (.int number)
  | string {depth : Nat} (text : String) : Plain depth (.string text)
  | array {depth : Nat} {items : List Value} (plain : ∀ item ∈ items, Plain depth item) :
      Plain (depth + 1) (.array items)
  | object {depth : Nat} {members : List (String × Value)} (ordered : Ordered members)
      (plain : ∀ member ∈ members, Plain depth member.2) : Plain (depth + 1) (.object members)

variable {depth : Nat} {value : Value}

theorem Plain.normal (plain : Plain depth value) : value.normal = value := by
  induction plain with
  | null => rfl
  | bool flag => rfl
  | integer least greatest => rfl
  | string text => rfl
  | array plain ih =>
    rw [Value.normal, normalItems_eq_map, List.map_congr_left ih, List.map_id']
  | object ordered plain ih => exact (normal_object_iff _).mpr ⟨ordered, ih⟩

/-! ### What a first character decides -/

/-- What is written begins with no blank, and with no bracket that closes an array. -/
theorem Value.write_cons (value : Value) :
    ∃ first more, value.write = first :: more ∧ isSpace first = false ∧ first ≠ ']' := by
  cases value with
  | null => exact ⟨_, _, rfl, by decide, by decide⟩
  | bool flag => cases flag <;> exact ⟨_, _, rfl, by decide, by decide⟩
  | number number =>
    cases number with
    | integer number =>
      rcases Int.lt_or_le number 0 with negative | positive
      · exact ⟨_, _, writeInteger_of_neg negative, by decide, by decide⟩
      · obtain ⟨first, more, digits, digit⟩ := digits_cons number.natAbs
        exact ⟨first, more, (writeInteger_of_nonneg positive).trans digits,
          isSpace_of_isDigit digit, ne_of_isDigit digit rfl⟩
    | float number =>
      rcases opens_or_null number with ⟨first, more, text, digit | rfl, _⟩ | text
      · exact ⟨first, more, text, isSpace_of_isDigit digit, ne_of_isDigit digit rfl⟩
      · exact ⟨_, _, text, by decide, by decide⟩
      · exact ⟨_, _, text, by decide, by decide⟩
  | string text => exact ⟨_, _, rfl, by decide, by decide⟩
  | array items => cases items <;> exact ⟨_, _, rfl, by decide, by decide⟩
  | object members => cases members <;> exact ⟨_, _, rfl, by decide, by decide⟩

theorem readValue?_digit {first : Char} (digit : Text.isDigit first = true) (fuel depth : Nat)
    (more : List Char) :
    readValue? (fuel + 1) depth (first :: more) =
      (readNumber? false (first :: more)).map fun (value, rest) => (.number value, rest) := by
  rw [readValue?, skipSpace_cons (isSpace_of_isDigit digit)]
  split <;> rename_i same
  any_goals exact absurd (List.cons.inj same).1 (ne_of_isDigit digit rfl)
  rfl

theorem readValue?_sign (fuel depth : Nat) (more : List Char) :
    readValue? (fuel + 1) depth ('-' :: more) =
      (readNumber? true more).map fun (value, rest) => (.number value, rest) :=
  rfl

theorem readValue?_quote (fuel depth : Nat) (more : List Char) :
    readValue? (fuel + 1) depth ('"' :: more) =
      (readString? [] more).map fun (text, rest) => (.string text, rest) :=
  rfl

theorem readValue?_array {first : Char} (solid : isSpace first = false) (apart : first ≠ ']')
    (fuel depth : Nat) (more : List Char) :
    readValue? (fuel + 1) (depth + 1) ('[' :: first :: more) =
      readItems? fuel depth [] (first :: more) := by
  simp only [readValue?, skipSpace_cons (show isSpace '[' = false by decide), skipSpace_cons solid]
  split
  · rename_i same
    exact absurd (List.cons.inj same).1 apart
  · rfl

theorem readValue?_object (fuel depth : Nat) (more : List Char) :
    readValue? (fuel + 1) (depth + 1) ('\x7b' :: '"' :: more) =
      readMembers? fuel depth [] ('"' :: more) :=
  rfl

theorem readValue?_integer {number : Int} (least : -0x8000000000000000 ≤ number)
    (greatest : number < 0x10000000000000000) (fuel depth : Nat) {rest : List Char}
    (ends : Ends rest) :
    readValue? (fuel + 1) depth (writeInteger number ++ rest) = some (.int number, rest) := by
  have fits : number.natAbs < significandLimit := by
    rw [significandLimit]
    omega
  rcases Int.lt_or_le number 0 with negative | positive
  · rw [writeInteger_of_neg negative, List.cons_append, readValue?_sign,
      readNumber?_digits true fits ends, wholeNumber_of_neg negative least]
    rfl
  · obtain ⟨first, more, digits, digit⟩ := digits_cons number.natAbs
    have read := readNumber?_digits false fits ends
    rw [writeInteger_of_nonneg positive]
    rw [digits, List.cons_append] at read ⊢
    rw [readValue?_digit digit, read, wholeNumber_of_nonneg positive]
    rfl

/-! ### Values inside each other -/

/-- The text of a value is read as another value off the front of any text that goes on after it, with
fuel for each of its characters. -/
def Value.ReadsAs (depth : Nat) (value other : Value) : Prop :=
  ∀ fuel rest, value.write.length ≤ fuel → Halts rest →
    readValue? (fuel + 1) depth (value.write ++ rest) = some (other, rest)

theorem halts_writeItems (items : List Value) (after : List Char) :
    Halts (writeItems items ++ after) := by
  cases items <;> exact .cons (by decide) _

theorem halts_writeMembers (members : List (String × Value)) (after : List Char) :
    Halts (writeMembers members ++ after) := by
  cases members <;> exact .cons (by decide) _

variable {again : Value → Value}

theorem readItems?_written {item : Value} {rest : List Value}
    (reads : ∀ each ∈ item :: rest, each.ReadsAs depth (again each)) (reversed : List Value)
    (after : List Char) {fuel : Nat} (enough : (item.write ++ writeItems rest).length ≤ fuel) :
    readItems? (fuel + 1) depth reversed (item.write ++ (writeItems rest ++ after)) =
      some (.array (reversed.reverse ++ (item :: rest).map again), after) := by
  have first : item.ReadsAs depth (again item) := reads item List.mem_cons_self
  induction rest generalizing item reversed fuel with
  | nil =>
    rw [List.length_append, writeItems, List.length_singleton] at enough
    obtain _ | fuel := fuel
    · cases enough
    have read := first fuel (writeItems [] ++ after) (by omega) (halts_writeItems _ _)
    rw [readItems?, read]
    simp [writeItems, skipSpace, isSpace]
  | cons next more ih =>
    have later : ∀ each ∈ next :: more, each.ReadsAs depth (again each) := fun each member =>
      reads each (List.mem_cons_of_mem _ member)
    rw [List.length_append, writeItems, List.length_cons] at enough
    obtain _ | fuel := fuel
    · cases enough
    have read := first fuel (writeItems (next :: more) ++ after) (by omega) (halts_writeItems _ _)
    -- The comma pays for the step to the next item.
    have spare : (next.write ++ writeItems more).length ≤ fuel := by omega
    have others := ih later (again item :: reversed) spare (later next List.mem_cons_self)
    rw [readItems?, read]
    simp [writeItems, skipSpace, isSpace, others]

theorem readMembers?_written {key : String} {rest : List (String × Value)}
    (reads : ∀ member ∈ (key, value) :: rest, member.2.ReadsAs depth (again member.2))
    (reversed : List (String × Value)) (after : List Char) {fuel : Nat}
    (enough : (writeString key ++ ':' :: (value.write ++ writeMembers rest)).length ≤ fuel) :
    readMembers? (fuel + 1) depth reversed
        (writeString key ++ ':' :: (value.write ++ (writeMembers rest ++ after))) =
      some (.object (reversed.reverse ++
        ((key, value) :: rest).map fun member => (member.1, again member.2)), after) := by
  have first : value.ReadsAs depth (again value) := reads (key, value) List.mem_cons_self
  induction rest generalizing key value reversed fuel with
  | nil =>
    rw [List.length_append, List.length_cons, List.length_append] at enough
    obtain _ | fuel := fuel
    · cases enough
    have read := first fuel (writeMembers [] ++ after) (by omega) (halts_writeMembers _ _)
    rw [readMembers?, writeString_append]
    simp only [writeMembers, List.singleton_append] at read ⊢
    simp [skipSpace, isSpace, readString?_writeString, read]
  | cons next more ih =>
    obtain ⟨nextKey, nextValue⟩ := next
    have later : ∀ member ∈ (nextKey, nextValue) :: more,
        member.2.ReadsAs depth (again member.2) :=
      fun member found => reads member (List.mem_cons_of_mem _ found)
    rw [List.length_append, List.length_cons, List.length_append, writeMembers,
      List.length_cons] at enough
    obtain _ | fuel := fuel
    · cases enough
    have read := first fuel (writeMembers ((nextKey, nextValue) :: more) ++ after) (by omega)
      (halts_writeMembers _ _)
    have spare : (writeString nextKey ++ ':' :: (nextValue.write ++ writeMembers more)).length ≤
        fuel := by omega
    have others := ih later ((key, again value) :: reversed) spare
      (later (nextKey, nextValue) List.mem_cons_self)
    rw [readMembers?, writeString_append]
    simp only [writeMembers, List.cons_append, List.append_assoc] at read others ⊢
    simp [skipSpace, isSpace, readString?_writeString, read, others]

variable (again) in
theorem readsAs_array {items : List Value}
    (reads : ∀ item ∈ items, item.ReadsAs depth (again item)) :
    (Value.array items).ReadsAs (depth + 1) (.array (items.map again)) := by
  intro fuel rest enough halts
  cases items with
  | nil => rfl
  | cons item others =>
    obtain _ | fuel := fuel
    · cases enough
    obtain ⟨first, more, opened, solid, apart⟩ := item.write_cons
    have read := readItems?_written reads [] rest (Nat.le_of_succ_le_succ enough)
    rw [Value.write, List.cons_append, List.append_assoc]
    rw [opened, List.cons_append] at read ⊢
    rw [readValue?_array solid apart, read]
    rfl

variable (again) in
theorem readsAs_object {members : List (String × Value)}
    (reads : ∀ member ∈ members, member.2.ReadsAs depth (again member.2)) :
    (Value.object members).ReadsAs (depth + 1)
      (.object (members.map fun member => (member.1, again member.2))) := by
  intro fuel rest enough halts
  cases members with
  | nil => rfl
  | cons member others =>
    obtain ⟨key, value⟩ := member
    obtain _ | fuel := fuel
    · cases enough
    have read := readMembers?_written reads [] rest (Nat.le_of_succ_le_succ enough)
    rw [Value.write, List.cons_append, List.append_assoc, List.cons_append, List.append_assoc]
    rw [writeString_append] at read ⊢
    rw [readValue?_object, read]
    rfl

theorem readsAs_string (text : String) : (Value.string text).ReadsAs depth (.string text) := by
  intro fuel rest enough halts
  rw [Value.write, writeString_append, readValue?_quote, readString?_writeString]
  rfl

/-- A value that is written reads back before anything that may stand after it. -/
theorem Plain.reads (plain : Plain depth value) : value.ReadsAs depth value := by
  induction plain with
  | null => exact fun fuel rest enough halts => rfl
  | bool flag => cases flag <;> exact fun fuel rest enough halts => rfl
  | integer least greatest =>
    exact fun fuel rest enough halts => readValue?_integer least greatest fuel _ halts.ends
  | string text => exact readsAs_string text
  | @array depth items plain ih =>
    have read := readsAs_array id ih
    rwa [List.map_id] at read
  | @object depth members ordered plain ih =>
    have read := readsAs_object id ih
    rwa [show (fun member : String × Value => (member.1, id member.2)) = id from rfl,
      List.map_id] at read

theorem Plain.treeOfText?_write (plain : Plain greatestDepth value) :
    treeOfText? value.write = some value := by
  have read := plain.reads value.write.length [] (Nat.le_refl _) .nil
  rw [List.append_nil] at read
  rw [treeOfText?, read]
  rfl

/-- Canonical bytes of a value without floats read back as that value, and no other such value has
the same bytes. -/
theorem Plain.read?_canonical (plain : Plain greatestDepth value) :
    read? (canonical value) = some value ∧
      ∀ other, Plain greatestDepth other → canonical other = canonical value → other = value := by
  have reads {value : Value} (plain : Plain greatestDepth value) :
      read? (canonical value) = some value := by
    rw [read?, readTree?, canonical, plain.normal, Utf8.decode?_encode, Option.bind_some,
      plain.treeOfText?_write, Option.map_some, plain.normal]
  refine ⟨reads plain, fun other otherPlain same => ?_⟩
  have twice : some other = some value := by rw [← reads otherPlain, same, reads plain]
  exact Option.some.inj twice

/-- Every kind of value, the least integer and the greatest, and every kind of escape. -/
private def motley (text : String) : Value :=
  .object [("", .array [.null, .array [], .object [], .bool true]),
    ("\x08\x0c\n\x0d\t\x00\x1f", .int (-0x8000000000000000)), ("\"\\/", .int 0xFFFFFFFFFFFFFFFF),
    ("é\uFFFF", .object [("a", .bool false), ("😀", .string text)])]

private theorem plain_motley (text : String) : Plain greatestDepth (motley text) := by
  have outer : List.Pairwise (fun first second : String => first < second)
      ["", "\x08\x0c\n\x0d\t\x00\x1f", "\"\\/", "é\uFFFF"] := by decide
  have inner : List.Pairwise (fun first second : String => first < second) ["a", "😀"] := by decide
  refine .object (List.pairwise_map.mp outer) ?_
  simp only [List.forall_mem_cons, List.not_mem_nil, false_implies, implies_true, and_true]
  refine ⟨.array ?_, .integer (by decide) (by decide), .integer (by decide) (by decide),
    .object (List.pairwise_map.mp inner) ?_⟩
  · simp only [List.forall_mem_cons, List.not_mem_nil, false_implies, implies_true, and_true]
    exact ⟨.null, .array (List.forall_mem_nil _), .object .nil (List.forall_mem_nil _), .bool true⟩
  · simp only [List.forall_mem_cons, List.not_mem_nil, false_implies, implies_true, and_true]
    exact ⟨.bool false, .string text⟩

/-- A control character is told apart from the six characters that it is written with. -/
theorem Plain.read?_canonical_motley :
    read? (canonical (motley "\x01")) = some (motley "\x01") ∧
      canonical (motley "\\u0001") ≠ canonical (motley "\x01") := by
  obtain ⟨back, alone⟩ := Plain.read?_canonical (plain_motley "\x01")
  refine ⟨back, fun same => ?_⟩
  have equal := alone (motley "\\u0001") (plain_motley _) same
  simp [motley] at equal

end HookRelay.Json
