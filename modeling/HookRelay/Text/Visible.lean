import HookRelay.Text.Hex

namespace HookRelay.Text

def Visible (text : List Char) : Prop := ∀ char ∈ text, 0x20 ≤ char.toNat

instance (text : List Char) : Decidable (Visible text) :=
  List.decidableBAll (fun char : Char => 0x20 ≤ char.toNat) text

namespace Visible

variable {char : Char} {text other : List Char} {parts : List (List Char)}

theorem null_not_mem (visible : Visible text) : '\x00' ∉ text :=
  fun member => absurd (visible '\x00' member) (by decide)

@[simp] theorem nil : Visible [] := nofun

@[simp] theorem cons_iff : Visible (char :: text) ↔ 0x20 ≤ char.toNat ∧ Visible text :=
  List.forall_mem_cons

@[simp] theorem append_iff : Visible (text ++ other) ↔ Visible text ∧ Visible other :=
  List.forall_mem_append

theorem of_subset (visible : Visible text) (within : other ⊆ text) : Visible other :=
  fun char member => visible char (within member)

theorem flatMap {α : Type} {spell : α → List Char} {values : List α}
    (visible : ∀ value ∈ values, Visible (spell value)) : Visible (values.flatMap spell) := by
  intro char member
  obtain ⟨value, among, inside⟩ := List.mem_flatMap.mp member
  exact visible value among char inside

theorem flatten_intersperse_iff {separator : List Char} (visible : Visible separator) :
    Visible (parts.intersperse separator).flatten ↔ ∀ part ∈ parts, Visible part := by
  fun_induction List.intersperse separator parts with
  | case1 => simp
  | case2 part => simp
  | case3 part rest more ih => simp [ih, visible]

theorem splitOn_iff {separator : Char} (visible : 0x20 ≤ separator.toNat) :
    (∀ part ∈ text.splitOn separator, Visible part) ↔ Visible text := by
  have whole : ((text.splitOn separator).intersperse [separator]).flatten = text :=
    List.intercalate_splitOn separator
  rw [← flatten_intersperse_iff (show Visible [separator] by simp [visible]), whole]

theorem lowerAscii (visible : Visible text) : Visible (lowerAscii text) := by
  intro char member
  obtain ⟨upper, inside, rfl⟩ := List.mem_map.mp member
  have high := visible upper inside
  rw [Hex.toNat_toLower]
  split
  · omega
  · exact high

theorem digitChar (value : Nat) : 0x20 ≤ (Nat.digitChar value).toNat := by
  have digits : ∀ value < 16, 0x20 ≤ (Nat.digitChar value).toNat := by decide
  by_cases small : value < 16
  · exact digits value small
  · have other : Nat.digitChar value = '*' := by
      simp (disch := omega) only [Nat.digitChar, if_neg]
    rw [other]
    decide

theorem toDigits (base number : Nat) : Visible (Nat.toDigits base number) := by
  have core (fuel number : Nat) (digits : List Char) (visible : Visible digits) :
      Visible (Nat.toDigitsCore base fuel number digits) := by
    induction fuel generalizing number digits with
    | zero => exact visible
    | succ fuel ih =>
      have more := cons_iff.mpr ⟨digitChar (number % base), visible⟩
      rw [Nat.toDigitsCore]
      split
      · exact more
      · exact ih _ _ more
  exact core _ _ _ nil

theorem number {before after : String} (start : Visible before.toList)
    (finish : Visible after.toList) (value : Nat) :
    Visible (before ++ toString value ++ after).toList := by
  have digits : (toString value).toList = Nat.toDigits 10 value := String.toList_ofList
  rw [String.toList_append, String.toList_append, digits]
  exact append_iff.mpr ⟨append_iff.mpr ⟨start, toDigits 10 value⟩, finish⟩

end Visible

end HookRelay.Text
