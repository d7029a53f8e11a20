import HookRelay.Proofs.Json.RoundTrip

namespace HookRelay.Json

/-- A value that texts may be read as, with at most `depth` containers inside each other. -/
inductive Legible : Nat → Value → Prop where
  | null {depth : Nat} : Legible depth .null
  | bool {depth : Nat} (flag : Bool) : Legible depth (.bool flag)
  | integer {depth : Nat} {number : Int} (least : -0x8000000000000000 ≤ number)
      (greatest : number < 0x10000000000000000) : Legible depth (.int number)
  | float {depth : Nat} (number : Binary64) : Legible depth (.number (.float number))
  | string {depth : Nat} (text : String) : Legible depth (.string text)
  | array {depth : Nat} {items : List Value} (legible : ∀ item ∈ items, Legible depth item) :
      Legible (depth + 1) (.array items)
  | object {depth : Nat} {members : List (String × Value)} (ordered : Ordered members)
      (legible : ∀ member ∈ members, Legible depth member.2) : Legible (depth + 1) (.object members)

mutual
/-- The floats of a value, in the order in which they are written. -/
def Value.floats : Value → List Binary64
  | .number (.float number) => [number]
  | .array items => itemFloats items
  | .object members => memberFloats members
  | _ => []

def itemFloats : List Value → List Binary64
  | [] => []
  | item :: rest => item.floats ++ itemFloats rest

def memberFloats : List (String × Value) → List Binary64
  | [] => []
  | (_, value) :: rest => value.floats ++ memberFloats rest
end

mutual
/-- How many containers stand inside each other, the value itself included. -/
def Value.nesting : Value → Nat
  | .array items => itemNesting items + 1
  | .object members => memberNesting members + 1
  | _ => 0

def itemNesting : List Value → Nat
  | [] => 0
  | item :: rest => max item.nesting (itemNesting rest)

def memberNesting : List (String × Value) → Nat
  | [] => 0
  | (_, value) :: rest => max value.nesting (memberNesting rest)
end

variable {depth fuel : Nat} {value : Value}

theorem itemFloats_eq_flatMap (items : List Value) :
    itemFloats items = items.flatMap Value.floats := by
  induction items with
  | nil => rfl
  | cons item rest ih => rw [itemFloats, ih, List.flatMap_cons]

theorem memberFloats_eq_flatMap (members : List (String × Value)) :
    memberFloats members = members.flatMap fun member => member.2.floats := by
  induction members with
  | nil => rfl
  | cons member rest ih => rw [memberFloats, ih, List.flatMap_cons]

theorem nesting_le_of_mem_items {item : Value} {items : List Value} (member : item ∈ items) :
    item.nesting ≤ itemNesting items := by
  induction items with
  | nil => cases member
  | cons first rest ih =>
    rw [itemNesting]
    rcases List.mem_cons.mp member with rfl | later
    · exact Nat.le_max_left _ _
    · exact Nat.le_trans (ih later) (Nat.le_max_right _ _)

theorem nesting_le_of_mem_members {member : String × Value} {members : List (String × Value)}
    (found : member ∈ members) : member.2.nesting ≤ memberNesting members := by
  induction members with
  | nil => cases found
  | cons first rest ih =>
    rw [memberNesting]
    rcases List.mem_cons.mp found with rfl | later
    · exact Nat.le_max_left _ _
    · exact Nat.le_trans (ih later) (Nat.le_max_right _ _)

theorem Legible.normal (legible : Legible depth value) : value.normal = value := by
  induction legible with
  | null => rfl
  | bool flag => rfl
  | integer least greatest => rfl
  | float number => rfl
  | string text => rfl
  | array legible ih =>
    rw [Value.normal, normalItems_eq_map, List.map_congr_left ih, List.map_id']
  | object ordered legible ih => exact (normal_object_iff _).mpr ⟨ordered, ih⟩

theorem Legible.plain (legible : Legible depth value) (whole : value.floats = []) :
    Plain depth value := by
  induction legible with
  | null => exact .null
  | bool flag => exact .bool flag
  | integer least greatest => exact .integer least greatest
  | float number => cases whole
  | string text => exact .string text
  | array legible ih =>
    rw [Value.floats, itemFloats_eq_flatMap, List.flatMap_eq_nil_iff] at whole
    exact .array fun item member => ih item member (whole item member)
  | object ordered legible ih =>
    rw [Value.floats, memberFloats_eq_flatMap, List.flatMap_eq_nil_iff] at whole
    exact .object ordered fun member found => ih member found (whole member found)

/-- A value stands inside of as many other containers as its own leave room for. -/
theorem Legible.of_nesting_le {most : Nat} (legible : Legible depth value)
    (shallow : value.nesting ≤ most) : Legible most value := by
  induction legible generalizing most with
  | null => exact .null
  | bool flag => exact .bool flag
  | integer least greatest => exact .integer least greatest
  | float number => exact .float number
  | string text => exact .string text
  | array legible ih =>
    obtain _ | most := most
    · cases shallow
    refine .array fun item member => ih item member ?_
    exact Nat.le_trans (nesting_le_of_mem_items member) (Nat.le_of_succ_le_succ shallow)
  | object ordered legible ih =>
    obtain _ | most := most
    · cases shallow
    refine .object ordered fun member found => ih member found ?_
    exact Nat.le_trans (nesting_le_of_mem_members found) (Nat.le_of_succ_le_succ shallow)

/-! ### What is read -/

private theorem legible_number {number : Number} (range : number.InRange) :
    Legible depth (.number number) := by
  cases number with
  | integer number => exact .integer range.1 range.2
  | float number => exact .float number

private theorem legible_array {items : List Value}
    (legible : ∀ item ∈ items, Legible depth item.normal) :
    Legible (depth + 1) (Value.array items).normal := by
  rw [Value.normal, normalItems_eq_map]
  exact .array (List.forall_mem_map.mpr legible)

private theorem legible_object {members : List (String × Value)}
    (legible : ∀ member ∈ members, Legible depth member.2.normal) :
    Legible (depth + 1) (Value.object members).normal := by
  rw [Value.normal, normalMembers_eq_map]
  refine .object (ordered_sortMembers _) fun member found => ?_
  obtain ⟨held, listed, rfl⟩ := List.mem_map.mp (mem_sortMembers found)
  exact legible held listed

/-- What each of the three readers makes of a text with some fuel. -/
private structure Makes (fuel : Nat) : Prop where
  value : ∀ {depth text made rest}, readValue? fuel depth text = some (made, rest) →
    Legible depth made.normal
  items : ∀ {depth reversed text made rest}, (∀ item ∈ reversed, Legible depth item.normal) →
    readItems? fuel depth reversed text = some (made, rest) → Legible (depth + 1) made.normal
  members : ∀ {depth reversed text made rest},
    (∀ member ∈ reversed, Legible depth (Prod.snd member).normal) →
    readMembers? fuel depth reversed text = some (made, rest) → Legible (depth + 1) made.normal

private theorem Makes.step (makes : Makes fuel) : Makes (fuel + 1) where
  value {depth text made rest} found := by
    have number {negative : Bool} {text : List Char}
        (found : (readNumber? negative text).map (fun read => (Value.number read.1, read.2)) =
          some (made, rest)) : Legible depth made.normal := by
      obtain ⟨_, read, same⟩ := Option.map_eq_some_iff.mp found
      cases same
      exact legible_number (readNumber?_inRange read)
    have literal {value : Value} {left : Option (List Char)} (legible : Legible depth value.normal)
        (found : left.map (value, ·) = some (made, rest)) : Legible depth made.normal := by
      obtain ⟨_, _, same⟩ := Option.map_eq_some_iff.mp found
      cases same
      exact legible
    rw [readValue?] at found
    split at found
    · exact literal .null found
    · exact literal (.bool true) found
    · exact literal (.bool false) found
    · obtain ⟨_, _, same⟩ := Option.map_eq_some_iff.mp found
      cases same
      exact .string _
    · exact number found
    · split at found
      · cases found
      · split at found
        · cases found
          exact legible_array (List.forall_mem_nil _)
        · exact makes.items (List.forall_mem_nil _) found
    · split at found
      · cases found
      · split at found
        · cases found
          exact legible_object (List.forall_mem_nil _)
        · exact makes.members (List.forall_mem_nil _) found
    · exact number found
  items {depth reversed text made rest} before found := by
    rw [readItems?] at found
    split at found
    · cases found
    · rename_i item _ read
      have all : ∀ each ∈ item :: reversed, Legible depth each.normal :=
        List.forall_mem_cons.mpr ⟨makes.value read, before⟩
      split at found
      · exact makes.items all found
      · cases found
        exact legible_array fun each member => all each (List.mem_reverse.mp member)
      · cases found
  members {depth reversed text made rest} before found := by
    rw [readMembers?] at found
    split at found
    · split at found
      · cases found
      · rename_i key _ _
        split at found
        · split at found
          · cases found
          · rename_i value _ read
            have all : ∀ member ∈ (key, value) :: reversed, Legible depth member.2.normal :=
              List.forall_mem_cons.mpr ⟨makes.value read, before⟩
            split at found
            · exact makes.members all found
            · cases found
              exact legible_object fun each member => all each (List.mem_reverse.mp member)
            · cases found
        · cases found
    · cases found

private theorem makes (fuel : Nat) : Makes fuel := by
  induction fuel with
  | zero =>
    constructor
    · exact fun found => nomatch found
    · exact fun _ found => nomatch found
    · exact fun _ found => nomatch found
  | succ fuel ih => exact ih.step

/-- What bytes are read as is legible. -/
theorem legible_of_read? {bytes : Bytes} (found : read? bytes = some value) :
    Legible greatestDepth value := by
  obtain ⟨tree, read, rfl⟩ := Option.map_eq_some_iff.mp found
  obtain ⟨text, _, read⟩ := Option.bind_eq_some_iff.mp read
  rw [treeOfText?] at read
  split at read
  · rename_i made
    split at read
    · cases read
      exact (makes _).value made
    · cases read
  · cases read

end HookRelay.Json
