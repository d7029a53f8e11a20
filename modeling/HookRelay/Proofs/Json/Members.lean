import HookRelay.Json.Reader

namespace HookRelay.Json

variable {key other : String} {value : Value} {member : String × Value}
  {members others : List (String × Value)}

/-- A member takes the place of those with its key and of no others, in whatever order they are. -/
theorem lookup?_insert (key other : String) (value : Value) (members : List (String × Value)) :
    lookup? other (insert key value members) =
      if other = key then some value else lookup? other members := by
  induction members with
  | nil => rfl
  | cons first rest ih =>
    obtain ⟨held, kept⟩ := first
    rw [insert]
    split
    · rfl
    · split
      · rename_i same
        subst same
        by_cases mine : other = key
        · simp [lookup?, mine]
        · simp [lookup?, mine]
      · rename_i apart
        by_cases mine : other = key
        · subst mine
          simp [lookup?, apart, ih]
        · simp [lookup?, mine, ih]

theorem mem_insert (found : member ∈ insert key value members) :
    member = (key, value) ∨ member ∈ members := by
  induction members with
  | nil => exact .inl (List.mem_singleton.mp found)
  | cons first rest ih =>
    obtain ⟨held, kept⟩ := first
    rw [insert] at found
    split at found
    · exact List.mem_cons.mp found
    · split at found
      · exact (List.mem_cons.mp found).imp_right (List.mem_cons_of_mem _)
      · rcases List.mem_cons.mp found with same | later
        · exact .inr (same ▸ List.mem_cons_self)
        · exact (ih later).imp_right (List.mem_cons_of_mem _)

/-- Keys in increasing order, none twice. -/
def Ordered (members : List (String × Value)) : Prop :=
  members.Pairwise fun first second => first.1 < second.1

theorem ordered_insert (ordered : Ordered members) (key : String) (value : Value) :
    Ordered (insert key value members) := by
  induction members with
  | nil => exact List.pairwise_singleton _ _
  | cons first rest ih =>
    obtain ⟨held, kept⟩ := first
    obtain ⟨above, later⟩ := List.pairwise_cons.mp ordered
    rw [insert]
    split
    · rename_i before
      refine List.pairwise_cons.mpr ⟨fun member found => ?_, ordered⟩
      rcases List.mem_cons.mp found with rfl | found
      · exact before
      · exact String.lt_trans before (above member found)
    · rename_i notBefore
      split
      · rename_i same
        subst same
        exact List.pairwise_cons.mpr ⟨above, later⟩
      · rename_i apart
        have after : held < key := String.not_le.mp fun back =>
          apart (String.le_antisymm back (String.not_lt.mp notBefore))
        refine List.pairwise_cons.mpr ⟨fun member found => ?_, ih later⟩
        rcases mem_insert found with rfl | found
        · exact after
        · exact above member found

private theorem insert_of_above (above : ∀ member ∈ members, member.1 < key) (value : Value) :
    insert key value members = members ++ [(key, value)] := by
  induction members with
  | nil => rfl
  | cons first rest ih =>
    obtain ⟨held, kept⟩ := first
    have after : held < key := above (held, kept) List.mem_cons_self
    have apart : key ≠ held := fun same => String.lt_irrefl key (same ▸ after)
    rw [insert, if_neg (String.lt_asymm after), if_neg apart,
      ih fun member found => above member (List.mem_cons_of_mem _ found)]
    rfl

private theorem foldl_insert_of_ordered (sorted rest : List (String × Value))
    (ordered : Ordered (sorted ++ rest)) :
    rest.foldl (fun sorted member => insert member.1 member.2 sorted) sorted = sorted ++ rest := by
  induction rest generalizing sorted with
  | nil => exact (List.append_nil sorted).symm
  | cons first rest ih =>
    have above : ∀ member ∈ sorted, member.1 < first.1 := fun member found =>
      (List.pairwise_append.mp ordered).2.2 member found first List.mem_cons_self
    have whole : sorted ++ first :: rest = sorted ++ [first] ++ rest := by simp
    rw [whole] at ordered
    rw [List.foldl_cons, insert_of_above above, ih _ ordered, whole]

theorem sortMembers_of_ordered (ordered : Ordered members) : sortMembers members = members :=
  foldl_insert_of_ordered [] members ordered

theorem ordered_foldl_insert (additions : List (String × Value)) (ordered : Ordered members) :
    Ordered (additions.foldl (fun members member => insert member.1 member.2 members) members) := by
  induction additions generalizing members with
  | nil => exact ordered
  | cons first rest ih => exact ih (ordered_insert ordered _ _)

theorem mem_foldl_insert {additions : List (String × Value)}
    (found : member ∈
      additions.foldl (fun members member => insert member.1 member.2 members) members) :
    member ∈ additions ∨ member ∈ members := by
  induction additions generalizing members with
  | nil => exact .inr found
  | cons first rest ih =>
    rcases ih found with late | early
    · exact .inl (List.mem_cons_of_mem _ late)
    · rcases mem_insert early with same | before
      · exact .inl (same ▸ List.mem_cons_self)
      · exact .inr before

theorem ordered_sortMembers (members : List (String × Value)) : Ordered (sortMembers members) :=
  ordered_foldl_insert members .nil

theorem mem_sortMembers (found : member ∈ sortMembers members) : member ∈ members :=
  (mem_foldl_insert found).resolve_right List.not_mem_nil

/-- Members in order are what look-ups find. -/
theorem mem_iff_lookup? (ordered : Ordered members) :
    (key, value) ∈ members ↔ lookup? key members = some value := by
  induction members with
  | nil => simp [lookup?]
  | cons first rest ih =>
    obtain ⟨held, kept⟩ := first
    obtain ⟨above, later⟩ := List.pairwise_cons.mp ordered
    by_cases same : key = held
    · subst same
      have absent : (key, value) ∉ rest := fun found =>
        String.lt_irrefl key (above (key, value) found)
      simp [lookup?, absent, eq_comm]
    · simp [lookup?, same, ih later]

theorem Ordered.ext (ordered : Ordered members) (sorted : Ordered others)
    (same : ∀ key, lookup? key members = lookup? key others) : members = others := by
  have distinct {members : List (String × Value)} (ordered : Ordered members) : members.Nodup := by
    refine List.Pairwise.imp ?_ ordered
    rintro first second before rfl
    exact String.lt_irrefl first.1 before
  have listed : ∀ member, member ∈ members ↔ member ∈ others := by
    rintro ⟨key, value⟩
    rw [mem_iff_lookup? ordered, mem_iff_lookup? sorted, same]
  refine List.Perm.eq_of_pairwise ?_ ordered sorted
    ((List.perm_ext_iff_of_nodup (distinct ordered) (distinct sorted)).mpr listed)
  exact fun _ _ _ _ before after => absurd after (String.lt_asymm before)

theorem lookup?_append (key : String) (members others : List (String × Value)) :
    lookup? key (members ++ others) = (lookup? key members).or (lookup? key others) := by
  induction members with
  | nil => rfl
  | cons first rest ih =>
    obtain ⟨held, kept⟩ := first
    by_cases mine : key = held
    · simp [lookup?, mine]
    · simp [lookup?, mine, ih]

theorem lookup?_map (key : String) (change : Value → Value) (members : List (String × Value)) :
    lookup? key (members.map fun member => (member.1, change member.2)) =
      (lookup? key members).map change := by
  induction members with
  | nil => rfl
  | cons first rest ih =>
    obtain ⟨held, kept⟩ := first
    by_cases mine : key = held
    · simp [lookup?, mine]
    · simp [lookup?, mine, ih]

theorem lookup?_foldl_insert (key : String) (additions members : List (String × Value)) :
    lookup? key (additions.foldl (fun members member => insert member.1 member.2 members) members) =
      (lookup? key additions.reverse).or (lookup? key members) := by
  induction additions generalizing members with
  | nil => rfl
  | cons first rest ih =>
    obtain ⟨held, kept⟩ := first
    rw [List.foldl_cons, ih, lookup?_insert, List.reverse_cons, lookup?_append, Option.or_assoc]
    congr 1
    by_cases mine : key = held
    · simp [lookup?, mine]
    · simp [lookup?, mine]

/-- The last of several members with one key counts. -/
theorem lookup?_sortMembers (key : String) (members : List (String × Value)) :
    lookup? key (sortMembers members) = lookup? key members.reverse := by
  rw [sortMembers, lookup?_foldl_insert]
  exact Option.or_none

theorem sortMembers_eq_iff :
    sortMembers members = sortMembers others ↔
      ∀ key, lookup? key members.reverse = lookup? key others.reverse := by
  constructor
  · intro same key
    rw [← lookup?_sortMembers, same, lookup?_sortMembers]
  · intro same
    refine (ordered_sortMembers _).ext (ordered_sortMembers _) fun key => ?_
    rw [lookup?_sortMembers, lookup?_sortMembers, same]

theorem lookup?_eq_none_iff : lookup? key members = none ↔ key ∉ members.map Prod.fst := by
  induction members with
  | nil => simp [lookup?]
  | cons first rest ih =>
    obtain ⟨held, kept⟩ := first
    by_cases mine : key = held
    · simp [lookup?, mine]
    · simp [lookup?, mine, ih]

theorem lookup?_reverse (distinct : (members.map Prod.fst).Nodup) (key : String) :
    lookup? key members.reverse = lookup? key members := by
  induction members with
  | nil => rfl
  | cons first rest ih =>
    obtain ⟨held, kept⟩ := first
    obtain ⟨absent, later⟩ := List.nodup_cons.mp distinct
    rw [List.reverse_cons, lookup?_append, ih later]
    by_cases mine : key = held
    · subst mine
      simp [lookup?, lookup?_eq_none_iff.mpr absent]
    · simp [lookup?, mine]

theorem normalItems_eq_map (items : List Value) : normalItems items = items.map Value.normal := by
  induction items with
  | nil => rfl
  | cons first rest ih => rw [normalItems, ih, List.map_cons]

theorem normalMembers_eq_map (members : List (String × Value)) :
    normalMembers members = members.map fun member => (member.1, member.2.normal) := by
  induction members with
  | nil => rfl
  | cons first rest ih =>
    obtain ⟨held, kept⟩ := first
    rw [normalMembers, ih]
    rfl

/-- Objects are one in normal form where members are found alike, the last with a key counting. -/
theorem normal_object_of_last (distinct : (members.map Prod.fst).Nodup)
    (last : ∀ key, lookup? key members = lookup? key others.reverse) :
    (Value.object others).normal = (Value.object members).normal := by
  rw [Value.normal, Value.normal, normalMembers_eq_map, normalMembers_eq_map]
  congr 1
  apply sortMembers_eq_iff.mpr
  intro key
  rw [← List.map_reverse, ← List.map_reverse, lookup?_map, lookup?_map, lookup?_reverse distinct,
    last]

/-- An object is in normal form when its keys are in order and its members are in normal form. -/
theorem normal_object_iff (members : List (String × Value)) :
    (Value.object members).normal = .object members ↔
      Ordered members ∧ ∀ member ∈ members, member.2.normal = member.2 := by
  rw [Value.normal, Value.object.injEq, normalMembers_eq_map]
  constructor
  · intro same
    have ordered : Ordered members := same ▸ ordered_sortMembers _
    refine ⟨ordered, fun member found => ?_⟩
    -- The member is the normal form of one with its key, and there is only one with that key.
    obtain ⟨source, held, made⟩ := List.mem_map.mp (mem_sortMembers (same.symm ▸ found))
    have key : source.1 = member.1 := by rw [← made]
    have twice : lookup? member.1 members = some source.2 :=
      (mem_iff_lookup? ordered).mp (key ▸ held)
    have once : lookup? member.1 members = some member.2 := (mem_iff_lookup? ordered).mp found
    have content : source.2 = member.2 := Option.some.inj (twice.symm.trans once)
    calc member.2.normal = source.2.normal := by rw [content]
      _ = member.2 := by rw [← made]
  · rintro ⟨ordered, normal⟩
    have still : members.map (fun member => (member.1, member.2.normal)) = members := by
      refine (List.map_congr_left fun member found => ?_).trans (List.map_id members)
      rw [normal member found]
      rfl
    rw [still, sortMembers_of_ordered ordered]

mutual
theorem normal_normal (value : Value) : value.normal.normal = value.normal := by
  match value with
  | .null => rfl
  | .bool value => rfl
  | .number value => rfl
  | .string value => rfl
  | .array items =>
    rw [Value.normal, Value.normal, normalItems_normalItems items]
  | .object members =>
    rw [Value.normal]
    exact (normal_object_iff _).mpr ⟨ordered_sortMembers _, fun member found =>
      normal_of_mem_normalMembers members member (mem_sortMembers found)⟩

theorem normalItems_normalItems (items : List Value) :
    normalItems (normalItems items) = normalItems items := by
  match items with
  | [] => rfl
  | item :: rest => rw [normalItems, normalItems, normal_normal item, normalItems_normalItems rest]

theorem normal_of_mem_normalMembers (members : List (String × Value)) (member : String × Value)
    (found : member ∈ normalMembers members) : member.2.normal = member.2 := by
  match members with
  | [] => cases found
  | (key, value) :: rest =>
    rcases List.mem_cons.mp found with rfl | later
    · exact normal_normal value
    · exact normal_of_mem_normalMembers rest member later
end

end HookRelay.Json
