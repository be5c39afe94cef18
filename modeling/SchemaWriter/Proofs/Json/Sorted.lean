import SchemaWriter.Json.Basic
import SchemaWriter.Proofs.Lists

namespace SchemaWriter

section

variable {α : Type}

theorem lookup_insertSorted (key other : String) (value : α) (pairs : List (String × α)) :
    (insertSorted key value pairs).lookup other =
      if other = key then some value else pairs.lookup other := by
  induction pairs with
  | nil => rw [insertSorted, lookup_cons_eq_ite]
  | cons pair rest ih =>
    obtain ⟨k, v⟩ := pair
    unfold insertSorted
    split
    · rw [lookup_cons_eq_ite]
    split
    case isTrue heq =>
      subst heq
      rw [lookup_cons_eq_ite, lookup_cons_eq_ite]
      split <;> rfl
    case isFalse hne =>
      rw [lookup_cons_eq_ite, lookup_cons_eq_ite, ih]
      by_cases hother : other = key
      · subst hother
        simp [hne]
      · simp [hother]

theorem lookup_sortByKey {pairs : List (String × α)} (h : (pairs.map (·.1)).Nodup) (key : String) :
    (sortByKey pairs).lookup key = pairs.lookup key := by
  suffices hall : ∀ sorted, (pairs.foldl (fun sorted pair => insertSorted pair.1 pair.2 sorted)
      sorted).lookup key = (pairs.lookup key).or (sorted.lookup key) by
    exact (hall []).trans Option.or_none
  induction pairs with
  | nil => exact fun sorted => Option.none_or.symm
  | cons pair rest ih =>
    intro sorted
    obtain ⟨hpair, hrest⟩ := List.nodup_cons.mp h
    rw [List.foldl_cons, ih hrest, lookup_insertSorted, lookup_cons_eq_ite]
    by_cases hkey : key = pair.1
    · subst hkey
      have hnone : rest.lookup pair.1 = none := by
        refine List.lookup_eq_none_iff.mpr fun other hmem => bne_iff_ne.mpr fun heq => ?_
        exact hpair (List.mem_map.mpr ⟨other, hmem, heq.symm⟩)
      rw [if_pos rfl, if_pos rfl, hnone]
      rfl
    · rw [if_neg hkey, if_neg hkey]

theorem insertSorted_of_lt {key : String} {pairs : List (String × α)}
    (h : ∀ pair ∈ pairs, pair.1 < key) (value : α) :
    insertSorted key value pairs = pairs ++ [(key, value)] := by
  induction pairs with
  | nil => rfl
  | cons pair rest ih =>
    obtain ⟨hpair, hrest⟩ := List.forall_mem_cons.mp h
    have hnot : ¬ key < pair.1 := String.lt_asymm hpair
    have hne : key ≠ pair.1 := fun heq => String.lt_irrefl key (heq ▸ hpair)
    rw [insertSorted, if_neg hnot, if_neg hne, ih hrest, List.cons_append]

theorem sortByKey_eq_self {pairs : List (String × α)} (h : pairs.Pairwise (·.1 < ·.1)) :
    sortByKey pairs = pairs := by
  suffices hall : ∀ sorted, (sorted ++ pairs).Pairwise (·.1 < ·.1) →
      pairs.foldl (fun sorted pair => insertSorted pair.1 pair.2 sorted) sorted =
        sorted ++ pairs by
    exact hall [] h
  clear h
  induction pairs with
  | nil => exact fun sorted _ => (List.append_nil sorted).symm
  | cons pair rest ih =>
    intro sorted h
    obtain ⟨key, value⟩ := pair
    have hbefore : ∀ other ∈ sorted, other.1 < key :=
      fun other hmem => (List.pairwise_append.mp h).2.2 other hmem _ List.mem_cons_self
    rw [List.append_cons] at h
    rw [List.foldl_cons, insertSorted_of_lt hbefore, ih _ h, ← List.append_cons]

end

namespace Json

theorem Sorted.keys {members : List (String × Json)} (h : Sorted (.object members)) :
    members.Pairwise (·.1 < ·.1) := by
  cases h with
  | object hkeys _ => exact hkeys

theorem Ordered.lookup_plainMembers (members : List (String × Ordered)) (key : String) :
    (plainMembers members).lookup key = (members.lookup key).map json := by
  rw [plainMembers]
  induction members with
  | nil => rfl
  | cons member members ih =>
    rw [List.map_cons, lookup_cons_eq_ite, lookup_cons_eq_ite, ih, apply_ite (Option.map json)]
    rfl

theorem Ordered.map_plainMembers (members : List (String × Ordered)) :
    (plainMembers members).map (·.1) = members.map (·.1) := by
  simp [plainMembers]

theorem Sorted.map_items {items : List Json} (h : Sorted (.array items)) :
    h.items.map Ordered.json = items := by
  simp [Sorted.items, List.map_pmap]

theorem Ordered.items_array (items : List Ordered) : Sorted.items (array items).sorted = items :=
  (List.map_inj_right fun _ _ => Ordered.ext).mp (Sorted.map_items (array items).sorted)

theorem Sorted.mem_of_mem_items {items : List Json} (h : Sorted (.array items)) {item : Ordered}
    (hitem : item ∈ h.items) : item.json ∈ items :=
  h.map_items ▸ List.mem_map_of_mem hitem

theorem Sorted.array_items {items : List Json} (h : Sorted (.array items)) :
    Ordered.array h.items = ⟨.array items, h⟩ := by
  ext
  rw [Ordered.json_array, h.map_items]

theorem Sorted.plainMembers_members {members : List (String × Json)}
    (h : Sorted (.object members)) : Ordered.plainMembers h.members = members := by
  simp [Ordered.plainMembers, Sorted.members, List.map_pmap]

theorem Sorted.mem_of_mem_members {members : List (String × Json)} (h : Sorted (.object members))
    {member : String × Ordered} (hmember : member ∈ h.members) :
    (member.1, member.2.json) ∈ members :=
  h.plainMembers_members ▸ List.mem_map_of_mem hmember

theorem Sorted.object_members {members : List (String × Json)} (h : Sorted (.object members)) :
    Ordered.object h.members = ⟨.object members, h⟩ := by
  ext
  rw [Ordered.json_object, h.plainMembers_members, sortByKey_eq_self h.keys]

end Json

end SchemaWriter
