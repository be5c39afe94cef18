import SchemaWriter.Binary64

namespace SchemaWriter

inductive Json.Number where
  | integer (value : Int)
  | float (value : Binary64)
  deriving DecidableEq, Repr

inductive Json where
  | null
  | bool (value : Bool)
  | number (value : Json.Number)
  | string (value : String)
  | array (items : List Json)
  | object (members : List (String × Json))
  deriving Repr

def insertSorted {α : Type} (key : String) (value : α) : List (String × α) → List (String × α)
  | [] => [(key, value)]
  | (k, v) :: rest =>
    if key < k then (key, value) :: (k, v) :: rest
    else if key = k then (key, value) :: rest
    else (k, v) :: insertSorted key value rest

def sortByKey {α : Type} (pairs : List (String × α)) : List (String × α) :=
  pairs.foldl (fun sorted (key, value) => insertSorted key value sorted) []

section

variable {α : Type}

theorem mem_insertSorted {key : String} {value : α} {pairs : List (String × α)}
    {pair : String × α} (h : pair ∈ insertSorted key value pairs) :
    pair = (key, value) ∨ pair ∈ pairs := by
  induction pairs with
  | nil => exact .inl (List.mem_singleton.mp h)
  | cons first rest ih =>
    obtain ⟨k, v⟩ := first
    unfold insertSorted at h
    split at h
    · exact List.mem_cons.mp h
    split at h
    · exact (List.mem_cons.mp h).imp_right (List.mem_cons_of_mem _)
    · rcases List.mem_cons.mp h with h | h
      · exact .inr (h ▸ List.mem_cons_self)
      · exact (ih h).imp_right (List.mem_cons_of_mem _)

theorem pairwise_insertSorted {pairs : List (String × α)} (h : pairs.Pairwise (·.1 < ·.1))
    (key : String) (value : α) : (insertSorted key value pairs).Pairwise (·.1 < ·.1) := by
  induction pairs with
  | nil => exact List.pairwise_singleton _ _
  | cons first rest ih =>
    obtain ⟨k, v⟩ := first
    obtain ⟨hfirst, hrest⟩ := List.pairwise_cons.mp h
    unfold insertSorted
    split
    case isTrue hlt =>
      refine List.pairwise_cons.mpr ⟨fun pair hpair => ?_, h⟩
      rcases List.mem_cons.mp hpair with rfl | hpair
      · exact hlt
      · exact String.lt_trans hlt (hfirst pair hpair)
    case isFalse hle =>
      split
      case isTrue heq => exact List.pairwise_cons.mpr ⟨heq ▸ hfirst, hrest⟩
      case isFalse hne =>
        have hlt : k < key := Decidable.byContradiction fun hnot =>
          hne (String.le_antisymm (String.not_lt.mp hnot) (String.not_lt.mp hle))
        refine List.pairwise_cons.mpr ⟨fun pair hpair => ?_, ih hrest⟩
        rcases mem_insertSorted hpair with rfl | hpair
        · exact hlt
        · exact hfirst pair hpair

theorem mem_sortByKey {pairs : List (String × α)} {pair : String × α}
    (h : pair ∈ sortByKey pairs) : pair ∈ pairs := by
  suffices hall : ∀ sorted, pair ∈ pairs.foldl
      (fun sorted pair => insertSorted pair.1 pair.2 sorted) sorted →
      pair ∈ sorted ∨ pair ∈ pairs by
    exact (hall [] h).resolve_left List.not_mem_nil
  clear h
  induction pairs with
  | nil => exact fun sorted => .inl
  | cons first rest ih =>
    intro sorted h
    rcases ih _ h with h | h
    · rcases mem_insertSorted h with h | h
      · exact .inr (h ▸ List.mem_cons_self)
      · exact .inl h
    · exact .inr (List.mem_cons_of_mem _ h)

theorem pairwise_sortByKey (pairs : List (String × α)) :
    (sortByKey pairs).Pairwise (·.1 < ·.1) := by
  suffices hall : ∀ sorted : List (String × α), sorted.Pairwise (·.1 < ·.1) →
      (pairs.foldl (fun sorted pair => insertSorted pair.1 pair.2 sorted) sorted).Pairwise
        (·.1 < ·.1) by
    exact hall [] List.Pairwise.nil
  induction pairs with
  | nil => exact fun sorted h => h
  | cons pair rest ih => exact fun sorted h => ih _ (pairwise_insertSorted h pair.1 pair.2)

end

namespace Json

-- The members of every object stand in the order of their keys, each key once.
inductive Sorted : Json → Prop where
  | null : Sorted .null
  | bool (b : Bool) : Sorted (.bool b)
  | number (n : Number) : Sorted (.number n)
  | string (s : String) : Sorted (.string s)
  | array {items : List Json} (h : ∀ item ∈ items, Sorted item) : Sorted (.array items)
  | object {members : List (String × Json)} (hkeys : members.Pairwise (·.1 < ·.1))
      (h : ∀ member ∈ members, Sorted member.2) : Sorted (.object members)

@[ext]
structure Ordered where
  json : Json
  sorted : json.Sorted
  deriving Repr

namespace Ordered

def null : Ordered :=
  ⟨.null, .null⟩

def bool (b : Bool) : Ordered :=
  ⟨.bool b, .bool b⟩

def number (n : Number) : Ordered :=
  ⟨.number n, .number n⟩

def string (s : String) : Ordered :=
  ⟨.string s, .string s⟩

def array (items : List Ordered) : Ordered where
  json := .array (items.map json)
  sorted := .array (List.forall_mem_map.mpr fun item _ => item.sorted)

def plainMembers (members : List (String × Ordered)) : List (String × Json) :=
  members.map fun member => (member.1, member.2.json)

def object (members : List (String × Ordered)) : Ordered where
  json := .object (sortByKey (plainMembers members))
  sorted := .object (pairwise_sortByKey _) fun _ h => by
    obtain ⟨member, -, rfl⟩ := List.mem_map.mp (mem_sortByKey h)
    exact member.2.sorted

@[simp]
theorem json_number (n : Number) : (number n).json = .number n :=
  rfl

@[simp]
theorem json_string (s : String) : (string s).json = .string s :=
  rfl

@[simp]
theorem json_array (items : List Ordered) : (array items).json = .array (items.map json) :=
  rfl

@[simp]
theorem map_json_map_string (strings : List String) :
    (strings.map string).map json = strings.map .string := by
  rw [List.map_map]
  rfl

@[simp]
theorem json_object (members : List (String × Ordered)) :
    (object members).json = .object (sortByKey (plainMembers members)) :=
  rfl

end Ordered

namespace Sorted

theorem of_item {items : List Json} (h : Sorted (.array items)) : ∀ item ∈ items, item.Sorted := by
  cases h with
  | array h => exact h

theorem of_member {members : List (String × Json)} (h : Sorted (.object members)) :
    ∀ member ∈ members, member.2.Sorted := by
  cases h with
  | object _ h => exact h

def items {items : List Json} (h : Sorted (.array items)) : List Ordered :=
  items.pmap Ordered.mk h.of_item

def members {members : List (String × Json)} (h : Sorted (.object members)) :
    List (String × Ordered) :=
  members.pmap (fun member hsorted => (member.1, ⟨member.2, hsorted⟩)) h.of_member

end Sorted

end Json

end SchemaWriter
