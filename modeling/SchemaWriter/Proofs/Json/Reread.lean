import Mathlib.Data.List.Nodup
import SchemaWriter.Proofs.Json.Depth
import SchemaWriter.Proofs.Json.Printed
import SchemaWriter.Proofs.Json.Sorted

namespace SchemaWriter.Json

def nesting (j : Json) : Nat :=
  j.toDraft.nesting

theorem nesting_lt_of_item {items : List Json} {item : Json} (h : item ∈ items) :
    item.nesting < (array items).nesting := by
  have hall := Draft.itemNesting_le_iff.mp (Nat.le_refl (Draft.itemNesting (itemDrafts items)))
  rw [itemDrafts_eq_map, List.forall_mem_map] at hall
  rw [← itemDrafts_eq_map] at hall
  exact Nat.lt_succ_of_le (hall item h)

theorem nesting_lt_of_member {members : List (String × Json)} {member : String × Json}
    (h : member ∈ members) : member.2.nesting < (object members).nesting := by
  have hall := Draft.memberNesting_le_iff.mp
    (Nat.le_refl (Draft.memberNesting (memberDrafts members)))
  rw [memberDrafts_eq_map, List.forall_mem_map] at hall
  rw [← memberDrafts_eq_map] at hall
  exact Nat.lt_succ_of_le (hall member h)

namespace Draft

theorem jsonItems?_itemDrafts {items : List Ordered} {depth : Nat}
    (h : ∀ item ∈ items, item.json.toDraft.json? depth = some item) :
    jsonItems? depth (itemDrafts (items.map Ordered.json)) = some items := by
  induction items with
  | nil => rw [List.map_nil, itemDrafts, jsonItems?]
  | cons item items ih =>
    obtain ⟨hitem, hitems⟩ := List.forall_mem_cons.mp h
    rw [List.map_cons, itemDrafts, jsonItems?, hitem, ih hitems]

theorem jsonMembers?_memberDrafts {members : List (String × Ordered)} {depth : Nat}
    (h : ∀ member ∈ members, member.2.json.toDraft.json? depth = some member.2) :
    jsonMembers? depth (memberDrafts (Ordered.plainMembers members)) = some members := by
  induction members with
  | nil => rw [Ordered.plainMembers, List.map_nil, memberDrafts, jsonMembers?]
  | cons member members ih =>
    obtain ⟨hmember, hmembers⟩ := List.forall_mem_cons.mp h
    have hrest := ih hmembers
    rw [Ordered.plainMembers] at hrest
    rw [Ordered.plainMembers, List.map_cons, memberDrafts, jsonMembers?, hmember, hrest]

theorem json?_of_exact {j : Json} (h : j.Exact) (hsorted : j.Sorted) {depth : Nat}
    (hdepth : j.nesting ≤ depth) : j.toDraft.json? depth = some ⟨j, hsorted⟩ := by
  induction h generalizing depth with
  | null | bool | string => rw [toDraft, json?]; try rfl
  | integer hmin hmax =>
    rw [toDraft, json?, Numeral.value?_ofInt hmin hmax, Option.map_some]
    rfl
  | array h ih =>
    obtain ⟨left, rfl, hleft⟩ := exists_of_succ_le hdepth
    have hread : jsonItems? left (itemDrafts (hsorted.items.map Ordered.json)) =
        some hsorted.items := by
      refine jsonItems?_itemDrafts fun item hitem => ?_
      have hmem := hsorted.mem_of_mem_items hitem
      exact ih item.json hmem item.sorted
        (Nat.le_of_lt_succ ((nesting_lt_of_item hmem).trans_le hdepth))
    rw [hsorted.map_items] at hread
    rw [toDraft, json?, hread, Option.map_some, hsorted.array_items]
  | object h ih =>
    obtain ⟨left, rfl, hleft⟩ := exists_of_succ_le hdepth
    have hread : jsonMembers? left (memberDrafts (Ordered.plainMembers hsorted.members)) =
        some hsorted.members := by
      refine jsonMembers?_memberDrafts fun member hmember => ?_
      have hmem := hsorted.mem_of_mem_members hmember
      exact ih _ hmem member.2.sorted
        (Nat.le_of_lt_succ ((nesting_lt_of_member hmem).trans_le hdepth))
    rw [hsorted.plainMembers_members] at hread
    rw [toDraft, json?, hread, Option.map_some, hsorted.object_members]

theorem json?_toDraft {value : Ordered} (h : value.json.Exact) {depth : Nat}
    (hdepth : value.json.nesting ≤ depth) : value.json.toDraft.json? depth = some value :=
  json?_of_exact h value.sorted hdepth

end Draft

def Decoder.Reads {α : Type} (decoder : Decoder α) (j : Json) (value : α) : Prop :=
  ∀ depth, j.nesting ≤ depth → decoder depth j.toDraft = .ok value

namespace Decoder

theorem string_reads (s : String) : string.Reads (.string s) s := by
  intro depth _
  rw [toDraft, string]

theorem bool_reads (b : Bool) : bool.Reads (.bool b) b := by
  intro depth _
  rw [toDraft, bool]

variable {α β : Type}

theorem variant_reads {known : List (String × α)} {name : String} {value : α}
    (h : known.lookup name = some value) : (variant known).Reads (.string name) value := by
  intro depth _
  rw [toDraft, variant]
  simp only [h]

theorem option_reads_null (decoder : Decoder α) : (option decoder).Reads .null none := by
  intro depth _
  rw [toDraft, option]

theorem option_reads {decoder : Decoder α} {j : Json} {value : α} (hnull : j.toDraft ≠ .null)
    (h : decoder.Reads j value) : (option decoder).Reads j (some value) := by
  intro depth hdepth
  rw [option, h depth hdepth]
  · rfl
  · exact hnull

theorem items_itemDrafts {decoder : Decoder β} {write : α → Json} {value : α → β} {depth : Nat}
    {xs : List α} (h : ∀ x ∈ xs, decoder depth (write x).toDraft = .ok (value x)) :
    items decoder depth (itemDrafts (xs.map write)) = .ok (xs.map value) := by
  induction xs with
  | nil => rfl
  | cons x xs ih =>
    obtain ⟨hx, hxs⟩ := List.forall_mem_cons.mp h
    rw [List.map_cons, itemDrafts, items, hx, ih hxs]
    rfl

theorem list_reads {decoder : Decoder β} {write : α → Json} {value : α → β} {xs : List α}
    (h : ∀ x ∈ xs, decoder.Reads (write x) (value x)) :
    (list decoder).Reads (.array (xs.map write)) (xs.map value) := by
  intro depth hdepth
  obtain ⟨left, rfl, -⟩ := Draft.exists_of_succ_le hdepth
  rw [toDraft, list]
  refine items_itemDrafts fun x hmem => h x hmem left ?_
  exact Nat.le_of_lt_succ ((nesting_lt_of_item (List.mem_map_of_mem hmem)).trans_le hdepth)

theorem pairs_memberDrafts {decoder : Decoder α} {write : α → Json} {depth : Nat}
    {members : List (String × α)}
    (h : ∀ member ∈ members, decoder depth (write member.2).toDraft = .ok member.2) :
    pairs decoder depth (memberDrafts (members.map fun (key, value) => (key, write value))) =
      .ok members := by
  induction members with
  | nil => rfl
  | cons member members ih =>
    obtain ⟨hmember, hmembers⟩ := List.forall_mem_cons.mp h
    rw [List.map_cons, memberDrafts, pairs, hmember, ih hmembers]
    rfl

theorem dictionary_reads {decoder : Decoder α} {write : α → Json} {members : List (String × α)}
    (h : ∀ member ∈ members, decoder.Reads (write member.2) member.2) :
    (dictionary decoder).Reads (.object (members.map fun (key, value) => (key, write value)))
      (sortByKey members) := by
  intro depth hdepth
  obtain ⟨left, rfl, -⟩ := Draft.exists_of_succ_le hdepth
  have hread := pairs_memberDrafts fun member hmem => h member hmem left
    (Nat.le_of_lt_succ ((nesting_lt_of_member (List.mem_map_of_mem hmem)).trans_le hdepth))
  rw [toDraft, dictionary, hread]
  rfl

end Decoder

def Slot.Reads {α : Type} (slot : Slot α) (j : Json) (record changed : α) : Prop :=
  ∀ depth, j.nesting ≤ depth → slot.read depth j.toDraft record = .ok changed

theorem Slot.of_reads {α β : Type} {key : String} {presence : Presence} {decoder : Decoder β}
    {put : β → α → α} {j : Json} {value : β} {record : α} (h : decoder.Reads j value) :
    (Slot.of key presence decoder put).Reads j record (put value record) := by
  intro depth hdepth
  simp only [Slot.of, h depth hdepth]
  rfl

inductive Slot.ReadEach {α : Type} : List (Slot α) → List Json → α → α → Prop where
  | nil (record : α) : ReadEach [] [] record record
  | cons {slot : Slot α} {j : Json} {slots : List (Slot α)} {values : List Json}
      {record changed result : α} (h : slot.Reads j record changed)
      (hrest : ReadEach slots values changed result) :
    ReadEach (slot :: slots) (j :: values) record result

theorem Slot.ReadEach.length_eq {α : Type} {slots : List (Slot α)} {values : List Json}
    {record result : α} (h : ReadEach slots values record result) :
    slots.length = values.length := by
  induction h with
  | nil record => rfl
  | cons h hrest ih => rw [List.length_cons, List.length_cons, ih]

namespace Record

variable {α : Type}

theorem find?_slot {r : Record α} (h : r.keys.Nodup) {slot : Slot α} (hslot : slot ∈ r.slots) :
    (r.slots.find? fun other => other.key = slot.key) = some slot := by
  obtain ⟨found, hfound⟩ :
      ∃ found, (r.slots.find? fun other => other.key = slot.key) = some found :=
    Option.isSome_iff_exists.mp (List.find?_isSome.mpr ⟨slot, hslot, decide_eq_true rfl⟩)
  have hkey : found.key = slot.key := by simpa using List.find?_some hfound
  rw [hfound, List.inj_on_of_nodup_map h (List.mem_of_find?_eq_some hfound) hslot hkey]

theorem readMembers_slot {r : Record α} {slot : Slot α} {key : String}
    (hslot : (r.slots.find? fun other => other.key = key) = some slot) {seen : List String}
    (hnew : key ∉ seen) (depth : Nat) (record : α) (draft : Draft) (rest : List (Draft × Draft)) :
    r.readMembers depth seen record ((.string (some key), draft) :: rest) =
      slot.read depth draft record >>= fun record =>
        r.readMembers depth (key :: seen) record rest := by
  have hcontains : seen.contains key = false := by simpa using hnew
  rw [readMembers, hslot]
  simp only [hcontains]
  rfl

theorem missing?_eq_none {r : Record α} {seen : List String}
    (h : ∀ slot ∈ r.slots, slot.key ∈ seen) : r.missing? seen = none := by
  have hnone : (r.slots.find? fun slot => slot.presence = .required && !seen.contains slot.key) =
      none := by
    refine List.find?_eq_none.mpr fun slot hmem => ?_
    simp [h slot hmem]
  rw [missing?, hnone, Option.map_none]

theorem readMembers_memberDrafts {r : Record α} (h : r.keys.Nodup) {depth : Nat}
    {before slots : List (Slot α)} (hslots : r.slots = before ++ slots) {values : List Json}
    {record result : α} (hread : Slot.ReadEach slots values record result)
    (hdepth : ∀ value ∈ values, value.nesting ≤ depth) {seen : List String}
    (hseen : ∀ key, key ∈ seen ↔ key ∈ before.map (·.key)) :
    r.readMembers depth seen record (memberDrafts ((slots.map (·.key)).zip values)) =
      .ok result := by
  induction hread generalizing before seen with
  | nil record =>
    rw [List.append_nil] at hslots
    have hmissing : r.missing? seen = none := missing?_eq_none fun slot hmem =>
      (hseen slot.key).mpr (List.mem_map_of_mem (hslots ▸ hmem))
    rw [List.map_nil, List.zip_nil_left, memberDrafts, readMembers, hmissing]
  | @cons slot j slots values record changed result hslot hrest ih =>
    obtain ⟨hj, hvalues⟩ := List.forall_mem_cons.mp hdepth
    have hmem : slot ∈ r.slots := by simp [hslots]
    have hafter : r.slots = (before ++ [slot]) ++ slots := by simp [hslots]
    have hnew : slot.key ∉ seen := by
      rw [keys, hslots, List.map_append, List.map_cons] at h
      rw [hseen]
      exact fun hmem => (List.nodup_append.mp h).2.2 _ hmem _ List.mem_cons_self rfl
    have hothers : r.readMembers depth (slot.key :: seen) changed
        (memberDrafts ((slots.map (·.key)).zip values)) = .ok result := by
      refine ih hafter hvalues fun key => ?_
      simp [hseen, or_comm]
    rw [List.map_cons, List.zip_cons_cons, memberDrafts,
      readMembers_slot (find?_slot h hmem) hnew, hslot depth hj]
    exact hothers

theorem decoder_reads {r : Record α} (h : r.keys.Nodup) {values : List Json} {result : α}
    (hread : Slot.ReadEach r.slots values r.start result) :
    r.decoder.Reads (.object (r.keys.zip values)) result := by
  intro depth hdepth
  obtain ⟨left, rfl, -⟩ := Draft.exists_of_succ_le hdepth
  have hlength : r.keys.length = values.length := by rw [keys, List.length_map, hread.length_eq]
  have hvalues : ∀ value ∈ values, value.nesting ≤ left := by
    intro value hmem
    rw [← List.map_snd_zip hlength.symm.le] at hmem
    obtain ⟨member, hmember, rfl⟩ := List.mem_map.mp hmem
    exact Nat.le_of_lt_succ ((nesting_lt_of_member hmember).trans_le hdepth)
  rw [toDraft, decoder]
  exact readMembers_memberDrafts h (List.nil_append _).symm hread hvalues fun key => Iff.rfl

end Record

end SchemaWriter.Json
