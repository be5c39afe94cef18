import SchemaWriter.Json.Record
import SchemaWriter.Proofs.Json.Spelling

namespace SchemaWriter.Json

namespace Draft

mutual

def nesting : Draft → Nat
  | .array items => itemNesting items + 1
  | .object members => memberNesting members + 1
  | _ => 0

def itemNesting : List Draft → Nat
  | [] => 0
  | item :: items => max item.nesting (itemNesting items)

def memberNesting : List (Draft × Draft) → Nat
  | [] => 0
  | (_, value) :: members => max value.nesting (memberNesting members)

end

theorem itemNesting_le_iff {items : List Draft} {limit : Nat} :
    itemNesting items ≤ limit ↔ ∀ item ∈ items, item.nesting ≤ limit := by
  induction items with
  | nil => simp [itemNesting]
  | cons item items ih => rw [itemNesting, Nat.max_le, ih, List.forall_mem_cons]

theorem memberNesting_le_iff {members : List (Draft × Draft)} {limit : Nat} :
    memberNesting members ≤ limit ↔ ∀ member ∈ members, member.2.nesting ≤ limit := by
  induction members with
  | nil => simp [memberNesting]
  | cons member members ih => rw [memberNesting, Nat.max_le, ih, List.forall_mem_cons]

theorem exists_of_succ_le {n depth : Nat} (h : n + 1 ≤ depth) :
    ∃ left, depth = left + 1 ∧ n ≤ left :=
  ⟨depth - 1, by omega, by omega⟩

mutual

theorem json?_succ {depth : Nat} : (d : Draft) → d.nesting ≤ depth →
    d.json? (depth + 1) = d.json? depth
  | .cut, _ | .null, _ | .bool _, _ | .number _, _ | .string _, _ => by simp only [json?]
  | .array items, h => by
    obtain ⟨left, rfl, hleft⟩ := exists_of_succ_le h
    rw [json?, json?, jsonItems?_succ items hleft]
  | .object members, h => by
    obtain ⟨left, rfl, hleft⟩ := exists_of_succ_le h
    rw [json?, json?, jsonMembers?_succ members hleft]

theorem jsonItems?_succ {depth : Nat} : (items : List Draft) → itemNesting items ≤ depth →
    jsonItems? (depth + 1) items = jsonItems? depth items
  | [], _ => by simp only [jsonItems?]
  | item :: items, h => by
    obtain ⟨hitem, hitems⟩ := Nat.max_le.mp h
    rw [jsonItems?, jsonItems?, json?_succ item hitem, jsonItems?_succ items hitems]

theorem jsonMembers?_succ {depth : Nat} : (members : List (Draft × Draft)) →
    memberNesting members ≤ depth → jsonMembers? (depth + 1) members = jsonMembers? depth members
  | [], _ => by simp only [jsonMembers?]
  | (key, value) :: members, h => by
    obtain ⟨hvalue, hmembers⟩ := Nat.max_le.mp h
    cases key with
    | string s =>
      cases s with
      | none => simp only [jsonMembers?]
      | some s =>
        rw [jsonMembers?, jsonMembers?, json?_succ value hvalue, jsonMembers?_succ members hmembers]
    | _ => simp only [jsonMembers?]

end

theorem json?_eq_of_le {d : Draft} {depth : Nat} (h : d.nesting ≤ depth) :
    d.json? depth = d.json? d.nesting := by
  induction depth, h using Nat.le_induction with
  | base => rfl
  | succ depth h ih => rw [json?_succ d h, ih]

mutual

theorem nesting_le_of_json? {depth : Nat} {value : Ordered} :
    (d : Draft) → d.json? depth = some value → d.nesting ≤ depth
  | .cut, _ | .null, _ | .bool _, _ | .number _, _ | .string _, _ => Nat.zero_le depth
  | .array items, h => by
    cases depth with
    | zero => simp [json?] at h
    | succ depth =>
      rw [json?, Option.map_eq_some_iff] at h
      obtain ⟨values, hvalues, -⟩ := h
      exact Nat.succ_le_succ (itemNesting_le_of_jsonItems? items hvalues)
  | .object members, h => by
    cases depth with
    | zero => simp [json?] at h
    | succ depth =>
      rw [json?, Option.map_eq_some_iff] at h
      obtain ⟨values, hvalues, -⟩ := h
      exact Nat.succ_le_succ (memberNesting_le_of_jsonMembers? members hvalues)

theorem itemNesting_le_of_jsonItems? {depth : Nat} {values : List Ordered} :
    (items : List Draft) → jsonItems? depth items = some values → itemNesting items ≤ depth
  | [], _ => Nat.zero_le depth
  | item :: items, h => by
    rw [jsonItems?] at h
    split at h
    · rename_i hitem hitems
      exact Nat.max_le.mpr
        ⟨nesting_le_of_json? item hitem, itemNesting_le_of_jsonItems? items hitems⟩
    · cases h

theorem memberNesting_le_of_jsonMembers? {depth : Nat} {values : List (String × Ordered)} :
    (members : List (Draft × Draft)) → jsonMembers? depth members = some values →
      memberNesting members ≤ depth
  | [], _ => Nat.zero_le depth
  | (key, value) :: members, h => by
    unfold jsonMembers? at h
    split at h
    · contradiction
    · rename_i heq
      obtain ⟨hmember, rfl⟩ := List.cons.inj heq
      obtain ⟨-, rfl⟩ := Prod.mk.inj hmember
      split at h
      · rename_i hvalue hmembers
        exact Nat.max_le.mpr ⟨nesting_le_of_json? value hvalue,
          memberNesting_le_of_jsonMembers? members hmembers⟩
      · cases h
    · cases h

end

end Draft

def NestsWithin (text : String) (limit : Nat) : Prop :=
  ∃ d, Spells text d ∧ d.nesting ≤ limit

def Decoder.Unlimited {α : Type} (decoder : Decoder α) : Prop :=
  ∀ depth draft, draft.nesting ≤ depth → decoder (depth + 1) draft = decoder depth draft

namespace Decoder

variable {α : Type} {decoder : Decoder α}

@[simp]
theorem json_unlimited : json.Unlimited := by
  intro depth draft h
  rw [json, json, Draft.json?_succ draft h]

@[simp]
theorem string_unlimited : string.Unlimited := by
  intro depth draft _
  cases draft with
  | string s => cases s <;> rfl
  | _ => rfl

@[simp]
theorem bool_unlimited : bool.Unlimited := by
  intro depth draft _
  cases draft <;> rfl

@[simp]
theorem option_unlimited (h : decoder.Unlimited) : (option decoder).Unlimited := by
  intro depth draft hdraft
  cases draft with
  | null => rfl
  | _ => simp only [option, h depth _ hdraft]

theorem items_succ (h : decoder.Unlimited) {depth : Nat} {drafts : List Draft}
    (hdrafts : Draft.itemNesting drafts ≤ depth) :
    items decoder (depth + 1) drafts = items decoder depth drafts := by
  induction drafts with
  | nil => rfl
  | cons draft drafts ih =>
    obtain ⟨hdraft, hrest⟩ := Nat.max_le.mp hdrafts
    rw [items, items, h depth draft hdraft, ih hrest]

@[simp]
theorem list_unlimited (h : decoder.Unlimited) : (list decoder).Unlimited := by
  intro depth draft hdraft
  cases draft with
  | array drafts =>
    obtain ⟨left, rfl, hleft⟩ := Draft.exists_of_succ_le hdraft
    exact items_succ h hleft
  | _ => cases depth <;> rfl

@[simp]
theorem variant_unlimited (known : List (String × α)) : (variant known).Unlimited := by
  intro depth draft hdraft
  cases draft with
  | object members =>
    obtain ⟨left, rfl, -⟩ := Draft.exists_of_succ_le hdraft
    match members with
    | [] => rfl
    | (key, content) :: members =>
      cases key with
      | string s => cases s <;> rfl
      | _ => rfl
  | string s => cases s <;> cases depth <;> rfl
  | _ => cases depth <;> rfl

end Decoder

def Slot.Unlimited {α : Type} (slot : Slot α) : Prop :=
  ∀ depth draft record, draft.nesting ≤ depth →
    slot.read (depth + 1) draft record = slot.read depth draft record

@[simp]
theorem Slot.of_unlimited {α β : Type} {decoder : Decoder β} (h : decoder.Unlimited)
    (key : String) (presence : Presence) (put : β → α → α) :
    (Slot.of key presence decoder put).Unlimited := by
  intro depth draft record hdraft
  simp only [Slot.of, h depth draft hdraft]

namespace Record

variable {α : Type} {r : Record α} (h : ∀ slot ∈ r.slots, slot.Unlimited) {depth : Nat}
include h

theorem readMembers_succ {members : List (Draft × Draft)}
    (hmembers : Draft.memberNesting members ≤ depth) (seen : List String) (record : α) :
    r.readMembers (depth + 1) seen record members = r.readMembers depth seen record members := by
  induction members generalizing seen record with
  | nil => rfl
  | cons member members ih =>
    obtain ⟨key, draft⟩ := member
    obtain ⟨hdraft, hrest⟩ := Nat.max_le.mp hmembers
    cases key with
    | string s =>
      cases s with
      | none => rfl
      | some key =>
        rw [readMembers, readMembers]
        cases hslot : r.slots.find? fun slot => slot.key = key with
        | none => simp only [ih hrest]
        | some slot =>
          simp only [h slot (List.mem_of_find?_eq_some hslot) depth draft record hdraft, ih hrest]
    | _ => rfl

theorem readItems_succ {slots : List (Slot α)} (hslots : slots ⊆ r.slots) {items : List Draft}
    (hitems : Draft.itemNesting items ≤ depth) (count : Nat) (record : α) :
    r.readItems (depth + 1) count record slots items =
      r.readItems depth count record slots items := by
  induction slots generalizing items count record with
  | nil => cases items <;> rfl
  | cons slot slots ih =>
    obtain ⟨hslot, hrest⟩ := List.cons_subset.mp hslots
    match items with
    | [] => simp only [readItems, ih hrest hitems]
    | item :: items =>
      obtain ⟨hitem, hitems⟩ := Nat.max_le.mp hitems
      simp only [readItems, h slot hslot depth item record hitem, ih hrest hitems]

theorem decoder_unlimited : r.decoder.Unlimited := by
  intro depth draft hdraft
  cases draft with
  | array items =>
    obtain ⟨left, rfl, hleft⟩ := Draft.exists_of_succ_le hdraft
    exact readItems_succ h (List.Subset.refl _) hleft 0 r.start
  | object members =>
    obtain ⟨left, rfl, hleft⟩ := Draft.exists_of_succ_le hdraft
    exact readMembers_succ h hleft [] r.start
  | _ => cases depth <;> rfl

end Record

end SchemaWriter.Json
