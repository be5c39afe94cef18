import SchemaWriter.Proofs.Column.Literals
import SchemaWriter.Proofs.Fragment.Rendered
import SchemaWriter.Proofs.Json.Grammar
import SchemaWriter.Proofs.Json.Integers

namespace SchemaWriter

namespace Literal

theorem content_flatMap (cs rest : List Char) :
    Content (cs.flatMap escapeChar ++ '\'' :: rest) cs rest := by
  induction cs with
  | nil => exact .done rest
  | cons c cs ih =>
    rw [List.flatMap_cons, List.append_assoc]
    unfold escapeChar
    split
    case h_5 hescape hquote hnewline hreturn =>
      exact .plain (by simpa [escapes] using ⟨hescape, hquote, hnewline, hreturn⟩) ih
    all_goals exact .escaped (by decide) ih

theorem toList_quote_append (s : String) (rest : List Char) :
    (quote s).toList ++ rest = '\'' :: (s.toList.flatMap escapeChar ++ '\'' :: rest) := by
  simp [quote, quoteChars]

theorem digits_toDigits (n : Nat) : Digits (Nat.toDigits 10 n) where
  nonempty := Nat.toDigits_ne_nil
  isDigit _ := Nat.isDigit_of_mem_toDigits (by decide) (by decide)
  first := by
    intro hfirst
    rcases Nat.eq_zero_or_pos n with rfl | hn
    · rfl
    · obtain ⟨d, hd, hhead⟩ := Json.head?_decimalDigits hn
      rw [Json.decimalDigits, List.head?_map, hfirst] at hhead
      obtain rfl := Option.some.inj hhead
      exact absurd hd (by decide)

theorem decimal_toString (n : Int) : Decimal (toString n).toList n := by
  rw [Int.toString_eq_repr, Int.repr_eq_if]
  split
  · rename_i hsign
    have hdigits := Decimal.natural (digits_toDigits n.toNat)
    rwa [Nat.ofDigitChars_ten_toDigits, Int.toNat_of_nonneg hsign, ← Nat.toList_repr] at hdigits
  · rename_i hsign
    have hzero : Nat.toDigits 10 (-n).toNat ≠ ['0'] := by
      intro hzero
      have hvalue : Nat.ofDigitChars 10 (Nat.toDigits 10 (-n).toNat) 0 = 0 := by
        rw [hzero]
        rfl
      rw [Nat.ofDigitChars_ten_toDigits] at hvalue
      omega
    have hdigits := Decimal.negative (digits_toDigits (-n).toNat) hzero
    rw [Nat.ofDigitChars_ten_toDigits, Int.toNat_of_nonneg (by omega), Int.neg_neg] at hdigits
    rw [String.toList_append, Nat.toList_repr]
    exact hdigits

theorem key_propertyKey (key : String) (rest : List Char) :
    Key ((propertyKey key).toList ++ ':' :: ' ' :: rest) key rest := by
  unfold propertyKey
  split
  · rename_i hname
    exact .bare hname rest
  · rw [toList_quote_append]
    have hkey := Key.quoted (content_flatMap key.toList (':' :: ' ' :: rest))
    rwa [String.ofList_toList] at hkey

end Literal

namespace Json

open Literal

inductive Signed : Json → Prop where
  | null : Signed .null
  | bool (b : Bool) : Signed (.bool b)
  | integer {n : Int} (hmin : -0x8000000000000000 ≤ n) (hmax : n < 0x8000000000000000) :
      Signed (.number (.integer n))
  | string (s : String) : Signed (.string s)
  | array {items : List Json} (h : ∀ item ∈ items, Signed item) : Signed (.array items)
  | object {members : List (String × Json)} (h : ∀ member ∈ members, Signed member.2) :
      Signed (.object members)

def IsRead (v : Json) : Prop :=
  ∀ rest, (∀ c ∈ rest.head?, c.isDigit = false) → Value (v.fragment.render.toList ++ rest) v rest

theorem fragments_eq_map (items : List Json) : fragments items = items.map fragment := by
  induction items with
  | nil => rfl
  | cons item items ih => rw [fragments, ih, List.map_cons]

theorem toList_listed {α : Type} (text : α → String) (x : α) (xs : List α) (rest : List Char) :
    (", ".intercalate ((x :: xs).map text)).toList ++ rest = (text x).toList ++
      match xs with
      | [] => rest
      | _ => ',' :: ' ' :: ((", ".intercalate (xs.map text)).toList ++ rest) := by
  cases xs <;> simp

theorem items_listed {items : List Json} (hne : items ≠ []) (h : ∀ item ∈ items, item.IsRead)
    (rest : List Char) :
    Items ((", ".intercalate (items.map (·.fragment.render))).toList ++ ' ' :: ']' :: rest)
      items rest := by
  induction items with
  | nil => exact absurd rfl hne
  | cons item items ih =>
    obtain ⟨hitem, hitems⟩ := List.forall_mem_cons.mp h
    rw [toList_listed]
    match items with
    | [] => exact .last (hitem _ (by simp))
    | next :: items => exact .cons (hitem _ (by simp)) (ih (List.cons_ne_nil _ _) hitems)

theorem members_listed {members : List (String × Json)} (hne : members ≠ [])
    (h : ∀ member ∈ members, member.2.IsRead) (rest : List Char) :
    Members ((", ".intercalate (members.map fun member =>
        propertyKey member.1 ++ ": " ++ member.2.fragment.render)).toList ++
      ' ' :: '\x7d' :: rest) members rest := by
  induction members with
  | nil => exact absurd rfl hne
  | cons member members ih =>
    obtain ⟨hmember, hmembers⟩ := List.forall_mem_cons.mp h
    rw [toList_listed, String.toList_append, String.toList_append, List.append_assoc,
      List.append_assoc]
    have hkey := key_propertyKey member.1
    match members with
    | [] => exact .last (hkey _) (hmember _ (by simp))
    | next :: members =>
      exact .cons (hkey _) (hmember _ (by simp)) (ih (List.cons_ne_nil _ _) hmembers)

theorem Signed.isRead {v : Json} (h : v.Signed) : v.IsRead := by
  induction h with
  | null => exact fun rest _ => .null rest
  | bool b => cases b <;> exact fun rest _ => by constructor
  | integer hmin hmax =>
    intro rest hrest
    have hsigned : _ < ((Nat.pow 2 63 : Nat) : Int) := hmax
    rw [fragment, Number.fragment, if_pos hsigned, Fragment.render]
    exact .integer (decimal_toString _) hrest
  | string s =>
    intro rest _
    rw [fragment, Fragment.render_string, toList_quote_append]
    have hstring := Value.string (content_flatMap s.toList rest)
    rwa [String.ofList_toList] at hstring
  | @array items h ih =>
    intro rest _
    by_cases hne : items = []
    · subst hne
      exact .emptyArray rest
    · rw [fragment, fragments_eq_map, Fragment.render_array (by simpa using hne), List.map_map,
        String.toList_append, String.toList_append, List.append_assoc, List.append_assoc]
      exact .array (items_listed hne ih rest)
  | @object members h ih =>
    intro rest _
    by_cases hne : members = []
    · subst hne
      exact .emptyObject rest
    · rw [fragment, memberEntries_eq, ← Fragment.record, properties,
        Fragment.render_record (by simpa using hne), List.map_map, String.toList_append,
        String.toList_append, List.append_assoc, List.append_assoc]
      exact .object (members_listed hne ih rest)

theorem Signed.denotes_iff {v : Json} (h : v.Signed) (w : Json) :
    Denotes v.fragment.render w ↔ w = v := by
  have hv : Denotes v.fragment.render v := by
    have hread := h.isRead [] (by simp)
    rwa [List.append_nil] at hread
  constructor
  · exact fun hw => hw.unique hv
  · rintro rfl
    exact hv

theorem Signed.render_inj {v w : Json} (hv : v.Signed) (hw : w.Signed) :
    v.fragment.render = w.fragment.render ↔ v = w := by
  constructor
  · intro h
    exact (hw.denotes_iff v).mp (h ▸ (hv.denotes_iff v).mpr rfl)
  · rintro rfl
    rfl

end Json

end SchemaWriter
