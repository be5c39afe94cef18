import SchemaWriter.Json.Printer
import SchemaWriter.Proofs.Json.Integers
import SchemaWriter.Proofs.Json.Spelling

namespace SchemaWriter.Json

theorem hexUnit?_control {n : Nat} (h : n < 32) :
    hexUnit? (some '0') (some '0') (some (Nat.digitChar (n / 16))) (some (Nat.digitChar (n % 16))) =
      some n := by
  decide +revert

theorem stringMarks?_escapeChar (c : Char) (gs : List Glyph) :
    stringMarks? ((escapeChar c).map some ++ gs) = withMark (.char c) (stringMarks? gs) := by
  unfold escapeChar
  split
  case h_8 hquote hescape _ _ _ _ _ =>
    split
    case isTrue hcontrol =>
      have hsize : c.toNat < 32 := hcontrol
      have hmark : Mark.ofUnit c.toNat = .char c := by
        have hhalf : ¬ 0xD800 ≤ c.toNat := by omega
        simp [Mark.ofUnit, hhalf]
      exact hmark ▸ stringMarks?_of_unit (hexUnit?_control hsize) gs
    case isFalse hcontrol => exact stringMarks?_of_plain hquote hescape hcontrol gs
  all_goals exact stringMarks?_of_escape rfl gs

theorem stringMarks?_flatMap (cs : List Char) (gs : List Glyph) :
    stringMarks? ((cs.flatMap escapeChar).map some ++ some '"' :: gs) =
      some (cs.map .char, gs) := by
  induction cs with
  | nil => rfl
  | cons c cs ih =>
    rw [List.flatMap_cons, List.map_append, List.append_assoc, stringMarks?_escapeChar, ih]
    rfl

theorem Mark.text?_map_char (cs : List Char) : text? (cs.map .char) = some cs := by
  induction cs with
  | nil => rfl
  | cons c cs ih => rw [List.map_cons, text?, ih, Option.map_some]

theorem tokens_renderString (s : String) :
    tokens (glyphs (renderString s)) = [.string (some s)] := by
  have hglyphs : glyphs (renderString s) =
      some '"' :: ((s.toList.flatMap escapeChar).map some ++ [some '"']) := by
    simp [glyphs, renderString]
  rw [hglyphs, tokens_cons rfl, Token.read_quote, stringMarks?_flatMap, Token.ofMarks,
    Mark.text?_map_char]
  simp [tokens, tokensAfter]

theorem glyphs_append (s t : String) : glyphs (s ++ t) = glyphs s ++ glyphs t := by
  rw [glyphs, String.toList_append, List.map_append, ← glyphs, ← glyphs]

theorem glyphs_intercalate (s : String) (texts : List String) :
    glyphs (s.intercalate texts) = (glyphs s).intercalate (texts.map glyphs) := by
  induction texts with
  | nil => simp [glyphs]
  | cons text texts ih =>
    cases texts with
    | nil => simp
    | cons next texts =>
      rw [String.intercalate_cons_cons, glyphs_append, glyphs_append, ih]
      simp

section

variable {α : Type} {xs : List α}

theorem tokens_listed {text : α → String} {spelling : α → List Token}
    (h : ∀ x ∈ xs, tokens (glyphs (text x)) = spelling x) (hwhole : ∀ x ∈ xs, .broken ∉ spelling x)
    {rest : List Glyph} (hrest : EndsNumeral rest) :
    tokens (glyphs (",".intercalate (xs.map text)) ++ rest) =
      [.comma].intercalate (xs.map spelling) ++ tokens rest := by
  have hparts : ∀ part ∈ (xs.map text).map glyphs, .broken ∉ tokens part := by
    rw [List.map_map]
    exact List.forall_mem_map.mpr fun x hmem => (h x hmem).symm ▸ hwhole x hmem
  have hspellings : ((xs.map text).map glyphs).map tokens = xs.map spelling := by
    rw [List.map_map, List.map_map]
    exact List.map_congr_left h
  have hcomma : glyphs "," = [some ','] := by decide
  rw [glyphs_intercalate, hcomma, tokens_intercalate hparts hrest, hspellings]

variable {text : α → String} {draft : α → Draft} (h : ∀ x ∈ xs, Spells (text x) (draft x))
include h

theorem spells_array :
    Spells ("[" ++ ",".intercalate (xs.map text) ++ "]") (.array (xs.map draft)) where
  complete := .array (List.forall_mem_map.mpr fun x hmem => (h x hmem).complete)
  spelled := by
    have hlisted := tokens_listed (fun x hmem => (h x hmem).spelled)
      (fun x hmem => (h x hmem).complete.broken_not_mem)
      (endsNumeral_cons (c := ']') (by decide) [])
    have hopen : glyphs "[" = [some '['] := by decide
    have hclose : glyphs "]" = [some ']'] := by decide
    rw [glyphs_append, glyphs_append, List.append_assoc, hopen, hclose, List.singleton_append,
      tokens_cons (by decide), Token.read, hlisted, Draft.spelling, Draft.itemSpellings_eq_map,
      List.map_map, tokens_cons (by decide)]
    rfl

theorem tokens_member (key : String) {x : α} (hmem : x ∈ xs) :
    tokens (glyphs (renderString key ++ ":" ++ text x)) =
      .string (some key) :: .colon :: (draft x).spelling := by
  have hkey : .broken ∉ tokens (glyphs (renderString key)) := by simp [tokens_renderString]
  have hcolon : glyphs ":" = [some ':'] := by decide
  rw [glyphs_append, glyphs_append, List.append_assoc, hcolon, List.singleton_append,
    tokens_append hkey (endsNumeral_cons (by decide) _), tokens_renderString,
    tokens_cons (by decide), ← (h x hmem).spelled]
  rfl

theorem spells_object (key : α → String) :
    Spells ("\x7b" ++ ",".intercalate (xs.map fun x => renderString (key x) ++ ":" ++ text x) ++
      "\x7d") (.object (xs.map fun x => (.string (some (key x)), draft x))) where
  complete := .object (List.forall_mem_map.mpr fun x _ => ⟨some (key x), rfl⟩)
    (List.forall_mem_map.mpr fun x hmem => (h x hmem).complete)
  spelled := by
    have hwhole : ∀ x ∈ xs, Token.broken ∉
        Token.string (some (key x)) :: .colon :: (draft x).spelling := by
      intro x hmem
      simpa using (h x hmem).complete.broken_not_mem
    have hlisted := tokens_listed (fun x hmem => tokens_member h (key x) hmem) hwhole
      (endsNumeral_cons (c := '\x7d') (by decide) [])
    have hopen : glyphs "\x7b" = [some '\x7b'] := by decide
    have hclose : glyphs "\x7d" = [some '\x7d'] := by decide
    rw [glyphs_append, glyphs_append, List.append_assoc, hopen, hclose, List.singleton_append,
      tokens_cons (by decide), Token.read, hlisted, Draft.spelling, Draft.memberSpellings_eq_map,
      List.map_map, tokens_cons (by decide)]
    rfl

end

mutual

def toDraft : Json → Draft
  | .null => .null
  | .bool b => .bool b
  | .number (.integer value) => .number (.ofInt value)
  | .number (.float _) => .cut
  | .string s => .string (some s)
  | .array items => .array (itemDrafts items)
  | .object members => .object (memberDrafts members)

def itemDrafts : List Json → List Draft
  | [] => []
  | item :: items => item.toDraft :: itemDrafts items

def memberDrafts : List (String × Json) → List (Draft × Draft)
  | [] => []
  | (key, value) :: members => (.string (some key), value.toDraft) :: memberDrafts members

end

theorem itemDrafts_eq_map (items : List Json) : itemDrafts items = items.map toDraft := by
  induction items with
  | nil => rfl
  | cons item items ih => rw [itemDrafts, ih, List.map_cons]

theorem memberDrafts_eq_map (members : List (String × Json)) :
    memberDrafts members = members.map fun (key, value) => (.string (some key), value.toDraft) := by
  induction members with
  | nil => rfl
  | cons member members ih => rw [memberDrafts, ih, List.map_cons]

inductive Exact : Json → Prop where
  | null : Exact .null
  | bool (b : Bool) : Exact (.bool b)
  | integer {value : Int} (hmin : -0x8000000000000000 ≤ value)
      (hmax : value < 0x10000000000000000) : Exact (.number (.integer value))
  | string (s : String) : Exact (.string s)
  | array {items : List Json} (h : ∀ item ∈ items, Exact item) : Exact (.array items)
  | object {members : List (String × Json)} (h : ∀ member ∈ members, Exact member.2) :
    Exact (.object members)

theorem renderItems_eq_map (items : List Json) : renderItems items = items.map render := by
  induction items with
  | nil => rfl
  | cons item items ih => rw [renderItems, ih, List.map_cons]

theorem renderMembers_eq_map (members : List (String × Json)) : renderMembers members =
    members.map fun (key, value) => renderString key ++ ":" ++ value.render := by
  induction members with
  | nil => rfl
  | cons member members ih => rw [renderMembers, ih, List.map_cons]

theorem Exact.spells {j : Json} (h : j.Exact) : Spells j.render j.toDraft := by
  induction h with
  | null => exact ⟨.null, by decide⟩
  | bool b => exact ⟨.bool b, by cases b <;> decide⟩
  | integer hmin hmax => exact ⟨.number _, tokens_integer _⟩
  | string s => exact ⟨.string _, tokens_renderString s⟩
  | array h ih =>
    rw [render, renderItems_eq_map, toDraft, itemDrafts_eq_map]
    exact spells_array ih
  | object h ih =>
    rw [render, renderMembers_eq_map, toDraft, memberDrafts_eq_map]
    exact spells_object ih Prod.fst

end SchemaWriter.Json
