import SchemaWriter.Json.Decoder
import SchemaWriter.Proofs.Json.Lexed

namespace SchemaWriter.Json

namespace Draft

mutual

def spelling : Draft → List Token
  | .cut => [.broken]
  | .null => [.null]
  | .bool b => [.bool b]
  | .number n => [.number n]
  | .string s => [.string s]
  | .array items => .openBracket :: ([.comma].intercalate (itemSpellings items) ++ [.closeBracket])
  | .object members =>
    .openBrace :: ([.comma].intercalate (memberSpellings members) ++ [.closeBrace])

def itemSpellings : List Draft → List (List Token)
  | [] => []
  | item :: items => item.spelling :: itemSpellings items

def memberSpellings : List (Draft × Draft) → List (List Token)
  | [] => []
  | (key, value) :: members =>
    (key.spelling ++ .colon :: value.spelling) :: memberSpellings members

end

inductive IsValue : Draft → Prop where
  | null : IsValue .null
  | bool (b : Bool) : IsValue (.bool b)
  | number (n : Numeral) : IsValue (.number n)
  | string (s : Option String) : IsValue (.string s)
  | array {items : List Draft} (h : ∀ item ∈ items, IsValue item) : IsValue (.array items)
  | object {members : List (Draft × Draft)}
      (hkeys : ∀ member ∈ members, ∃ key, member.1 = .string key)
      (h : ∀ member ∈ members, IsValue member.2) : IsValue (.object members)

def IsRead (d : Draft) : Prop :=
  ∀ rest stack, run (d.spelling ++ rest) (.open .value stack) = run rest (place d stack)

section

variable {stack : List Opened} {rest : List Token}

theorem run_itemOrEnd {d : Draft} (h : d.IsValue) :
    run (d.spelling ++ rest) (.open .itemOrEnd (.array [] :: stack)) =
      run (d.spelling ++ rest) (.open .value (.array [] :: stack)) := by
  cases h <;> rfl

theorem run_firstItem {item : Draft} (h : item.IsValue) {items : List Draft} :
    run ([.comma].intercalate (item.spelling :: itemSpellings items) ++ rest)
        (.open .itemOrEnd (.array [] :: stack)) =
      run ([.comma].intercalate (item.spelling :: itemSpellings items) ++ rest)
        (.open .value (.array [] :: stack)) := by
  match items with
  | [] =>
    rw [itemSpellings, List.intercalate_singleton]
    exact run_itemOrEnd h
  | next :: items =>
    rw [itemSpellings, List.intercalate_cons_cons, List.append_assoc, List.append_assoc]
    exact run_itemOrEnd h

theorem run_items {item : Draft} {items : List Draft} (h : ∀ x ∈ item :: items, x.IsRead)
    (done : List Draft) :
    run ([.comma].intercalate (item.spelling :: itemSpellings items) ++ .closeBracket :: rest)
        (.open .value (.array done :: stack)) =
      run rest (place (.array (done.reverse ++ item :: items)) stack) := by
  have hitem := h item List.mem_cons_self
  induction items generalizing item done with
  | nil =>
    rw [itemSpellings, List.intercalate_singleton, hitem, ← List.reverse_cons]
    rfl
  | cons next items ih =>
    have hrest := (List.forall_mem_cons.mp h).2
    rw [itemSpellings, List.intercalate_cons_cons, List.append_assoc, List.append_assoc, hitem]
    refine (ih hrest (item :: done) (hrest next List.mem_cons_self)).trans ?_
    simp

theorem run_member {key : Option String} {value : Draft} (h : value.IsRead)
    (done : List (Draft × Draft)) :
    run ((Draft.string key).spelling ++ .colon :: value.spelling ++ rest)
        (.open .key (.object done :: stack)) =
      run rest (.open .separator (.object ((.string key, value) :: done) :: stack)) :=
  h rest (.member done (.string key) :: stack)

theorem run_members {key value : Draft} {members : List (Draft × Draft)}
    (hkeys : ∀ member ∈ (key, value) :: members, ∃ s, member.1 = .string s)
    (h : ∀ member ∈ (key, value) :: members, member.2.IsRead) (done : List (Draft × Draft)) :
    run ([.comma].intercalate (memberSpellings ((key, value) :: members)) ++ .closeBrace :: rest)
        (.open .key (.object done :: stack)) =
      run rest (place (.object (done.reverse ++ (key, value) :: members)) stack) := by
  obtain ⟨s, rfl⟩ : ∃ s, key = .string s := hkeys _ List.mem_cons_self
  have hvalue : value.IsRead := h _ List.mem_cons_self
  induction members generalizing s value done with
  | nil =>
    rw [memberSpellings, memberSpellings, List.intercalate_singleton, run_member hvalue,
      ← List.reverse_cons]
    rfl
  | cons next members ih =>
    obtain ⟨key', value'⟩ := next
    have hkeys' := (List.forall_mem_cons.mp hkeys).2
    have hrest := (List.forall_mem_cons.mp h).2
    obtain ⟨s', rfl⟩ : ∃ s', key' = .string s' := hkeys' _ List.mem_cons_self
    rw [memberSpellings, memberSpellings, List.intercalate_cons_cons, ← memberSpellings,
      List.append_assoc, List.append_assoc, run_member hvalue]
    refine (ih ((.string s, value) :: done) s' hkeys' hrest (hrest _ List.mem_cons_self)).trans ?_
    simp

end

theorem IsValue.isRead {d : Draft} (h : d.IsValue) : d.IsRead := by
  intro rest stack
  induction h generalizing rest stack with
  | null | bool | number | string => rfl
  | @array items h ih =>
    match items with
    | [] => rfl
    | item :: items =>
      rw [spelling, List.cons_append, List.append_assoc]
      exact (run_firstItem (h item List.mem_cons_self)).trans (run_items (fun x hx => ih x hx) [])
  | @object members hkeys h ih =>
    match members with
    | [] => rfl
    | (key, value) :: members =>
      obtain ⟨s, rfl⟩ : ∃ s, key = .string s := hkeys _ List.mem_cons_self
      rw [spelling, List.cons_append, List.append_assoc]
      refine Eq.trans ?_ (run_members hkeys (fun x hx => ih x hx) [])
      match members with
      | [] => rfl
      | next :: members => rfl

theorem ofTokens_spelling {d : Draft} (h : d.IsValue) : ofTokens d.spelling = (d, true) := by
  have hread := h.isRead [] []
  rw [List.append_nil] at hread
  rw [ofTokens, hread]
  rfl

theorem itemSpellings_eq_map (items : List Draft) : itemSpellings items = items.map spelling := by
  induction items with
  | nil => rfl
  | cons item items ih => rw [itemSpellings, ih, List.map_cons]

theorem memberSpellings_eq_map (members : List (Draft × Draft)) : memberSpellings members =
    members.map fun (key, value) => key.spelling ++ .colon :: value.spelling := by
  induction members with
  | nil => rfl
  | cons member members ih => rw [memberSpellings, ih, List.map_cons]

theorem broken_not_mem_intercalate {parts : List (List Token)}
    (h : ∀ part ∈ parts, .broken ∉ part) : .broken ∉ [Token.comma].intercalate parts := by
  induction parts with
  | nil => exact List.not_mem_nil
  | cons part parts ih =>
    obtain ⟨hpart, hparts⟩ := List.forall_mem_cons.mp h
    match parts with
    | [] => rwa [List.intercalate_singleton]
    | next :: parts =>
      rw [List.intercalate_cons_cons]
      simp [hpart, ih hparts]

theorem IsValue.broken_not_mem {d : Draft} (h : d.IsValue) : .broken ∉ d.spelling := by
  induction h with
  | null | bool | number | string => simp [spelling]
  | array h ih =>
    have hitems := broken_not_mem_intercalate (List.forall_mem_map.mpr ih)
    simp [spelling, itemSpellings_eq_map, hitems]
  | @object members hkeys h ih =>
    have hmembers : .broken ∉ [Token.comma].intercalate (memberSpellings members) := by
      rw [memberSpellings_eq_map]
      refine broken_not_mem_intercalate (List.forall_mem_map.mpr ?_)
      rintro ⟨key, value⟩ hmem
      obtain ⟨s, rfl⟩ : ∃ s, key = .string s := hkeys _ hmem
      simpa [spelling] using ih _ hmem
    simp [spelling, hmembers]

end Draft

structure Spells (text : String) (d : Draft) : Prop where
  complete : d.IsValue
  spelled : tokens (glyphs text) = d.spelling

theorem Spells.ofGlyphs {text : String} {d : Draft} (h : Spells text d) :
    Draft.ofGlyphs (glyphs text) = (d, true) := by
  rw [Draft.ofGlyphs, h.spelled, Draft.ofTokens_spelling h.complete]

theorem Spells.unique {text : String} {d d' : Draft} (h : Spells text d) (h' : Spells text d') :
    d = d' :=
  congrArg Prod.fst (h.ofGlyphs.symm.trans h'.ofGlyphs)

theorem Spells.decode {text : String} {d : Draft} (h : Spells text d) {α : Type}
    (decoder : Decoder α) : decoder.text (glyphs text) = decoder maxDepth d := by
  rw [Decoder.text, h.ofGlyphs]
  cases hd : decoder maxDepth d <;> simp [hd, bind, Except.bind, pure, Except.pure]

end SchemaWriter.Json
