import SchemaWriter.Proofs.Json.Literal

namespace SchemaWriter

namespace Literal

def prepend (c : Char) (read : List Char × List Char) : List Char × List Char :=
  (c :: read.1, read.2)

def readContent : List Char → Option (List Char × List Char)
  | [] => none
  | '\'' :: rest => some ([], rest)
  | '\\' :: mark :: text =>
    (escapes.lookup mark).bind fun c => (readContent text).map (prepend c)
  | c :: text =>
    if c ∈ escapes.map Prod.snd then none else (readContent text).map (prepend c)

def read? (text : String) : Option (String × String) :=
  match text.toList with
  | '\'' :: content => (readContent content).map fun (cs, rest) =>
    (String.ofList cs, String.ofList rest)
  | _ => none

theorem lookup_escapes_eq_some_iff {mark c : Char} :
    escapes.lookup mark = some c ↔ (mark, c) ∈ escapes := by
  constructor
  · intro h
    obtain ⟨front, back, hsplit, -⟩ := List.lookup_eq_some_iff.mp h
    rw [hsplit]
    exact List.mem_append_right _ List.mem_cons_self
  · intro h
    simp only [escapes, List.mem_cons, Prod.mk.injEq, List.not_mem_nil, or_false] at h
    rcases h with ⟨rfl, rfl⟩ | ⟨rfl, rfl⟩ | ⟨rfl, rfl⟩ | ⟨rfl, rfl⟩ <;> rfl

theorem map_prepend_eq_some_iff {c : Char} {read : Option (List Char × List Char)}
    {cs rest : List Char} : read.map (prepend c) = some (cs, rest) ↔
      ∃ more, read = some (more, rest) ∧ cs = c :: more := by
  simp only [Option.map_eq_some_iff, prepend, Prod.mk.injEq]
  constructor
  · rintro ⟨⟨more, _⟩, rfl, rfl, rfl⟩
    exact ⟨more, rfl, rfl⟩
  · rintro ⟨more, rfl, rfl⟩
    exact ⟨(more, rest), rfl, rfl, rfl⟩

theorem content_of_readContent {text cs rest : List Char}
    (h : readContent text = some (cs, rest)) : Content text cs rest := by
  fun_induction readContent text generalizing cs rest with
  | case1 => cases h
  | case2 =>
    cases h
    exact .done _
  | case3 mark text ih =>
    obtain ⟨c, hc, h⟩ := Option.bind_eq_some_iff.mp h
    obtain ⟨more, hread, rfl⟩ := map_prepend_eq_some_iff.mp h
    exact .escaped (lookup_escapes_eq_some_iff.mp hc) (ih hread)
  | case4 => cases h
  | case5 c text _ _ hplain ih =>
    obtain ⟨more, hread, rfl⟩ := map_prepend_eq_some_iff.mp h
    exact .plain hplain (ih hread)

theorem readContent_of_content {text cs rest : List Char} (h : Content text cs rest) :
    readContent text = some (cs, rest) := by
  induction h with
  | done rest => rfl
  | escaped hescape _ ih =>
    rw [readContent, lookup_escapes_eq_some_iff.mpr hescape, Option.bind_some, ih]
    rfl
  | plain hplain _ ih =>
    rw [readContent, if_neg hplain, ih]
    · rfl
    -- Neither a quote nor a backslash stands for itself.
    · rintro rfl
      exact hplain (by decide)
    · rintro _ _ rfl
      exact absurd hplain (by decide)

theorem content_iff {text cs rest : List Char} :
    Content text cs rest ↔ text = cs.flatMap escapeChar ++ '\'' :: rest := by
  constructor
  · intro h
    induction h with
    | done rest => rfl
    | @escaped mark c text cs rest hescape _ ih =>
      have hmark : escapeChar c = ['\\', mark] := by
        simp only [escapes, List.mem_cons, Prod.mk.injEq, List.not_mem_nil, or_false] at hescape
        rcases hescape with ⟨rfl, rfl⟩ | ⟨rfl, rfl⟩ | ⟨rfl, rfl⟩ | ⟨rfl, rfl⟩ <;> rfl
      rw [List.flatMap_cons, hmark, ih]
      rfl
    | @plain c text cs rest hplain _ ih =>
      have hself : escapeChar c = [c] := by
        unfold escapeChar
        split
        case h_5 => rfl
        all_goals exact absurd (by decide) hplain
      rw [List.flatMap_cons, hself, ih]
      rfl
  · rintro rfl
    exact content_flatMap cs rest

theorem readContent_eq_some_iff {text cs rest : List Char} :
    readContent text = some (cs, rest) ↔ text = cs.flatMap escapeChar ++ '\'' :: rest := by
  rw [← content_iff]
  exact ⟨content_of_readContent, readContent_of_content⟩

theorem read?_eq_some_iff {text s rest : String} :
    read? text = some (s, rest) ↔ text = quote s ++ rest := by
  rw [← String.toList_inj, String.toList_append, toList_quote_append]
  unfold read?
  split
  · rename_i content htext
    rw [htext, List.cons_inj_right, ← readContent_eq_some_iff, Option.map_eq_some_iff]
    constructor
    · rintro ⟨⟨cs, more⟩, hread, heq⟩
      obtain ⟨rfl, rfl⟩ := Prod.mk.inj heq
      simpa using hread
    · intro hread
      exact ⟨_, hread, by simp⟩
  · rename_i hquote
    simpa using fun htext => hquote _ htext

theorem lineBreak_not_mem_escapeChar {c d : Char} (h : d ∈ escapeChar c) : d ≠ '\n' ∧ d ≠ '\r' := by
  unfold escapeChar at h
  split at h
  case h_5 hnewline hreturn =>
    obtain rfl := List.mem_singleton.mp h
    exact ⟨hnewline, hreturn⟩
  all_goals
    simp only [List.mem_cons, List.not_mem_nil, or_false] at h
    rcases h with rfl | rfl <;> decide

theorem lineBreak_not_mem_quote {s : String} {c : Char} (h : c ∈ (quote s).toList) :
    c ≠ '\n' ∧ c ≠ '\r' := by
  rw [quote, String.toList_ofList, quoteChars] at h
  rcases List.mem_append.mp h with h | h
  · rcases List.mem_cons.mp h with rfl | h
    · decide
    · obtain ⟨d, -, hd⟩ := List.mem_flatMap.mp h
      exact lineBreak_not_mem_escapeChar hd
  · obtain rfl := List.mem_singleton.mp h
    decide

theorem quote_append_inj {s t k l : String} : quote s ++ k = quote t ++ l ↔ s = t ∧ k = l := by
  constructor
  · intro h
    have hs : read? (quote s ++ k) = some (s, k) := read?_eq_some_iff.mpr rfl
    rw [h, read?_eq_some_iff.mpr rfl] at hs
    obtain ⟨rfl, rfl⟩ := Prod.mk.inj (Option.some.inj hs)
    exact ⟨rfl, rfl⟩
  · rintro ⟨rfl, rfl⟩
    rfl

end Literal

namespace Fragment

theorem string_unbroken (s : String) :
    (∀ text rest, Literal.read? text = some (s, rest) ↔ text = (string s).render ++ rest) ∧
    (∀ t, (string s).render = (string t).render ↔ s = t) ∧
    '\n' ∉ (string s).render.toList ∧ '\r' ∉ (string s).render.toList := by
  refine ⟨fun text rest => Literal.read?_eq_some_iff, fun t => ?_, ?_, ?_⟩
  · have happend := Literal.quote_append_inj (s := s) (t := t) (k := "") (l := "")
    simpa using happend
  · exact fun h => (Literal.lineBreak_not_mem_quote h).1 rfl
  · exact fun h => (Literal.lineBreak_not_mem_quote h).2 rfl

example : Literal.read? ((string "it's\\").render ++ "', x") = some ("it's\\", "', x") := by
  decide

end Fragment

end SchemaWriter
