import Mathlib.Data.List.Basic
import SchemaWriter.Module
import SchemaWriter.Proofs.Naming.Folded

namespace SchemaWriter.Naming

open SchemaWriter.Text

theorem eq_of_s_mem_lowerChar {c : Char} (h : 's' ∈ lowerChar c) : c = 's' ∨ c = 'S' := by
  rcases ascii_of_mem_lowerChar h (by decide) with ⟨hc, hs⟩ | hs | hs
  · exact of_ascii (P := fun c => 's' = c.toLower → c = 's' ∨ c = 'S') (by decide +kernel) hc hs
  · exact absurd hs (by decide)
  · exact absurd hs (by decide)

theorem PluralEnding.ofReversed_eq_already {cs : List Char} (h : ofReversed cs = .already) :
    cs.head? = some 's' := by
  unfold ofReversed at h
  split at h <;> first | rfl | (try split at h) <;> cases h

theorem exists_pluralize_eq (word : List Char) :
    ∃ front c, pluralize word = front ++ [c] ∧ (c = 's' ∨ c = 'S') := by
  unfold pluralize
  split
  · rename_i hof
    have hlast := PluralEnding.ofReversed_eq_already hof
    rw [List.head?_reverse] at hlast
    rcases List.eq_nil_or_concat word with rfl | ⟨front, c, rfl⟩
    · simp at hlast
    · rw [List.concat_eq_append, List.flatMap_append, List.flatMap_singleton,
        List.getLast?_append_of_ne_nil _ (lowerChar_ne_nil c)] at hlast
      exact ⟨front, c, List.concat_eq_append, eq_of_s_mem_lowerChar (List.mem_of_getLast? hlast)⟩
  · exact ⟨word ++ ['e'], 's', by simp, .inl rfl⟩
  · exact ⟨word.dropLast ++ ['i', 'e'], 's', by simp, .inl rfl⟩
  · exact ⟨word, 's', rfl, .inl rfl⟩

theorem mem_pluralize {word : List Char} {c : Char} (h : c ∈ pluralize word) :
    c ∈ word ∨ c ∈ ['i', 'e', 's'] := by
  unfold pluralize at h
  split at h
  · exact .inl h
  · exact (List.mem_append.mp h).imp_right (List.mem_cons_of_mem 'i')
  · exact (List.mem_append.mp h).imp_left fun hc => (List.dropLast_sublist word).subset hc
  · exact (List.mem_append.mp h).imp_right fun hs => by simp [List.mem_singleton.mp hs]

theorem exists_splitWhere_append {α : Type} (test : α → Bool) (xs : List α) :
    ∃ front last, ∀ ys, (∀ y ∈ ys, test y = false) →
      splitWhere test (xs ++ ys) = front ++ [last ++ ys] := by
  induction xs with
  | nil => exact ⟨[], [], fun ys hys => splitWhere_eq_singleton hys⟩
  | cons x xs ih =>
    obtain ⟨front, last, ih⟩ := ih
    cases hx : test x with
    | true =>
      refine ⟨[] :: front, last, fun ys hys => ?_⟩
      simp [splitWhere, hx, ih ys hys]
    | false =>
      cases front with
      | nil =>
        refine ⟨[], x :: last, fun ys hys => ?_⟩
        simp [splitWhere, hx, ih ys hys, attach]
      | cons piece front =>
        refine ⟨(x :: piece) :: front, last, fun ys hys => ?_⟩
        simp [splitWhere, hx, ih ys hys, attach]

theorem attach_append {α : Type} {a : α} {front : List (List α)} (h : front ≠ [])
    (back : List (List α)) : attach a (front ++ back) = attach a front ++ back := by
  obtain ⟨piece, pieces, rfl⟩ := List.exists_cons_of_ne_nil h
  rfl

theorem cutWords_ne_nil {mode : Mode} {cs : List Char} (h : cs ≠ []) : cutWords mode cs ≠ [] := by
  intro hnil
  have hflat := flatten_cutWords mode cs
  rw [hnil] at hflat
  exact h hflat.symm

theorem exists_cutWords_append (mode : Mode) (cs : List Char) (c : Char) :
    ∃ front last, cutWords mode (cs ++ [c]) = front ++ [last ++ [c]] := by
  induction cs generalizing mode with
  | nil => exact ⟨[], [], rfl⟩
  | cons d cs ih =>
    obtain ⟨e, es, hes⟩ := List.exists_cons_of_ne_nil (l := cs ++ [c]) (by simp)
    have attached : ∀ mode, ∃ front last,
        attach d (cutWords mode (cs ++ [c])) = front ++ [last ++ [c]] := by
      intro mode
      obtain ⟨front, last, hcut⟩ := ih mode
      rw [hcut]
      cases front with
      | nil => exact ⟨[], d :: last, rfl⟩
      | cons piece front => exact ⟨(d :: piece) :: front, last, rfl⟩
    rw [List.cons_append, hes, cutWords, ← hes]
    split
    · obtain ⟨front, last, hcut⟩ := ih .boundary
      exact ⟨[d] :: front, last, by rw [hcut]; rfl⟩
    · split
      · obtain ⟨front, last, hcut⟩ := attached .boundary
        exact ⟨[] :: front, last, by rw [hcut]; rfl⟩
      · exact attached (mode.after d)

theorem exists_words_append {c : Char} (hc : isAlphanumeric c = true) (cs : List Char) :
    ∃ front last, words (cs ++ [c]) = front ++ [last ++ [c]] := by
  obtain ⟨pieces, piece, hsplit⟩ := exists_splitWhere_append (fun c => !isAlphanumeric c) cs
  obtain ⟨front, last, hcut⟩ := exists_cutWords_append .boundary piece c
  refine ⟨pieces.flatMap (cutWords .boundary) ++ front, last, ?_⟩
  rw [words, hsplit [c] (by simp [hc])]
  simp [hcut]

theorem cutWords_append {c : Char} {word : List Char}
    (h : ∀ mode, cutWords mode (c :: word) = [[c], word]) (mode : Mode) (cs : List Char) :
    cutWords mode (cs ++ c :: word) = cutWords mode (cs ++ [c]) ++ [word] := by
  induction cs generalizing mode with
  | nil => exact h mode
  | cons d cs ih =>
    obtain ⟨e, es, hes⟩ := List.exists_cons_of_ne_nil (l := cs ++ [c]) (by simp)
    have hlonger : cs ++ c :: word = e :: (es ++ word) := by
      rw [← List.cons_append, ← hes]
      simp
    have hattach : ∀ mode, attach d (cutWords mode (cs ++ [c]) ++ [word]) =
        attach d (cutWords mode (cs ++ [c])) ++ [word] :=
      fun mode => attach_append (cutWords_ne_nil (by simp)) [word]
    rw [List.cons_append, List.cons_append, hlonger, hes, cutWords, cutWords, ← hlonger, ← hes]
    simp only [ih, hattach]
    split
    · rfl
    · split <;> rfl

theorem words_append {c : Char} {word : List Char}
    (hplain : ∀ d ∈ c :: word, isAlphanumeric d = true)
    (h : ∀ mode, cutWords mode (c :: word) = [[c], word]) (cs : List Char) :
    words (cs ++ c :: word) = words (cs ++ [c]) ++ [word] := by
  obtain ⟨pieces, piece, hsplit⟩ := exists_splitWhere_append (fun c => !isAlphanumeric c) cs
  have hlonger := hsplit (c :: word) (by simpa using hplain)
  have hshort := hsplit [c] (by simpa using hplain c List.mem_cons_self)
  rw [words, words, hlonger, hshort]
  simp [cutWords_append h]

theorem getLast?_lowerWord {c : Char} (hc : c ≠ 'Σ') (cs : List Char) :
    (lowerWord (cs ++ [c])).getLast? = (lowerChar c).getLast? := by
  rw [lowerWord_append_singleton hc, List.getLast?_append_of_ne_nil _ (lowerChar_ne_nil c)]

theorem getLast?_capitalWord {c : Char} (hc : c ≠ 'Σ') (cs : List Char) :
    (capitalWord (cs ++ [c])).getLast? = (lowerChar c).getLast? ∨
      (capitalWord (cs ++ [c])).getLast? = (upperChar c).getLast? := by
  cases cs with
  | nil =>
    right
    simp [capitalWord, lowerWord]
  | cons d cs =>
    left
    have hne : lowerWord (cs ++ [c]) ≠ [] := lowerWord_ne_nil (by simp)
    rw [List.cons_append, capitalWord, List.getLast?_append_of_ne_nil _ hne, getLast?_lowerWord hc]

theorem getLast?_kebab {c : Char} (halpha : isAlphanumeric c = true) (hc : c ≠ 'Σ')
    (cs : List Char) : (kebab (cs ++ [c])).getLast? = (lowerChar c).getLast? := by
  obtain ⟨front, last, hwords⟩ := exists_words_append halpha cs
  rw [kebab, hwords, List.map_append, List.map_singleton,
    getLast?_intercalate (lowerWord_ne_nil (by simp)), getLast?_lowerWord hc]

theorem getLast?_lowerCamel {c : Char} (halpha : isAlphanumeric c = true) (hc : c ≠ 'Σ')
    (cs : List Char) : (lowerCamel (cs ++ [c])).getLast? = (lowerChar c).getLast? ∨
      (lowerCamel (cs ++ [c])).getLast? = (upperChar c).getLast? := by
  obtain ⟨front, last, hwords⟩ := exists_words_append halpha cs
  rw [lowerCamel, hwords]
  cases front with
  | nil =>
    left
    simpa using getLast?_lowerWord hc last
  | cons first front =>
    have hword := getLast?_capitalWord hc last
    have hne : capitalWord (last ++ [c]) ≠ [] := by
      intro hnil
      rw [hnil] at hword
      rcases hword with h | h
      · exact lowerChar_ne_nil c (List.getLast?_eq_none_iff.mp h.symm)
      · exact upperChar_ne_nil c (List.getLast?_eq_none_iff.mp h.symm)
    simp only [List.cons_append, List.flatMap_append, List.flatMap_singleton]
    rwa [← List.append_assoc, List.getLast?_append_of_ne_nil _ hne]

def last? (name : String) : Option Char :=
  name.toList.getLast?

theorem last?_append {back : String} (h : back.toList ≠ []) (front : String) :
    last? (front ++ back) = last? back := by
  rw [last?, String.toList_append, List.getLast?_append_of_ne_nil _ h, last?]

theorem exists_tableBinding_eq (model : String) :
    ∃ front c, (tableBinding model).toList = front ++ [c] ∧ (c = 's' ∨ c = 'S') := by
  simpa [tableBinding, onChars] using exists_pluralize_eq (lowerCamel model.toList)

theorem last?_tableBinding (model : String) :
    last? (tableBinding model) = some 's' ∨ last? (tableBinding model) = some 'S' := by
  obtain ⟨front, c, htable, rfl | rfl⟩ := exists_tableBinding_eq model
  · exact .inl (by simp [last?, htable])
  · exact .inr (by simp [last?, htable])

@[simp] theorem last?_relationsBinding (model : String) :
    last? (relationsBinding model) = some 's' := by
  rw [relationsBinding, last?_append (by decide)]
  decide

@[simp] theorem last?_enumBinding (enum : String) : last? (enumBinding enum) = some 'm' := by
  rw [enumBinding, last?_append (by decide)]
  decide

@[simp] theorem last?_tableModule (model : String) : last? (tableModule model) = some 's' := by
  obtain ⟨front, c, htable, rfl | rfl⟩ := exists_tableBinding_eq model <;>
  · rw [last?, tableModule, onChars, String.toList_ofList, htable,
      getLast?_kebab (by decide) (by decide)]
    decide

@[simp] theorem last?_relationsModule (model : String) :
    last? (relationsModule model) = some 's' := by
  rw [relationsModule, last?_append (by decide)]
  decide

@[simp] theorem last?_enumModule (enum : String) : last? (enumModule enum) = some 'm' := by
  rw [enumModule, last?_append (by decide)]
  decide

@[simp] theorem last?_schemaName : last? Module.schemaName = some 'a' := by
  decide

def isLibraryName (name : String) : Bool :=
  last? name ∉ [some 's', some 'S', some 'm'] && name ≠ Module.schemaName

theorem isLibraryName_tableBinding (model : String) :
    isLibraryName (tableBinding model) = false := by
  rcases last?_tableBinding model with h | h <;> simp [isLibraryName, h]

@[simp] theorem isLibraryName_enumBinding (enum : String) :
    isLibraryName (enumBinding enum) = false := by
  simp [isLibraryName]

@[simp] theorem isLibraryName_schemaName : isLibraryName Module.schemaName = false := by
  simp [isLibraryName]

theorem enumBinding_ne_tableBinding (enum model : String) :
    enumBinding enum ≠ tableBinding model := by
  intro h
  have hlast := last?_tableBinding model
  rw [← h, last?_enumBinding] at hlast
  exact absurd hlast (by decide)

theorem enumBinding_ne_relationsBinding (enum model : String) :
    enumBinding enum ≠ relationsBinding model := by
  intro h
  simpa using congrArg last? h

theorem relationsBinding_inj {a b : String} :
    relationsBinding a = relationsBinding b ↔ tableBinding a = tableBinding b := by
  rw [relationsBinding, relationsBinding, String.append_left_inj]

theorem relationsBinding_ne_relations (model : String) :
    relationsBinding model ≠ "relations" := by
  intro h
  have hchars := congrArg String.toList h
  rw [relationsBinding, String.toList_append] at hchars
  have hlength := congrArg List.length hchars
  have hnil : (tableBinding model).toList = [] := by
    rw [← List.length_eq_zero_iff]
    simpa using hlength
  rw [hnil] at hchars
  exact absurd hchars (by decide)

theorem last?_moduleAlias {module : String} {c : Char} (h : last? module = some c)
    (halpha : isAlphanumeric c = true) (hc : c ≠ 'Σ') :
    last? (moduleAlias module) = (lowerChar c).getLast? ∨
      last? (moduleAlias module) = (upperChar c).getLast? := by
  obtain ⟨front, hfront⟩ := List.getLast?_eq_some_iff.mp h
  rw [moduleAlias, onChars, last?, String.toList_ofList, hfront]
  exact getLast?_lowerCamel halpha hc front

theorem last?_moduleAlias_of_s {module : String} (h : last? module = some 's') :
    last? (moduleAlias module) = some 's' ∨ last? (moduleAlias module) = some 'S' :=
  last?_moduleAlias h (by decide) (by decide)

theorem last?_moduleAlias_of_m {module : String} (h : last? module = some 'm') :
    last? (moduleAlias module) = some 'm' ∨ last? (moduleAlias module) = some 'M' :=
  last?_moduleAlias h (by decide) (by decide)

theorem moduleAlias_ne_schemaName {module : String}
    (h : last? module = some 's' ∨ last? module = some 'm') :
    moduleAlias module ≠ Module.schemaName := by
  intro heq
  have hlast := congrArg last? heq
  rw [last?_schemaName] at hlast
  rcases h with h | h
  · rcases last?_moduleAlias_of_s h with halias | halias <;> simp [halias] at hlast
  · rcases last?_moduleAlias_of_m h with halias | halias <;> simp [halias] at hlast

theorem moduleAlias_ne_moduleAlias {a b : String} (ha : last? a = some 'm')
    (hb : last? b = some 's') : moduleAlias a ≠ moduleAlias b := by
  intro heq
  have hlast := congrArg last? heq
  rcases last?_moduleAlias_of_m ha with ha | ha <;>
  rcases last?_moduleAlias_of_s hb with hb | hb <;>
  simp [ha, hb] at hlast

theorem mem_tableBinding {model : String} {c : Char} (h : c ∈ (tableBinding model).toList) :
    c ∈ lowerCamel model.toList ∨ c ∈ ['i', 'e', 's'] := by
  rw [tableBinding, onChars, String.toList_ofList] at h
  exact mem_pluralize h

theorem plain_tableBinding (model : String) : Plain (tableBinding model).toList := by
  have hsuffix : ∀ c ∈ ['i', 'e', 's'], c.isAlphanum = true := List.all_eq_true.mp (by decide)
  intro c hc hascii
  rcases mem_tableBinding hc with hc | hc
  · exact plain_lowerCamel model.toList c hc hascii
  · exact hsuffix c hc

theorem plain_enumBinding (name : String) : Plain (enumBinding name).toList := by
  have hsuffix : ∀ c ∈ "Enum".toList, c.isAlphanum = true := List.all_eq_true.mp (by decide)
  intro c hc hascii
  rw [enumBinding, onChars, String.toList_append, String.toList_ofList] at hc
  rcases List.mem_append.mp hc with hc | hc
  · exact plain_lowerCamel name.toList c hc hascii
  · exact hsuffix c hc

def tableWords (model : String) : List (List Char) :=
  folded (tableBinding model).toList

theorem tableWords_ne_nil (model : String) : tableWords model ≠ [] := by
  obtain ⟨front, c, htable, hc⟩ := exists_tableBinding_eq model
  have halpha : isAlphanumeric c = true := by
    rcases hc with rfl | rfl <;> decide
  have hmem : c ∈ (tableBinding model).toList := by
    simp [htable]
  have hwords := words_ne_nil hmem halpha
  simpa [tableWords, folded] using hwords

theorem toList_tableModule (model : String) :
    (tableModule model).toList = ['-'].intercalate (tableWords model) := by
  simp [tableModule, onChars, kebab_eq_intercalate, tableWords]

theorem toList_relationsModule (model : String) : (relationsModule model).toList =
    ['-'].intercalate (tableWords model ++ ["relations".toList]) := by
  rw [relationsModule, String.toList_append, toList_tableModule,
    intercalate_append_singleton (tableWords_ne_nil model)]
  rfl

theorem tableModule_eq_tableModule_iff {a b : String} :
    tableModule a = tableModule b ↔ tableWords a = tableWords b := by
  rw [← String.toList_inj, tableModule, tableModule, onChars, onChars, String.toList_ofList,
    String.toList_ofList, kebab_eq_kebab_iff, tableWords, tableWords]

theorem tableModule_eq_relationsModule_iff {a b : String} :
    tableModule a = relationsModule b ↔ tableWords a = tableWords b ++ ["relations".toList] := by
  rw [← String.toList_inj, toList_tableModule, toList_relationsModule]
  constructor
  · intro h
    refine intercalate_singleton_inj (fun w => hyphen_not_mem_folded) ?_ (tableWords_ne_nil a)
      (by simp) h
    intro w hw
    rcases List.mem_append.mp hw with hw | hw
    · exact hyphen_not_mem_folded hw
    · rw [List.mem_singleton.mp hw]
      decide
  · intro h
    rw [h]

theorem relationsModule_eq_relationsModule_iff {a b : String} :
    relationsModule a = relationsModule b ↔ tableWords a = tableWords b := by
  rw [relationsModule, relationsModule, ← tableModule_eq_tableModule_iff]
  exact String.append_left_inj _

theorem enumModule_eq_enumModule_iff {a b : String} :
    enumModule a = enumModule b ↔ folded a.toList = folded b.toList := by
  rw [enumModule, enumModule, String.append_left_inj, ← String.toList_inj, onChars, onChars,
    String.toList_ofList, String.toList_ofList, kebab_eq_kebab_iff]

theorem tableWords_append_relations (model : String) :
    folded (relationsBinding model).toList = tableWords model ++ ["relations".toList] := by
  obtain ⟨front, c, htable, hc⟩ := exists_tableBinding_eq model
  have hplain : ∀ d ∈ c :: "Relations".toList, isAlphanumeric d = true := by
    rcases hc with rfl | rfl <;> exact List.all_eq_true.mp (by decide)
  have hcut : ∀ mode, cutWords mode (c :: "Relations".toList) = [[c], "Relations".toList] := by
    rcases hc with rfl | rfl <;> intro mode <;> cases mode <;> decide
  rw [tableWords, folded, folded, relationsBinding, String.toList_append, htable, List.append_assoc,
    List.singleton_append, words_append hplain hcut, List.map_append]
  rfl

theorem tableModule_ne_of_relations {a : String} (h : tableBinding a = "relations") (b : String) :
    tableModule a ≠ relationsModule b := by
  rw [ne_eq, tableModule_eq_relationsModule_iff]
  intro hwords
  have hlength := congrArg List.length hwords
  have hpositive := List.length_pos_of_ne_nil (tableWords_ne_nil b)
  have hone : (tableWords a).length = 1 := by
    rw [tableWords, h]
    decide
  rw [hone, List.length_append, List.length_singleton] at hlength
  omega

theorem tableModule_eq_of_tableBinding {a b : String} (h : tableBinding a = relationsBinding b) :
    tableModule a = relationsModule b := by
  rw [tableModule_eq_relationsModule_iff, ← tableWords_append_relations, tableWords, h]

end SchemaWriter.Naming
