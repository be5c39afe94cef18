import SchemaWriter.Proofs.Naming.Alias
import SchemaWriter.Text.Basic

namespace SchemaWriter.Naming

open SchemaWriter.Text

theorem isIdentifierPart_of_start {c : Char} (h : isIdentifierStart c = true) :
    isIdentifierPart c = true := by
  simp only [isIdentifierStart, isIdentifierPart, Char.isAlphanum, Bool.or_eq_true] at h ⊢
  tauto

theorem isIdentifier_iff {name : String} : isIdentifier name = true ↔
    ∃ c cs, name.toList = c :: cs ∧ isIdentifierStart c = true ∧
      ∀ d ∈ cs, isIdentifierPart d = true := by
  unfold isIdentifier
  split
  · simp [*]
  · simp [*]

theorem isIdentifierPart_of_mem {name : String} (h : isIdentifier name = true) {c : Char}
    (hc : c ∈ name.toList) : isIdentifierPart c = true := by
  obtain ⟨first, rest, hname, hfirst, hrest⟩ := isIdentifier_iff.mp h
  rw [hname] at hc
  obtain rfl | hc := List.mem_cons.mp hc
  · exact isIdentifierPart_of_start hfirst
  · exact hrest c hc

theorem ascii_of_isIdentifierPart {c : Char} (h : isIdentifierPart c = true) : c.toNat < 128 := by
  unfold isIdentifierPart Char.isAlphanum Char.isAlpha Char.isUpper Char.isLower Char.isDigit at h
  simp only [Bool.or_eq_true, Bool.and_eq_true, decide_eq_true_eq, ge_iff_le,
    UInt32.le_iff_toNat_le] at h
  change ((((65 ≤ c.toNat ∧ c.toNat ≤ 90) ∨ (97 ≤ c.toNat ∧ c.toNat ≤ 122)) ∨
    (48 ≤ c.toNat ∧ c.toNat ≤ 57)) ∨ c = '_') ∨ c = '$' at h
  rcases h with (halphanum | rfl) | rfl
  · omega
  · decide
  · decide

theorem not_isBlank_of_isIdentifierPart {c : Char} (h : isIdentifierPart c = true) :
    isBlank c = false :=
  of_ascii (P := fun c => isIdentifierPart c = true → isBlank c = false) (by decide +kernel)
    (ascii_of_isIdentifierPart h) h

theorem not_isBlankText_of_isIdentifier {name : String} (h : isIdentifier name = true) :
    isBlankText name = false := by
  obtain ⟨c, cs, hname, hc, -⟩ := isIdentifier_iff.mp h
  have hblank := not_isBlank_of_isIdentifierPart (isIdentifierPart_of_start hc)
  simp [isBlankText, hname, hblank]

structure Spellable (cs : List Char) : Prop where
  ascii : Ascii cs
  first : ∀ c ∈ cs.head?, c.isDigit = false

theorem spellable_iff {cs : List Char} : Spellable cs ↔
    (cs.all fun c => c.toNat < 128) = true ∧ (cs.head?.all fun c => !c.isDigit) = true := by
  simp only [List.all_eq_true, decide_eq_true_eq, Option.all_eq_true, Bool.not_eq_true']
  exact ⟨fun h => ⟨h.ascii, h.first⟩, fun ⟨ascii, first⟩ => ⟨ascii, first⟩⟩

-- Decided on the letters themselves, not on every character there is.
instance (cs : List Char) : Decidable (Spellable cs) :=
  decidable_of_iff _ spellable_iff.symm

theorem Spellable.append {cs ds : List Char} (hcs : Spellable cs) (hds : Spellable ds) :
    Spellable (cs ++ ds) where
  ascii := ascii_append.mpr ⟨hcs.ascii, hds.ascii⟩
  first := by
    cases cs with
    | nil => exact hds.first
    | cons c cs => exact hcs.first

theorem Spellable.of_append {cs ds : List Char} (h : Spellable (cs ++ ds)) : Spellable cs where
  ascii := (ascii_append.mp h.ascii).1
  first := by
    cases cs with
    | nil => simp
    | cons c cs => exact h.first

theorem isIdentifier_iff_spellable {name : String} (hplain : Plain name.toList) :
    isIdentifier name = true ↔ name.toList ≠ [] ∧ Spellable name.toList := by
  rw [isIdentifier_iff]
  constructor
  · rintro ⟨c, cs, hname, hc, hcs⟩
    rw [hname]
    refine ⟨List.cons_ne_nil c cs, fun d hd => ?_, ?_⟩
    · exact ascii_of_isIdentifierPart (isIdentifierPart_of_mem (isIdentifier_iff.mpr
        ⟨c, cs, hname, hc, hcs⟩) (hname ▸ hd))
    · rintro _ ⟨⟩
      exact of_ascii (P := fun c => isIdentifierStart c = true → c.isDigit = false)
        (by decide +kernel) (ascii_of_isIdentifierPart (isIdentifierPart_of_start hc)) hc
  · rintro ⟨hne, hspellable⟩
    obtain ⟨c, cs, hname⟩ := List.exists_cons_of_ne_nil hne
    rw [hname] at hplain hspellable
    refine ⟨c, cs, hname, ?_, fun d hd => ?_⟩
    · have hascii := hspellable.ascii c List.mem_cons_self
      exact of_ascii (P := fun c => c.isAlphanum = true → c.isDigit = false →
        isIdentifierStart c = true) (by decide +kernel) hascii
        (hplain c List.mem_cons_self hascii) (hspellable.first c rfl)
    · have halphanum := hplain d (List.mem_cons_of_mem c hd)
        (hspellable.ascii d (List.mem_cons_of_mem c hd))
      simp [isIdentifierPart, halphanum]

theorem spellable_of_y_mem_lowerChar {c : Char} (h : 'y' ∈ lowerChar c) : Spellable [c] := by
  rcases ascii_of_mem_lowerChar h (by decide) with ⟨hc, hy⟩ | hy | hy
  · refine ⟨fun d hd => List.mem_singleton.mp hd ▸ hc, ?_⟩
    rintro _ ⟨⟩
    exact of_ascii (P := fun c => 'y' = c.toLower → c.isDigit = false) (by decide +kernel) hc hy
  · exact absurd hy (by decide)
  · exact absurd hy (by decide)

theorem PluralEnding.ofReversed_eq_ies {cs : List Char} (h : ofReversed cs = .ies) :
    cs.head? = some 'y' := by
  unfold ofReversed at h
  split at h <;> first | rfl | cases h

theorem spellable_pluralize_iff {word : List Char} :
    Spellable (pluralize word) ↔ Spellable word := by
  have hending : ∀ ending ∈ [['e', 's'], ['i', 'e', 's'], ['s']], Spellable ending := by decide
  unfold pluralize
  split
  · rfl
  · exact ⟨Spellable.of_append, fun h => h.append (hending _ (by simp))⟩
  · rename_i hof
    have hlast := PluralEnding.ofReversed_eq_ies hof
    rw [List.head?_reverse] at hlast
    rcases List.eq_nil_or_concat word with rfl | ⟨front, c, rfl⟩
    · cases hlast
    · rw [List.concat_eq_append, List.flatMap_append, List.flatMap_singleton,
        List.getLast?_append_of_ne_nil _ (lowerChar_ne_nil c)] at hlast
      have hc := spellable_of_y_mem_lowerChar (List.mem_of_getLast? hlast)
      rw [List.concat_eq_append, List.dropLast_concat]
      exact ⟨fun h => h.of_append.append hc, fun h => h.of_append.append (hending _ (by simp))⟩
  · exact ⟨Spellable.of_append, fun h => h.append (hending _ (by simp))⟩

theorem ascii_lowerCamel {name : List Char} (h : Ascii name) : Ascii (lowerCamel name) := by
  intro d hd
  obtain ⟨c, hc, -, hbecomes⟩ := becomes_of_mem_lowerCamel hd
  exact hbecomes.ascii (h c hc)

theorem head?_lowerCamel {name : List Char} (h : Ascii name) :
    (lowerCamel name).head? = ((name.filter isAlphanumeric).head?).map Char.toLower := by
  rw [← flatten_words]
  unfold lowerCamel
  cases hname : words name with
  | nil => rfl
  | cons first rest =>
    have hfirst : first ∈ words name := by simp [hname]
    have hne : first ≠ [] := fun hnil => nil_not_mem_words name (hnil ▸ hfirst)
    obtain ⟨c, cs, rfl⟩ := List.exists_cons_of_ne_nil hne
    simp [lowerWord_of_ascii (h.of_mem_words hfirst)]

theorem spellable_lowerCamel_iff {name : List Char} (h : Ascii name) :
    Spellable (lowerCamel name) ↔ ∀ c ∈ (name.filter isAlphanumeric).head?, c.isDigit = false := by
  have hfirst : (∀ c ∈ (lowerCamel name).head?, c.isDigit = false) ↔
      ∀ c ∈ (name.filter isAlphanumeric).head?, c.isDigit = false := by
    rw [head?_lowerCamel h]
    cases hc : (name.filter isAlphanumeric).head? with
    | none => simp
    | some c =>
      have hmem := List.mem_of_mem_filter (List.mem_of_head? hc)
      simp [(asciiCase (h c hmem)).lower_isDigit]
  rw [← hfirst]
  exact ⟨Spellable.first, fun hfirst => ⟨ascii_lowerCamel h, hfirst⟩⟩

theorem lowerCamel_cons {c : Char} (hc : isAlphanumeric c = false) (cs : List Char) :
    lowerCamel (c :: cs) = lowerCamel cs := by
  have hwords : words (c :: cs) = words cs := words_append_cons hc [] cs
  rw [lowerCamel, hwords, lowerCamel]

theorem toList_tableBinding (model : String) :
    (tableBinding model).toList = pluralize (lowerCamel model.toList) :=
  String.toList_ofList

theorem isIdentifier_tableBinding_iff {model : String} :
    isIdentifier (tableBinding model) = true ↔ Spellable (lowerCamel model.toList) := by
  have hne : (tableBinding model).toList ≠ [] := by
    obtain ⟨front, c, htable, -⟩ := exists_tableBinding_eq model
    simp [htable]
  rw [isIdentifier_iff_spellable (plain_tableBinding model), toList_tableBinding,
    spellable_pluralize_iff, ← toList_tableBinding]
  exact and_iff_right hne

theorem isIdentifier_append {front back : String} (hfront : isIdentifier front = true)
    (hback : ∀ c ∈ back.toList, isIdentifierPart c = true) :
    isIdentifier (front ++ back) = true := by
  obtain ⟨c, cs, hname, hc, hcs⟩ := isIdentifier_iff.mp hfront
  refine isIdentifier_iff.mpr ⟨c, cs ++ back.toList, by simp [hname], hc, fun d hd => ?_⟩
  exact (List.mem_append.mp hd).elim (hcs d) (hback d)

theorem isIdentifier_relationsBinding {model : String}
    (h : isIdentifier (tableBinding model) = true) : isIdentifier (relationsBinding model) = true :=
  isIdentifier_append h (List.all_eq_true.mp (by decide))

theorem isIdentifier_enumBinding {name : String} (h : Spellable (lowerCamel name.toList)) :
    isIdentifier (enumBinding name) = true := by
  have hsuffix : Spellable "Enum".toList := by decide
  rw [isIdentifier_iff_spellable (plain_enumBinding name), toList_enumBinding]
  exact ⟨by simp, h.append hsuffix⟩

theorem spellable_lowerCamel {name : List Char} (hplain : Plain name) (h : Spellable name) :
    Spellable (lowerCamel name) := by
  have hfilter : name.filter isAlphanumeric = name := List.filter_eq_self.mpr fun c hc => by
    rw [isAlphanumeric_of_ascii (h.ascii c hc)]
    exact hplain c hc (h.ascii c hc)
  rw [spellable_lowerCamel_iff h.ascii, hfilter]
  exact h.first

theorem isIdentifier_moduleAlias {module : String}
    (hlast : last? module = some 's' ∨ last? module = some 'm')
    (h : Spellable (moduleAlias module).toList) : isIdentifier (moduleAlias module) = true := by
  have hplain : Plain (moduleAlias module).toList := by
    rw [moduleAlias, onChars, String.toList_ofList]
    exact plain_lowerCamel module.toList
  have hne : (moduleAlias module).toList ≠ [] := by
    intro hnil
    have hnone : last? (moduleAlias module) = none := by rw [last?, hnil]; rfl
    rcases hlast with hlast | hlast
    · simpa [hnone] using last?_moduleAlias_of_s hlast
    · simpa [hnone] using last?_moduleAlias_of_m hlast
  exact (isIdentifier_iff_spellable hplain).mpr ⟨hne, h⟩

theorem toList_moduleAlias_of_words {module : String} {ws : List (List Char)}
    (hsmall : ∀ w ∈ ws, Small w) (hmodule : module.toList = ['-'].intercalate ws) :
    (moduleAlias module).toList = camel ws := by
  have hwords : words module.toList = ws := by
    rw [hmodule, words_intercalate hsmall]
  rw [toList_moduleAlias (hwords ▸ hsmall), hwords]

theorem camel_append {ws : List (List Char)} (h : ws ≠ []) (vs : List (List Char)) :
    camel (ws ++ vs) = camel ws ++ vs.flatMap capitalWord := by
  obtain ⟨first, rest, rfl⟩ := List.exists_cons_of_ne_nil h
  simp [camel]

theorem isIdentifier_moduleAlias_enumModule {enum : String} (hascii : Ascii enum.toList)
    (h : Spellable (lowerCamel enum.toList)) :
    isIdentifier (moduleAlias (enumModule enum)) = true := by
  have hsuffix : Spellable "Enum".toList := by decide
  have halone : Spellable "enum".toList := by decide
  refine isIdentifier_moduleAlias (.inr (last?_enumModule enum)) ?_
  rw [toList_moduleAlias_enumModule hascii, toList_enumBinding]
  split
  · exact halone
  · exact h.append hsuffix

section

variable {model : String} (h : isIdentifier (tableBinding model) = true)
include h

theorem spellable_tableBinding : Spellable (tableBinding model).toList :=
  ((isIdentifier_iff_spellable (plain_tableBinding model)).mp h).2

theorem small_of_mem_tableWords : ∀ w ∈ tableWords model, Small w :=
  fun _ => small_of_mem_folded (spellable_tableBinding h).ascii

theorem spellable_camel_tableWords : Spellable (camel (tableWords model)) := by
  have hspellable := spellable_tableBinding h
  rw [tableWords, camel_folded hspellable.ascii]
  exact spellable_lowerCamel (plain_tableBinding model) hspellable

theorem isIdentifier_moduleAlias_tableModule :
    isIdentifier (moduleAlias (tableModule model)) = true := by
  refine isIdentifier_moduleAlias (.inl (last?_tableModule model)) ?_
  rw [toList_moduleAlias_of_words (small_of_mem_tableWords h) (toList_tableModule model)]
  exact spellable_camel_tableWords h

theorem isIdentifier_moduleAlias_relationsModule :
    isIdentifier (moduleAlias (relationsModule model)) = true := by
  have hsuffix : Spellable (["relations".toList].flatMap capitalWord) := by decide
  have hsmall : ∀ w ∈ tableWords model ++ ["relations".toList], Small w :=
    List.forall_mem_append.mpr ⟨small_of_mem_tableWords h,
      List.forall_mem_singleton.mpr (small_of_all (by decide) (by decide))⟩
  refine isIdentifier_moduleAlias (.inl (last?_relationsModule model)) ?_
  rw [toList_moduleAlias_of_words hsmall (toList_relationsModule model),
    camel_append (tableWords_ne_nil model)]
  exact (spellable_camel_tableWords h).append hsuffix

end

def isPlainName (name : String) : Bool :=
  match name.toList with
  | [] => false
  | c :: cs => c.isAlpha && cs.all fun d => d.isAlphanum || d = '_'

theorem isIdentifier_of_isPlainName {name : String} (h : isPlainName name = true) :
    isIdentifier name = true := by
  unfold isPlainName at h
  split at h
  · cases h
  · rename_i c cs hname
    simp only [Bool.and_eq_true, List.all_eq_true, Bool.or_eq_true, decide_eq_true_eq] at h
    refine isIdentifier_iff.mpr ⟨c, cs, hname, by simp [isIdentifierStart, h.1], fun d hd => ?_⟩
    rcases h.2 d hd with hd | hd <;> simp [isIdentifierPart, hd]

theorem ascii_of_isIdentifier {name : String} (h : isIdentifier name = true) : Ascii name.toList :=
  fun _ hc => ascii_of_isIdentifierPart (isIdentifierPart_of_mem h hc)

theorem spellable_lowerCamel_of_isPlainName {name : String} (h : isPlainName name = true) :
    Spellable (lowerCamel name.toList) := by
  have hascii := ascii_of_isIdentifier (isIdentifier_of_isPlainName h)
  rw [spellable_lowerCamel_iff hascii]
  unfold isPlainName at h
  split at h
  · cases h
  · rename_i c cs hname
    rw [Bool.and_eq_true] at h
    rw [hname] at hascii ⊢
    have hc := of_ascii (P := fun c => c.isAlpha = true →
      isAlphanumeric c = true ∧ c.isDigit = false) (by decide +kernel)
      (hascii c List.mem_cons_self) h.1
    simp [hc]

end SchemaWriter.Naming
