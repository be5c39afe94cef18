import Mathlib.Data.List.Flatten
import SchemaWriter.Proofs.Naming.Identifiers

namespace SchemaWriter.Naming

open SchemaWriter.Text

/-- Whether a capital stands right behind another, digits aside, and before no lower case letter, so
that it begins no word. The list may continue a text that ends in a capital and digits. -/
def crowded : Bool → List Char → Bool
  | _, [] => false
  | behind, c :: rest =>
    if c.isUpper then (behind && !rest.head?.any Char.isLower) || crowded true rest
    else crowded (behind && c.isDigit) rest

theorem kind_of_alphanum {c : Char} (hascii : c.toNat < 128) (hc : c.isAlphanum = true) :
    (c.isUpper = true ∧ c.isLower = false ∧ c.isDigit = false) ∨
      (c.isUpper = false ∧ c.isLower = true ∧ c.isDigit = false) ∨
      (c.isUpper = false ∧ c.isLower = false ∧ c.isDigit = true) :=
  of_ascii (P := fun c => c.isAlphanum = true →
    (c.isUpper = true ∧ c.isLower = false ∧ c.isDigit = false) ∨
      (c.isUpper = false ∧ c.isLower = true ∧ c.isDigit = false) ∨
      (c.isUpper = false ∧ c.isLower = false ∧ c.isDigit = true)) (by decide +kernel) hascii hc

/-- Whether a word has a capital that is not its first character. The first piece may continue a
word that has begun before. -/
def hidesCapital : Bool → List (List Char) → Bool
  | _, [] => false
  | begun, word :: rest =>
    (if begun then word else word.tail).any Char.isUpper || hidesCapital false rest

theorem hidesCapital_false (pieces : List (List Char)) :
    hidesCapital false pieces = pieces.any fun word => word.tail.any Char.isUpper := by
  induction pieces with
  | nil => rfl
  | cons word rest ih => rw [hidesCapital, ih, List.any_cons]; rfl

theorem hidesCapital_attach {pieces : List (List Char)} (h : pieces ≠ []) (begun : Bool)
    (c : Char) :
    hidesCapital begun (attach c pieces) = (begun && c.isUpper || hidesCapital true pieces) := by
  obtain ⟨word, rest, rfl⟩ := List.exists_cons_of_ne_nil h
  cases begun <;> simp [attach, hidesCapital, Bool.or_assoc]

theorem hidesCapital_of_not_isUpper {c : Char} (hc : c.isUpper = false) (rest : List Char) :
    hidesCapital true (cutWords .boundary (c :: rest)) =
      hidesCapital false (cutWords .boundary (c :: rest)) := by
  obtain ⟨word, pieces, hcut⟩ := exists_cutWords_cons c rest
  simp [hcut, hidesCapital, hc]

theorem hidesCapital_cutWords (mode : Mode) {cs : List Char}
    (hcs : ∀ c ∈ cs, c.toNat < 128 ∧ c.isAlphanum = true)
    (hlower : mode = .lower → ∀ c ∈ cs.head?, c.isUpper = false)
    (hboundary : mode = .boundary → ∀ c ∈ cs.head?, c.isDigit = false) :
    hidesCapital (mode ≠ .boundary) (cutWords mode cs) = crowded (mode = .upper) cs := by
  fun_induction cutWords mode cs with
  | case1 => rfl
  | case2 mode c => cases mode <;> simp_all [hidesCapital, crowded]
  | case3 mode c next rest hcut ih =>
    obtain ⟨⟨hc, hc'⟩, hcs⟩ := List.forall_mem_cons.mp hcs
    obtain ⟨⟨hnext, hnext'⟩, -⟩ := List.forall_mem_cons.mp hcs
    have hkind := kind_of_alphanum hnext hnext'
    simp only [Mode.after, isLowercase_of_ascii hc, isUppercase_of_ascii hc,
      isUppercase_of_ascii hnext, Bool.and_eq_true, decide_eq_true_eq] at hcut
    have hrest := ih hcs (by simp) (by simp_all)
    rcases kind_of_alphanum hc hc' with hc | hc | hc <;> cases mode <;>
      simp_all [hidesCapital, crowded]
  | case4 mode c next rest _ hcut ih =>
    obtain ⟨⟨hc, hc'⟩, hcs⟩ := List.forall_mem_cons.mp hcs
    obtain ⟨⟨hnext, hnext'⟩, -⟩ := List.forall_mem_cons.mp hcs
    have hkind := kind_of_alphanum hnext hnext'
    simp only [isUppercase_of_ascii hc, isLowercase_of_ascii hnext, Bool.and_eq_true,
      decide_eq_true_eq] at hcut
    have hpieces : cutWords .boundary (next :: rest) ≠ [] := cutWords_ne_nil (List.cons_ne_nil _ _)
    have hrest := ih hcs (by simp) (by simp_all)
    have hbegun := hidesCapital_of_not_isUpper (c := next) (by simp_all) rest
    simp_all [hidesCapital, hidesCapital_attach, crowded]
  | case5 mode c next rest hcut hcut' ih =>
    obtain ⟨⟨hc, hc'⟩, hcs⟩ := List.forall_mem_cons.mp hcs
    obtain ⟨⟨hnext, -⟩, -⟩ := List.forall_mem_cons.mp hcs
    have hrest := ih hcs
    -- No word begins behind `c`, which therefore joins the first piece of the rest.
    rw [hidesCapital_attach (cutWords_ne_nil (List.cons_ne_nil next rest))]
    simp only [Mode.after, isLowercase_of_ascii hc, isUppercase_of_ascii hc,
      isLowercase_of_ascii hnext, isUppercase_of_ascii hnext] at hcut hcut' hrest ⊢
    rcases kind_of_alphanum hc hc' with hc | hc | hc <;> cases mode <;> simp_all [crowded]

theorem lowerWord_eq_self_iff {word : List Char} (h : Ascii word) :
    lowerWord word = word ↔ word.any Char.isUpper = false := by
  rw [lowerWord_of_ascii h]
  induction word with
  | nil => simp
  | cons c cs ih =>
    obtain ⟨hc, hcs⟩ := List.forall_mem_cons.mp h
    have hself : c.toLower = c ↔ c.isUpper = false :=
      of_ascii (P := fun c => c.toLower = c ↔ c.isUpper = false) (by decide +kernel) hc
    rw [List.map_cons, List.cons.injEq, ih hcs, hself, List.any_cons, Bool.or_eq_false_iff]

theorem capitalWord_eq_self_iff {word : List Char} (h : Ascii word)
    (hcapital : ∃ c cs, word = c :: cs ∧ isUppercase c = true) :
    capitalWord word = word ↔ word.tail.any Char.isUpper = false := by
  obtain ⟨c, cs, rfl, hc⟩ := hcapital
  obtain ⟨hascii, hcs⟩ := List.forall_mem_cons.mp h
  have hself : c.toUpper = c :=
    of_ascii (P := fun c => c.isUpper = true → c.toUpper = c) (by decide +kernel) hascii
      (isUppercase_of_ascii hascii ▸ hc)
  rw [capitalWord_of_ascii h, ← lowerWord_of_ascii hcs, hself, List.cons.injEq,
    lowerWord_eq_self_iff hcs]
  exact and_iff_right rfl

theorem length_capitalWord {word : List Char} (h : Ascii word) :
    (capitalWord word).length = word.length := by
  cases word with
  | nil => rfl
  | cons c cs => simp [capitalWord_of_ascii h]

theorem respelled_eq_iff {first : List Char} {rest : List (List Char)} (hfirst : Ascii first)
    (hrest : ∀ word ∈ rest, Ascii word)
    (hcapital : ∀ word ∈ rest, ∃ c cs, word = c :: cs ∧ isUppercase c = true) :
    lowerWord first ++ rest.flatMap capitalWord = first ++ rest.flatten ↔
      hidesCapital true (first :: rest) = false := by
  have hlength : (lowerWord first).length = first.length := by
    rw [lowerWord_of_ascii hfirst, List.length_map]
  have hwords : rest.flatMap capitalWord = rest.flatten ↔ hidesCapital false rest = false := by
    rw [flatMap_eq_flatten_iff fun word hword => length_capitalWord (hrest word hword),
      hidesCapital_false, List.any_eq_false]
    refine forall₂_congr fun word hword => ?_
    rw [capitalWord_eq_self_iff (hrest word hword) (hcapital word hword), Bool.not_eq_true]
  rw [hidesCapital, Bool.or_eq_false_iff, ← hwords, if_pos rfl, ← lowerWord_eq_self_iff hfirst]
  exact ⟨fun h => List.append_inj h hlength, fun ⟨hword, h⟩ => by rw [hword, h]⟩

theorem lowerCamel_eq_self_iff {c : Char} {cs : List Char}
    (h : ∀ d ∈ c :: cs, d.toNat < 128 ∧ d.isAlphanum = true) (hc : c.isLower = true) :
    lowerCamel (c :: cs) = c :: cs ↔ crowded false (c :: cs) = false := by
  have hascii : Ascii (c :: cs) := fun d hd => (h d hd).1
  have hsplit : splitWhere (fun c => !isAlphanumeric c) (c :: cs) = [c :: cs] :=
    splitWhere_eq_singleton fun d hd => by simp [isAlphanumeric_of_ascii (h d hd).1, (h d hd).2]
  have hwords : words (c :: cs) = cutWords .boundary (c :: cs) := by
    rw [words, hsplit, List.flatMap_singleton]
  have hkind := kind_of_alphanum (h c List.mem_cons_self).1 (h c List.mem_cons_self).2
  have hbegun := hidesCapital_of_not_isUpper (c := c) (by simp_all) cs
  have hcrowded := hidesCapital_cutWords .boundary h (by simp) (by simp_all)
  have hflat := flatten_cutWords .boundary (c :: cs)
  obtain ⟨word, rest, hcut⟩ := exists_cutWords_cons c cs
  have hmem : ∀ w ∈ (c :: word) :: rest, Ascii w := by
    rw [← hcut, ← hwords]
    exact fun _ => hascii.of_mem_words
  obtain ⟨hfirst, hrest⟩ := List.forall_mem_cons.mp hmem
  have hcapital : ∀ w ∈ rest, ∃ d ds, w = d :: ds ∧ isUppercase d = true := by
    intro w hw
    have htail : w ∈ (cutWords .boundary (c :: cs)).tail := by rwa [hcut]
    exact capital_of_mem_cutWords htail
  calc lowerCamel (c :: cs) = c :: cs
    _ ↔ lowerWord (c :: word) ++ rest.flatMap capitalWord = (c :: word) ++ rest.flatten := by
      rw [← List.flatten_cons, ← hcut, hflat, lowerCamel, hwords, hcut]
    _ ↔ hidesCapital true ((c :: word) :: rest) = false := respelled_eq_iff hfirst hrest hcapital
    _ ↔ crowded false (c :: cs) = false := by
      rw [← hcut, hbegun]
      exact Eq.congr_left hcrowded

def keepsCapitals (model : String) : Bool :=
  !crowded false (tableBinding model).toList

theorem first_pluralize {word : List Char} (h : ∀ c ∈ word.head?, c.isLower = true) :
    ∀ c ∈ (pluralize word).head?, c.isLower = true := by
  have happend : ∀ front ending : List Char, (∀ c ∈ front.head?, c.isLower = true) →
      (∀ c ∈ ending.head?, c.isLower = true) →
      ∀ c ∈ (front ++ ending).head?, c.isLower = true := by
    intro front ending hfront hending
    cases front with
    | nil => exact hending
    | cons c front => exact hfront
  unfold pluralize
  split
  · exact h
  · exact happend _ _ h (by simp)
  · refine happend _ _ (fun c hc => ?_) (by simp)
    rw [List.head?_dropLast] at hc
    split at hc
    · exact h c hc
    · cases hc
  · exact happend _ _ h (by simp)

section

variable {name : String} (h : isPlainName name = true)
include h

theorem exists_cons_of_isPlainName : ∃ c cs, name.toList = c :: cs ∧ c.isAlpha = true := by
  unfold isPlainName at h
  split at h
  · cases h
  · rename_i c cs hname
    exact ⟨c, cs, hname, (Bool.and_eq_true_iff.mp h).1⟩

theorem ascii_of_isPlainName : Ascii name.toList :=
  ascii_of_isIdentifier (isIdentifier_of_isPlainName h)

theorem first_tableBinding : ∀ c ∈ (tableBinding name).toList.head?, c.isLower = true := by
  obtain ⟨c, cs, hname, hc⟩ := exists_cons_of_isPlainName h
  have hascii := ascii_of_isPlainName h
  rw [toList_tableBinding]
  refine first_pluralize ?_
  rw [head?_lowerCamel hascii]
  rw [hname] at hascii ⊢
  have hfirst := of_ascii (P := fun c => c.isAlpha = true →
    isAlphanumeric c = true ∧ c.toLower.isLower = true) (by decide +kernel)
    (hascii c List.mem_cons_self) hc
  simp [hfirst]

theorem isIdentifier_tableBinding : isIdentifier (tableBinding name) = true :=
  isIdentifier_tableBinding_iff.mpr (spellable_lowerCamel_of_isPlainName h)

theorem toList_moduleAlias_tableModule :
    (moduleAlias (tableModule name)).toList = lowerCamel (tableBinding name).toList := by
  rw [toList_moduleAlias_of_words (small_of_mem_tableWords (isIdentifier_tableBinding h))
    (toList_tableModule name), tableWords,
    camel_folded (ascii_tableBinding (ascii_of_isPlainName h))]

theorem moduleAlias_tableModule_eq_iff :
    moduleAlias (tableModule name) = tableBinding name ↔ keepsCapitals name = true := by
  have hascii := ascii_tableBinding (ascii_of_isPlainName h)
  have hfirst := first_tableBinding h
  have halpha : ∀ c ∈ (tableBinding name).toList, c.toNat < 128 ∧ c.isAlphanum = true :=
    fun c hc => ⟨hascii c hc, plain_tableBinding name c hc (hascii c hc)⟩
  rw [← String.toList_inj, toList_moduleAlias_tableModule h, keepsCapitals, Bool.not_eq_true']
  obtain ⟨front, last, htable, -⟩ := exists_tableBinding_eq name
  obtain ⟨c, cs, hcons⟩ := List.exists_cons_of_ne_nil (l := (tableBinding name).toList)
    (by simp [htable])
  rw [hcons] at hfirst halpha ⊢
  exact lowerCamel_eq_self_iff halpha (hfirst c rfl)

theorem moduleAlias_relationsModule :
    moduleAlias (relationsModule name) = moduleAlias (tableModule name) ++ "Relations" := by
  have hsmall := small_of_mem_tableWords (isIdentifier_tableBinding h)
  have hall : ∀ w ∈ tableWords name ++ ["relations".toList], Small w :=
    List.forall_mem_append.mpr ⟨hsmall,
      List.forall_mem_singleton.mpr (small_of_all (by decide) (by decide))⟩
  have hcapital : ["relations".toList].flatMap capitalWord = "Relations".toList := by decide
  rw [← String.toList_inj, String.toList_append,
    toList_moduleAlias_of_words hall (toList_relationsModule name),
    toList_moduleAlias_of_words hsmall (toList_tableModule name),
    camel_append (tableWords_ne_nil name), hcapital]

theorem moduleAlias_enumModule : moduleAlias (enumModule name) = enumBinding name := by
  obtain ⟨c, cs, hname, hc⟩ := exists_cons_of_isPlainName h
  have hascii := ascii_of_isPlainName h
  have hmem : c ∈ name.toList := by simp [hname]
  have halpha : isAlphanumeric c = true :=
    of_ascii (P := fun c => c.isAlpha = true → isAlphanumeric c = true) (by decide +kernel)
      (hascii c hmem) hc
  have hfolded : folded name.toList ≠ [] := by
    rw [folded, ne_eq, List.map_eq_nil_iff]
    exact words_ne_nil hmem halpha
  rw [← String.toList_inj, toList_moduleAlias_enumModule hascii, if_neg hfolded]

theorem moduleAlias_eq_binding_iff :
    (moduleAlias (tableModule name) = tableBinding name ↔ keepsCapitals name = true) ∧
    (moduleAlias (relationsModule name) = relationsBinding name ↔ keepsCapitals name = true) ∧
    moduleAlias (enumModule name) = enumBinding name ∧
    ∀ other, isPlainName other = true → keepsCapitals name = true → keepsCapitals other = true →
      tableBinding name ≠ tableBinding other → tableModule name ≠ tableModule other := by
  refine ⟨moduleAlias_tableModule_eq_iff h, ?_, moduleAlias_enumModule h, ?_⟩
  · rw [moduleAlias_relationsModule h, relationsBinding, String.append_left_inj]
    exact moduleAlias_tableModule_eq_iff h
  · intro other hother hkeeps hkeeps' hne hmodule
    refine hne ?_
    rw [← (moduleAlias_tableModule_eq_iff h).mpr hkeeps, hmodule]
    exact (moduleAlias_tableModule_eq_iff hother).mpr hkeeps'

end

theorem moduleAlias_eq_binding_apiKey : isPlainName "APIKey_v2" = true ∧
    isPlainName "X1_Log" = true ∧
    moduleAlias (tableModule "APIKey_v2") = tableBinding "APIKey_v2" ∧
    moduleAlias (relationsModule "APIKey_v2") = relationsBinding "APIKey_v2" ∧
    moduleAlias (enumModule "APIKey_v2") = enumBinding "APIKey_v2" ∧
    tableModule "APIKey_v2" ≠ tableModule "X1_Log" := by
  have hname : isPlainName "APIKey_v2" = true := by decide
  have hother : isPlainName "X1_Log" = true := by decide
  have hkeeps : keepsCapitals "APIKey_v2" = true := by decide
  have hkeeps' : keepsCapitals "X1_Log" = true := by decide
  obtain ⟨htable, hrelations, henum, hmodule⟩ := moduleAlias_eq_binding_iff hname
  exact ⟨hname, hother, htable.mpr hkeeps, hrelations.mpr hkeeps, henum,
    hmodule "X1_Log" hother hkeeps hkeeps' (by decide)⟩

theorem moduleAlias_ne_binding : isPlainName "A_bs" = true ∧ isPlainName "A_b_s" = true ∧
    moduleAlias (tableModule "A_b_s") ≠ tableBinding "A_b_s" ∧
    moduleAlias (relationsModule "A_b_s") ≠ relationsBinding "A_b_s" ∧
    tableBinding "A_bs" ≠ tableBinding "A_b_s" ∧ tableModule "A_bs" = tableModule "A_b_s" := by
  decide

end SchemaWriter.Naming
