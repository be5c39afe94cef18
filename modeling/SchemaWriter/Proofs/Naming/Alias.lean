import SchemaWriter.Proofs.Naming.Names

namespace SchemaWriter.Naming

open SchemaWriter.Text

def Ascii (cs : List Char) : Prop :=
  ∀ c ∈ cs, c.toNat < 128

theorem ascii_of_all {cs : List Char} (h : (cs.all fun c => c.toNat < 128) = true) : Ascii cs :=
  fun c hc => of_decide_eq_true (List.all_eq_true.mp h c hc)

theorem ascii_append {cs ds : List Char} : Ascii (cs ++ ds) ↔ Ascii cs ∧ Ascii ds := by
  simp only [Ascii, List.mem_append, or_imp, forall_and]

theorem Ascii.of_mem_words {name word : List Char} (h : Ascii name) (hword : word ∈ words name) :
    Ascii word :=
  fun c hc => h c (mem_of_mem_words hword hc).1

theorem lowerWord_of_ascii {word : List Char} (h : Ascii word) :
    lowerWord word = word.map Char.toLower := by
  fun_induction lowerWord word with
  | case1 => rfl
  | case2 => exact absurd (h 'Σ' List.mem_cons_self) (by decide)
  | case3 c cs _ ih =>
    have hrest := ih fun d hd => h d (List.mem_cons_of_mem c hd)
    simp [lowerChar_of_ascii (h c List.mem_cons_self), hrest]

theorem capitalWord_of_ascii {c : Char} {cs : List Char} (h : Ascii (c :: cs)) :
    capitalWord (c :: cs) = c.toUpper :: cs.map Char.toLower := by
  have hrest := lowerWord_of_ascii fun d hd => h d (List.mem_cons_of_mem c hd)
  simp [capitalWord, upperChar_of_ascii (h c List.mem_cons_self), hrest]

theorem Becomes.ascii {c d : Char} (h : Becomes c d) (hc : c.toNat < 128) : d.toNat < 128 := by
  rcases h with h | h | ⟨rfl, -⟩
  · rw [lowerChar_of_ascii hc, List.mem_singleton] at h
    exact h ▸ (asciiCase hc).lower_ascii
  · rw [upperChar_of_ascii hc, List.mem_singleton] at h
    exact h ▸ (asciiCase hc).upper_ascii
  · exact absurd hc (by decide)

theorem ascii_lowerWord {word : List Char} (h : Ascii word) : Ascii (lowerWord word) := by
  intro d hd
  obtain ⟨c, hc, hbecomes⟩ := becomes_of_mem_lowerWord hd
  exact hbecomes.ascii (h c hc)

theorem ascii_tableBinding {model : String} (h : Ascii model.toList) :
    Ascii (tableBinding model).toList := by
  have hsuffix : Ascii ['i', 'e', 's'] := ascii_of_all (by decide)
  intro d hd
  rcases mem_tableBinding hd with hd | hd
  · obtain ⟨c, hc, -, hbecomes⟩ := becomes_of_mem_lowerCamel hd
    exact hbecomes.ascii (h c hc)
  · exact hsuffix d hd

structure Small (word : List Char) : Prop where
  nonempty : word ≠ []
  ascii : Ascii word
  alphanumeric : ∀ c ∈ word, isAlphanumeric c = true
  lower : ∀ c ∈ word, c.isUpper = false

theorem small_of_all {word : List Char} (hne : word ≠ [])
    (h : (word.all fun c => c.toNat < 128 && isAlphanumeric c && !c.isUpper) = true) :
    Small word := by
  simp only [List.all_eq_true, Bool.and_eq_true, Bool.not_eq_true', decide_eq_true_eq] at h
  exact ⟨hne, fun c hc => (h c hc).1.1, fun c hc => (h c hc).1.2, fun c hc => (h c hc).2⟩

theorem small_lowerWord {word : List Char} (hne : word ≠ []) (hascii : Ascii word)
    (halpha : ∀ c ∈ word, isAlphanumeric c = true) : Small (lowerWord word) where
  nonempty := lowerWord_ne_nil hne
  ascii := ascii_lowerWord hascii
  alphanumeric := by
    rw [lowerWord_of_ascii hascii]
    intro d hd
    obtain ⟨c, hc, rfl⟩ := List.mem_map.mp hd
    have hcase := asciiCase (hascii c hc)
    rw [isAlphanumeric_of_ascii hcase.lower_ascii]
    exact hcase.lower_alphanum (isAlphanumeric_of_ascii (hascii c hc) ▸ halpha c hc)
  lower := by
    rw [lowerWord_of_ascii hascii]
    intro d hd
    obtain ⟨c, hc, rfl⟩ := List.mem_map.mp hd
    exact (asciiCase (hascii c hc)).lower_isUpper

theorem small_of_mem_folded {name word : List Char} (h : Ascii name) (hword : word ∈ folded name) :
    Small word := by
  obtain ⟨w, hw, rfl⟩ := List.mem_map.mp hword
  have hne : w ≠ [] := fun hnil => nil_not_mem_words name (hnil ▸ hw)
  exact small_lowerWord hne (h.of_mem_words hw) fun c hc => (mem_of_mem_words hw hc).2

namespace Small

variable {word : List Char} (h : Small word)
include h

theorem map_toLower : word.map Char.toLower = word := by
  refine (List.map_congr_left fun c hc => ?_).trans (List.map_id word)
  exact (asciiCase (h.ascii c hc)).lower_of_not_isUpper (h.lower c hc)

theorem lowerWord_eq : lowerWord word = word := by
  rw [lowerWord_of_ascii h.ascii, h.map_toLower]

theorem not_isUppercase {c : Char} (hc : c ∈ word) : isUppercase c = false := by
  rw [isUppercase_of_ascii (h.ascii c hc)]
  exact h.lower c hc

end Small

theorem cutWords_eq_singleton {cs : List Char} (hne : cs ≠ [])
    (h : ∀ c ∈ cs, isUppercase c = false) (mode : Mode) : cutWords mode cs = [cs] := by
  fun_induction cutWords mode cs with
  | case1 => exact absurd rfl hne
  | case2 => rfl
  | case3 mode c next rest hcut =>
    simp [h next (by simp)] at hcut
  | case4 mode c next rest _ hcut =>
    simp [h c List.mem_cons_self] at hcut
  | case5 mode c next rest _ _ ih =>
    rw [ih (by simp) fun d hd => h d (List.mem_cons_of_mem c hd)]
    rfl

theorem Small.words_eq {word : List Char} (h : Small word) : words word = [word] := by
  have hsplit : splitWhere (fun c => !isAlphanumeric c) word = [word] :=
    splitWhere_eq_singleton fun c hc => by simp [h.alphanumeric c hc]
  rw [words, hsplit, List.flatMap_singleton,
    cutWords_eq_singleton h.nonempty (fun c => h.not_isUppercase)]

theorem words_intercalate {ws : List (List Char)} (h : ∀ w ∈ ws, Small w) :
    words (['-'].intercalate ws) = ws := by
  induction ws with
  | nil => rfl
  | cons w ws ih =>
    have hw := (h w List.mem_cons_self).words_eq
    cases ws with
    | nil => simpa using hw
    | cons v ws =>
      have hrest := ih fun u hu => h u (List.mem_cons_of_mem w hu)
      rw [List.intercalate_cons_cons, List.append_assoc, List.singleton_append,
        words_append_cons (by decide), hw, hrest]
      rfl

theorem words_kebab {name : List Char} (h : Ascii name) : words (kebab name) = folded name := by
  rw [kebab_eq_intercalate, words_intercalate fun w => small_of_mem_folded h]

def camel : List (List Char) → List Char
  | [] => []
  | first :: rest => first ++ rest.flatMap capitalWord

theorem lowerCamel_eq_camel {name : List Char} (h : ∀ w ∈ words name, Small w) :
    lowerCamel name = camel (words name) := by
  unfold lowerCamel camel
  cases hname : words name with
  | nil => rfl
  | cons first rest =>
    rw [hname] at h
    simp only [(h first List.mem_cons_self).lowerWord_eq]

theorem camel_folded {name : List Char} (h : Ascii name) :
    camel (folded name) = lowerCamel name := by
  have hwords : ∀ word ∈ words name, Ascii word := fun _ => h.of_mem_words
  have hcapital : ∀ word ∈ words name, capitalWord (lowerWord word) = capitalWord word := by
    intro word hword
    have hascii := hwords word hword
    cases word with
    | nil => rfl
    | cons c cs =>
      have hcs : Ascii cs := fun d hd => hascii d (List.mem_cons_of_mem c hd)
      have hc := (asciiCase (hascii c List.mem_cons_self)).upper_lower
      have hlower : Ascii (c.toLower :: cs.map Char.toLower) := by
        simpa [lowerWord_of_ascii hascii] using ascii_lowerWord hascii
      rw [lowerWord_of_ascii hascii, List.map_cons, capitalWord_of_ascii hlower,
        capitalWord_of_ascii hascii, hc]
      refine congrArg _ ((List.map_map).trans (List.map_congr_left fun d hd => ?_))
      exact (asciiCase (hcs d hd)).lower_lower
  unfold lowerCamel camel folded
  cases hname : words name with
  | nil => rfl
  | cons first rest =>
    rw [hname] at hcapital
    simp only [List.map_cons, List.flatMap_map]
    congr 1
    exact List.flatMap_congr fun word hword => hcapital word (List.mem_cons_of_mem first hword)

def Lettered (word : List Char) : Prop :=
  ∃ c cs, word = c :: cs ∧ c.isLower = true

theorem capitalWord_lettered {word : List Char} (hsmall : Small word) (h : Lettered word) :
    ∃ c cs, word = c :: cs ∧ c.isLower = true ∧ c.toUpper.isUpper = true ∧
      capitalWord word = c.toUpper :: cs := by
  obtain ⟨c, cs, rfl, hc⟩ := h
  have hupper := (asciiCase (hsmall.ascii c List.mem_cons_self)).upper_of_isLower hc
  have hcs : cs.map Char.toLower = cs := (List.cons.inj hsmall.map_toLower).2
  exact ⟨c, cs, rfl, hc, hupper, by rw [capitalWord_of_ascii hsmall.ascii, hcs]⟩

theorem toUpper_inj {c d : Char} (hc : c.toNat < 128) (hd : d.toNat < 128)
    (hlc : c.isLower = true) (hld : d.isLower = true) (h : c.toUpper = d.toUpper) : c = d := by
  rw [← (asciiCase hc).lower_upper hlc, h, (asciiCase hd).lower_upper hld]

theorem head?_capitals {ws : List (List Char)} (h : ∀ w ∈ ws, Small w ∧ Lettered w) :
    ∀ c ∈ (ws.flatMap capitalWord).head?, c.isUpper = true := by
  cases ws with
  | nil => simp
  | cons w ws =>
    have hw := h w List.mem_cons_self
    obtain ⟨c, cs, rfl, -, hupper, hcapital⟩ := capitalWord_lettered hw.1 hw.2
    simp [hcapital, hupper]

theorem capitals_inj {ws vs : List (List Char)} (hws : ∀ w ∈ ws, Small w ∧ Lettered w)
    (hvs : ∀ v ∈ vs, Small v ∧ Lettered v)
    (h : ws.flatMap capitalWord = vs.flatMap capitalWord) : ws = vs := by
  induction ws generalizing vs with
  | nil =>
    cases vs with
    | nil => rfl
    | cons v vs =>
      have hv := hvs v List.mem_cons_self
      obtain ⟨d, ds, rfl, -, -, hd⟩ := capitalWord_lettered hv.1 hv.2
      simp [hd] at h
  | cons w ws ih =>
    have hw := hws w List.mem_cons_self
    obtain ⟨c, cs, rfl, hlc, -, hc⟩ := capitalWord_lettered hw.1 hw.2
    cases vs with
    | nil => simp [hc] at h
    | cons v vs =>
      have hv := hvs v List.mem_cons_self
      obtain ⟨d, ds, rfl, hld, -, hd⟩ := capitalWord_lettered hv.1 hv.2
      simp only [List.flatMap_cons, hc, hd, List.cons_append] at h
      obtain ⟨hfirst, hafter⟩ := List.cons.inj h
      obtain rfl := toUpper_inj (hw.1.ascii c List.mem_cons_self)
        (hv.1.ascii d List.mem_cons_self) hlc hld hfirst
      have hws' := fun u hu => hws u (List.mem_cons_of_mem _ hu)
      have hvs' := fun u hu => hvs u (List.mem_cons_of_mem _ hu)
      obtain ⟨rfl, hrest⟩ := append_eq_append_of_first
        (fun e he => hw.1.lower e (List.mem_cons_of_mem c he))
        (fun e he => hv.1.lower e (List.mem_cons_of_mem c he))
        (head?_capitals hws') (head?_capitals hvs') hafter
      rw [ih hws' hvs' hrest]

structure Legible (ws : List (List Char)) : Prop where
  small : ∀ w ∈ ws, Small w
  lettered : ∀ w ∈ ws.tail, Lettered w

theorem Legible.capitals {w : List Char} {ws : List (List Char)} (h : Legible (w :: ws)) :
    ∀ u ∈ ws, Small u ∧ Lettered u :=
  fun u hu => ⟨h.small u (List.mem_cons_of_mem w hu), h.lettered u hu⟩

theorem camel_inj {ws vs : List (List Char)} (hws : Legible ws) (hvs : Legible vs)
    (h : camel ws = camel vs) : ws = vs := by
  have hempty : ∀ {w : List Char} {rest : List (List Char)}, Small w →
      camel (w :: rest) ≠ [] := fun hw => by simp [camel, hw.nonempty]
  cases ws with
  | nil =>
    cases vs with
    | nil => rfl
    | cons v vs => exact absurd h.symm (hempty (hvs.small v List.mem_cons_self))
  | cons w ws =>
    cases vs with
    | nil => exact absurd h (hempty (hws.small w List.mem_cons_self))
    | cons v vs =>
      obtain ⟨rfl, hrest⟩ := append_eq_append_of_first
        (hws.small w List.mem_cons_self).lower (hvs.small v List.mem_cons_self).lower
        (head?_capitals hws.capitals) (head?_capitals hvs.capitals) h
      rw [capitals_inj hws.capitals hvs.capitals hrest]

theorem exists_cutWords_cons (c : Char) (rest : List Char) :
    ∃ word pieces, cutWords .boundary (c :: rest) = (c :: word) :: pieces := by
  have hne : cutWords .boundary (c :: rest) ≠ [] := cutWords_ne_nil (List.cons_ne_nil c rest)
  obtain ⟨piece, pieces, hcut⟩ := List.exists_cons_of_ne_nil hne
  have hflat := flatten_cutWords .boundary (c :: rest)
  have hnil := (nil_not_mem_cutWords .boundary (c :: rest)).2 (by simp)
  rw [hcut] at hflat hnil
  cases piece with
  | nil => simp at hnil
  | cons d word =>
    obtain rfl : d = c := (List.cons.inj hflat).1
    exact ⟨word, pieces, hcut⟩

theorem capital_of_mem_cutWords {mode : Mode} {cs word : List Char}
    (h : word ∈ (cutWords mode cs).tail) : ∃ c rest, word = c :: rest ∧ isUppercase c = true := by
  have attached : ∀ (c : Char) (pieces : List (List Char)),
      (attach c pieces).tail = pieces.tail := by
    intro c pieces
    cases pieces <;> rfl
  fun_induction cutWords mode cs with
  | case1 => simp at h
  | case2 => simp at h
  | case3 mode c next rest hcut ih =>
    obtain ⟨piece, pieces, hnext⟩ := exists_cutWords_cons next rest
    simp only [Bool.and_eq_true, decide_eq_true_eq] at hcut
    rw [hnext] at h ih
    rcases List.mem_cons.mp h with rfl | h
    · exact ⟨next, piece, rfl, hcut.2⟩
    · exact ih h
  | case4 mode c next rest _ hcut ih =>
    obtain ⟨piece, pieces, hnext⟩ := exists_cutWords_cons next rest
    simp only [Bool.and_eq_true, decide_eq_true_eq] at hcut
    rw [hnext] at h ih
    rcases List.mem_cons.mp h with rfl | h
    · exact ⟨c, next :: piece, rfl, hcut.1.2⟩
    · exact ih h
  | case5 mode c next rest _ _ ih =>
    rw [attached] at h
    exact ih h

theorem legible_folded {name : List Char} (hascii : Ascii name)
    (halpha : ∀ c ∈ name, isAlphanumeric c = true) : Legible (folded name) where
  small := fun _ => small_of_mem_folded hascii
  lettered := by
    have hsplit : splitWhere (fun c => !isAlphanumeric c) name = [name] :=
      splitWhere_eq_singleton fun c hc => by simp [halpha c hc]
    intro word hword
    rw [folded, words, hsplit, List.flatMap_singleton, ← List.map_tail] at hword
    obtain ⟨w, hw, rfl⟩ := List.mem_map.mp hword
    obtain ⟨c, rest, rfl, hc⟩ := capital_of_mem_cutWords hw
    have hmem : c :: rest ∈ words name := by
      rw [words, hsplit, List.flatMap_singleton]
      exact List.mem_of_mem_tail hw
    have hword := hascii.of_mem_words hmem
    have hc' := hword c List.mem_cons_self
    rw [isUppercase_of_ascii hc'] at hc
    refine ⟨c.toLower, rest.map Char.toLower, by rw [lowerWord_of_ascii hword, List.map_cons], ?_⟩
    exact (asciiCase hc').lower_of_isUpper hc

theorem toList_moduleAlias {module : String} (h : ∀ w ∈ words module.toList, Small w) :
    (moduleAlias module).toList = camel (words module.toList) := by
  rw [moduleAlias, onChars, String.toList_ofList, lowerCamel_eq_camel h]

structure Spelled (module : String) : Prop where
  legible : Legible (words module.toList)
  toList_eq : module.toList = ['-'].intercalate (words module.toList)

theorem Spelled.moduleAlias_inj {a b : String} (ha : Spelled a) (hb : Spelled b)
    (h : moduleAlias a = moduleAlias b) : a = b := by
  have hchars := congrArg String.toList h
  rw [toList_moduleAlias ha.legible.small, toList_moduleAlias hb.legible.small] at hchars
  rw [← String.toList_inj, ha.toList_eq, hb.toList_eq, camel_inj ha.legible hb.legible hchars]

theorem Spelled.of_intercalate {module : String} {ws : List (List Char)} (h : Legible ws)
    (hmodule : module.toList = ['-'].intercalate ws) : Spelled module := by
  have hwords : words module.toList = ws := by
    rw [hmodule, words_intercalate h.small]
  exact ⟨hwords ▸ h, hwords ▸ hmodule⟩

section
variable {model : String} (h : Ascii model.toList)
include h

theorem legible_tableWords : Legible (tableWords model) := by
  have hascii := ascii_tableBinding h
  refine legible_folded hascii fun c hc => ?_
  rw [isAlphanumeric_of_ascii (hascii c hc)]
  exact plain_tableBinding model c hc (hascii c hc)

theorem spelled_tableModule : Spelled (tableModule model) :=
  .of_intercalate (legible_tableWords h) (toList_tableModule model)

theorem spelled_relationsModule : Spelled (relationsModule model) := by
  have hrelations : Small "relations".toList ∧ Lettered "relations".toList :=
    ⟨small_of_all (by decide) (by decide), 'r', "elations".toList, by decide, by decide⟩
  have htable := legible_tableWords h
  refine .of_intercalate ⟨?_, ?_⟩ (toList_relationsModule model)
  · intro w hw
    rcases List.mem_append.mp hw with hw | hw
    · exact htable.small w hw
    · exact List.mem_singleton.mp hw ▸ hrelations.1
  · intro w hw
    rw [List.tail_append_of_ne_nil (tableWords_ne_nil model)] at hw
    rcases List.mem_append.mp hw with hw | hw
    · exact htable.lettered w hw
    · exact List.mem_singleton.mp hw ▸ hrelations.2

end

theorem words_enumModule {enum : String} (h : Ascii enum.toList) :
    words (enumModule enum).toList = folded enum.toList ++ ["enum".toList] := by
  have hsuffix : "-enum".toList = '-' :: "enum".toList := by decide
  have hword : words "enum".toList = ["enum".toList] := by decide
  rw [enumModule, String.toList_append, hsuffix, words_append_cons (by decide), onChars,
    String.toList_ofList, words_kebab h, hword]

theorem toList_enumBinding (enum : String) :
    (enumBinding enum).toList = lowerCamel enum.toList ++ "Enum".toList := by
  simp [enumBinding, onChars]

theorem toList_moduleAlias_enumModule {enum : String} (h : Ascii enum.toList) :
    (moduleAlias (enumModule enum)).toList =
      if folded enum.toList = [] then "enum".toList else (enumBinding enum).toList := by
  have hsmall : ∀ w ∈ words (enumModule enum).toList, Small w := by
    rw [words_enumModule h]
    intro w hw
    rcases List.mem_append.mp hw with hw | hw
    · exact small_of_mem_folded h hw
    · exact List.mem_singleton.mp hw ▸ small_of_all (by decide) (by decide)
  rw [toList_moduleAlias hsmall, words_enumModule h, toList_enumBinding, ← camel_folded h]
  cases folded enum.toList with
  | nil => decide
  | cons first rest =>
    have hcapital : capitalWord "enum".toList = "Enum".toList := by decide
    rw [List.cons_append, camel, camel, List.flatMap_append, List.flatMap_singleton, hcapital,
      List.append_assoc, if_neg (List.cons_ne_nil first rest)]

theorem enumBinding_eq_of_moduleAlias {a b : String} (ha : Ascii a.toList) (hb : Ascii b.toList)
    (h : moduleAlias (enumModule a) = moduleAlias (enumModule b)) :
    enumBinding a = enumBinding b := by
  have hchars := congrArg String.toList h
  rw [toList_moduleAlias_enumModule ha, toList_moduleAlias_enumModule hb] at hchars
  have hmixed : ∀ enum, "enum".toList ≠ (enumBinding enum).toList := by
    intro enum heq
    rw [toList_enumBinding] at heq
    have hback := List.append_inj_right' ((List.nil_append _).trans heq) (by decide)
    exact absurd hback (by decide)
  have hbare : ∀ enum : String, folded enum.toList = [] → lowerCamel enum.toList = [] := by
    intro enum hfolded
    rw [lowerCamel, List.map_eq_nil_iff.mp hfolded]
  split at hchars <;> rename_i hfa <;> split at hchars <;> rename_i hfb
  · rw [← String.toList_inj, toList_enumBinding, toList_enumBinding, hbare a hfa, hbare b hfb]
  · exact absurd hchars (hmixed b)
  · exact absurd hchars.symm (hmixed a)
  · exact String.toList_inj.mp hchars

end SchemaWriter.Naming
