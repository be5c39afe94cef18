import SchemaWriter.Naming.Words
import SchemaWriter.Proofs.Lists
import SchemaWriter.Proofs.Text.Image

namespace SchemaWriter.Naming

open SchemaWriter.Text

theorem nil_not_mem_attach {α : Type} {a : α} {pieces : List (List α)} (h : [] ∉ pieces.tail) :
    [] ∉ attach a pieces := by
  cases pieces with
  | nil => simp [attach]
  | cons piece pieces => simpa [attach] using h

theorem nil_not_mem_cutWords (mode : Mode) (cs : List Char) :
    [] ∉ (cutWords mode cs).tail ∧ (mode ≠ .upper → [] ∉ cutWords mode cs) := by
  fun_induction cutWords mode cs with
  | case1 => simp
  | case2 => simp
  | case3 mode c next rest hcut ih =>
    have hrest := ih.2 (by simp)
    simp [hrest]
  | case4 mode c next rest hlower hcut ih =>
    have hmode : mode = .upper := by
      simp only [Bool.and_eq_true, decide_eq_true_eq] at hcut
      exact hcut.1.1
    exact ⟨nil_not_mem_attach ih.1, fun hne => absurd hmode hne⟩
  | case5 mode c next rest hlower hcut ih =>
    have hrest := nil_not_mem_attach (a := c) ih.1
    exact ⟨fun hmem => hrest (List.mem_of_mem_tail hmem), fun _ => hrest⟩

theorem nil_not_mem_words (name : List Char) : [] ∉ words name := by
  intro hmem
  obtain ⟨piece, -, hpiece⟩ := List.mem_flatMap.mp hmem
  exact (nil_not_mem_cutWords .boundary piece).2 (by simp) hpiece

theorem mem_of_mem_words {name word : List Char} (hword : word ∈ words name) {c : Char}
    (hc : c ∈ word) : c ∈ name ∧ isAlphanumeric c = true := by
  have hmem : c ∈ (words name).flatten := List.mem_flatten.mpr ⟨word, hword, hc⟩
  rw [flatten_words] at hmem
  exact List.mem_filter.mp hmem

theorem words_ne_nil {name : List Char} {c : Char} (hmem : c ∈ name) (hc : isAlphanumeric c = true) :
    words name ≠ [] := by
  intro hnil
  have hflat := flatten_words name
  rw [hnil, List.flatten_nil] at hflat
  have hc' : c ∈ name.filter isAlphanumeric := List.mem_filter.mpr ⟨hmem, hc⟩
  simp [← hflat] at hc'

theorem lowerWord_cons_cons (c d : Char) (cs : List Char) :
    lowerWord (c :: d :: cs) = lowerChar c ++ lowerWord (d :: cs) :=
  lowerWord.eq_3 c (d :: cs) (by simp)

theorem lowerWord_append_singleton {c : Char} (hc : c ≠ 'Σ') (cs : List Char) :
    lowerWord (cs ++ [c]) = cs.flatMap lowerChar ++ lowerChar c := by
  induction cs with
  | nil => simp [lowerWord, hc]
  | cons d cs ih =>
    obtain ⟨e, es, hes⟩ := List.exists_cons_of_ne_nil (l := cs ++ [c]) (by simp)
    rw [List.cons_append, hes, lowerWord_cons_cons, ← hes, ih, List.flatMap_cons, List.append_assoc]

def Becomes (c d : Char) : Prop :=
  d ∈ lowerChar c ∨ d ∈ upperChar c ∨ (c = 'Σ' ∧ d = 'ς')

theorem becomes_of_mem_lowerWord {word : List Char} {d : Char} (h : d ∈ lowerWord word) :
    ∃ c ∈ word, Becomes c d := by
  fun_induction lowerWord word with
  | case1 => simp at h
  | case2 => exact ⟨'Σ', List.mem_cons_self, .inr (.inr ⟨rfl, List.mem_singleton.mp h⟩)⟩
  | case3 c cs _ ih =>
    rcases List.mem_append.mp h with h | h
    · exact ⟨c, List.mem_cons_self, .inl h⟩
    · obtain ⟨e, he, hd⟩ := ih h
      exact ⟨e, List.mem_cons_of_mem c he, hd⟩

theorem becomes_of_mem_capitalWord {word : List Char} {d : Char} (h : d ∈ capitalWord word) :
    ∃ c ∈ word, Becomes c d := by
  cases word with
  | nil => exact absurd h List.not_mem_nil
  | cons c cs =>
    rcases List.mem_append.mp h with h | h
    · exact ⟨c, List.mem_cons_self, .inr (.inl h)⟩
    · obtain ⟨e, he, hd⟩ := becomes_of_mem_lowerWord h
      exact ⟨e, List.mem_cons_of_mem c he, hd⟩

theorem becomes_of_mem_lowerCamel {name : List Char} {d : Char} (h : d ∈ lowerCamel name) :
    ∃ c ∈ name, isAlphanumeric c = true ∧ Becomes c d := by
  have hword : ∃ word ∈ words name, ∃ c ∈ word, Becomes c d := by
    unfold lowerCamel at h
    split at h
    · exact absurd h List.not_mem_nil
    · rename_i first rest hname
      rw [hname]
      rcases List.mem_append.mp h with h | h
      · exact ⟨first, List.mem_cons_self, becomes_of_mem_lowerWord h⟩
      · obtain ⟨word, hword, h⟩ := List.mem_flatMap.mp h
        exact ⟨word, List.mem_cons_of_mem first hword, becomes_of_mem_capitalWord h⟩
  obtain ⟨word, hword, c, hc, hd⟩ := hword
  obtain ⟨hname, halpha⟩ := mem_of_mem_words hword hc
  exact ⟨c, hname, halpha, hd⟩

theorem lowerWord_ne_nil {word : List Char} (h : word ≠ []) : lowerWord word ≠ [] := by
  fun_cases lowerWord word with
  | case1 => exact absurd rfl h
  | case2 => simp
  | case3 c cs => simp [lowerChar_ne_nil]

def Plain (cs : List Char) : Prop :=
  ∀ c ∈ cs, c.toNat < 128 → c.isAlphanum = true

theorem Plain.not_mem {cs : List Char} (h : Plain cs) {c : Char} (hascii : c.toNat < 128)
    (hc : c.isAlphanum = false) : c ∉ cs := by
  intro hmem
  rw [h c hmem hascii] at hc
  cases hc

theorem Becomes.isAlphanum {c d : Char} (h : Becomes c d) (hc : isAlphanumeric c = true)
    (hascii : d.toNat < 128) : d.isAlphanum = true := by
  rcases h with h | h | ⟨-, rfl⟩
  · rcases ascii_of_mem_lowerChar h hascii with ⟨hc', rfl⟩ | rfl | rfl
    · rw [isAlphanumeric_of_ascii hc'] at hc
      exact (asciiCase hc').lower_alphanum hc
    · rfl
    · rfl
  · rcases ascii_of_mem_upperChar h hascii with ⟨hc', rfl⟩ | hupper
    · rw [isAlphanumeric_of_ascii hc'] at hc
      exact (asciiCase hc').upper_alphanum hc
    · change (d.isUpper || d.isLower || d.isDigit) = true
      rw [hupper]
      rfl
  · exact absurd hascii (by decide)

theorem plain_lowerWord {word : List Char} (hword : ∀ c ∈ word, isAlphanumeric c = true) :
    Plain (lowerWord word) := by
  intro d hd hascii
  obtain ⟨c, hc, hbecomes⟩ := becomes_of_mem_lowerWord hd
  exact hbecomes.isAlphanum (hword c hc) hascii

theorem plain_lowerCamel (name : List Char) : Plain (lowerCamel name) := by
  intro d hd hascii
  obtain ⟨c, -, halpha, hbecomes⟩ := becomes_of_mem_lowerCamel hd
  exact hbecomes.isAlphanum halpha hascii

def folded (name : List Char) : List (List Char) :=
  (words name).map lowerWord

theorem kebab_eq_intercalate (name : List Char) : kebab name = ['-'].intercalate (folded name) := rfl

theorem hyphen_not_mem_folded {name word : List Char} (h : word ∈ folded name) : '-' ∉ word := by
  obtain ⟨w, hw, rfl⟩ := List.mem_map.mp h
  have hplain := plain_lowerWord fun c hc => (mem_of_mem_words hw hc).2
  exact hplain.not_mem (by decide) (by decide)

theorem nil_not_mem_folded (name : List Char) : [] ∉ folded name := by
  intro hmem
  obtain ⟨word, hword, hlower⟩ := List.mem_map.mp hmem
  refine lowerWord_ne_nil (fun hnil => ?_) hlower
  exact nil_not_mem_words name (hnil ▸ hword)

theorem kebab_ne_nil {name : List Char} (h : folded name ≠ []) : kebab name ≠ [] := by
  obtain ⟨word, rest, hfolded⟩ := List.exists_cons_of_ne_nil h
  have hword : word ≠ [] := by
    rintro rfl
    exact nil_not_mem_folded name (by simp [hfolded])
  rw [kebab_eq_intercalate, hfolded]
  cases rest with
  | nil => simpa using hword
  | cons => simp [List.intercalate_cons_cons]

theorem kebab_eq_kebab_iff {a b : List Char} : kebab a = kebab b ↔ folded a = folded b := by
  constructor
  · intro h
    by_cases ha : folded a = []
    · by_contra hb
      rw [ha] at hb
      refine kebab_ne_nil (fun hnil => hb hnil.symm) (h.symm.trans ?_)
      simp [kebab_eq_intercalate, ha]
    · by_cases hb : folded b = []
      · refine absurd (h.trans ?_) (kebab_ne_nil ha)
        simp [kebab_eq_intercalate, hb]
      · exact intercalate_singleton_inj (fun w => hyphen_not_mem_folded)
          (fun w => hyphen_not_mem_folded) ha hb h
  · intro h
    rw [kebab_eq_intercalate, h, ← kebab_eq_intercalate]

end SchemaWriter.Naming
