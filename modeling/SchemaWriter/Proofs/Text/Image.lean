import Mathlib.Data.Nat.Basic
import Mathlib.Tactic.MkIffOfInductiveProp
import SchemaWriter.Text.CaseMap

namespace SchemaWriter.Text

theorem mem_mapCase {expansions : List (Nat × List Nat)} {runs : List CaseRun} {c d : Char}
    (h : d ∈ mapCase expansions runs c) :
    (∃ row ∈ expansions, ∃ n ∈ row.2, d = Char.ofNat n) ∨
      (∃ run ∈ runs, ∃ n, run.image? c.toNat = some n ∧ d = Char.ofNat n) ∨ d = c := by
  unfold mapCase at h
  split at h
  · rename_i image hrow
    obtain ⟨before, after, htable, -⟩ := List.lookup_eq_some_iff.mp hrow
    obtain ⟨n, hn, rfl⟩ := List.mem_map.mp h
    exact .inl ⟨(c.toNat, image), by rw [htable]; simp, n, hn, rfl⟩
  · split at h
    · rename_i n hrun
      obtain ⟨run, hmem, himage⟩ := List.exists_of_findSome?_eq_some hrun
      exact .inr (.inl ⟨run, hmem, n, himage, List.mem_singleton.mp h⟩)
    · exact .inr (.inr (List.mem_singleton.mp h))

theorem mapCase_ne_nil {expansions : List (Nat × List Nat)} {runs : List CaseRun}
    (h : ∀ row ∈ expansions, row.2 ≠ []) (c : Char) : mapCase expansions runs c ≠ [] := by
  unfold mapCase
  split
  · rename_i image hrow
    obtain ⟨before, after, htable, -⟩ := List.lookup_eq_some_iff.mp hrow
    have himage := h (c.toNat, image) (by rw [htable]; simp)
    simpa using himage
  · split <;> simp

theorem CaseRun.image?_eq_some {run : CaseRun} {n image : Nat} (h : run.image? n = some image) :
    run.image ≤ image ∧ image ≤ run.image + (run.last - run.first) := by
  unfold CaseRun.image? at h
  split at h
  · rename_i hrange
    simp only [Bool.and_eq_true, decide_eq_true_eq] at hrange
    have himage := Option.some.inj h
    omega
  · cases h

def beyondAscii (first last : Nat) : Bool :=
  128 ≤ first && (last < 0xd800 || 0xe000 ≤ first && last < 0x110000)

theorem toNat_of_beyondAscii {first last n : Nat} (h : beyondAscii first last = true)
    (hfirst : first ≤ n) (hlast : n ≤ last) : 128 ≤ (Char.ofNat n).toNat := by
  simp only [beyondAscii, Bool.and_eq_true, Bool.or_eq_true, decide_eq_true_eq] at h
  have hvalid : n.isValidChar := by
    unfold Nat.isValidChar
    omega
  have hn : (Char.ofNat n).toNat = n := by
    rw [Char.ofNat, dif_pos hvalid]
    rfl
  omega

def Images (test : Nat → Bool) (expansions : List (Nat × List Nat)) (runs : List CaseRun) : Prop :=
  (∀ row ∈ expansions, ∀ n ∈ row.2, test n = true ∨ beyondAscii n n = true) ∧
    ∀ run ∈ runs, (run.first = run.last ∧ test run.image = true) ∨
      beyondAscii run.image (run.image + (run.last - run.first)) = true

theorem Images.test_of_mem {test : Nat → Bool} {expansions : List (Nat × List Nat)}
    {runs : List CaseRun} (h : Images test expansions runs) {c d : Char} (hc : 128 ≤ c.toNat)
    (hd : d ∈ mapCase expansions runs c) (hascii : d.toNat < 128) :
    ∃ n, test n = true ∧ d = Char.ofNat n := by
  rcases mem_mapCase hd with ⟨row, hrow, n, hn, rfl⟩ | ⟨run, hrun, n, himage, rfl⟩ | rfl
  · rcases h.1 row hrow n hn with htest | hbeyond
    · exact ⟨n, htest, rfl⟩
    · have hle := toNat_of_beyondAscii hbeyond le_rfl le_rfl
      omega
  · obtain ⟨hfirst, hlast⟩ := CaseRun.image?_eq_some himage
    rcases h.2 run hrun with ⟨hsame, htest⟩ | hbeyond
    · have hn : n = run.image := by omega
      exact ⟨n, hn ▸ htest, rfl⟩
    · have hle := toNat_of_beyondAscii hbeyond hfirst hlast
      omega
  · omega

theorem images_lower :
    Images (fun n => n = 0x69 || n = 0x6b) lowerExpansions lowerRuns := by
  unfold Images
  decide +kernel

theorem images_upper :
    Images (fun n => 0x41 ≤ n && n ≤ 0x5a) upperExpansions upperRuns := by
  unfold Images
  decide +kernel

theorem lowerChar_ne_nil (c : Char) : lowerChar c ≠ [] := by
  unfold lowerChar
  split
  · simp
  · exact mapCase_ne_nil (by decide) c

theorem upperChar_ne_nil (c : Char) : upperChar c ≠ [] := by
  unfold upperChar
  split
  · simp
  · exact mapCase_ne_nil (by decide) c

theorem of_ascii {P : Char → Prop} (h : ∀ n : Fin 128, P (Char.ofNat n)) {c : Char}
    (hc : c.toNat < 128) : P c := by
  have hn := h ⟨c.toNat, hc⟩
  rwa [Char.ofNat_toNat] at hn

@[mk_iff]
structure AsciiCase (c : Char) : Prop where
  lower_ascii : c.toLower.toNat < 128
  upper_ascii : c.toUpper.toNat < 128
  lower_alphanum : c.isAlphanum = true → c.toLower.isAlphanum = true
  upper_alphanum : c.isAlphanum = true → c.toUpper.isAlphanum = true
  lower_isDigit : c.toLower.isDigit = c.isDigit
  lower_isUpper : c.toLower.isUpper = false
  lower_of_not_isUpper : c.isUpper = false → c.toLower = c
  lower_of_isUpper : c.isUpper = true → c.toLower.isLower = true
  upper_of_isLower : c.isLower = true → c.toUpper.isUpper = true
  lower_upper : c.isLower = true → c.toUpper.toLower = c
  upper_lower : c.toLower.toUpper = c.toUpper
  lower_lower : c.toLower.toLower = c.toLower

instance (c : Char) : Decidable (AsciiCase c) :=
  decidable_of_iff _ (asciiCase_iff c).symm

theorem asciiCase {c : Char} (hc : c.toNat < 128) : AsciiCase c :=
  of_ascii (by decide +kernel) hc

theorem ascii_of_mem_lowerChar {c d : Char} (h : d ∈ lowerChar c) (hd : d.toNat < 128) :
    (c.toNat < 128 ∧ d = c.toLower) ∨ d = 'i' ∨ d = 'k' := by
  by_cases hc : c.toNat < 128
  · rw [lowerChar_of_ascii hc, List.mem_singleton] at h
    exact .inl ⟨hc, h⟩
  · rw [lowerChar, if_neg hc] at h
    obtain ⟨n, htest, rfl⟩ := images_lower.test_of_mem (by omega) h hd
    simp only [Bool.or_eq_true, decide_eq_true_eq] at htest
    rcases htest with rfl | rfl
    · exact .inr (.inl rfl)
    · exact .inr (.inr rfl)

theorem ascii_of_mem_upperChar {c d : Char} (h : d ∈ upperChar c) (hd : d.toNat < 128) :
    (c.toNat < 128 ∧ d = c.toUpper) ∨ d.isUpper = true := by
  by_cases hc : c.toNat < 128
  · rw [upperChar_of_ascii hc, List.mem_singleton] at h
    exact .inl ⟨hc, h⟩
  · rw [upperChar, if_neg hc] at h
    obtain ⟨n, htest, rfl⟩ := images_upper.test_of_mem (by omega) h hd
    simp only [Bool.and_eq_true, decide_eq_true_eq] at htest
    have hupper : ∀ k : Fin 26, (Char.ofNat (0x41 + k)).isUpper = true := by decide
    have hn := hupper ⟨n - 0x41, by omega⟩
    have hsame : 0x41 + (n - 0x41) = n := by omega
    rw [hsame] at hn
    exact .inr hn

end SchemaWriter.Text
