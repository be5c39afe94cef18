import Mathlib.Data.List.DropRight
import Mathlib.Data.List.TakeDrop
import Mathlib.Data.List.TakeWhile
import SchemaWriter.Text.Basic

namespace SchemaWriter.Text

theorem splitWhere_eq_splitOnP {α : Type} (test : α → Bool) (as : List α) :
    splitWhere test as = as.splitOnP test := by
  induction as with
  | nil => rfl
  | cons a rest ih =>
    rw [splitWhere, ih, List.splitOnP_cons_eq_if_modifyHead]
    obtain ⟨piece, pieces, hrest⟩ := List.exists_cons_of_ne_nil (List.splitOnP_ne_nil test rest)
    rw [hrest]
    rfl

section

variable {α : Type} [DecidableEq α] {separator : α} {as : List α}

theorem splitWhere_eq_splitOn (separator : α) (as : List α) :
    splitWhere (· = separator) as = as.splitOn separator :=
  splitWhere_eq_splitOnP _ as

theorem intercalate_splitWhere (as : List α) :
    [separator].intercalate (splitWhere (· = separator) as) = as := by
  rw [splitWhere_eq_splitOn, List.intercalate_splitOn]

theorem splitWhere_eq_iff {pieces : List (List α)} (hne : pieces ≠ []) :
    splitWhere (· = separator) as = pieces ↔
      as = [separator].intercalate pieces ∧ ∀ piece ∈ pieces, separator ∉ piece := by
  constructor
  · rintro rfl
    refine ⟨(intercalate_splitWhere as).symm, fun piece hpiece hmem => ?_⟩
    exact absurd rfl (of_decide_eq_false (not_test_of_mem_splitWhere hpiece hmem))
  · rintro ⟨rfl, hpieces⟩
    rw [splitWhere_eq_splitOn, List.splitOn_intercalate _ hpieces hne]

end

structure Trimmed (cs : List Char) : Prop where
  first : ∀ c ∈ cs.head?, isBlank c = false
  last : ∀ c ∈ cs.getLast?, isBlank c = false

theorem first_trimStart (cs : List Char) : ∀ c ∈ (trimStart cs).head?, isBlank c = false := by
  intro c hc
  have hfirst := List.head?_dropWhile_not isBlank cs
  rw [trimStart] at hc
  rw [hc] at hfirst
  exact hfirst

theorem trimEnd_eq_rdropWhile (cs : List Char) : trimEnd cs = cs.rdropWhile isBlank := rfl

theorem trimmed_trim (cs : List Char) : Trimmed (trim cs) where
  first := by
    intro c hc
    obtain ⟨rest, hrest⟩ := List.head?_eq_some_iff.mp hc
    obtain ⟨back, hback⟩ := List.rdropWhile_prefix isBlank (trimStart cs)
    refine first_trimStart cs c ?_
    rw [← hback, ← trimEnd_eq_rdropWhile, ← trim, hrest]
    rfl
  last := by
    intro c hc
    have hfirst := first_trimStart (trimStart cs).reverse c
    rw [← List.head?_reverse, trim, trimEnd, List.reverse_reverse] at hc
    exact hfirst hc

theorem trim_cons_of_blank {c : Char} (h : isBlank c = true) (cs : List Char) :
    trim (c :: cs) = trim cs := by
  rw [trim, trimStart, List.dropWhile_cons_of_pos h, ← trimStart, ← trim]

theorem Trimmed.trim_eq {cs : List Char} (h : Trimmed cs) : trim cs = cs := by
  have hstart : trimStart cs = cs := by
    cases cs with
    | nil => rfl
    | cons c cs => exact List.dropWhile_cons_of_neg (by simp [h.first c rfl])
  rw [trim, hstart, trimEnd_eq_rdropWhile, List.rdropWhile_eq_self_iff]
  intro hne
  simp [h.last _ (List.getLast?_eq_some_getLast hne)]

theorem isBlankText_eq_false_iff {s : String} :
    isBlankText s = false ↔ ∃ c ∈ s.toList, isBlank c = false := by
  simp [isBlankText]

end SchemaWriter.Text
