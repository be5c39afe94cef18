import Mathlib.Data.List.DropRight
import SchemaWriter.Path
import SchemaWriter.Proofs.Lists
import SchemaWriter.Proofs.Text.Pieces

namespace SchemaWriter.Path

open SchemaWriter.Text

inductive Idle : List Char → Prop where
  | done : Idle []
  | slash {rest : List Char} (h : Idle rest) : Idle ('/' :: rest)
  | dot {rest : List Char} (h : Idle rest) : Idle ('/' :: '.' :: rest)

/-- A path cut at its last component. What leads to the component ends with a slash, and what is
behind it counts for nothing. -/
structure Ending (path : String) (front name idle : List Char) : Prop where
  text : path.toList = front ++ name ++ idle
  front : ∀ c ∈ front.getLast?, c = '/'
  name : name ≠ [] ∧ name ≠ ['.'] ∧ '/' ∉ name
  idle : Idle idle

theorem idle_iff {idle : List Char} : Idle idle ↔
    ∃ pieces : List (List Char), idle = pieces.flatMap ('/' :: ·) ∧
      ∀ piece ∈ pieces, piece = [] ∨ piece = ['.'] := by
  constructor
  · intro h
    induction h with
    | done => exact ⟨[], rfl, by simp⟩
    | slash _ ih =>
      obtain ⟨pieces, rfl, hpieces⟩ := ih
      exact ⟨[] :: pieces, rfl, List.forall_mem_cons.mpr ⟨.inl rfl, hpieces⟩⟩
    | dot _ ih =>
      obtain ⟨pieces, rfl, hpieces⟩ := ih
      exact ⟨['.'] :: pieces, rfl, List.forall_mem_cons.mpr ⟨.inr rfl, hpieces⟩⟩
  · rintro ⟨pieces, rfl, hpieces⟩
    induction pieces with
    | nil => exact .done
    | cons piece pieces ih =>
      obtain ⟨hpiece, hrest⟩ := List.forall_mem_cons.mp hpieces
      rcases hpiece with rfl | rfl
      · exact .slash (ih hrest)
      · exact .dot (ih hrest)

def isComponent (piece : List Char) : Bool :=
  piece ≠ ['.'] && !piece.isEmpty

theorem isComponent_eq_true_iff {piece : List Char} :
    isComponent piece = true ↔ piece ≠ [] ∧ piece ≠ ['.'] := by
  simp [isComponent, and_comm]

theorem isComponent_eq_false_iff {piece : List Char} :
    isComponent piece = false ↔ piece = [] ∨ piece = ['.'] := by
  rw [← Bool.not_eq_true, isComponent_eq_true_iff]
  tauto

theorem lastPiece?_eq_getLast? (path : String) :
    lastPiece? path = ((splitWhere (· = '/') path.toList).filter isComponent).getLast? := by
  rw [lastPiece?, pieces, List.filter_filter]
  rfl

theorem exists_splitWhere_front {front : List Char} (h : ∀ c ∈ front.getLast?, c = '/') :
    ∃ pieces, ∀ rest, splitWhere (· = '/') (front ++ rest) =
      pieces ++ splitWhere (· = '/') rest := by
  rcases List.eq_nil_or_concat front with rfl | ⟨front, c, rfl⟩
  · exact ⟨[], fun rest => rfl⟩
  · obtain rfl : c = '/' := h c (by simp)
    refine ⟨splitWhere (· = '/') front, fun rest => ?_⟩
    rw [List.concat_append, splitWhere_append_cons (by simp)]

theorem lastPiece?_eq_some_iff {path : String} {name : List Char} :
    lastPiece? path = some name ↔ ∃ front idle, Ending path front name idle := by
  rw [lastPiece?_eq_getLast?, getLast?_filter_eq_some_iff, isComponent_eq_true_iff]
  constructor
  · rintro ⟨⟨hne, hdot⟩, before, behind, hsplit, hbehind⟩
    obtain ⟨htext, hparts⟩ := (splitWhere_eq_iff (by simp)).mp hsplit
    rw [intercalate_append_cons] at htext
    refine ⟨_, _, htext, ?_, ⟨hne, hdot, hparts name (by simp)⟩, idle_iff.mpr ⟨behind, rfl, ?_⟩⟩
    · intro c hc
      rcases List.eq_nil_or_concat before with rfl | ⟨before, piece, rfl⟩
      · cases hc
      · simpa using hc.symm
    · exact fun piece hpiece => isComponent_eq_false_iff.mp (hbehind piece hpiece)
  · rintro ⟨front, _, htext, hfront, ⟨hne, hdot, hname⟩, hidle⟩
    obtain ⟨behind, rfl, hbehind⟩ := idle_iff.mp hidle
    obtain ⟨before, hbefore⟩ := exists_splitWhere_front hfront
    have hrest : splitWhere (· = '/') (name ++ behind.flatMap ('/' :: ·)) = name :: behind := by
      refine (splitWhere_eq_iff (by simp)).mpr
        ⟨(intercalate_cons_eq_flatMap '/' name behind).symm, List.forall_mem_cons.mpr ⟨hname, ?_⟩⟩
      intro piece hpiece
      rcases hbehind piece hpiece with rfl | rfl <;> decide
    refine ⟨⟨hne, hdot⟩, before, behind, ?_, ?_⟩
    · rw [htext, List.append_assoc, hbefore, hrest]
    · exact fun piece hpiece => isComponent_eq_false_iff.mpr (hbehind piece hpiece)

theorem fileName?_eq_some_iff {path : String} {name : List Char} :
    fileName? path = some name ↔ name ≠ ['.', '.'] ∧ ∃ front idle, Ending path front name idle := by
  rw [fileName?, Option.filter_eq_some_iff, lastPiece?_eq_some_iff, decide_eq_true_iff, and_comm]

theorem splitExtension_eq_iff {name stem extension : List Char} :
    splitExtension name = (stem, some extension) ↔
      name = stem ++ '.' :: extension ∧ stem ≠ [] ∧ '.' ∉ extension := by
  unfold splitExtension
  constructor
  · intro h
    split at h
    · cases h
    · cases h
    · rename_i back dot front hfront hspan
      obtain ⟨rfl, hextension⟩ := Prod.mk.inj h
      obtain rfl := Option.some.inj hextension
      obtain ⟨-, hname, hplain⟩ := span_reverse_eq_iff.mp hspan
      exact ⟨hname, List.reverse_ne_nil_iff.mpr hfront, by simpa using hplain⟩
  · rintro ⟨rfl, hstem, hextension⟩
    have hspan : (stem ++ '.' :: extension).reverse.span (· ≠ '.') =
        (extension.reverse, '.' :: stem.reverse) :=
      span_reverse_eq_iff.mpr ⟨rfl, by simp, by simpa using hextension⟩
    obtain ⟨c, cs, hcs⟩ := List.exists_cons_of_ne_nil (List.reverse_ne_nil_iff.mpr hstem)
    rw [hspan, hcs, ← List.reverse_reverse stem, hcs]
    simp

theorem splitExtension_texts_iff {name : List Char} {stem extension : String} :
    (splitExtension name).2.map String.ofList = some extension ∧
      String.ofList (splitExtension name).1 = stem ↔
        name = stem.toList ++ '.' :: extension.toList ∧ stem ≠ "" ∧ '.' ∉ extension.toList := by
  have hempty : stem ≠ "" ↔ stem.toList ≠ [] := not_congr String.toList_eq_nil_iff.symm
  rw [hempty, ← splitExtension_eq_iff]
  constructor
  · rintro ⟨hextension, rfl⟩
    obtain ⟨back, hback, rfl⟩ := Option.map_eq_some_iff.mp hextension
    rw [String.toList_ofList, String.toList_ofList, ← hback]
  · intro hsplit
    rw [hsplit]
    exact ⟨congrArg some String.ofList_toList, String.ofList_toList⟩

theorem extension?_and_stem?_iff {path extension stem : String} :
    extension? path = some extension ∧ stem? path = some stem ↔
      fileName? path = some (stem.toList ++ '.' :: extension.toList) ∧ stem ≠ "" ∧
        '.' ∉ extension.toList := by
  cases hname : fileName? path with
  | none => simp [extension?, stem?, hname]
  | some name =>
    rw [extension?, stem?, hname, Option.bind_some, Option.map_some, Option.some_inj,
      splitExtension_texts_iff, Option.some_inj]

theorem Idle.eq_or_eq_of_mem {idle : List Char} (h : Idle idle) {c : Char} (hc : c ∈ idle) :
    c = '/' ∨ c = '.' := by
  induction h with
  | done => cases hc
  | slash _ ih =>
    rcases List.mem_cons.mp hc with rfl | hc
    · exact .inl rfl
    · exact ih hc
  | dot _ ih =>
    rcases List.mem_cons.mp hc with rfl | hc
    · exact .inl rfl
    · rcases List.mem_cons.mp hc with rfl | hc
      · exact .inr rfl
      · exact ih hc

theorem exists_front (text : List Char) :
    ∃ front rest, text = front ++ rest ∧ (∀ c ∈ front.getLast?, c = '/') ∧ '/' ∉ rest := by
  refine ⟨text.rdropWhile (· ≠ '/'), text.rtakeWhile (· ≠ '/'),
    List.rdropWhile_append_rtakeWhile.symm, fun c hc => ?_, fun hmem => ?_⟩
  · have hne := List.ne_nil_of_mem (List.mem_of_getLast? hc)
    have hlast := List.rdropWhile_last_not (· ≠ '/') text hne
    rw [Option.mem_def, List.getLast?_eq_some_getLast hne] at hc
    rw [Option.some_inj.mp hc] at hlast
    simpa using hlast
  · simpa using List.mem_rtakeWhile_imp hmem

end SchemaWriter.Path
