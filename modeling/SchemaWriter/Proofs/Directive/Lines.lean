import SchemaWriter.Proofs.Directive.Parsed
import SchemaWriter.Proofs.Text.Pieces

namespace SchemaWriter

namespace Directive.Tag

theorem ofName?_eq_some {name : String} {tag : Tag} :
    ofName? name = some tag ↔ name = tag.name := by
  constructor
  · intro h
    unfold ofName? at h
    split at h <;> cases h <;> rfl
  · rintro rfl
    cases tag <;> rfl

theorem not_isBlank_of_mem_name (tag : Tag) : ∀ c ∈ tag.name.toList, Text.isBlank c = false := by
  have hall : (tag.name.toList.all fun c => !Text.isBlank c) = true := by
    cases tag <;> decide
  simpa using hall

end Directive.Tag

namespace Directives

open Directive

def lines (documentation : String) : List String :=
  (Text.splitWhere (· = '\n') documentation.toList).map String.ofList

theorem not_mem_of_mem_lines {documentation line : String} (h : line ∈ lines documentation) :
    '\n' ∉ line.toList := by
  obtain ⟨piece, hpiece, rfl⟩ := List.mem_map.mp h
  intro hmem
  rw [String.toList_ofList] at hmem
  simpa using Text.not_test_of_mem_splitWhere hpiece hmem

theorem lines_eq_singleton {line : String} (h : '\n' ∉ line.toList) : lines line = [line] := by
  have hpieces : Text.splitWhere (· = '\n') line.toList = [line.toList] :=
    Text.splitWhere_eq_singleton fun c hc => decide_eq_false fun hnewline => h (hnewline ▸ hc)
  rw [lines, hpieces, List.map_singleton, String.ofList_toList]

def Carries (line : String) (tag : Tag) (payload : String) : Prop :=
  ∃ after, Text.trim line.toList = leader ++ (tag.name.toList ++ after) ∧
    (∀ c ∈ after.head?, Text.isBlank c = true) ∧ payload = String.ofList (Text.trim after)

def Bears (line : String) (tag : Tag) : Prop :=
  ∃ payload, Carries line tag payload

def Recognized (line : String) : Prop :=
  ∃ tag, Bears line tag

theorem recognize_eq_some_iff {line : String} {tag : Tag} {payload : String} :
    recognize line.toList = some (tag, payload) ↔ Carries line tag payload := by
  unfold recognize Carries
  dsimp only
  generalize Text.trim line.toList = trimmed
  constructor
  · intro h
    split at h
    · rename_i hleader
      obtain ⟨rest, rfl⟩ := List.isPrefixOf_iff_prefix.mp hleader
      rw [List.drop_left, List.span_eq_takeWhile_dropWhile] at h
      obtain ⟨found, htag, heq⟩ := Option.map_eq_some_iff.mp h
      obtain ⟨rfl, rfl⟩ := Prod.mk.inj heq
      have hname := congrArg String.toList (Tag.ofName?_eq_some.mp htag)
      rw [String.toList_ofList] at hname
      refine ⟨rest.dropWhile (!Text.isBlank ·), ?_, ?_, rfl⟩
      · rw [← hname, List.takeWhile_append_dropWhile]
      · intro c hc
        have hfirst := List.head?_dropWhile_not (!Text.isBlank ·) rest
        rw [hc] at hfirst
        simpa using hfirst
    · cases h
  · rintro ⟨after, rfl, hafter, rfl⟩
    have hname : ∀ c ∈ tag.name.toList, (!Text.isBlank c) = true := fun c hc => by
      simp [tag.not_isBlank_of_mem_name c hc]
    have hword : after.takeWhile (!Text.isBlank ·) = [] ∧
        after.dropWhile (!Text.isBlank ·) = after := by
      cases after with
      | nil => exact ⟨rfl, rfl⟩
      | cons c after => simp [hafter c rfl]
    rw [if_pos (List.isPrefixOf_iff_prefix.mpr (List.prefix_append _ _)), List.drop_left,
      List.span_eq_takeWhile_dropWhile, List.takeWhile_append_of_pos hname,
      List.dropWhile_append_of_pos hname, hword.1, hword.2, List.append_nil, String.ofList_toList]
    simp [Tag.ofName?_eq_some]

instance (line : String) (tag : Tag) (payload : String) : Decidable (Carries line tag payload) :=
  decidable_of_iff _ recognize_eq_some_iff

theorem isSome_recognize_iff {line : String} :
    (recognize line.toList).isSome = true ↔ Recognized line := by
  simp only [Option.isSome_iff_exists, Prod.exists, recognize_eq_some_iff, Recognized, Bears]

instance (line : String) : Decidable (Recognized line) :=
  decidable_of_iff _ isSome_recognize_iff

theorem Carries.unique {line : String} {tag other : Tag} {payload payload' : String}
    (h : Carries line tag payload) (h' : Carries line other payload') :
    tag = other ∧ payload = payload' := by
  have hsame := (recognize_eq_some_iff.mpr h).symm.trans (recognize_eq_some_iff.mpr h')
  exact Prod.mk.inj (Option.some.inj hsame)

theorem Carries.payload_trimmed {line : String} {tag : Tag} {payload : String}
    (h : Carries line tag payload) : Text.Trimmed payload.toList := by
  obtain ⟨after, -, -, rfl⟩ := h
  rw [String.toList_ofList]
  exact Text.trimmed_trim after

def entries (lines : List String) : List (Tag × String) :=
  lines.filterMap fun line => recognize line.toList

theorem recognized_eq_entries (documentation : String) :
    recognized documentation = entries (lines documentation) := by
  simp [recognized, entries, lines, List.filterMap_map]

theorem mem_entries {lines : List String} {tag : Tag} {payload : String} :
    (tag, payload) ∈ entries lines ↔ ∃ line ∈ lines, Carries line tag payload := by
  simp only [entries, List.mem_filterMap, recognize_eq_some_iff]

theorem mem_tags {lines : List String} {tag : Tag} :
    tag ∈ (entries lines).map (·.1) ↔ ∃ line ∈ lines, Bears line tag := by
  simp only [List.mem_map, Prod.exists, mem_entries, Bears]
  constructor
  · rintro ⟨_, payload, ⟨line, hline, hcarries⟩, rfl⟩
    exact ⟨line, hline, payload, hcarries⟩
  · rintro ⟨line, hline, payload, hcarries⟩
    exact ⟨tag, payload, ⟨line, hline, hcarries⟩, rfl⟩

theorem parse_eq_addAll (documentation : String) :
    parse documentation = addAll {} (entries (lines documentation)) := by
  rw [parse, recognized_eq_entries]

theorem addAll_singleton (d : Directives) (tag : Tag) (payload : String) :
    d.addAll [(tag, payload)] = d.add tag payload := by
  cases h : d.add tag payload <;> simp [addAll, h, bind, Except.bind]

theorem Carries.parse_eq {line : String} {tag : Tag} {payload : String}
    (h : Carries line tag payload) (hone : '\n' ∉ line.toList) :
    parse line = add {} tag payload := by
  have hentries : entries [line] = [(tag, payload)] := by
    simp [entries, recognize_eq_some_iff.mpr h]
  rw [parse_eq_addAll, lines_eq_singleton hone, hentries, addAll_singleton]

end Directives

end SchemaWriter
