import SchemaWriter.Directive.Basic
import SchemaWriter.Proofs.Lists
import SchemaWriter.Proofs.Outcome

namespace SchemaWriter

open Outcome

def Requirement.Foreign (requirements : List Requirement) : Prop :=
  ∀ r ∈ requirements, r.source.isSibling = false

namespace Directive

open Requirement (Foreign)

structure ImportSpec.Complete (spec : ImportSpec) : Prop where
  names : spec.names ≠ []
  spelled : ∀ name ∈ spec.names, Text.isBlankText name = false
  module : spec.module ≠ ""

theorem ImportSpec.requirement_eq_ok {spec : ImportSpec} {r : Requirement}
    (h : spec.requirement = .ok r) : spec.Complete ∧ r = .named spec.names spec.module := by
  unfold ImportSpec.requirement at h
  split at h
  · cases h
  · rename_i hcomplete
    obtain rfl := Except.ok.inj h
    simp only [Bool.or_eq_true, List.isEmpty_iff, List.any_eq_true, String.isEmpty_iff, not_or,
      not_exists, not_and, Bool.not_eq_true] at hcomplete
    exact ⟨⟨hcomplete.1.1, hcomplete.1.2, hcomplete.2⟩, rfl⟩

theorem requirements_eq_ok {specs : List ImportSpec} {rs : List Requirement}
    (h : requirements specs = .ok rs) :
    (∀ spec ∈ specs, spec.Complete) ∧ rs = specs.map fun spec => .named spec.names spec.module := by
  have hspecs := (traversal_eq_ok (f := ImportSpec.requirement) rfl fun _ _ => rfl).mp h
  constructor
  · intro spec hspec
    obtain ⟨r, -, hr⟩ := exists_of_mem_left hspecs hspec
    exact (spec.requirement_eq_ok hr).1
  · rw [← List.forall₂_eq_eq_eq, List.forall₂_map_right_iff]
    exact hspecs.flip.imp fun r spec hr => (spec.requirement_eq_ok hr).2

theorem requirements_foreign {specs : List ImportSpec} {rs : List Requirement}
    (h : requirements specs = .ok rs) : Foreign rs := by
  intro r hr
  rw [(requirements_eq_ok h).2] at hr
  obtain ⟨spec, -, rfl⟩ := List.mem_map.mp hr
  rfl

theorem readCustom_eq_ok {payload : String} {custom : CustomType}
    (h : readCustom payload = .ok custom) :
    ∃ parsed imports, readJson CustomPayload.record payload = .ok parsed ∧
      parsed.type.any Text.isBlankText = false ∧ requirements parsed.imports = .ok imports ∧
      custom = ⟨imports, parsed.type, parsed.default⟩ := by
  unfold readCustom at h
  obtain ⟨parsed, hparsed, h⟩ := bind_eq_ok.mp h
  cases hnothing : parsed.type.isNone && parsed.default.isNone with
  | true => simp only [hnothing, if_true] at h; cases h
  | false =>
    cases hblank : parsed.type.any Text.isBlankText with
    | true => simp only [hnothing, hblank, if_true] at h; cases h
    | false =>
      simp only [hnothing, hblank, Bool.false_eq_true, if_false] at h
      obtain ⟨imports, himports, h⟩ := bind_eq_ok.mp h
      exact ⟨parsed, imports, hparsed, hblank, himports, (pure_eq_ok.mp h).symm⟩

theorem readCustom_foreign {payload : String} {custom : CustomType}
    (h : readCustom payload = .ok custom) : Foreign custom.imports := by
  obtain ⟨parsed, imports, -, -, himports, rfl⟩ := readCustom_eq_ok h
  exact requirements_foreign himports

theorem readDefaultObject_eq_ok {payload : String} {default : DefaultExpression}
    (h : readDefaultObject payload = .ok default) :
    ∃ parsed imports, readJson DefaultPayload.record payload = .ok parsed ∧
      Text.isBlankText parsed.expression = false ∧ requirements parsed.imports = .ok imports ∧
      default = ⟨imports, parsed.expression⟩ := by
  unfold readDefaultObject at h
  obtain ⟨parsed, hparsed, h⟩ := bind_eq_ok.mp h
  cases hblank : Text.isBlankText parsed.expression with
  | true => simp only [hblank, if_true] at h; cases h
  | false =>
    simp only [hblank, Bool.false_eq_true, if_false] at h
    obtain ⟨imports, himports, h⟩ := bind_eq_ok.mp h
    exact ⟨parsed, imports, hparsed, hblank, himports, (pure_eq_ok.mp h).symm⟩

theorem readDefaultObject_foreign {payload : String} {default : DefaultExpression}
    (h : readDefaultObject payload = .ok default) : Foreign default.imports := by
  obtain ⟨parsed, imports, -, -, himports, rfl⟩ := readDefaultObject_eq_ok h
  exact requirements_foreign himports

theorem readFunction_foreign {payload : String} {default : DefaultExpression}
    (h : readFunction payload = .ok default) : Foreign default.imports := by
  unfold readFunction at h
  split at h
  · split at h
    · simp at h
    · obtain rfl := Except.ok.inj h
      simp [Foreign, Requirement.named, Specifier.isSibling]
  · simp at h

theorem readDefault_foreign {payload : String} {default : DefaultExpression}
    (h : readDefault payload = .ok default) : Foreign default.imports := by
  unfold readDefault at h
  split at h
  · exact readDefaultObject_foreign h
  · exact readFunction_foreign h

end Directive

namespace Directives

open Directive
open Requirement (Foreign)

theorem add_eq_ok {d d' : Directives} {tag : Tag} {payload : String}
    (h : d.add tag payload = .ok d') :
    payload.isEmpty = false ∧ d.has tag = false ∧ d.put payload tag = .ok d' := by
  unfold add at h
  split at h
  · simp at h
  · split at h
    · simp at h
    · simp_all

theorem put_eq_ok {d d' : Directives} {tag : Tag} {payload : String}
    (h : d.put payload tag = .ok d') :
    (tag = .custom ∧ ∃ custom, readCustom payload = .ok custom ∧
      d' = { d with custom := some custom }) ∨
    (tag = .default ∧ ∃ default, readDefault payload = .ok default ∧
      d' = { d with default := some default }) ∨
    (tag = .dateMode ∧ ∃ mode, DateMode.ofName? payload = some mode ∧
      d' = { d with dateMode := some mode }) := by
  cases tag with
  | custom =>
    obtain ⟨custom, hcustom, h⟩ := bind_eq_ok.mp h
    exact .inl ⟨rfl, custom, mapError_eq_ok.mp hcustom, (pure_eq_ok.mp h).symm⟩
  | default =>
    obtain ⟨default, hdefault, h⟩ := bind_eq_ok.mp h
    exact .inr (.inl ⟨rfl, default, mapError_eq_ok.mp hdefault, (pure_eq_ok.mp h).symm⟩)
  | dateMode =>
    simp only [put] at h
    cases hmode : DateMode.ofName? payload with
    | none => simp [hmode] at h
    | some mode =>
      rw [hmode] at h
      exact .inr (.inr ⟨rfl, mode, rfl, (Except.ok.inj h).symm⟩)

theorem addAll_preserves {P : Directives → Prop} {lines : List (Tag × String)}
    (hstep : ∀ line ∈ lines, ∀ d d', P d → d.add line.1 line.2 = .ok d' → P d')
    {d d' : Directives} (hd : P d) (h : d.addAll lines = .ok d') : P d' := by
  induction lines generalizing d with
  | nil => exact Except.ok.inj h ▸ hd
  | cons line rest ih =>
    obtain ⟨next, hnext, hrest⟩ := bind_eq_ok.mp h
    have hnext' := hstep line List.mem_cons_self d next hd hnext
    exact ih (fun other hother => hstep other (List.mem_cons_of_mem line hother)) hnext' hrest

def ImportPackages (d : Directives) : Prop :=
  (∀ custom, d.custom = some custom → Foreign custom.imports) ∧
    ∀ default, d.default = some default → Foreign default.imports

theorem add_importPackages {d d' : Directives} {tag : Tag} {payload : String}
    (hd : d.ImportPackages) (h : d.add tag payload = .ok d') : d'.ImportPackages := by
  obtain ⟨hcustom, hdefault⟩ := hd
  obtain ⟨-, custom, hread, rfl⟩ | ⟨-, default, hread, rfl⟩ | ⟨-, mode, -, rfl⟩ :=
    put_eq_ok (add_eq_ok h).2.2
  · refine ⟨fun _ h => ?_, hdefault⟩
    obtain rfl := Option.some.inj h
    exact readCustom_foreign hread
  · refine ⟨hcustom, fun _ h => ?_⟩
    obtain rfl := Option.some.inj h
    exact readDefault_foreign hread
  · exact ⟨hcustom, hdefault⟩

theorem parse_importPackages {documentation : String} {d : Directives}
    (h : parse documentation = .ok d) : d.ImportPackages :=
  addAll_preserves (fun _ _ _ _ => add_importPackages) ⟨by simp, by simp⟩ h

theorem parse_bare {documentation : String} {d : Directives}
    (hlines : ∀ line ∈ recognized documentation, line.1 ≠ .custom ∧ line.1 ≠ .default)
    (h : parse documentation = .ok d) : d.custom = none ∧ d.default = none := by
  refine addAll_preserves (P := fun d => d.custom = none ∧ d.default = none) ?_ ⟨rfl, rfl⟩ h
  intro line hline d d' hd hadd
  obtain ⟨hcustom, hdefault⟩ := hlines line hline
  obtain ⟨htag, -⟩ | ⟨htag, -⟩ | ⟨-, mode, -, rfl⟩ := put_eq_ok (add_eq_ok hadd).2.2
  · exact absurd htag hcustom
  · exact absurd htag hdefault
  · exact hd

theorem defaultExpression?_foreign {d : Directives} {default : DefaultExpression}
    (hd : d.ImportPackages) (h : d.defaultExpression? = some default) :
    Foreign default.imports := by
  unfold defaultExpression? at h
  split at h
  · obtain rfl := Option.some.inj h
    exact hd.2 _ ‹_›
  · obtain ⟨custom, hcustom, h⟩ := Option.bind_eq_some_iff.mp h
    obtain ⟨expression, -, rfl⟩ := Option.map_eq_some_iff.mp h
    exact hd.1 custom hcustom

end Directives

end SchemaWriter
