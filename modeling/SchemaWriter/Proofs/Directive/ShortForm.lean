import SchemaWriter.Proofs.Directive.Lines
import SchemaWriter.Proofs.Naming.Identifiers

namespace SchemaWriter

open Outcome

namespace Directive

theorem splitColons?_eq_some {payload module function : List Char} :
    splitColons? payload = some (module, function) ↔
      payload = module ++ ':' :: ':' :: function ∧ ':' ∉ function := by
  unfold splitColons?
  constructor
  · intro h
    split at h
    · rename_i name rest hspan
      obtain ⟨rfl, rfl⟩ := Prod.mk.inj (Option.some.inj h)
      obtain ⟨-, hpayload, hplain⟩ := span_reverse_eq_iff.mp hspan
      exact ⟨by simpa using hpayload, by simpa using hplain⟩
    · cases h
  · rintro ⟨rfl, hcolon⟩
    have hspan : (module ++ ':' :: ':' :: function).reverse.span (· ≠ ':') =
        (function.reverse, ':' :: ':' :: module.reverse) :=
      span_reverse_eq_iff.mpr ⟨rfl, by simp, by simpa using hcolon⟩
    rw [hspan]
    simp

theorem readFunction_eq_ok_iff {payload : String} {default : DefaultExpression} :
    readFunction payload = .ok default ↔
      ∃ module function, module ≠ "" ∧ Naming.isIdentifier function = true ∧
        payload = module ++ "::" ++ function ∧
        default = ⟨[.named [function] module], function ++ "()"⟩ := by
  unfold readFunction
  constructor
  · intro h
    split at h
    · rename_i module function hsplit
      obtain ⟨hpayload, -⟩ := splitColons?_eq_some.mp hsplit
      split at h
      · cases h
      · rename_i haccepted
        obtain rfl := Except.ok.inj h
        simp only [Bool.or_eq_true, List.isEmpty_iff, Bool.not_eq_true', not_or,
          Bool.not_eq_false] at haccepted
        refine ⟨String.ofList module, String.ofList function, ?_, haccepted.2, ?_, rfl⟩
        · intro hempty
          exact haccepted.1 (by simpa using congrArg String.toList hempty)
        · apply String.toList_injective
          simp [hpayload]
    · cases h
  · rintro ⟨module, function, hmodule, hfunction, rfl, rfl⟩
    have hcolon : ':' ∉ function.toList := fun hmem =>
      absurd (Naming.isIdentifierPart_of_mem hfunction hmem) (by decide)
    have hsplit : splitColons? (module ++ "::" ++ function).toList =
        some (module.toList, function.toList) :=
      splitColons?_eq_some.mpr ⟨by simp, hcolon⟩
    have hmodule : module.toList.isEmpty = false := by
      simpa using hmodule
    rw [hsplit]
    simp [hmodule, hfunction]

end Directive

namespace Directives

open Directive

theorem leader_eq : leader = "drizzle.".toList := rfl

theorem toList_line (tag : Tag) (payload : String) :
    ("drizzle." ++ tag.name ++ " " ++ payload).toList =
      leader ++ (tag.name.toList ++ ' ' :: payload.toList) := by
  have hspace : " ".toList = [' '] := by decide
  simp only [String.toList_append, leader_eq, hspace, List.append_assoc, List.singleton_append]

theorem carries_of_trimmed {tag : Tag} {payload : String} (hne : payload ≠ "")
    (h : Text.Trimmed payload.toList) :
    Carries ("drizzle." ++ tag.name ++ " " ++ payload) tag payload := by
  have hblank : Text.isBlank ' ' = true := by decide
  have hline : Text.Trimmed (leader ++ (tag.name.toList ++ ' ' :: payload.toList)) := by
    constructor
    · have hfirst : leader.head? = some 'd' := by decide
      intro c hc
      rw [List.head?_append, hfirst, Option.some_or, Option.mem_some] at hc
      exact hc ▸ by decide
    · intro c hc
      have hpayload : payload.toList ≠ [] := by simpa using hne
      rw [List.getLast?_append_of_ne_nil _ (by simp), List.getLast?_append_of_ne_nil _ (by simp),
        List.getLast?_cons_of_ne_nil hpayload] at hc
      exact h.last c hc
  refine ⟨' ' :: payload.toList, ?_, by simp [hblank], ?_⟩
  · rw [toList_line, hline.trim_eq]
  · rw [Text.trim_cons_of_blank hblank, h.trim_eq, String.ofList_toList]

def shortForm (module function : String) : Directives where
  default := some ⟨[.named [function] module], function ++ "()"⟩

theorem add_default_eq_ok_iff {payload : String} {d : Directives}
    (hplain : payload.toList.head? ≠ some '{') : add {} .default payload = .ok d ↔
      ∃ module function, module ≠ "" ∧ Naming.isIdentifier function = true ∧
        payload = module ++ "::" ++ function ∧ d = shortForm module function := by
  have hread : readDefault payload = readFunction payload := if_neg hplain
  constructor
  · intro h
    obtain ⟨htag, -⟩ | ⟨-, default, hdefault, rfl⟩ | ⟨htag, -⟩ := put_eq_ok (add_eq_ok h).2.2
    · cases htag
    · rw [hread] at hdefault
      obtain ⟨module, function, hmodule, hfunction, rfl, rfl⟩ := readFunction_eq_ok_iff.mp hdefault
      exact ⟨module, function, hmodule, hfunction, rfl, rfl⟩
    · cases htag
  · rintro ⟨module, function, hmodule, hfunction, rfl, rfl⟩
    have hdefault := readFunction_eq_ok_iff.mpr ⟨module, function, hmodule, hfunction, rfl, rfl⟩
    simp [add, String.isEmpty_iff, hmodule, has, put, hread, hdefault, Except.mapError, shortForm,
      bind, Except.bind, pure, Except.pure]

structure Leads (module : String) : Prop where
  nonempty : module ≠ ""
  oneLine : '\n' ∉ module.toList
  first : ∀ c ∈ module.toList.head?, c ≠ '{' ∧ Text.isBlank c = false

section

variable {module function : String} (hmodule : Leads module)
  (hfunction : Naming.isIdentifier function = true)

theorem toList_payload :
    (module ++ "::" ++ function).toList = module.toList ++ ':' :: ':' :: function.toList := by
  simp

include hmodule

theorem head?_payload (function : String) :
    ∃ c, (module ++ "::" ++ function).toList.head? = some c ∧ c ≠ '{' ∧ Text.isBlank c = false := by
  obtain ⟨c, cs, hcs⟩ :=
    List.exists_cons_of_ne_nil (String.toList_eq_nil_iff.not.mpr hmodule.nonempty)
  have hfirst := hmodule.first c (by simp [hcs])
  exact ⟨c, by simp [hcs], hfirst⟩

include hfunction

theorem trimmed_payload : Text.Trimmed (module ++ "::" ++ function).toList where
  first := by
    intro d hd
    obtain ⟨c, hc, -, hblank⟩ := head?_payload hmodule function
    obtain rfl := Option.some.inj (hc.symm.trans hd)
    exact hblank
  last := by
    intro c hc
    rw [toList_payload, List.getLast?_append_of_ne_nil _ (by simp)] at hc
    have hmem := List.mem_of_getLast? hc
    simp only [List.mem_cons] at hmem
    rcases hmem with rfl | rfl | hmem
    · decide
    · decide
    · exact Naming.not_isBlank_of_isIdentifierPart (Naming.isIdentifierPart_of_mem hfunction hmem)

theorem newline_not_mem_payload : '\n' ∉ (module ++ "::" ++ function).toList := by
  rw [toList_payload]
  simp only [List.mem_append, List.mem_cons, not_or]
  refine ⟨hmodule.oneLine, by decide, by decide, fun hmem => ?_⟩
  exact absurd (Naming.isIdentifierPart_of_mem hfunction hmem) (by decide)

end

theorem parse_shortForm :
    (∀ module function, Leads module → Naming.isIdentifier function = true →
      parse ("drizzle.default " ++ (module ++ "::" ++ function)) =
        .ok (shortForm module function)) ∧
    (∀ line payload d, '\n' ∉ line.toList → Carries line .default payload →
      payload.toList.head? ≠ some '{' → parse line = .ok d →
      ∃ module function, module ≠ "" ∧ Naming.isIdentifier function = true ∧
        payload = module ++ "::" ++ function ∧ d = shortForm module function) := by
  constructor
  · intro module function hmodule hfunction
    obtain ⟨c, hc, hbrace, -⟩ := head?_payload hmodule function
    have hplain : (module ++ "::" ++ function).toList.head? ≠ some '{' := by
      rw [hc]
      rintro ⟨⟩
      exact hbrace rfl
    have hne : module ++ "::" ++ function ≠ "" := by simp
    have hcarries : Carries ("drizzle." ++ Tag.default.name ++ " " ++ (module ++ "::" ++ function))
        .default (module ++ "::" ++ function) :=
      carries_of_trimmed hne (trimmed_payload hmodule hfunction)
    have hleader : "drizzle." ++ Tag.default.name ++ " " = "drizzle.default " := by decide
    have hline := newline_not_mem_payload hmodule hfunction
    rw [hleader] at hcarries
    rw [hcarries.parse_eq ?_]
    · exact (add_default_eq_ok_iff hplain).mpr
        ⟨module, function, hmodule.nonempty, hfunction, rfl, rfl⟩
    · have hstart : '\n' ∉ "drizzle.default ".toList := by decide
      rw [String.toList_append, List.mem_append, not_or]
      exact ⟨hstart, hline⟩
  · intro line payload d hone hcarries hplain hread
    rw [hcarries.parse_eq hone] at hread
    exact (add_default_eq_ok_iff hplain).mp hread

theorem parse_shortForm_scoped :
    Leads "@scope/ids:" ∧ Naming.isIdentifier "create" = true ∧
      parse ("drizzle.default " ++ ("@scope/ids:" ++ "::" ++ "create")) =
        .ok (shortForm "@scope/ids:" "create") ∧
    ∃ module function, module ≠ "" ∧ Naming.isIdentifier function = true ∧
      "@scope/ids:::create" = module ++ "::" ++ function ∧
        shortForm "@scope/ids:" "create" = shortForm module function := by
  have hhead : "@scope/ids:".toList.head? = some '@' := by decide
  have hleads : Leads "@scope/ids:" := by
    refine ⟨by decide, by decide, fun c hc => ?_⟩
    obtain rfl := Option.some.inj (hhead.symm.trans hc)
    decide
  have hread := parse_shortForm.1 "@scope/ids:" "create" hleads (by decide)
  refine ⟨hleads, by decide, hread, ?_⟩
  exact parse_shortForm.2 " drizzle.default  @scope/ids:::create" "@scope/ids:::create" _
    (by decide) (by decide) (by decide) (by decide)

end Directives

end SchemaWriter
