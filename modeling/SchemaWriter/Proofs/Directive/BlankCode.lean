import SchemaWriter.Proofs.Directive.LineLocal
import SchemaWriter.Proofs.Directive.ShortForm

namespace SchemaWriter

open Outcome

namespace Directive

inductive AsksFor (spec : ImportSpec) : Tag → String → Prop where
  | custom {payload : String} {parsed : CustomPayload}
      (hparsed : readJson CustomPayload.record payload = .ok parsed)
      (hspec : spec ∈ parsed.imports) : AsksFor spec .custom payload
  | default {payload : String} {parsed : DefaultPayload} (hobject : payload.toList.head? = some '{')
      (hparsed : readJson DefaultPayload.record payload = .ok parsed)
      (hspec : spec ∈ parsed.imports) : AsksFor spec .default payload

inductive Origin (r : Requirement) : Tag → String → Prop where
  | json {spec : ImportSpec} {tag : Tag} {payload : String} (hasks : AsksFor spec tag payload)
      (hr : r = .named spec.names spec.module) : Origin r tag payload
  | shortForm {module function payload : String} (hplain : payload.toList.head? ≠ some '{')
      (hmodule : module ≠ "") (hfunction : Naming.isIdentifier function = true)
      (hpayload : payload = module ++ "::" ++ function) (hr : r = .named [function] module) :
      Origin r .default payload

theorem mem_imports_readCustom {payload : String} {custom : CustomType}
    (h : readCustom payload = .ok custom) {r : Requirement} :
    r ∈ custom.imports ↔ Origin r .custom payload := by
  obtain ⟨parsed, imports, hparsed, -, himports, rfl⟩ := readCustom_eq_ok h
  obtain ⟨-, rfl⟩ := requirements_eq_ok himports
  constructor
  · intro hr
    obtain ⟨spec, hspec, rfl⟩ := List.mem_map.mp hr
    exact .json (.custom hparsed hspec) rfl
  · intro horigin
    cases horigin with
    | json hasks hr =>
      cases hasks with
      | custom hparsed' hspec =>
        obtain rfl := Except.ok.inj (hparsed.symm.trans hparsed')
        exact List.mem_map.mpr ⟨_, hspec, hr.symm⟩

theorem mem_imports_readDefault {payload : String} {default : DefaultExpression}
    (h : readDefault payload = .ok default) {r : Requirement} :
    r ∈ default.imports ↔ Origin r .default payload := by
  unfold readDefault at h
  split at h
  · rename_i hobject
    obtain ⟨parsed, imports, hparsed, -, himports, rfl⟩ := readDefaultObject_eq_ok h
    obtain ⟨-, rfl⟩ := requirements_eq_ok himports
    constructor
    · intro hr
      obtain ⟨spec, hspec, rfl⟩ := List.mem_map.mp hr
      exact .json (.default hobject hparsed hspec) rfl
    · intro horigin
      cases horigin with
      | json hasks hr =>
        cases hasks with
        | default _ hparsed' hspec =>
          obtain rfl := Except.ok.inj (hparsed.symm.trans hparsed')
          exact List.mem_map.mpr ⟨_, hspec, hr.symm⟩
      | shortForm hplain => exact absurd hobject hplain
  · rename_i hplain
    obtain ⟨module, function, hmodule, hfunction, hpayload, rfl⟩ := readFunction_eq_ok_iff.mp h
    rw [List.mem_singleton]
    constructor
    · exact .shortForm hplain hmodule hfunction hpayload
    · intro horigin
      cases horigin with
      | json hasks =>
        cases hasks with
        | default hobject => exact absurd hobject hplain
      | shortForm _ hmodule' hfunction' hpayload' hr =>
        have hsame := readFunction_eq_ok_iff.mpr ⟨_, _, hmodule', hfunction', hpayload', rfl⟩
        obtain ⟨himports, -⟩ := DefaultExpression.mk.inj (Except.ok.inj (h.symm.trans hsame))
        rw [hr, ← List.singleton_inj.mp himports]

theorem AsksFor.complete {spec : ImportSpec} {tag : Tag} {payload : String}
    (hasks : AsksFor spec tag payload) {own : Directives}
    (h : Directives.put {} payload tag = .ok own) : spec.Complete := by
  cases hasks with
  | custom hparsed hspec =>
    obtain ⟨custom, hcustom, -⟩ := bind_eq_ok.mp h
    obtain ⟨parsed, imports, hparsed', -, himports, -⟩ :=
      readCustom_eq_ok (mapError_eq_ok.mp hcustom)
    obtain rfl := Except.ok.inj (hparsed.symm.trans hparsed')
    exact (requirements_eq_ok himports).1 spec hspec
  | default hobject hparsed hspec =>
    obtain ⟨default, hdefault, -⟩ := bind_eq_ok.mp h
    rw [mapError_eq_ok, readDefault, if_pos hobject] at hdefault
    obtain ⟨parsed, imports, hparsed', -, himports, -⟩ := readDefaultObject_eq_ok hdefault
    obtain rfl := Except.ok.inj (hparsed.symm.trans hparsed')
    exact (requirements_eq_ok himports).1 spec hspec

end Directive

namespace Directives

open Directive

def imports (d : Directives) : List Requirement :=
  (d.custom.map (·.imports)).getD [] ++ (d.default.map (·.imports)).getD []

theorem mem_imports {d : Directives} {r : Requirement} : r ∈ d.imports ↔
    (∃ custom, d.custom = some custom ∧ r ∈ custom.imports) ∨
    (∃ default, d.default = some default ∧ r ∈ default.imports) := by
  rw [imports, List.mem_append]
  cases d.custom <;> cases d.default <;> simp

theorem defaultExpression?_eq_some_iff {d : Directives} {default : DefaultExpression} :
    d.defaultExpression? = some default ↔ d.default = some default ∨
      (d.default = none ∧ ∃ custom expression, d.custom = some custom ∧
        custom.default = some expression ∧ default = ⟨custom.imports, expression⟩) := by
  unfold defaultExpression?
  cases hdefault : d.default with
  | some given => simp
  | none =>
    simp only [reduceCtorEq, true_and, false_or, Option.bind_eq_some_iff, Option.map_eq_some_iff,
      exists_and_left, @eq_comm _ default]

structure NoBlankCode (d : Directives) : Prop where
  type : ∀ custom ∈ d.custom, ∀ type ∈ custom.type, Text.isBlankText type = false
  expression : ∀ default ∈ d.defaultExpression?, Text.isBlankText default.expression = false
  names : ∀ r ∈ d.imports, ∀ name ∈ r.clause.bindings, Text.isBlankText name = false
  modules : ∀ r ∈ d.imports, ∀ resolution, Text.isBlankText (r.source.path resolution) = false

theorem noBlankCode_iff {d : Directives} : d.NoBlankCode ↔
    (∀ custom ∈ d.custom, ∀ type ∈ custom.type, Text.isBlankText type = false) ∧
    (∀ default ∈ d.defaultExpression?, Text.isBlankText default.expression = false) ∧
    (∀ r ∈ d.imports, ∀ name ∈ r.clause.bindings, Text.isBlankText name = false) ∧
    ∀ r ∈ d.imports, ∀ resolution ∈ [Resolution.bundler, .nodeNext],
      Text.isBlankText (r.source.path resolution) = false := by
  constructor
  · exact fun h =>
      ⟨h.type, h.expression, h.names, fun r hr resolution _ => h.modules r hr resolution⟩
  · rintro ⟨htype, hexpression, hnames, hmodules⟩
    exact ⟨htype, hexpression, hnames,
      fun r hr resolution => hmodules r hr resolution (by cases resolution <;> simp)⟩

instance (d : Directives) : Decidable d.NoBlankCode :=
  decidable_of_iff _ noBlankCode_iff.symm

def BlankDefault (documentation : String) : Prop :=
  (∀ payload, (Tag.default, payload) ∉ recognized documentation) ∧
    ∃ payload parsed expression, (Tag.custom, payload) ∈ recognized documentation ∧
      readJson CustomPayload.record payload = .ok parsed ∧ parsed.default = some expression ∧
      Text.isBlankText expression = true

def BlankModule (documentation : String) : Prop :=
  ∃ tag payload spec, (tag, payload) ∈ recognized documentation ∧ AsksFor spec tag payload ∧
    Text.isBlankText spec.module = true

structure Keeps {α : Type} (tag : Tag) (read : String → Except Defect α)
    (kept : Directives → Option α) : Prop where
  of_put : ∀ payload own, put {} payload tag = .ok own →
    ∃ a, read payload = .ok a ∧ kept own = some a
  of_agreesOn : ∀ d own, AgreesOn d own tag → kept d = kept own
  has_eq : ∀ d, d.has tag = (kept d).isSome

theorem keeps_custom : Keeps .custom readCustom Directives.custom where
  of_put := by
    intro payload own hput
    obtain ⟨-, custom, hread, rfl⟩ | ⟨htag, -⟩ | ⟨htag, -⟩ := put_eq_ok hput
    · exact ⟨custom, hread, rfl⟩
    · cases htag
    · cases htag
  of_agreesOn _ _ h := h
  has_eq _ := rfl

theorem keeps_default : Keeps .default readDefault Directives.default where
  of_put := by
    intro payload own hput
    obtain ⟨htag, -⟩ | ⟨-, default, hread, rfl⟩ | ⟨htag, -⟩ := put_eq_ok hput
    · cases htag
    · exact ⟨default, hread, rfl⟩
    · cases htag
  of_agreesOn _ _ h := h
  has_eq _ := rfl

section

variable {documentation : String} {d : Directives} (h : parse documentation = .ok d)
include h

theorem exists_put {tag : Tag} {payload : String}
    (hentry : (tag, payload) ∈ recognized documentation) :
    ∃ own, put {} payload tag = .ok own ∧ d.AgreesOn own tag := by
  obtain ⟨-, own, hown, hagrees⟩ := (addAll_eq_ok_iff.mp h).1 (tag, payload) hentry
  exact ⟨own, (add_eq_ok hown).2.2, hagrees⟩

theorem Keeps.exists_read {α : Type} {tag : Tag} {read : String → Except Defect α}
    {kept : Directives → Option α} (hkeeps : Keeps tag read kept) {payload : String}
    (hentry : (tag, payload) ∈ recognized documentation) :
    ∃ a, read payload = .ok a ∧ kept d = some a := by
  obtain ⟨own, hput, hagrees⟩ := exists_put h hentry
  obtain ⟨a, hread, hkept⟩ := hkeeps.of_put payload own hput
  exact ⟨a, hread, (hkeeps.of_agreesOn d own hagrees).trans hkept⟩

theorem Keeps.exists_entry {α : Type} {tag : Tag} {read : String → Except Defect α}
    {kept : Directives → Option α} (hkeeps : Keeps tag read kept) {a : α}
    (hkept : kept d = some a) :
    ∃ payload, (tag, payload) ∈ recognized documentation ∧ read payload = .ok a := by
  have hhas : d.has tag = true := by
    rw [hkeeps.has_eq, hkept]
    rfl
  obtain ⟨⟨_, payload⟩, hentry, rfl⟩ := List.mem_map.mp ((has_addAll_iff h).mp hhas)
  obtain ⟨own, hread, hown⟩ := hkeeps.exists_read h hentry
  obtain rfl := Option.some.inj (hkept.symm.trans hown)
  exact ⟨payload, hentry, hread⟩

theorem mem_imports_iff {r : Requirement} : r ∈ d.imports ↔
    ∃ tag payload, (tag, payload) ∈ recognized documentation ∧ Origin r tag payload := by
  rw [mem_imports]
  constructor
  · rintro (⟨custom, hcustom, hr⟩ | ⟨default, hdefault, hr⟩)
    · obtain ⟨payload, hentry, hread⟩ := keeps_custom.exists_entry h hcustom
      exact ⟨.custom, payload, hentry, (mem_imports_readCustom hread).mp hr⟩
    · obtain ⟨payload, hentry, hread⟩ := keeps_default.exists_entry h hdefault
      exact ⟨.default, payload, hentry, (mem_imports_readDefault hread).mp hr⟩
  · rintro ⟨tag, payload, hentry, horigin⟩
    cases tag with
    | custom =>
      obtain ⟨custom, hread, hcustom⟩ := keeps_custom.exists_read h hentry
      exact .inl ⟨custom, hcustom, (mem_imports_readCustom hread).mpr horigin⟩
    | default =>
      obtain ⟨default, hread, hdefault⟩ := keeps_default.exists_read h hentry
      exact .inr ⟨default, hdefault, (mem_imports_readDefault hread).mpr horigin⟩
    | dateMode =>
      cases horigin with
      | json hasks => cases hasks

omit h in
theorem trimmed_of_mem_recognized {tag : Tag} {payload : String}
    (hentry : (tag, payload) ∈ recognized documentation) : Text.Trimmed payload.toList := by
  rw [recognized_eq_entries] at hentry
  obtain ⟨line, -, hcarries⟩ := mem_entries.mp hentry
  exact hcarries.payload_trimmed

omit h in
theorem not_isBlankText_module {module function : String} (hmodule : module ≠ "")
    (h : Text.Trimmed (module ++ "::" ++ function).toList) : Text.isBlankText module = false := by
  -- White space in front of the colons would stand in front of the payload.
  obtain ⟨c, cs, hcs⟩ := List.exists_cons_of_ne_nil (String.toList_eq_nil_iff.not.mpr hmodule)
  exact Text.isBlankText_eq_false_iff.mpr ⟨c, by simp [hcs], h.first c (by simp [hcs])⟩

theorem type_not_blank {custom : CustomType} (hcustom : d.custom = some custom) :
    custom.type.any Text.isBlankText = false := by
  obtain ⟨payload, -, hread⟩ := keeps_custom.exists_entry h hcustom
  obtain ⟨parsed, imports, -, htype, -, rfl⟩ := readCustom_eq_ok hread
  exact htype

theorem names_not_blank {r : Requirement} (hr : r ∈ d.imports) {name : String}
    (hname : name ∈ r.clause.bindings) : Text.isBlankText name = false := by
  obtain ⟨tag, payload, hentry, horigin⟩ := (mem_imports_iff h).mp hr
  cases horigin with
  | json hasks hr =>
    subst hr
    obtain ⟨own, hown, -⟩ := exists_put h hentry
    exact (hasks.complete hown).spelled name hname
  | shortForm _ _ hfunction _ hr =>
    subst hr
    obtain rfl := List.mem_singleton.mp hname
    exact Naming.not_isBlankText_of_isIdentifier hfunction

theorem modules_not_blank_iff :
    (∀ r ∈ d.imports, ∀ resolution, Text.isBlankText (r.source.path resolution) = false) ↔
      ¬ BlankModule documentation := by
  constructor
  · rintro himports ⟨tag, payload, spec, hentry, hasks, hblank⟩
    have hmem : Requirement.named spec.names spec.module ∈ d.imports :=
      (mem_imports_iff h).mpr ⟨tag, payload, hentry, .json hasks rfl⟩
    have hmodule : Text.isBlankText spec.module = false := himports _ hmem .bundler
    rw [hmodule] at hblank
    cases hblank
  · intro hnone r hr resolution
    obtain ⟨tag, payload, hentry, horigin⟩ := (mem_imports_iff h).mp hr
    cases horigin with
    | json hasks hr =>
      subst hr
      rw [← Bool.not_eq_true]
      exact fun hblank => hnone ⟨tag, payload, _, hentry, hasks, hblank⟩
    | shortForm _ hmodule _ hpayload hr =>
      subst hr hpayload
      exact not_isBlankText_module hmodule (trimmed_of_mem_recognized hentry)

theorem expression_not_blank_of_default {default : DefaultExpression}
    (hdefault : d.default = some default) : Text.isBlankText default.expression = false := by
  obtain ⟨payload, -, hread⟩ := keeps_default.exists_entry h hdefault
  unfold readDefault at hread
  split at hread
  · obtain ⟨parsed, imports, -, hexpression, -, rfl⟩ := readDefaultObject_eq_ok hread
    exact hexpression
  · obtain ⟨module, function, -, -, -, rfl⟩ := readFunction_eq_ok_iff.mp hread
    have hcall : '(' ∈ (function ++ "()").toList := by simp
    exact Text.isBlankText_eq_false_iff.mpr ⟨'(', hcall, by decide⟩

theorem expression_not_blank_iff :
    (∀ default ∈ d.defaultExpression?, Text.isBlankText default.expression = false) ↔
      ¬ BlankDefault documentation := by
  constructor
  · rintro hexpression ⟨hnone, payload, parsed, expression, hentry, hparsed, hdefault, hblank⟩
    obtain ⟨custom, hread, hcustom⟩ := keeps_custom.exists_read h hentry
    obtain ⟨parsed', imports, hparsed', -, -, rfl⟩ := readCustom_eq_ok hread
    obtain rfl := Except.ok.inj (hparsed.symm.trans hparsed')
    have habsent : d.default = none := by
      rw [Option.eq_none_iff_forall_not_mem]
      intro default hdefault
      obtain ⟨payload, hentry, -⟩ := keeps_default.exists_entry h hdefault
      exact hnone payload hentry
    have hmem : d.defaultExpression? = some ⟨imports, expression⟩ :=
      defaultExpression?_eq_some_iff.mpr (.inr ⟨habsent, _, expression, hcustom, hdefault, rfl⟩)
    rw [hexpression _ hmem] at hblank
    cases hblank
  · intro hnone default hdefault
    obtain hdefault | ⟨habsent, custom, expression, hcustom, hexpression, rfl⟩ :=
      defaultExpression?_eq_some_iff.mp hdefault
    · exact expression_not_blank_of_default h hdefault
    · rw [← Bool.not_eq_true]
      intro hblank
      obtain ⟨payload, hentry, hread⟩ := keeps_custom.exists_entry h hcustom
      obtain ⟨parsed, imports, hparsed, -, -, rfl⟩ := readCustom_eq_ok hread
      refine hnone ⟨fun payload' hentry' => ?_, payload, parsed, expression, hentry, hparsed,
        hexpression, hblank⟩
      obtain ⟨default, -, hdefault⟩ := keeps_default.exists_read h hentry'
      rw [habsent] at hdefault
      cases hdefault

theorem parse_noBlankCode_iff :
    d.NoBlankCode ↔ ¬ BlankDefault documentation ∧ ¬ BlankModule documentation := by
  rw [← expression_not_blank_iff h, ← modules_not_blank_iff h]
  constructor
  · exact fun hblank => ⟨hblank.expression, hblank.modules⟩
  · rintro ⟨hexpression, hmodules⟩
    refine ⟨fun custom hcustom type htype => ?_, hexpression,
      fun r hr name hname => names_not_blank h hr hname, hmodules⟩
    have htypes := type_not_blank h hcustom
    rwa [Option.mem_def.mp htype] at htypes

end

def replacedDefault : String :=
  "drizzle.custom \x7b\"$type\": \"Id\", \"default\": \" \"\x7d\ndrizzle.default ids::create"

theorem replacedDefault_noBlankCode :
    ∃ d, parse replacedDefault = .ok d ∧ d.NoBlankCode ∧
      ¬ BlankDefault replacedDefault ∧ ¬ BlankModule replacedDefault := by
  have h : parse replacedDefault = .ok
      { custom := some ⟨[], some "Id", some " "⟩
        default := some ⟨[.named ["create"] "ids"], "create()"⟩ } := by
    decide +kernel
  have hclean := (parse_noBlankCode_iff h).mp
  exact ⟨_, h, by decide, hclean (by decide)⟩

def blankDefault : String :=
  "drizzle.custom \x7b\"default\": \" \"\x7d"

def blankModule : String :=
  "drizzle.default \x7b\"imports\": [\x7b\"name\": \"now\", \"module\": \" \"\x7d], " ++
    "\"expr\": \"now()\"\x7d"

theorem blank_not_noBlankCode :
    (∃ d, parse blankDefault = .ok d ∧ ¬ d.NoBlankCode) ∧
    (∃ d, parse blankModule = .ok d ∧ ¬ d.NoBlankCode) := by
  have hdefault : parse blankDefault = .ok { custom := some ⟨[], none, some " "⟩ } := by
    decide +kernel
  have hmodule : parse blankModule = .ok
      { default := some ⟨[.named ["now"] " "], "now()"⟩ } := by
    decide +kernel
  exact ⟨⟨_, hdefault, by decide⟩, _, hmodule, by decide⟩

end Directives

end SchemaWriter
