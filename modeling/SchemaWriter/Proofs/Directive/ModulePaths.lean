import SchemaWriter.Proofs.Directive.BlankCode
import SchemaWriter.Proofs.Json.Grammar

namespace SchemaWriter

namespace Literal

def needsEscape (text : String) : Bool :=
  text.toList.any fun c => c ∈ escapes.map Prod.snd

theorem needsEscape_eq_false_iff {text : String} :
    needsEscape text = false ↔ ∀ c ∈ text.toList, c ∉ escapes.map Prod.snd := by
  rw [needsEscape, List.any_eq_false]
  exact forall₂_congr fun c _ => not_congr decide_eq_true_iff

theorem Content.length_lt {text cs rest : List Char} (h : Content text cs rest) :
    cs.length + rest.length < text.length := by
  induction h with
  | done rest => simp
  | escaped _ _ ih | plain _ _ ih => simp only [List.length_cons]; omega

theorem content_append_iff {cs : List Char} (rest : List Char) :
    Content (cs ++ '\'' :: rest) cs rest ↔ ∀ c ∈ cs, c ∉ escapes.map Prod.snd := by
  induction cs with
  | nil => exact ⟨fun _ => by simp, fun _ => .done rest⟩
  | cons c cs ih =>
    rw [List.forall_mem_cons, ← ih, List.cons_append]
    constructor
    · intro h
      generalize htext : cs ++ '\'' :: rest = text at h
      cases h with
      | plain hc hcontent => exact ⟨hc, htext ▸ hcontent⟩
      | escaped _ hcontent =>
        -- An escape takes two places, and there is one for each character.
        have hlength := congrArg List.length htext
        have hlt := hcontent.length_lt
        simp only [List.length_append, List.length_cons] at hlength
        omega
    · exact fun ⟨hc, hcontent⟩ => .plain hc hcontent

theorem denotes_string_iff {text value : String} : Denotes text (.string value) ↔
    ∃ content, text.toList = '\'' :: content ∧ Content content value.toList [] := by
  constructor
  · intro h
    unfold Denotes at h
    generalize htext : text.toList = cs at h
    cases h with
    | string hcontent => exact ⟨_, rfl, by rwa [String.toList_ofList]⟩
  · rintro ⟨content, htext, hcontent⟩
    have hstring := Value.string hcontent
    rwa [String.ofList_toList, ← htext] at hstring

end Literal

namespace Requirement

def QuotesPath (r : Requirement) (resolution : Resolution) : Prop :=
  ∃ literal, r.render resolution = "import " ++ r.clause.render ++ " from " ++ literal ++ ";" ∧
    Literal.Denotes literal (.string (r.source.path resolution))

theorem quotesPath_iff {r : Requirement} {resolution : Resolution} :
    r.QuotesPath resolution ↔ Literal.needsEscape (r.source.path resolution) = false := by
  have hrender : r.render resolution = "import " ++ r.clause.render ++ " from " ++
      ("'" ++ r.source.path resolution ++ "'") ++ ";" := by
    rw [← String.toList_inj]
    simp [render]
  have hliteral : Literal.Denotes ("'" ++ r.source.path resolution ++ "'")
      (.string (r.source.path resolution)) ↔
      Literal.needsEscape (r.source.path resolution) = false := by
    rw [Literal.denotes_string_iff, Literal.needsEscape_eq_false_iff,
      ← Literal.content_append_iff []]
    simp
  rw [← hliteral]
  constructor
  · rintro ⟨literal, htext, hdenotes⟩
    rw [hrender, String.append_left_inj, String.append_right_inj] at htext
    rwa [htext]
  · exact fun hdenotes => ⟨_, hrender, hdenotes⟩

end Requirement

namespace Directive

inductive AsksForModule (path : String) : Tag → String → Prop where
  | json {spec : ImportSpec} {tag : Tag} {payload : String} (hasks : AsksFor spec tag payload)
      (hpath : path = spec.module) : AsksForModule path tag payload
  | shortForm {function payload : String} (hplain : payload.toList.head? ≠ some '{')
      (hmodule : path ≠ "") (hfunction : Naming.isIdentifier function = true)
      (hpayload : payload = path ++ "::" ++ function) : AsksForModule path .default payload

theorem asksForModule_iff {path : String} {tag : Tag} {payload : String} :
    AsksForModule path tag payload ↔
      ∃ r, Origin r tag payload ∧ r.source = .package path := by
  constructor
  · intro h
    cases h with
    | json hasks hpath => exact ⟨_, .json hasks rfl, by rw [hpath]; rfl⟩
    | shortForm hplain hmodule hfunction hpayload =>
      exact ⟨_, .shortForm hplain hmodule hfunction hpayload rfl, rfl⟩
  · rintro ⟨r, horigin, hsource⟩
    cases horigin with
    | json hasks hr =>
      subst hr
      exact .json hasks (Specifier.package.inj hsource).symm
    | shortForm hplain hmodule hfunction hpayload hr =>
      subst hr
      obtain rfl := Specifier.package.inj hsource
      exact .shortForm hplain hmodule hfunction hpayload

theorem Origin.exists_package {r : Requirement} {tag : Tag} {payload : String}
    (h : Origin r tag payload) : ∃ path, r.source = .package path := by
  cases h with
  | json _ hr | shortForm _ _ _ _ hr => exact ⟨_, congrArg Requirement.source hr⟩

end Directive

namespace Directives

open Directive

def EscapedModule (documentation : String) : Prop :=
  ∃ tag payload path, (tag, payload) ∈ recognized documentation ∧ AsksForModule path tag payload ∧
    Literal.needsEscape path = true

theorem parse_quotesPath_iff {documentation : String} {d : Directives}
    (h : parse documentation = .ok d) :
    (∀ r ∈ d.imports, ∀ resolution, r.QuotesPath resolution ↔
      Literal.needsEscape (r.source.path resolution) = false) ∧
    ((∀ r ∈ d.imports, ∀ resolution, r.QuotesPath resolution) ↔ ¬ EscapedModule documentation) := by
  refine ⟨fun r _ resolution => Requirement.quotesPath_iff, ?_, ?_⟩
  · rintro himports ⟨tag, payload, path, hentry, hasks, hescape⟩
    obtain ⟨r, horigin, hsource⟩ := asksForModule_iff.mp hasks
    have hmem : r ∈ d.imports := (mem_imports_iff h).mpr ⟨tag, payload, hentry, horigin⟩
    have hquotes := Requirement.quotesPath_iff.mp (himports r hmem .bundler)
    rw [hsource, Specifier.path, hescape] at hquotes
    cases hquotes
  · intro hnone r hr resolution
    obtain ⟨tag, payload, hentry, horigin⟩ := (mem_imports_iff h).mp hr
    obtain ⟨path, hsource⟩ := horigin.exists_package
    rw [Requirement.quotesPath_iff, hsource, Specifier.path, ← Bool.not_eq_true]
    exact fun hescape => hnone
      ⟨tag, payload, path, hentry, asksForModule_iff.mpr ⟨r, horigin, hsource⟩, hescape⟩

def plainPaths : String :=
  "drizzle.custom \x7b\"imports\": [\x7b\"name\": \"Id\", \"module\": \"@app/ids\"\x7d], " ++
    "\"$type\": \"Id\"\x7d\ndrizzle.default node:crypto::randomUUID"

theorem plainPaths_quotesPath : ∃ d, parse plainPaths = .ok d ∧
    d.imports = [.named ["Id"] "@app/ids", .named ["randomUUID"] "node:crypto"] ∧
    (∀ r ∈ d.imports, ∀ resolution, r.QuotesPath resolution) ∧ ¬ EscapedModule plainPaths := by
  have h : parse plainPaths = .ok
      { custom := some ⟨[.named ["Id"] "@app/ids"], some "Id", none⟩
        default := some ⟨[.named ["randomUUID"] "node:crypto"], "randomUUID()"⟩ } := by
    decide +kernel
  obtain ⟨hone, hall⟩ := parse_quotesPath_iff h
  have hquotes := fun r hr resolution => (hone r hr resolution).mpr <| by
    cases resolution <;> revert r <;> decide
  exact ⟨_, h, rfl, hquotes, hall.mp hquotes⟩

def quoteInShortForm : String :=
  "drizzle.default it's::now"

def backslashInCustom : String :=
  "drizzle.custom \x7b\"imports\": [\x7b\"name\": \"Id\", \"module\": \".\\\\ids\"\x7d], " ++
    "\"$type\": \"Id\"\x7d"

def lineFeedInDefault : String :=
  "drizzle.default \x7b\"imports\": [\x7b\"name\": \"now\", \"module\": \"a\\nb\"\x7d], " ++
    "\"expr\": \"now()\"\x7d"

def MisquotesPath (documentation : String) : Prop :=
  ∃ d, parse documentation = .ok d ∧ ∃ r ∈ d.imports, ∀ resolution, ¬ r.QuotesPath resolution

theorem escapes_not_quotesPath : MisquotesPath quoteInShortForm ∧
    MisquotesPath backslashInCustom ∧ MisquotesPath lineFeedInDefault := by
  have hquote : parse quoteInShortForm = .ok
      { default := some ⟨[.named ["now"] "it's"], "now()"⟩ } := by
    decide +kernel
  have hbackslash : parse backslashInCustom = .ok
      { custom := some ⟨[.named ["Id"] ".\\ids"], some "Id", none⟩ } := by
    decide +kernel
  have hlineFeed : parse lineFeedInDefault = .ok
      { default := some ⟨[.named ["now"] "a\nb"], "now()"⟩ } := by
    decide +kernel
  have hnot : ∀ {names path resolution}, Literal.needsEscape path = true →
      ¬ (Requirement.named names path).QuotesPath resolution :=
    fun hescape hquotes =>
      Bool.false_ne_true ((Requirement.quotesPath_iff.mp hquotes).symm.trans hescape)
  exact ⟨⟨_, hquote, _, List.mem_singleton_self _, fun _ => hnot (by decide)⟩,
    ⟨_, hbackslash, _, List.mem_singleton_self _, fun _ => hnot (by decide)⟩,
    ⟨_, hlineFeed, _, List.mem_singleton_self _, fun _ => hnot (by decide)⟩⟩

end Directives

end SchemaWriter
