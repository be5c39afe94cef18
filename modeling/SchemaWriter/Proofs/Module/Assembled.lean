import SchemaWriter.Module
import SchemaWriter.Proofs.Fragment.Attached
import SchemaWriter.Proofs.Lists
import SchemaWriter.Proofs.Requirement.Distinct

namespace SchemaWriter

namespace Requirement

theorem key_eq_of_isNamed {r : Requirement} (h : r.isNamed = true) :
    r.key = ⟨.named [], r.source⟩ := by
  obtain ⟨clause, source⟩ := r
  cases clause with
  | named names => rfl
  | whole | wildcard => cases h

theorem Settled.nodup_sources {statements : List Requirement} (h : Settled statements) :
    ((statements.filter (·.isNamed)).map (·.source)).Nodup := by
  have hkeys : ((statements.filter (·.isNamed)).map key).Nodup :=
    (List.filter_sublist.map key).nodup h.keys
  refine (List.nodup_map_iff_inj_on (List.Nodup.of_map _ hkeys)).mpr ?_
  intro statement hmem other hother hsource
  have hkey := key_eq_of_isNamed (List.mem_filter.mp hmem).2
  have hkey' := key_eq_of_isNamed (List.mem_filter.mp hother).2
  refine List.inj_on_of_nodup_map hkeys hmem hother ?_
  rw [hkey, hkey', hsource]

theorem Settled.nodup {statements : List Requirement} (h : Settled statements) :
    statements.Nodup :=
  List.Nodup.of_map _ h.keys

theorem Settled.nodup_names {statements : List Requirement} (h : Settled statements)
    {statement : Requirement} (hmem : statement ∈ statements) : statement.names.Nodup := by
  have hbindings := h.bindings statement hmem
  obtain ⟨clause, source⟩ := statement
  cases clause with
  | named names => exact hbindings
  | whole | wildcard => exact List.nodup_nil

end Requirement

namespace Module

open Requirement

def paragraphs (m : Module) : List String :=
  (if m.imports = [] then [] else ["\n".intercalate (m.imports.map (·.render m.resolution))]) ++
    m.declarations.map Fragment.render

structure AssembledFrom (resolution : Resolution) (name : String) (declarations : List Fragment)
    (m : Module) : Prop where
  title : m.name = name
  resolved : m.resolution = resolution
  declared : m.declarations = declarations
  named : ∀ source binding, Requires m.imports source binding ↔ source ≠ .sibling name ∧
    ∃ declaration ∈ declarations, ∃ names,
      declaration.Attaches ⟨.named names, source⟩ ∧ binding ∈ names
  others : ∀ statement, statement.isNamed = false → (statement ∈ m.imports ↔
    statement.source ≠ .sibling name ∧
      ∃ declaration ∈ declarations, declaration.Attaches statement)
  sources : ((m.imports.filter (·.isNamed)).map (·.source)).Nodup
  names : ∀ statement ∈ m.imports, statement.names.Nodup
  once : (m.imports.filter (!·.isNamed)).Nodup
  code : m.code = "\n\n".intercalate m.paragraphs ++ "\n"

theorem mem_requirements {declarations : List Fragment} {r : Requirement} :
    r ∈ requirements declarations ↔ ∃ declaration ∈ declarations, declaration.Attaches r := by
  simp only [requirements, List.mem_flatMap, Fragment.mem_imports_iff]

variable {resolution : Resolution} {name : String} {declarations : List Fragment}

theorem mem_assembled {r : Requirement} :
    r ∈ (requirements declarations).filter (·.source ≠ .sibling name) ↔
      r.source ≠ .sibling name ∧ ∃ declaration ∈ declarations, declaration.Attaches r := by
  rw [List.mem_filter, mem_requirements, and_comm, decide_eq_true_eq]

theorem mem_names_iff {r : Requirement} {name : String} :
    name ∈ r.names ↔ ∃ names, r = ⟨.named names, r.source⟩ ∧ name ∈ names := by
  obtain ⟨clause, source⟩ := r
  cases clause <;> simp [names]

theorem requires_assembled {source : Specifier} {binding : String} :
    Requires (assemble resolution name declarations).imports source binding ↔
      source ≠ .sibling name ∧ ∃ declaration ∈ declarations, ∃ names,
        declaration.Attaches ⟨.named names, source⟩ ∧ binding ∈ names := by
  rw [assemble, requires_merge]
  constructor
  · rintro ⟨r, hr, rfl, hbinding⟩
    obtain ⟨hother, declaration, hmem, hattached⟩ := mem_assembled.mp hr
    obtain ⟨names, hclause, hbinding⟩ := mem_names_iff.mp hbinding
    exact ⟨hother, declaration, hmem, names, hclause ▸ hattached, hbinding⟩
  · rintro ⟨hother, declaration, hmem, names, hattached, hbinding⟩
    exact ⟨_, mem_assembled.mpr ⟨hother, declaration, hmem, hattached⟩, rfl, hbinding⟩

theorem imports_assemble_nil (h : declarations = []) :
    (assemble resolution name declarations).imports = [] := by
  subst h
  rfl

theorem code_eq_paragraphs {m : Module} (h : m.declarations = [] → m.imports = []) :
    m.code = "\n\n".intercalate m.paragraphs ++ "\n" := by
  by_cases himports : m.imports = []
  · simp [code, importBlock, paragraphs, himports]
  -- A declaration follows the imports, so their blank line stands between two paragraphs.
  · have hdeclarations : m.declarations.map Fragment.render ≠ [] := by
      simpa using mt h himports
    have hlines : m.imports.map (·.render m.resolution) ≠ [] := by simpa using himports
    have hblank : "\n\n" = "\n" ++ "\n" := by decide
    have hblock : m.importBlock =
        "\n".intercalate (m.imports.map (·.render m.resolution)) ++ "\n\n" := by
      have hjoin := join_map_append hlines "\n"
      rw [List.map_map] at hjoin
      rw [hblank, importBlock, if_neg (by simpa using himports), ← String.append_assoc, ← hjoin]
      rfl
    rw [code, hblock, paragraphs, if_neg himports, List.singleton_append,
      String.intercalate_cons_of_ne_nil hdeclarations]

theorem assemble_assembledFrom (resolution : Resolution) (name : String)
    (declarations : List Fragment) :
    AssembledFrom resolution name declarations (assemble resolution name declarations) := by
  have hsettled : Settled (assemble resolution name declarations).imports := settled_merge _
  refine ⟨rfl, rfl, rfl, fun source binding => requires_assembled, fun statement hwhole => ?_,
    hsettled.nodup_sources, fun statement hmem => hsettled.nodup_names hmem,
    hsettled.nodup.filter _, code_eq_paragraphs imports_assemble_nil⟩
  rw [assemble, mem_merge_of_not_named hwhole, mem_assembled]

end Module

end SchemaWriter
