import SchemaWriter.Proofs.Module.BoundOnce
import SchemaWriter.Proofs.Schema.Settings

namespace SchemaWriter

open Outcome
open Requirement (Requires)

structure Module.Gathers (file : Module) (modules : List Module) : Prop where
  declarations : ∃ front root gathered schema, modules = front ++ [root] ∧
    root.name = schemaName ∧ file.declarations = gathered ++ [schema] ∧
    schema.name? = some schemaName ∧ gathered.Perm (front.flatMap (·.declarations))
  names : ∀ path name, Requires file.imports (.package path) name ↔
    ∃ m ∈ modules, Requires m.imports (.package path) name
  defaults : ∀ path name, ⟨.whole name, .package path⟩ ∈ file.imports ↔
    ∃ m ∈ modules, ⟨.whole name, .package path⟩ ∈ m.imports
  wildcards : ∀ path name, ⟨.wildcard name, .package path⟩ ∈ file.imports ↔
    ∃ m ∈ modules, ⟨.wildcard name, .package path⟩ ∈ m.imports
  one_statement : (file.imports.map Requirement.key).Nodup
  no_siblings : ∀ r ∈ file.imports, r.source.isSibling = false

namespace Declarations

variable {resolution : Resolution} {stem : String} {d : Declarations} {one : Declared}
  {path name : String} {r : Requirement}

theorem requires_moduleOf_package :
    Requires (moduleOf resolution one).imports (.package path) name ↔
      Requires one.declaration.imports (.package path) name := by
  refine ⟨requires_of_imports, fun ⟨r, hr, hsource, hname⟩ => ?_⟩
  refine Requirement.requires_merge.mpr ⟨r, List.mem_filter.mpr ⟨?_, ?_⟩, hsource, hname⟩
  · simpa [Module.requirements] using hr
  · simp [hsource]

theorem mem_imports_moduleOf (hnamed : r.isNamed = false) (hsource : r.source = .package path) :
    r ∈ (moduleOf resolution one).imports ↔ r ∈ one.declaration.imports := by
  refine (Requirement.mem_merge_of_not_named hnamed).trans ?_
  simp [Module.requirements, hsource]

theorem exists_directory_iff {P : Module → Prop}
    (hroot : ¬ P (.schemaRoot resolution (d.modular.map (moduleOf resolution)))) :
    (∃ m ∈ d.directory resolution, P m) ↔ ∃ one ∈ d.modular, P (moduleOf resolution one) := by
  simp [directory_eq, or_and_right, exists_or, hroot]

theorem source_of_mem_root {modules : List Module}
    (hr : r ∈ (Module.schemaRoot resolution modules).imports) : r.source.isSibling = true := by
  obtain ⟨target, -, rfl⟩ := Module.mem_schemaRoot_imports.mp hr
  rfl

theorem requires_singleFile :
    Requires (d.singleFile resolution stem).imports (.package path) name ↔
      ∃ m ∈ d.directory resolution, Requires m.imports (.package path) name := by
  have hroot : ¬ Requires (Module.schemaRoot resolution
      (d.modular.map (moduleOf resolution))).imports (.package path) name := by
    rintro ⟨r, hr, hsource, -⟩
    have hsibling := source_of_mem_root hr
    rw [hsource] at hsibling
    cases hsibling
  rw [exists_directory_iff hroot]
  simp only [requires_moduleOf_package]
  refine Requirement.requires_merge.trans ⟨?_, ?_⟩
  · rintro ⟨r, hr, hsource, hname⟩
    obtain ⟨-, one, hone, hr⟩ := mem_fileRequirements.mp hr
    exact ⟨one, hone, r, hr, hsource, hname⟩
  · rintro ⟨one, hone, r, hr, hsource, hname⟩
    refine ⟨r, mem_fileRequirements.mpr ⟨?_, one, hone, hr⟩, hsource, hname⟩
    rw [hsource]
    rfl

theorem mem_imports_singleFile (hnamed : r.isNamed = false) (hsource : r.source = .package path) :
    r ∈ (d.singleFile resolution stem).imports ↔ ∃ m ∈ d.directory resolution, r ∈ m.imports := by
  have hpackage : r.source.isSibling = false := by rw [hsource]; rfl
  have hroot : r ∉ (Module.schemaRoot resolution
      (d.modular.map (moduleOf resolution))).imports := by
    intro hr
    rw [source_of_mem_root hr] at hpackage
    cases hpackage
  rw [exists_directory_iff hroot]
  simp only [mem_imports_moduleOf hnamed hsource]
  refine (Requirement.mem_merge_of_not_named hnamed).trans (mem_fileRequirements.trans ?_)
  exact and_iff_right hpackage

theorem no_siblings_singleFile (hr : r ∈ (d.singleFile resolution stem).imports) :
    r.source.isSibling = false := by
  obtain ⟨required, hrequired, hsource⟩ := Requirement.exists_source_merge.mp ⟨r, hr, rfl⟩
  rw [← hsource]
  exact (mem_fileRequirements.mp hrequired).1

theorem declarations_perm (d : Declarations) (resolution : Resolution) :
    (d.sequential.map (·.declaration)).Perm
      ((d.modular.map (moduleOf resolution)).flatMap (·.declarations)) := by
  have hmodules : (d.modular.map (moduleOf resolution)).flatMap (·.declarations) =
      d.modular.map (·.declaration) := by
    simp [List.flatMap_map, moduleOf, Module.assemble, ← List.map_eq_flatMap]
  rw [hmodules]
  exact ((Schema.modular_perm_sequential d).map _).symm

theorem gathers (d : Declarations) (resolution : Resolution) (stem : String) :
    (d.singleFile resolution stem).Gathers (d.directory resolution) where
  declarations := ⟨_, _, _, _, directory_eq resolution d, rfl, rfl, rfl,
    declarations_perm d resolution⟩
  names := fun _ _ => requires_singleFile
  defaults := fun _ _ => mem_imports_singleFile rfl rfl
  wildcards := fun _ _ => mem_imports_singleFile rfl rfl
  one_statement := (Requirement.settled_merge _).keys
  no_siblings := fun _ => no_siblings_singleFile

end Declarations

theorem modules_gathers {config single : Config} {stem : String} (datamodel : Datamodel)
    (hsame : single = { config with output := single.output })
    (hdirectory : config.outputMode = .directory) (hsingle : single.outputMode = .singleFile stem) :
    ((∃ modules, datamodel.modules config = .ok modules) ↔
      ∃ files, datamodel.modules single = .ok files) ∧
    ∀ modules files, datamodel.modules config = .ok modules →
      datamodel.modules single = .ok files → ∃ file, files = [file] ∧ file.Gathers modules := by
  have hdialect : config.dialect = single.dialect := by rw [hsame]
  have hmode : config.dateMode = single.dateMode := by rw [hsame]
  have hquery : config.relationalQuery = single.relationalQuery := by rw [hsame]
  have hresolution : config.resolution = single.resolution := by rw [hsame]
  have halike := Datamodel.alike_modules hdialect datamodel
  refine ⟨⟨halike.exists_ok, halike.symm.exists_ok⟩, fun modules files hmodules hfiles => ?_⟩
  obtain ⟨d, rfl, hd⟩ := Datamodel.exists_modules_of_agree hdialect hmode hquery hmodules
  obtain rfl := Except.ok.inj (hd.symm.trans hfiles)
  simp only [Declarations.modules, hdirectory, hsingle, ← hresolution]
  exact ⟨_, rfl, d.gathers config.resolution stem⟩

theorem rolePosts_gathers :
    (Config.ofDialect .postgres).outputMode = .directory ∧
    ((Config.ofDialect .postgres).inFile "./db.ts").outputMode = .singleFile "db" ∧
    ∃ modules file, (rolePosts "role").modules (Config.ofDialect .postgres) = .ok modules ∧
      (rolePosts "role").modules ((Config.ofDialect .postgres).inFile "./db.ts") = .ok [file] ∧
      file.Gathers modules := by
  have hdirectory : (Config.ofDialect .postgres).outputMode = .directory := by decide
  have hsingle : ((Config.ofDialect .postgres).inFile "./db.ts").outputMode = .singleFile "db" := by
    decide
  have hwritten : ((rolePosts "role").modules (Config.ofDialect .postgres)).isOk = true := by
    decide
  obtain ⟨modules, h⟩ := exists_of_isOk hwritten
  obtain ⟨hiff, hgathers⟩ := modules_gathers (rolePosts "role") rfl hdirectory hsingle
  obtain ⟨files, hfiles⟩ := hiff.mp ⟨modules, h⟩
  obtain ⟨file, rfl, hfile⟩ := hgathers modules files h hfiles
  exact ⟨hdirectory, hsingle, modules, file, h, hfiles, hfile⟩

end SchemaWriter
