import SchemaWriter.Proofs.Module.Files
import SchemaWriter.Proofs.Schema.Rearranged

namespace SchemaWriter

open Outcome

def Module.contents (modules : List Module) : List (String × String) :=
  (modules.filter (·.name ≠ schemaName)).map fun m => (m.name, m.code)

theorem Schema.contents_directory {schema : Schema} {d : Declarations}
    (h : schema.declarations = .ok d) (resolution : Resolution) :
    Module.contents (d.directory resolution) =
      (d.modular.map (Declarations.moduleOf resolution)).map fun m => (m.name, m.code) := by
  have hfront : ∀ m ∈ d.modular.map (Declarations.moduleOf resolution),
      decide (m.name ≠ Module.schemaName) = true := by
    intro m hm
    obtain ⟨one, hone, rfl⟩ := List.mem_map.mp hm
    refine decide_eq_true fun hname => schemaName_not_mem_modules h ?_
    exact List.mem_map.mpr ⟨one, hone, hname⟩
  have hroot : decide ((Module.schemaRoot resolution
      (d.modular.map (Declarations.moduleOf resolution))).name ≠ Module.schemaName) = false :=
    decide_eq_false (not_not_intro rfl)
  rw [Module.contents, Declarations.directory_eq, List.filter_append,
    List.filter_eq_self.mpr hfront, List.filter_cons_of_neg (by simp [hroot]), List.filter_nil,
    List.append_nil]

namespace Datamodel

variable {config : Config} {datamodel rearranged : Datamodel}

theorem exists_modules_perm (hdirectory : config.outputMode = .directory)
    (hdistinct : datamodel.Distinct) (hnames : datamodel.PairsNames)
    (hmodels : datamodel.models.Perm rearranged.models)
    (henums : datamodel.enums.Perm rearranged.enums) {modules : List Module}
    (h : datamodel.modules config = .ok modules) :
    ∃ others, rearranged.modules config = .ok others ∧
      (Module.contents modules).Perm (Module.contents others) := by
  obtain ⟨schema, d, hschema, hd, rfl⟩ := modules_eq_ok.mp h
  obtain ⟨other, hother, hrearranges⟩ :=
    Schema.exists_rearranges hdistinct hnames hmodels henums hschema
  obtain ⟨d', hd', hperm⟩ := hrearranges.exists_declarations hd
  refine ⟨d'.modules config, modules_eq_ok.mpr ⟨other, d', hother, hd', rfl⟩, ?_⟩
  simp only [Declarations.modules, hdirectory, Schema.contents_directory hd,
    Schema.contents_directory hd']
  exact (hperm.map _).map _

end Datamodel

theorem modules_contents_perm {config : Config} {datamodel rearranged : Datamodel}
    (hdirectory : config.outputMode = .directory) (hdistinct : datamodel.Distinct)
    (hnames : datamodel.PairsNames) (hmodels : datamodel.models.Perm rearranged.models)
    (henums : datamodel.enums.Perm rearranged.enums) :
    ((∃ modules, datamodel.modules config = .ok modules) ↔
      ∃ others, rearranged.modules config = .ok others) ∧
    ∀ modules others, datamodel.modules config = .ok modules →
      rearranged.modules config = .ok others →
        (Module.contents modules).Perm (Module.contents others) := by
  refine ⟨⟨fun ⟨modules, h⟩ => ?_, fun ⟨others, h⟩ => ?_⟩, fun modules others h hothers => ?_⟩
  · obtain ⟨others, hothers, -⟩ := Datamodel.exists_modules_perm hdirectory hdistinct hnames
      hmodels henums h
    exact ⟨others, hothers⟩
  · obtain ⟨modules, hmodules, -⟩ := Datamodel.exists_modules_perm hdirectory
      (hdistinct.of_perm hmodels) (hnames.of_perm hmodels) hmodels.symm henums.symm h
    exact ⟨modules, hmodules⟩
  · obtain ⟨found, hfound, hperm⟩ := Datamodel.exists_modules_perm hdirectory hdistinct hnames
      hmodels henums h
    obtain rfl := Except.ok.inj (hothers.symm.trans hfound)
    exact hperm

def tagPosts : Datamodel where
  models := (rolePosts "role").models.reverse
  enums := (rolePosts "role").enums.reverse

theorem rolePosts_contents_perm :
    (Config.ofDialect .postgres).outputMode = .directory ∧ (rolePosts "role").Distinct ∧
      (rolePosts "role").PairsNames ∧ (rolePosts "role").models.Perm tagPosts.models ∧
      (rolePosts "role").enums.Perm tagPosts.enums ∧
      ∃ modules, (rolePosts "role").modules (Config.ofDialect .postgres) = .ok modules ∧
        ∃ others, tagPosts.modules (Config.ofDialect .postgres) = .ok others ∧
          (Module.contents modules).Perm (Module.contents others) := by
  have hdirectory : (Config.ofDialect .postgres).outputMode = .directory := by decide
  have hdistinct : (rolePosts "role").Distinct := ⟨by decide, by decide⟩
  have hnames : (rolePosts "role").PairsNames := by
    unfold Datamodel.PairsNames
    decide
  have hmodels : (rolePosts "role").models.Perm tagPosts.models := (List.reverse_perm _).symm
  have henums : (rolePosts "role").enums.Perm tagPosts.enums := (List.reverse_perm _).symm
  have hwritten : ((rolePosts "role").modules (Config.ofDialect .postgres)).isOk = true := by
    decide
  obtain ⟨modules, h⟩ := exists_of_isOk hwritten
  obtain ⟨hiff, hperm⟩ := modules_contents_perm hdirectory hdistinct hnames hmodels henums
  obtain ⟨others, hothers⟩ := hiff.mp ⟨modules, h⟩
  exact ⟨hdirectory, hdistinct, hnames, hmodels, henums, modules, h, others, hothers,
    hperm modules others h hothers⟩

end SchemaWriter
