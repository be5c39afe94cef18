import SchemaWriter.Proofs.Module.Closed
import SchemaWriter.Proofs.Path.Ending
import SchemaWriter.Request

namespace SchemaWriter

open Outcome

namespace Path

def IsBare (path : String) : Prop :=
  ∃ front, Ending path front ".ts".toList []

def IsPadded (path : String) : Prop :=
  ∃ stem front idle, stem ≠ "" ∧ idle ≠ [] ∧ Ending path front (stem ++ ".ts").toList idle

theorem Ending.suffix {path stem : String} {front : List Char}
    (h : Ending path front (stem ++ ".ts").toList []) : ".ts".toList <:+ path.toList := by
  rw [h.text, List.append_nil, String.toList_append, ← List.append_assoc]
  exact List.suffix_append _ _

theorem Ending.idle_eq_nil {path : String} {front name idle : List Char}
    (h : Ending path front name idle) (hsuffix : ".ts".toList <:+ path.toList) : idle = [] := by
  rcases List.eq_nil_or_concat idle with hnil | ⟨more, c, rfl⟩
  · exact hnil
  · obtain ⟨start, htext⟩ := hsuffix
    rw [h.text] at htext
    have hlast : 's' = c := by simpa using congrArg List.getLast? htext
    have hidle := h.idle.eq_or_eq_of_mem (c := c) (by simp)
    rw [← hlast] at hidle
    exact absurd hidle (by decide)

theorem exists_ending_of_suffix {path : String} (h : ".ts".toList <:+ path.toList) :
    ∃ front stem, Ending path front (stem ++ ".ts").toList [] := by
  obtain ⟨start, htext⟩ := h
  obtain ⟨front, rest, rfl, hfront, hrest⟩ := exists_front start
  refine ⟨front, String.ofList rest, ?_, hfront, ⟨?_, ?_, ?_⟩, .done⟩
  · simpa using htext.symm
  · simp
  · intro hdot
    simpa using congrArg List.getLast? hdot
  · simpa using hrest

theorem Ending.name_unique {path : String} {front front' name name' idle idle' : List Char}
    (h : Ending path front name idle) (h' : Ending path front' name' idle') : name = name' := by
  have hname : lastPiece? path = some name := lastPiece?_eq_some_iff.mpr ⟨_, _, h⟩
  rw [lastPiece?_eq_some_iff.mpr ⟨_, _, h'⟩] at hname
  exact (Option.some.inj hname).symm

end Path

open SchemaWriter.Path

namespace Config

theorem outputMode_eq_iff {config : Config} {stem : String} :
    config.outputMode = .singleFile stem ↔
      fileName? config.output = some (stem ++ ".ts").toList ∧ stem ≠ "" := by
  have hparts : config.outputMode = .singleFile stem ↔
      extension? config.output = some "ts" ∧ stem? config.output = some stem := by
    unfold outputMode
    split
    · rename_i hextension hstem
      simp [hextension, hstem]
    · rename_i hnone
      exact ⟨nofun, fun ⟨hextension, hstem⟩ => absurd hstem (hnone stem hextension)⟩
  have hname : (stem ++ ".ts").toList = stem.toList ++ '.' :: "ts".toList := by
    simp
  have hplain : '.' ∉ "ts".toList := by
    decide
  rw [hparts, extension?_and_stem?_iff, hname, and_iff_left hplain]

theorem outputMode_eq_singleFile_iff {config : Config} {stem : String} :
    config.outputMode = .singleFile stem ↔
      stem ≠ "" ∧ ∃ front idle, Ending config.output front (stem ++ ".ts").toList idle := by
  have hparent : (stem ++ ".ts").toList ≠ ['.', '.'] := by
    intro hdots
    simpa using congrArg List.getLast? hdots
  rw [outputMode_eq_iff, fileName?_eq_some_iff, and_iff_right hparent, and_comm]

end Config

def WritesOneFile (settings : List (String × String)) (config : Config) (stem : String) : Prop :=
  ∀ datamodel modules, Datamodel.modules config datamodel = .ok modules →
    ∃ m, modules = [m] ∧ m.name = stem ∧
      Request.respond ⟨datamodel, settings⟩ = ⟨[⟨stem ++ ".ts", m.code⟩], none⟩

structure FollowsSuffix (settings : List (String × String)) (config : Config) : Prop where
  mode : (∃ stem, config.outputMode = .singleFile stem) ↔ ".ts".toList <:+ config.output.toList
  component : ∀ stem, config.outputMode = .singleFile stem →
    ∃ front, Ending config.output front (stem ++ ".ts").toList []
  file : ∀ stem, config.outputMode = .singleFile stem → WritesOneFile settings config stem

theorem Request.fileName_singleFile {config : Config} {stem : String}
    (h : config.outputMode = .singleFile stem) (m : Module) : fileName config m = stem ++ ".ts" := by
  have hname := (Config.outputMode_eq_iff.mp h).1
  simp only [fileName, singleFileName?, h, hname, Option.map_some, Option.getD_some,
    String.ofList_toList]

theorem writesOneFile {settings : List (String × String)} {config : Config}
    (h : Config.ofPairs settings = .ok config) {stem : String}
    (hmode : config.outputMode = .singleFile stem) : WritesOneFile settings config stem := by
  intro datamodel modules hmodules
  have hfiles : Request.files ⟨datamodel, settings⟩ =
      .ok (modules.map fun m => ⟨stem ++ ".ts", m.code⟩) := by
    rw [Request.files, bind_eq_ok]
    refine ⟨config, h, bind_eq_ok.mpr ⟨modules, hmodules, ?_⟩⟩
    simp only [Request.fileName_singleFile hmode]
    rfl
  obtain ⟨schema, d, -, -, rfl⟩ := Datamodel.modules_eq_ok.mp hmodules
  rw [Declarations.modules, hmode] at hfiles ⊢
  refine ⟨_, rfl, rfl, ?_⟩
  rw [Request.respond, hfiles]
  rfl

theorem followsSuffix_iff {settings : List (String × String)} {config : Config}
    (h : Config.ofPairs settings = .ok config) :
    FollowsSuffix settings config ↔ ¬ IsBare config.output ∧ ¬ IsPadded config.output := by
  constructor
  · refine fun hfollows => ⟨?_, ?_⟩
    · rintro ⟨front, hending⟩
      have hsuffix : Ending config.output front ("" ++ ".ts").toList [] := by simpa using hending
      obtain ⟨stem, hmode⟩ := hfollows.mode.mpr hsuffix.suffix
      obtain ⟨hne, front', idle, hending'⟩ := Config.outputMode_eq_singleFile_iff.mp hmode
      exact hne (by simpa using hending.name_unique hending')
    · rintro ⟨stem, front, idle, hne, hidle, hending⟩
      have hmode := Config.outputMode_eq_singleFile_iff.mpr ⟨hne, front, idle, hending⟩
      exact hidle (hending.idle_eq_nil (hfollows.mode.mp ⟨stem, hmode⟩))
  · rintro ⟨hbare, hpadded⟩
    have hcomponent : ∀ stem, config.outputMode = .singleFile stem →
        ∃ front, Ending config.output front (stem ++ ".ts").toList [] := by
      intro stem hmode
      obtain ⟨hne, front, idle, hending⟩ := Config.outputMode_eq_singleFile_iff.mp hmode
      have hidle : idle = [] := by
        by_contra hidle
        exact hpadded ⟨stem, front, idle, hne, hidle, hending⟩
      exact ⟨front, hidle ▸ hending⟩
    refine ⟨⟨?_, ?_⟩, hcomponent, fun stem hmode => writesOneFile h hmode⟩
    · rintro ⟨stem, hmode⟩
      obtain ⟨front, hending⟩ := hcomponent stem hmode
      exact hending.suffix
    · intro hsuffix
      obtain ⟨front, stem, hending⟩ := exists_ending_of_suffix hsuffix
      have hne : stem ≠ "" := by
        rintro rfl
        exact hbare ⟨front, by simpa using hending⟩
      exact ⟨stem, Config.outputMode_eq_singleFile_iff.mpr ⟨hne, front, [], hending⟩⟩

theorem ofPairs_followsSuffix_iff {settings : List (String × String)} {config : Config}
    (h : Config.ofPairs settings = .ok config) :
    (∀ stem, config.outputMode = .singleFile stem ↔
      stem ≠ "" ∧ ∃ front idle, Ending config.output front (stem ++ ".ts").toList idle) ∧
    (∀ stem, config.outputMode = .singleFile stem → WritesOneFile settings config stem) ∧
    (FollowsSuffix settings config ↔ ¬ IsBare config.output ∧ ¬ IsPadded config.output) :=
  ⟨fun _ => Config.outputMode_eq_singleFile_iff, fun _ => writesOneFile h, followsSuffix_iff h⟩

def outputSettings (output : String) : List (String × String) :=
  [("provider", "postgresql"), ("output", output)]

def nestedOutput : String :=
  "./src/../.db//user.schema.ts"

theorem nestedOutput_followsSuffix :
    ∃ config, Config.ofPairs (outputSettings nestedOutput) = .ok config ∧
      FollowsSuffix (outputSettings nestedOutput) config ∧
      config.outputMode = .singleFile "user.schema" ∧
      ∃ m, (rolePosts "role").modules config = .ok [m] ∧ m.name = "user.schema" ∧
        Request.respond ⟨rolePosts "role", outputSettings nestedOutput⟩ =
          ⟨[⟨"user.schema.ts", m.code⟩], none⟩ := by
  have haccepted : Config.ofPairs (outputSettings nestedOutput) =
      .ok ((Config.ofDialect .postgres).inFile nestedOutput) := by
    decide
  have hwritten : ((rolePosts "role").modules
      ((Config.ofDialect .postgres).inFile nestedOutput)).isOk = true := by
    decide
  have hmode : ((Config.ofDialect .postgres).inFile nestedOutput).outputMode =
      .singleFile "user.schema" := by
    decide
  have hbare : ¬ IsBare nestedOutput := by
    rintro ⟨front, hending⟩
    exact absurd (lastPiece?_eq_some_iff.mpr ⟨_, _, hending⟩) (by decide)
  have hpadded : ¬ IsPadded nestedOutput := by
    rintro ⟨stem, front, idle, -, hidle, hending⟩
    exact hidle (hending.idle_eq_nil (by decide))
  obtain ⟨-, hfile, hfollows⟩ := ofPairs_followsSuffix_iff haccepted
  obtain ⟨modules, hmodules⟩ := exists_of_isOk hwritten
  obtain ⟨m, rfl, hname, hrespond⟩ := hfile _ hmode _ _ hmodules
  exact ⟨_, haccepted, hfollows.mpr ⟨hbare, hpadded⟩, hmode, m, hmodules, hname, hrespond⟩

theorem outputs_not_followsSuffix :
    (∃ config, Config.ofPairs (outputSettings "schema.ts/") = .ok config ∧
      ¬ FollowsSuffix (outputSettings "schema.ts/") config) ∧
    ∃ config, Config.ofPairs (outputSettings "src/.ts") = .ok config ∧
      ¬ FollowsSuffix (outputSettings "src/.ts") config := by
  have hpadded : ((Config.ofDialect .postgres).inFile "schema.ts/").outputMode =
      .singleFile "schema" := by
    decide
  have hbare : ((Config.ofDialect .postgres).inFile "src/.ts").outputMode = .directory := by
    decide
  refine ⟨⟨(Config.ofDialect .postgres).inFile "schema.ts/", by decide, fun hfollows => ?_⟩,
    ⟨(Config.ofDialect .postgres).inFile "src/.ts", by decide, fun hfollows => ?_⟩⟩
  · exact absurd (hfollows.mode.mp ⟨_, hpadded⟩) (by decide)
  · obtain ⟨stem, hsingle⟩ := hfollows.mode.mpr (by decide)
    rw [hbare] at hsingle
    cases hsingle

end SchemaWriter
