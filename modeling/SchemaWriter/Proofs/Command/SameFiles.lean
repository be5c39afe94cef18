import SchemaWriter.Command.Basic
import SchemaWriter.Proofs.Json.Encoded
import SchemaWriter.Proofs.Json.Reread
import SchemaWriter.Proofs.Outcome
import SchemaWriter.Request

namespace SchemaWriter

open Json Decoder

@[simp]
theorem DefaultValue.decoder_unlimited : DefaultValue.decoder.Unlimited := by
  intro depth draft hdraft
  cases draft with
  | object members =>
    obtain ⟨left, rfl, hleft⟩ := Draft.exists_of_succ_le hdraft
    simp only [decoder, Draft.jsonMembers?_succ members hleft]
  | _ => simp only [decoder, json_unlimited depth _ hdraft]

@[simp]
theorem Field.decoder_unlimited : Field.record.decoder.Unlimited :=
  Record.decoder_unlimited (by simp [Field.record])

@[simp]
theorem CompoundKey.decoder_unlimited : CompoundKey.record.decoder.Unlimited :=
  Record.decoder_unlimited (by simp [CompoundKey.record])

@[simp]
theorem Model.decoder_unlimited : Model.record.decoder.Unlimited :=
  Record.decoder_unlimited (by simp [Model.record])

@[simp]
theorem EnumValue.decoder_unlimited : EnumValue.record.decoder.Unlimited :=
  Record.decoder_unlimited (by simp [EnumValue.record])

@[simp]
theorem EnumType.decoder_unlimited : EnumType.record.decoder.Unlimited :=
  Record.decoder_unlimited (by simp [EnumType.record])

theorem Datamodel.decoder_unlimited : Datamodel.record.decoder.Unlimited :=
  Record.decoder_unlimited (by simp [Datamodel.record])

namespace Config

theorem ofPairs_congr {pairs others : List (String × String)}
    (h : ∀ key, pairs.lookup key = others.lookup key) : ofPairs pairs = ofPairs others := by
  simp only [ofPairs, ofPairs?, h]

theorem output_of_ofPairs {pairs : List (String × String)} {config : Config}
    (h : ofPairs pairs = .ok config) {output : String}
    (houtput : pairs.lookup "output" = some output) :
    config.output = output := by
  obtain ⟨dialect, -, h⟩ := Outcome.bind_eq_ok.mp (Outcome.mapError_eq_ok.mp h)
  obtain ⟨read, hread, h⟩ := Outcome.bind_eq_ok.mp h
  obtain ⟨relationalQuery, -, h⟩ := Outcome.bind_eq_ok.mp h
  obtain ⟨dateMode, -, h⟩ := Outcome.bind_eq_ok.mp h
  obtain rfl := Outcome.pure_eq_ok.mp h
  rw [houtput, readOutput] at hread
  split at hread
  · cases hread
  · exact (Except.ok.inj hread).symm

end Config

namespace Request

def settingsJson (settings : List (String × String)) : Json :=
  .object (settings.map fun (key, value) => (key, .string value))

def textOf (datamodel : String) (settings : List (String × String)) : String :=
  "\x7b\"datamodel\":" ++ datamodel ++ ",\"config\":" ++ (settingsJson settings).render ++ "\x7d"

theorem exact_settingsJson (settings : List (String × String)) : (settingsJson settings).Exact :=
  .object (List.forall_mem_map.mpr fun (_, value) _ => .string value)

theorem nesting_settingsJson (settings : List (String × String)) :
    (settingsJson settings).nesting ≤ 1 := by
  refine Nat.succ_le_succ (Draft.memberNesting_le_iff.mpr ?_)
  rw [memberDrafts_eq_map, List.map_map]
  exact List.forall_mem_map.mpr fun member _ => Nat.le_refl 0

theorem spells_textOf {text : String} {d : Draft} (h : Spells text d)
    (settings : List (String × String)) : Spells (textOf text settings) (.object [
      (.string (some "datamodel"), d),
      (.string (some "config"), (settingsJson settings).toDraft)]) := by
  have hparts : ∀ part ∈ [("datamodel", text, d),
      ("config", (settingsJson settings).render, (settingsJson settings).toDraft)],
      Spells part.2.1 part.2.2 := by
    rw [List.forall_mem_cons, List.forall_mem_singleton]
    exact ⟨h, (exact_settingsJson settings).spells⟩
  have hfirst : "\x7b\"datamodel\":" = "\x7b" ++ (renderString "datamodel" ++ ":") := by decide
  have hsecond : ",\"config\":" = "," ++ (renderString "config" ++ ":") := by decide
  have hlisted := spells_object hparts Prod.fst
  rw [List.map_cons, List.map_singleton, String.intercalate_cons_cons,
    String.intercalate_singleton] at hlisted
  have htext : ∀ first second key key' config : String, first = "\x7b" ++ (key ++ ":") →
      second = "," ++ (key' ++ ":") → first ++ text ++ second ++ config ++ "\x7d" =
        "\x7b" ++ (key ++ ":" ++ text ++ "," ++ (key' ++ ":" ++ config)) ++ "\x7d" := by
    rintro _ _ key key' config rfl rfl
    simp only [String.append_assoc]
  have htextOf : textOf text settings = _ :=
    htext _ _ _ _ (settingsJson settings).render hfirst hsecond
  rw [htextOf]
  exact hlisted

theorem decoder_object {d : Draft} {settings : List (String × String)}
    (hnesting : d.nesting ≤ 126) :
    record.decoder maxDepth (.object [
      (.string (some "datamodel"), d),
      (.string (some "config"), (settingsJson settings).toDraft)]) =
      (Datamodel.record.decoder maxDepth d).map fun datamodel =>
        ⟨datamodel, sortByKey settings⟩ := by
  have hsettings : Decoder.dictionary .string 126 (settingsJson settings).toDraft =
      .ok (sortByKey settings) := by
    refine dictionary_reads (fun member _ => string_reads member.2) 126 ?_
    exact (nesting_settingsJson settings).trans (by decide)
  have hdatamodel : Datamodel.record.decoder maxDepth d = Datamodel.record.decoder 126 d :=
    Datamodel.decoder_unlimited 126 d hnesting
  show record.readMembers 126 [] record.start _ = _
  rw [hdatamodel, Record.readMembers_slot rfl List.not_mem_nil]
  cases hread : Datamodel.record.decoder 126 d with
  | error fault =>
    simp only [Slot.of, hread]
    rfl
  | ok datamodel =>
    simp only [Slot.of, hread]
    show record.readMembers 126 ["datamodel"] ⟨datamodel, []⟩ _ = _
    rw [Record.readMembers_slot rfl (by decide)]
    simp only [Slot.of, hsettings]
    rfl

end Request

namespace Command

def outcome (arguments : Arguments) (text : String) : Except Failure (List (String × String)) := do
  let config ← Config.ofPairs arguments.settings
  plan config text

theorem run_bind {α β : Type} (x : ExceptT CommandFault (StateM Stage) α)
    (f : α → ExceptT CommandFault (StateM Stage) β) (stage : Stage) :
    (x >>= f).run.run stage = match x.run.run stage with
      | (.ok a, stage) => (f a).run.run stage
      | (.error fault, stage) => (.error fault, stage) := by
  rw [ExceptT.run_bind, StateT.run_bind]
  change StateT.run _ (x.run.run stage).2 = _
  obtain ⟨_ | _, _⟩ := x.run.run stage <;> rfl

theorem execute_stage {stage : Stage} {arguments : Arguments} {text : String}
    (h : stage.files.read arguments.datamodel = .ok text) :
    (execute Stage.surroundings arguments).run.run stage =
      match outcome arguments text with
      | .ok files => (emit Stage.surroundings arguments.dryRun files).run.run stage
      | .error failure => (.error (.generation failure), stage) := by
  have hread : (ExceptT.mk do
        return (← Stage.surroundings.read arguments.datamodel).mapError
          (.read arguments.datamodel) :
          ExceptT CommandFault (StateM Stage) String).run.run stage = (.ok text, stage) := by
    show ((stage.files.read arguments.datamodel).mapError _, stage) = _
    rw [h]
    rfl
  rw [execute, outcome, run_bind]
  cases Config.ofPairs arguments.settings with
  | error failure => rfl
  | ok config =>
    show StateT.run (ExceptT.run (_ >>= _)) stage = match plan config text with
      | .ok files => _
      | .error failure => _
    rw [run_bind, hread]
    simp only
    rw [run_bind]
    cases plan config text <;> rfl

def place (mode : OutputMode) (output name : String) : String :=
  match mode with
  | .directory => Path.join output name
  | .singleFile _ => output

theorem place_fileName (config : Config) (m : Module) :
    place config.outputMode config.output (Request.fileName config m) = targetPath config m := by
  unfold place targetPath
  cases hmode : config.outputMode with
  | directory => simp [Request.fileName, Request.singleFileName?, hmode]
  | singleFile stem => rfl

theorem lookup_output (arguments : Arguments) :
    arguments.settings.lookup "output" = some arguments.output := by
  simp [Arguments.settings, List.lookup_cons]

theorem nodup_settings (arguments : Arguments) : (arguments.settings.map (·.1)).Nodup := by
  cases hdate : arguments.dateMode <;> cases hresolution : arguments.moduleResolution <;>
    simp [Arguments.settings, hdate, hresolution]

structure SameFiles (arguments : Arguments) (text : String) (response : Response) : Prop where
  executed : ∀ stage : Stage, stage.files.read arguments.datamodel = .ok text →
    (execute Stage.surroundings arguments).run.run stage =
      match outcome arguments text with
      | .ok files => (emit Stage.surroundings arguments.dryRun files).run.run stage
      | .error failure => (.error (.generation failure), stage)
  accepted : (∃ files, outcome arguments text = .ok files) ↔ response.error = none
  files : ∀ files, outcome arguments text = .ok files →
    ∃ config, Config.ofPairs arguments.settings = .ok config ∧
      files = response.files.map fun file =>
        (place config.outputMode arguments.output file.name, file.content)
  refused : response.error ≠ none → response.files = []

end Command

def Makes (arguments : Command.Arguments) (text : String) (config : Config)
    (modules : List Module) : Prop :=
  Config.ofPairs arguments.settings = .ok config ∧
    ∃ datamodel, Datamodel.parse text = .ok datamodel ∧ datamodel.modules config = .ok modules

theorem Command.outcome_eq_ok {arguments : Arguments} {text : String}
    {files : List (String × String)} : outcome arguments text = .ok files ↔
      ∃ config modules, Makes arguments text config modules ∧
        files = modules.map fun m => (targetPath config m, m.code) := by
  constructor
  · intro h
    obtain ⟨config, hconfig, h⟩ := Outcome.bind_eq_ok.mp h
    obtain ⟨datamodel, hdatamodel, h⟩ := Outcome.bind_eq_ok.mp h
    obtain ⟨modules, hmodules, h⟩ := Outcome.bind_eq_ok.mp h
    exact ⟨config, modules, ⟨hconfig, datamodel, Outcome.mapError_eq_ok.mp hdatamodel, hmodules⟩,
      (Outcome.pure_eq_ok.mp h).symm⟩
  · rintro ⟨config, modules, ⟨hconfig, datamodel, hdatamodel, hmodules⟩, rfl⟩
    refine Outcome.bind_eq_ok.mpr ⟨config, hconfig, ?_⟩
    refine Outcome.bind_eq_ok.mpr ⟨datamodel, Outcome.mapError_eq_ok.mpr hdatamodel, ?_⟩
    exact Outcome.bind_eq_ok.mpr ⟨modules, hmodules, rfl⟩

namespace Request

theorem filesOf_textOf {text : String} (h : NestsWithin text 126) (arguments : Command.Arguments) :
    filesOf (glyphs (textOf text arguments.settings)) =
      (Datamodel.parse text).mapError .decode >>= fun datamodel =>
        files ⟨datamodel, arguments.settings⟩ := by
  obtain ⟨d, hspells, hnesting⟩ := h
  have hsettings : Config.ofPairs (sortByKey arguments.settings) =
      Config.ofPairs arguments.settings :=
    Config.ofPairs_congr (lookup_sortByKey (Command.nodup_settings arguments))
  rw [filesOf, parse, (spells_textOf hspells _).decode, decoder_object hnesting, Datamodel.parse,
    hspells.decode]
  cases Datamodel.record.decoder maxDepth d with
  | error fault => rfl
  | ok datamodel =>
    show files ⟨datamodel, sortByKey arguments.settings⟩ = files ⟨datamodel, arguments.settings⟩
    simp only [files, hsettings]

theorem filesOf_eq_ok {text : String} (h : NestsWithin text 126) {arguments : Command.Arguments}
    {files : List OutputFile} : filesOf (glyphs (textOf text arguments.settings)) = .ok files ↔
      ∃ config modules, Makes arguments text config modules ∧
        files = modules.map fun m => ⟨fileName config m, m.code⟩ := by
  rw [filesOf_textOf h]
  constructor
  · intro h
    obtain ⟨datamodel, hdatamodel, h⟩ := Outcome.bind_eq_ok.mp h
    obtain ⟨config, hconfig, h⟩ := Outcome.bind_eq_ok.mp h
    obtain ⟨modules, hmodules, h⟩ := Outcome.bind_eq_ok.mp h
    exact ⟨config, modules, ⟨hconfig, datamodel, Outcome.mapError_eq_ok.mp hdatamodel, hmodules⟩,
      (Outcome.pure_eq_ok.mp h).symm⟩
  · rintro ⟨config, modules, ⟨hconfig, datamodel, hdatamodel, hmodules⟩, rfl⟩
    refine Outcome.bind_eq_ok.mpr ⟨datamodel, Outcome.mapError_eq_ok.mpr hdatamodel, ?_⟩
    refine Outcome.bind_eq_ok.mpr ⟨config, hconfig, ?_⟩
    exact Outcome.bind_eq_ok.mpr ⟨modules, hmodules, rfl⟩

theorem error_respondTo_iff {text : List Glyph} :
    (respondTo text).error = none ↔ ∃ files, filesOf text = .ok files := by
  rw [respondTo]
  cases filesOf text <;> simp

theorem files_respondTo {text : List Glyph} {files : List OutputFile}
    (h : filesOf text = .ok files) : (respondTo text).files = files := by
  rw [respondTo, h]

theorem respondTo_refused {text : List Glyph} (h : (respondTo text).error ≠ none) :
    (respondTo text).files = [] := by
  rw [respondTo] at h ⊢
  cases hfiles : filesOf text with
  | error failure => rfl
  | ok files => exact absurd (by rw [hfiles]) h

end Request

namespace Command

theorem respondTo_sameFiles (arguments : Arguments) {text : String} (h : NestsWithin text 126) :
    SameFiles arguments text (Request.respondTo
      (Utf8.glyphs (Request.textOf text arguments.settings).toUTF8.data.toList)) := by
  rw [Utf8.glyphs_toUTF8]
  refine ⟨fun stage hstage => execute_stage hstage, ?_, ?_, Request.respondTo_refused⟩
  · rw [Request.error_respondTo_iff]
    constructor
    · rintro ⟨files, hfiles⟩
      obtain ⟨config, modules, hmakes, -⟩ := outcome_eq_ok.mp hfiles
      exact ⟨_, (Request.filesOf_eq_ok h).mpr ⟨config, modules, hmakes, rfl⟩⟩
    · rintro ⟨files, hfiles⟩
      obtain ⟨config, modules, hmakes, -⟩ := (Request.filesOf_eq_ok h).mp hfiles
      exact ⟨_, outcome_eq_ok.mpr ⟨config, modules, hmakes, rfl⟩⟩
  · intro files hfiles
    obtain ⟨config, modules, hmakes, rfl⟩ := outcome_eq_ok.mp hfiles
    refine ⟨config, hmakes.1, ?_⟩
    have houtput := Config.output_of_ofPairs hmakes.1 (lookup_output arguments)
    rw [Request.files_respondTo ((Request.filesOf_eq_ok h).mpr ⟨config, modules, hmakes, rfl⟩),
      List.map_map]
    refine List.map_congr_left fun m _ => ?_
    rw [Function.comp_apply, ← houtput, place_fileName]

def usersText : String :=
  "\x7b \"models\": [\x7b\"name\": \"User\"\x7d] \x7d"

def usersDraft : Draft :=
  .object [(.string (some "models"),
    .array [.object [(.string (some "name"), .string (some "User"))]])]

def usersArguments : Arguments where
  datamodel := "schema.json"
  provider := "sqlite"
  output := "db"
  dateMode := none
  moduleResolution := none
  relationalQuery := true
  dryRun := false

theorem users_sameFiles : NestsWithin usersText 126 ∧
    SameFiles usersArguments usersText (Request.respondTo
      (Utf8.glyphs (Request.textOf usersText usersArguments.settings).toUTF8.data.toList)) ∧
    (outcome usersArguments usersText).toOption.any
      (fun files => files.map (·.1) = ["db/users.ts", "db/schema.ts"]) = true := by
  have hmodel : (Draft.object [(.string (some "name"), .string (some "User"))]).IsValue :=
    .object (by simp) (List.forall_mem_singleton.mpr (.string _))
  have hcomplete : usersDraft.IsValue := .object (by simp)
    (List.forall_mem_singleton.mpr (.array (List.forall_mem_singleton.mpr hmodel)))
  have hnests : NestsWithin usersText 126 :=
    ⟨usersDraft, ⟨hcomplete, by decide +kernel⟩, by decide⟩
  exact ⟨hnests, respondTo_sameFiles usersArguments hnests, by decide +kernel⟩

end Command

end SchemaWriter
