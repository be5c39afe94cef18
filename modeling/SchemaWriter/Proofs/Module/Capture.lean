import SchemaWriter.Proofs.Column.Thunks
import SchemaWriter.Proofs.Module.Closed
import SchemaWriter.Proofs.Requirement.Distinct
import SchemaWriter.Proofs.Schema.References
import SchemaWriter.Proofs.Schema.Required

namespace SchemaWriter

open Outcome

namespace Schema

def Captures (schema : Schema) (lambda : List String × Fragment) : Prop :=
  ∃ name ∈ lambda.1.map (Fragment.before ':'), name ∈ lambda.2.mentions ∧
    ((∃ model ∈ schema.allModels, Naming.tableBinding model.name = name) ∨
      (∃ enum ∈ schema.enums, Naming.enumBinding enum.name = name) ∨
      ∃ r ∈ lambda.2.imports, name ∈ r.bindings)

theorem not_captures_of_thunk {schema : Schema} {lambda : List String × Fragment}
    (h : lambda.1 = []) : ¬ schema.Captures lambda := by
  simp [Captures, h]

theorem not_captures_of_library {schema : Schema} {lambda : List String × Fragment}
    {parameter : String} (dialect : Dialect) (function : String)
    (hparameter : lambda.1 = [parameter])
    (himports : lambda.2.imports = [dialect.coreImport function])
    (hlibrary : Naming.isLibraryName (Fragment.before ':' parameter) = true)
    (hfunction : Fragment.before ':' parameter ≠ function) : ¬ schema.Captures lambda := by
  rintro ⟨name, hname, -, hbinding⟩
  rw [hparameter, List.map_singleton, List.mem_singleton] at hname
  subst hname
  rcases hbinding with ⟨model, -, hsame⟩ | ⟨enum, -, hsame⟩ | ⟨r, hr, hmem⟩
  · rw [← hsame, Naming.isLibraryName_tableBinding] at hlibrary
    cases hlibrary
  · rw [← hsame, Naming.isLibraryName_enumBinding] at hlibrary
    cases hlibrary
  · rw [himports, List.mem_singleton] at hr
    subst hr
    exact hfunction (List.mem_singleton.mp hmem)

theorem lambdas_keyCallback {dialect : Dialect} {key : CompoundKey}
    {lambda : List String × Fragment} (h : lambda ∈ (Model.keyCallback dialect key).lambdas) :
    lambda.1 = ["table"] ∧ lambda.2.imports = [dialect.coreImport "primaryKey"] := by
  have hoptions : (Model.keyOptions key).flatMap (·.2.lambdas) = [] := by
    cases hname : key.name <;> simp [Model.keyOptions, hname, List.flatMap_map]
  have himports := Model.imports_keyCallback dialect key
  rw [Model.keyCallback, Fragment.imports_lambda] at himports
  simp only [Model.keyCallback, Fragment.lambdas_lambda, Fragment.lambdas_record,
    Fragment.lambdas_withImports, Fragment.lambdas_invoke, List.flatMap_cons, List.flatMap_nil,
    List.append_nil, hoptions, List.mem_singleton] at h
  rw [h]
  exact ⟨rfl, himports⟩

theorem not_captures_table {schema : Schema} {model : Model} {one : Declared}
    (h : schema.declareTable model = .ok one) :
    ∀ lambda ∈ one.declaration.lambdas, ¬ schema.Captures lambda := by
  obtain ⟨table, htable, rfl⟩ := declareTable_eq_ok.mp h
  obtain ⟨columns, key, hcolumns, hkey, rfl⟩ := Model.declaration_eq_ok.mp htable
  intro lambda hlambda
  simp only [Model.tableFragment, Fragment.lambdas_declaration, Fragment.lambdas_withImports,
    Fragment.lambdas_invoke, List.flatMap_append, List.flatMap_cons, List.flatMap_nil,
    Fragment.lambdas_string, Fragment.lambdas_record, List.append_nil, List.nil_append,
    List.mem_append] at hlambda
  rcases hlambda with hlambda | hlambda
  · obtain ⟨entry, hentry, hlambda⟩ := List.mem_flatMap.mp hlambda
    obtain ⟨field, -, column, hcolumn, rfl⟩ :=
      exists_of_mem_right (Model.columnEntries_eq_ok.mp hcolumns) hentry
    exact not_captures_of_thunk (Field.column_onlyThunks hcolumn lambda hlambda)
  · obtain rfl | ⟨key, -, -, -, rfl⟩ := Model.keyArguments_eq_ok hkey
    · simp at hlambda
    · rw [List.flatMap_singleton] at hlambda
      obtain ⟨hparameters, himports⟩ := lambdas_keyCallback hlambda
      exact not_captures_of_library _ _ hparameters himports (by decide) (by decide)

theorem not_captures_enum {schema : Schema} {enum : EnumType} {fragment : Fragment}
    (h : enum.declaration? schema.config.dialect = some fragment) :
    ∀ lambda ∈ fragment.lambdas, ¬ schema.Captures lambda := by
  obtain ⟨value, hvalue, rfl⟩ := Option.map_eq_some_iff.mp h
  intro lambda hlambda
  rw [Fragment.lambdas_declaration] at hlambda
  generalize schema.config.dialect = dialect at hvalue
  cases dialect with
  | postgres =>
    obtain rfl := Option.some.inj hvalue
    simp [EnumType.valueLiterals, List.flatMap_map] at hlambda
  | mysql =>
    obtain rfl := Option.some.inj hvalue
    have hlambdas : enum.valueLiterals.lambdas = [] := by
      simp [EnumType.valueLiterals, List.flatMap_map]
    have himports : enum.valueLiterals.imports = [] := by
      simp [EnumType.valueLiterals, List.flatMap_map]
    simp only [Fragment.lambdas_lambda, Fragment.lambdas_withImports, Fragment.lambdas_invoke,
      Fragment.lambdas_verbatim, List.flatMap_cons, List.flatMap_nil, hlambdas, List.append_nil,
      List.mem_singleton] at hlambda
    subst hlambda
    exact not_captures_of_library .mysql "mysqlEnum" rfl (by simp [himports]) (by decide)
      (by decide)
  | sqlite => simp [Dialect.enumValue?] at hvalue

theorem before_tableBinding (model : String) :
    Fragment.before '.' (Naming.tableBinding model) = Naming.tableBinding model :=
  Fragment.before_eq_self ((Naming.plain_tableBinding model).not_mem (by decide) (by decide))

theorem mentions_columnReferences (model : String) (names : List String) :
    (columnReferences (Naming.tableBinding model) names).mentions =
      names.map fun _ => Naming.tableBinding model := by
  have hname : ∀ name, Fragment.before '.' (Naming.tableBinding model ++ "." ++ name) =
      Naming.tableBinding model := by
    intro name
    have htext : (Naming.tableBinding model ++ "." ++ name).toList =
        (Naming.tableBinding model).toList ++ '.' :: name.toList := by
      simp
    exact Fragment.before_append ((Naming.plain_tableBinding model).not_mem (by decide) (by decide))
      htext
  rw [columnReferences, Fragment.mentions_array, List.flatMap_map]
  simp only [Fragment.mentions_verbatim, hname]
  exact List.map_eq_flatMap.symm

theorem mentions_nameOption (schema : Schema) (model : Model) (field : Field) :
    (schema.nameOption model field).flatMap (·.2.mentions) = [] := by
  unfold nameOption
  split <;> simp

theorem lambdas_nameOption (schema : Schema) (model : Model) (field : Field) :
    (schema.nameOption model field).flatMap (·.2.lambdas) = [] := by
  unfold nameOption
  split <;> simp

theorem mentions_reference (model : Model) :
    model.reference.mentions = [Naming.tableBinding model.name] := by
  rw [Model.reference, Fragment.mentions_withImports, Fragment.mentions_verbatim,
    before_tableBinding]

theorem lambdas_reference (model : Model) : model.reference.lambdas = [] := by
  rw [Model.reference, Fragment.lambdas_withImports, Fragment.lambdas_verbatim]

theorem lambdas_relationEntry (schema : Schema) (model related : Model) (field : Field) :
    (schema.relationEntry model related field).lambdas = [] := by
  have hname := lambdas_nameOption schema model field
  simp only [relationEntry]
  split
  · simp [lambdas_reference, hname, columnReferences, List.flatMap_map]
  · split <;> simp [lambdas_reference, hname]

theorem mentions_relationEntry (schema : Schema) (model related : Model) (field : Field) :
    ∃ function ∈ ["helpers.one", "helpers.many"],
      (schema.relationEntry model related field).mentions =
        function :: Naming.tableBinding related.name ::
          if field.relation.isHolder then
            field.relation.fromFields.map (fun _ => Naming.tableBinding model.name) ++
              field.relation.toFields.map fun _ => Naming.tableBinding related.name
          else [] := by
  have hname := mentions_nameOption schema model field
  simp only [relationEntry]
  split
  · exact ⟨"helpers.one", by simp, by simp [mentions_reference, hname, mentions_columnReferences]⟩
  · refine ⟨if field.relation.isList then "helpers.many" else "helpers.one", ?_, ?_⟩
    · split <;> simp
    · split <;> simp [mentions_reference, hname]

theorem helpers_mem_mentions {schema : Schema} {model related : Model} {field : Field} :
    "helpers" ∈ (schema.relationEntry model related field).mentions ↔
      Naming.tableBinding related.name = "helpers" ∨
        field.relation.isHolder = true ∧ Naming.tableBinding model.name = "helpers" := by
  obtain ⟨function, hfunction, hmentions⟩ := mentions_relationEntry schema model related field
  have hne : "helpers" ≠ function := by
    rintro rfl
    exact absurd hfunction (by decide)
  rw [hmentions]
  cases hholder : field.relation.isHolder with
  | false => simp [hne, eq_comm]
  | true =>
    have hfrom : field.relation.fromFields ≠ [] := by
      simp only [Relation.isHolder, Bool.and_eq_true, Bool.not_eq_true', List.isEmpty_eq_false_iff]
        at hholder
      exact hholder.1
    obtain ⟨column, hcolumn⟩ := List.exists_mem_of_ne_nil _ hfrom
    simp only [if_true, List.mem_cons, List.mem_append, List.mem_map, hne, false_or, true_and]
    constructor
    · rintro (hrelated | ⟨_, -, hmodel⟩ | ⟨_, -, hrelated⟩)
      · exact .inl hrelated.symm
      · exact .inr hmodel
      · exact .inl hrelated
    · rintro (hrelated | hmodel)
      · exact .inl hrelated.symm
      · exact .inr (.inl ⟨column, hcolumn, hmodel⟩)

def SparesHelpers (schema : Schema) (model : Model) : Prop :=
  ∀ field ∈ model.relationFields, ∀ related, field.resolve schema.allModels model = .ok related →
    Naming.tableBinding related.name ≠ "helpers" ∧
      (field.relation.isHolder = true → Naming.tableBinding model.name ≠ "helpers")

theorem sparesHelpers_of_no_helpers {schema : Schema}
    (h : ∀ model ∈ schema.allModels, Naming.tableBinding model.name ≠ "helpers") {model : Model}
    (hmodel : model ∈ schema.allModels) : schema.SparesHelpers model := by
  intro field _ related hrelated
  have hmem := (findModel?_eq_some (Field.resolve_eq_ok.mp hrelated).1).1
  exact ⟨h related hmem, fun _ => h model hmodel⟩

theorem captures_relations_iff {schema : Schema} {model : Model} {one : Declared}
    (hmodel : model ∈ schema.allModels) (h : schema.declareRelations? model = .ok (some one)) :
    (∀ lambda ∈ one.declaration.lambdas, ¬ schema.Captures lambda) ↔ schema.SparesHelpers model := by
  obtain ⟨-, fragment, hfragment, rfl⟩ := declareRelations?_eq_some.mp h
  obtain ⟨entries, hentries, -, rfl⟩ := relations?_eq_some.mp hfragment
  have hentries := relationEntries_eq_ok.mp hentries
  have hinner : entries.flatMap (·.2.lambdas) = [] := by
    rw [List.flatMap_eq_nil_iff]
    intro entry hentry
    obtain ⟨field, -, related, -, rfl⟩ := exists_of_mem_right hentries hentry
    exact lambdas_relationEntry schema model related field
  have hlambdas : (relationsFragment model entries).lambdas =
      [(["helpers"], Fragment.record entries)] := by
    simp [relationsFragment, hinner]
  have hhelpers : Fragment.before ':' "helpers" = "helpers" := by decide
  rw [hlambdas, List.forall_mem_singleton]
  simp only [Captures, List.map_singleton, List.mem_singleton, exists_eq_left, hhelpers,
    Fragment.mentions_record, List.mem_flatMap]
  constructor
  · intro hfree field hfield related hrelated
    obtain ⟨entry, hentry, related', hrelated', rfl⟩ := exists_of_mem_left hentries hfield
    obtain rfl := Except.ok.inj (hrelated.symm.trans hrelated')
    have hmem := (findModel?_eq_some (Field.resolve_eq_ok.mp hrelated).1).1
    refine ⟨fun hname => hfree ⟨⟨_, hentry, ?_⟩, .inl ⟨related, hmem, hname⟩⟩,
      fun hholder hname => hfree ⟨⟨_, hentry, ?_⟩, .inl ⟨model, hmodel, hname⟩⟩⟩
    · exact helpers_mem_mentions.mpr (.inl hname)
    · exact helpers_mem_mentions.mpr (.inr ⟨hholder, hname⟩)
  · rintro hspares ⟨⟨entry, hentry, hmention⟩, -⟩
    obtain ⟨field, hfield, related, hrelated, rfl⟩ := exists_of_mem_right hentries hentry
    obtain ⟨hother, hown⟩ := hspares field hfield related hrelated
    rcases helpers_mem_mentions.mp hmention with hname | ⟨hholder, hname⟩
    · exact hother hname
    · exact hown hholder hname

end Schema

namespace Module

theorem lambdas_fileSchema (names : List String) :
    (schemaDeclaration (names.map .shorthand)).lambdas = [] := by
  have hparts : Fragment.partsOfEntries (names.map .shorthand) = [] := by
    induction names with
    | nil => rfl
    | cons name names ih => rw [List.map_cons, Fragment.partsOfEntries, ih]; rfl
  simp [schemaDeclaration, Fragment.lambdas, Fragment.parts, hparts, Fragment.ownLambda]

theorem lambdas_rootSchema (modules : List Module) : (schemaDeclaration (modules.map fun m =>
    .spread (.verbatim (Naming.moduleAlias m.name)))).lambdas = [] := by
  have hparts : (Fragment.partsOfEntries (modules.map fun m =>
      .spread (.verbatim (Naming.moduleAlias m.name)))).flatMap Fragment.ownLambda = [] := by
    induction modules with
    | nil => rfl
    | cons m modules ih =>
      rw [List.map_cons, Fragment.partsOfEntries, List.flatMap_append, ih]
      rfl
  simp [schemaDeclaration, Fragment.lambdas, Fragment.parts, hparts, Fragment.ownLambda]

end Module

theorem modules_captureFree_iff {config : Config} {datamodel : Datamodel} {modules : List Module}
    (h : datamodel.modules config = .ok modules) :
    ∃ schema, Schema.ofDatamodel config datamodel = .ok schema ∧
      ((∀ fragment ∈ modules.flatMap Module.declarations, ∀ lambda ∈ fragment.lambdas,
        ¬ schema.Captures lambda) ↔ ∀ model ∈ schema.related, schema.SparesHelpers model) := by
  obtain ⟨schema, d, hschema, hd, rfl⟩ := Datamodel.modules_eq_ok.mp h
  refine ⟨schema, hschema, ?_⟩
  rw [Declarations.forall_declarations_iff, Schema.forall_modular_iff hd]
  · constructor
    · rintro ⟨-, -, hrelations⟩ model hmodel
      obtain ⟨hmem, hquery, hfields⟩ := Schema.mem_related.mp hmodel
      obtain ⟨one, -, hone⟩ := Schema.exists_relations hd hquery hmem hfields
      exact (Schema.captures_relations_iff hmem hone).mp (hrelations model hmodel one hone)
    · intro hspares
      refine ⟨fun enum _ fragment hfragment => Schema.not_captures_enum hfragment,
        fun model _ one hone => Schema.not_captures_table hone, fun model hmodel one hone => ?_⟩
      exact (Schema.captures_relations_iff (Schema.mem_related.mp hmodel).1 hone).mpr
        (hspares model hmodel)
  · intro names lambda hlambda
    rw [Module.lambdas_fileSchema] at hlambda
    cases hlambda
  · intro modules lambda hlambda
    rw [Module.lambdas_rootSchema] at hlambda
    cases hlambda

theorem rolePosts_captureFree :
    ∃ modules, (rolePosts "role").modules (Config.ofDialect .mysql) = .ok modules ∧
      ∃ schema, Schema.ofDatamodel (Config.ofDialect .mysql) (rolePosts "role") = .ok schema ∧
        ∀ fragment ∈ modules.flatMap Module.declarations, ∀ lambda ∈ fragment.lambdas,
          ¬ schema.Captures lambda := by
  have hwritten : ((rolePosts "role").modules (Config.ofDialect .mysql)).isOk = true := by
    decide
  have hnames : (Schema.ofDatamodel (Config.ofDialect .mysql) (rolePosts "role")).toOption.any
      (fun schema => ∀ model ∈ schema.allModels,
        Naming.tableBinding model.name ≠ "helpers") = true := by
    decide
  obtain ⟨modules, h⟩ := exists_of_isOk hwritten
  obtain ⟨schema, hschema, hiff⟩ := modules_captureFree_iff h
  obtain ⟨schema', hschema', hnames⟩ := exists_of_any hnames
  obtain rfl := Except.ok.inj (hschema.symm.trans hschema')
  refine ⟨modules, h, schema, hschema, hiff.mpr fun model hmodel => ?_⟩
  exact Schema.sparesHelpers_of_no_helpers (of_decide_eq_true hnames)
    (Schema.mem_related.mp hmodel).1

def teamHelpers : Datamodel where
  models := [
    { name := "Team", fields := [
      { name := "id", type := "Int", isId := true },
      { name := "helpers", kind := .object, type := "Helper", isList := true,
        relationName := some "R" }] },
    { name := "Helper", fields := [
      { name := "id", type := "Int", isId := true },
      { name := "teamId", type := "Int" },
      { name := "team", kind := .object, type := "Team", relationName := some "R",
        relationFromFields := ["teamId"], relationToFields := ["id"] }] }]

theorem teamHelpers_not_captureFree : (teamHelpers.models.map (·.name)).Nodup ∧
    ∃ modules, teamHelpers.modules (Config.ofDialect .postgres) = .ok modules ∧
      ∃ schema, Schema.ofDatamodel (Config.ofDialect .postgres) teamHelpers = .ok schema ∧
        ∃ fragment ∈ modules.flatMap Module.declarations, ∃ lambda ∈ fragment.lambdas,
          schema.Captures lambda := by
  have hlambda : (teamHelpers.modules (Config.ofDialect .postgres)).toOption.any
      (fun modules => (modules.flatMap Module.declarations).any fun fragment =>
        fragment.lambdas.any fun lambda =>
          lambda.1 = ["helpers"] ∧ "helpers" ∈ lambda.2.mentions) = true := by
    decide
  have htable : (Schema.ofDatamodel (Config.ofDialect .postgres) teamHelpers).toOption.any
      (fun schema => ∃ model ∈ schema.allModels,
        Naming.tableBinding model.name = "helpers") = true := by
    decide
  obtain ⟨modules, h, hlambda⟩ := exists_of_any hlambda
  obtain ⟨schema, hschema, htable⟩ := exists_of_any htable
  obtain ⟨fragment, hfragment, hlambda⟩ := List.any_eq_true.mp hlambda
  obtain ⟨lambda, hmem, hlambda⟩ := List.any_eq_true.mp hlambda
  obtain ⟨hparameters, hmention⟩ := of_decide_eq_true hlambda
  refine ⟨by decide, modules, h, schema, hschema, fragment, hfragment, lambda, hmem, "helpers",
    ?_, hmention, .inl (of_decide_eq_true htable)⟩
  rw [hparameters]
  decide

end SchemaWriter
