import SchemaWriter.Proofs.Schema.Settings

namespace SchemaWriter

open Outcome

theorem modules_eq_error_iff {config other : Config} (hdialect : config.dialect = other.dialect)
    (datamodel : Datamodel) :
    (∀ failure, datamodel.modules config = .error failure ↔
      datamodel.modules other = .error failure) ∧
    ∀ schema, Schema.ofDatamodel config datamodel = .ok schema → ∀ model ∈ schema.allModels,
      ∃ relations, schema.relations? model = .ok relations := by
  refine ⟨fun failure => (Datamodel.alike_modules hdialect datamodel).error_iff, ?_⟩
  intro schema hschema model hmodel
  obtain ⟨joins, -, rfl, hresolved⟩ := Schema.ofDatamodel_eq_ok.mp hschema
  exact hresolved.exists_relations? hmodel

def authoredPosts (author : String) : Datamodel where
  models := [
    { name := "Post", fields := [
      { name := "id", type := "Int", isId := true },
      { name := "authorId", type := "Int" },
      { name := "author", kind := .object, type := author, relationName := some "AuthorToPost",
        relationFromFields := ["authorId"], relationToFields := ["id"] }] },
    { name := "Author", fields := [{ name := "id", type := "Int", isId := true }] }]

def Config.silent (dialect : Dialect) : Config where
  dialect := dialect
  output := "./db.ts"
  relationalQuery := false
  dateMode := .string
  resolution := .nodeNext

theorem authoredPosts_eq_error :
    (Config.ofDialect .postgres).dialect = (Config.silent .postgres).dialect ∧
    (authoredPosts "Writer").modules (Config.ofDialect .postgres) =
      .error (.relation "Post" "author" (.unknownModel "Writer")) ∧
    (authoredPosts "Writer").modules (Config.silent .postgres) =
      .error (.relation "Post" "author" (.unknownModel "Writer")) ∧
    ∃ schema,
      Schema.ofDatamodel (Config.ofDialect .postgres) (authoredPosts "Author") = .ok schema ∧
      ∀ model ∈ schema.allModels, ∃ relations, schema.relations? model = .ok relations := by
  have hdialect : (Config.ofDialect .postgres).dialect = (Config.silent .postgres).dialect := rfl
  have hfailure : (authoredPosts "Writer").modules (Config.ofDialect .postgres) =
      .error (.relation "Post" "author" (.unknownModel "Writer")) := rfl
  have hresolves : (Schema.ofDatamodel (Config.ofDialect .postgres)
      (authoredPosts "Author")).isOk = true := by
    decide
  obtain ⟨schema, hschema⟩ := exists_of_isOk hresolves
  exact ⟨hdialect, hfailure,
    ((modules_eq_error_iff hdialect (authoredPosts "Writer")).1 _).mp hfailure, schema, hschema,
    (modules_eq_error_iff hdialect (authoredPosts "Author")).2 schema hschema⟩

end SchemaWriter
