import SchemaWriter.Proofs.Outcome
import SchemaWriter.Schema.Table

namespace SchemaWriter

open Outcome

namespace Field

variable (mode other : DateMode)

theorem alike_scalarLiteral (model : Model) (field : Field) (value : Json) (scalar : Scalar) :
    Alike (scalarLiteral model field mode value scalar)
      (scalarLiteral model field other value scalar) := by
  cases scalar with
  | dateTime =>
    unfold scalarLiteral
    cases value with
    | string s => cases mode <;> cases other <;> exact .ok _ _
    | _ => exact .ok _ _
  | int | float | string | boolean | decimal | bigInt | json | bytes => exact .refl _

theorem alike_single (model : Model) (field : Field) (value : Json) :
    Alike
      (match field.columnType? with
        | some (.scalar scalar) => scalarLiteral model field mode value scalar
        | _ => .ok value.fragment)
      (match field.columnType? with
        | some (.scalar scalar) => scalarLiteral model field other value scalar
        | _ => .ok value.fragment) := by
  cases field.columnType? with
  | none => exact .refl _
  | some type =>
    cases type with
    | scalar scalar => exact alike_scalarLiteral mode other model field value scalar
    | enum | unsupported => exact .refl _

mutual

theorem alike_literal (model : Model) (field : Field) : ∀ value : Json,
    Alike (literal model field mode value) (literal model field other value)
  | .array items => by
    rw [literal, literal]
    exact (alike_literals model field items).map _ _
  | .null | .bool _ | .number _ | .string _ | .object _ => alike_single mode other model field _

theorem alike_literals (model : Model) (field : Field) : ∀ items : List Json,
    Alike (literals model field mode items) (literals model field other items)
  | [] => .refl _
  | item :: items => by
    rw [literals, literals]
    exact (alike_literal model field item).bind fun _ _ _ _ =>
      (alike_literals model field items).bind fun _ _ _ _ => .ok _ _

end

theorem alike_constructorCall (dialect : Dialect) (model : Model) (field : Field) :
    Alike (field.constructorCall dialect model mode)
      (field.constructorCall dialect model other) := by
  unfold constructorCall
  cases field.columnType? with
  | none => exact .refl _
  | some type =>
    cases type with
    | scalar scalar => exact .ok _ _
    | enum | unsupported => exact .refl _

theorem alike_defaultModifiers (model : Model) (field : Field) (directives : Directives) :
    Alike (field.defaultModifiers model directives mode)
      (field.defaultModifiers model directives other) := by
  unfold defaultModifiers
  cases directives.defaultExpression? with
  | some default => exact .refl _
  | none =>
    dsimp only
    split
    · exact .refl _
    · exact .ok _ _
    · exact .refl _
    · exact .refl _
    · rename_i value _
      exact (alike_literal mode other model field value.json).map _ _

theorem alike_column (dialect : Dialect) (model : Model) (field : Field) :
    Alike (field.column dialect mode model) (field.column dialect other model) := by
  unfold Field.column base
  refine Alike.bind_same fun directives _ => ?_
  have hcall := alike_constructorCall (dateMode directives mode) (dateMode directives other)
    dialect model field
  have hdefault := alike_defaultModifiers (dateMode directives mode) (dateMode directives other)
    model field directives
  refine Alike.bind ?_ fun _ _ _ _ => hdefault.bind fun _ _ _ _ => .ok _ _
  exact hcall.bind fun _ _ _ _ => Alike.bind_same fun _ _ => .ok _ _

end Field

namespace Model

variable (mode other : DateMode)

theorem alike_columnEntries (dialect : Dialect) (model : Model) (fields : List Field) :
    Alike (model.columnEntries dialect mode fields) (model.columnEntries dialect other fields) := by
  induction fields with
  | nil => exact .refl _
  | cons field rest ih =>
    rw [columnEntries, columnEntries]
    exact (Field.alike_column mode other dialect model field).bind fun _ _ _ _ =>
      ih.bind fun _ _ _ _ => .ok _ _

theorem alike_declaration (dialect : Dialect) (model : Model) :
    Alike (model.declaration dialect mode) (model.declaration dialect other) :=
  (alike_columnEntries mode other dialect model model.columns).bind fun _ _ _ _ =>
    Alike.bind_same fun _ _ => .ok _ _

end Model

end SchemaWriter
