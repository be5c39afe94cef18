import SchemaWriter.Proofs.Column.Accepted
import SchemaWriter.Proofs.Column.Links
import SchemaWriter.Proofs.Json.Literal
import SchemaWriter.Proofs.Json.Reread

namespace SchemaWriter

open Outcome

namespace Literal

theorem escapeChar_of_mem_decimal {text : List Char} {n : Int} (h : Decimal text n) :
    ∀ c ∈ text, escapeChar c = [c] := by
  have hdigit : ∀ c : Char, c.isDigit = true → escapeChar c = [c] := by
    intro c hc
    unfold escapeChar
    split
    case h_5 => rfl
    all_goals exact absurd hc (by decide)
  cases h with
  | natural h => exact fun c hc => hdigit c (h.isDigit c hc)
  | negative h => exact List.forall_mem_cons.mpr ⟨rfl, fun c hc => hdigit c (h.isDigit c hc)⟩

theorem quote_toString (n : Int) : quote (toString n) = "'" ++ toString n ++ "'" := by
  have hplain : (toString n).toList.flatMap escapeChar = (toString n).toList := by
    rw [List.flatMap_congr (escapeChar_of_mem_decimal (decimal_toString n)),
      List.flatMap_singleton']
  rw [← String.toList_inj, quote, quoteChars, hplain]
  simp

end Literal

namespace Json

theorem Signed.exact {v : Json} (h : v.Signed) : v.Exact := by
  induction h with
  | null => exact .null
  | bool b => exact .bool b
  | integer hmin hmax => exact .integer hmin (by omega)
  | string s => exact .string s
  | array _ ih => exact .array ih
  | object _ ih => exact .object ih

theorem Exact.isTextOf {v : Ordered} (h : v.json.Exact) : IsTextOf v.json.render v :=
  ⟨v.json.toDraft, h.spells, Draft.json?_toDraft h (Nat.le_refl _)⟩

theorem Exact.nestsWithin_iff {v : Json} (h : v.Exact) {limit : Nat} :
    NestsWithin v.render limit ↔ v.nesting ≤ limit := by
  constructor
  · rintro ⟨d, hspells, hlimit⟩
    rwa [hspells.unique h.spells] at hlimit
  · exact fun hlimit => ⟨v.toDraft, h.spells, hlimit⟩

end Json

namespace Field

structure OwnDefault (dialect : Dialect) (model : Model) (field : Field) : Prop where
  undirected : ∃ directives, field.directives model = .ok directives ∧
    directives.defaultExpression? = none
  list : field.isList = true → dialect = .postgres

def WritesDefault (dialect : Dialect) (mode : DateMode) (model : Model) (field : Field)
    (text : String) : Prop :=
  ∃ column, field.column dialect mode model = .ok column ∧
    (column.fragment dialect).insertDefaults.map Fragment.render = ["default(" ++ text ++ ")"]

namespace OwnDefault

variable {dialect : Dialect} {model : Model} {field : Field} {scalar : Scalar} {value : Json.Ordered}

theorem exists_column_iff (h : field.OwnDefault dialect model) (mode : DateMode)
    (htype : field.columnType? = some (.scalar scalar))
    (hvalue : field.defaultValue = some (.literal value)) :
    (∃ column, field.column dialect mode model = .ok column) ↔ field.AdmitsDefault value.json := by
  obtain ⟨directives, hdirectives, hnone⟩ := h.undirected
  simp only [column_eq_ok]
  constructor
  · rintro ⟨_, read, call, list, default, hread, -, -, hdefault, -⟩
    obtain rfl := Except.ok.inj (hdirectives.symm.trans hread)
    exact exists_defaultModifiers_iff.mp ⟨default, hdefault⟩ hnone value hvalue
  · intro hadmits
    have hdefault : ∀ mode,
        ∃ default, field.defaultModifiers model directives mode = .ok default := by
      refine fun mode => exists_defaultModifiers_iff.mpr fun _ given hgiven => ?_
      obtain rfl : value = given := by simpa [hvalue] using hgiven
      exact hadmits
    have hlist : ∃ list, field.listModifiers dialect model = .ok list :=
      exists_listModifiers_iff.mpr h.list
    obtain ⟨list, hlist⟩ := hlist
    obtain ⟨default, hdefault⟩ := hdefault (dateMode directives mode)
    exact ⟨_, directives, _, list, default, hdirectives, by rw [constructorCall, htype], hlist,
      hdefault, rfl⟩

theorem writesDefault (h : field.OwnDefault dialect model) (mode : DateMode)
    (hvalue : field.defaultValue = some (.literal value)) {fragment : Fragment}
    (hliteral : ∀ mode, literal model field mode value.json = .ok fragment)
    (hcolumn : ∃ column, field.column dialect mode model = .ok column) :
    field.WritesDefault dialect mode model fragment.render := by
  obtain ⟨column, hcolumn⟩ := hcolumn
  obtain ⟨directives, hdirectives, hnone⟩ := h.undirected
  obtain ⟨modifiers, hmodifiers, hlinks⟩ :=
    insertDefaults_of_not_autoincrement (by simp [isAutoincrement, hvalue]) hdirectives hcolumn
  simp only [defaultModifiers, hnone, hvalue, hliteral] at hmodifiers
  obtain rfl := Except.ok.inj hmodifiers
  refine ⟨column, hcolumn, ?_⟩
  rw [hlinks]
  simp [Modifier.fragment?]

theorem writesDefault_json (h : field.OwnDefault dialect model) (mode : DateMode)
    (htype : field.columnType? = some (.scalar .json)) {text : String}
    (hvalue : field.defaultValue = some (.literal (.string text)))
    (htext : Json.IsTextOf text value) :
    ((∃ column, field.column dialect mode model = .ok column) ↔ Json.NestsWithin text 127) ∧
      (Json.NestsWithin text 127 →
        field.WritesDefault dialect mode model value.json.fragment.render) := by
  obtain ⟨hkind, hname⟩ := columnType?_eq_json_iff.mp htype
  have hadmits : field.AdmitsDefault (.string text) ↔ Json.NestsWithin text 127 := by
    simp only [AdmitsDefault, hkind, hname, forall_const, Json.forall_holds_string_iff]
    exact htext.isText_iff
  have hcolumn := (h.exists_column_iff mode htype hvalue).trans hadmits
  refine ⟨hcolumn, fun hnests => h.writesDefault mode hvalue (fun mode => ?_) (hcolumn.mpr hnests)⟩
  rw [literal]
  · simp only [htype, scalarLiteral, Json.Ordered.json_string, htext.read hnests]
  · simp

theorem writesDefault_integer (h : field.OwnDefault dialect model) (mode : DateMode) {n : Int}
    (hvalue : field.defaultValue = some (.literal (.number (.integer n)))) :
    (field.columnType? = some (.scalar .bigInt) →
      field.WritesDefault dialect mode model ("BigInt('" ++ toString n ++ "')")) ∧
    (field.columnType? = some (.scalar .decimal) →
      field.WritesDefault dialect mode model ("'" ++ toString n ++ "'")) := by
  have hadmits : field.AdmitsDefault (.number (.integer n)) := by
    intro _ _ text hholds
    cases hholds
  constructor
  · intro htype
    have hcall : (Fragment.invoke "BigInt" [.string (toString n)]).render =
        "BigInt('" ++ toString n ++ "')" := by
      rw [Fragment.render_invoke, List.map_singleton, String.intercalate_singleton,
        Fragment.render_string, Literal.quote_toString, ← String.toList_inj]
      simp
    rw [← hcall]
    refine h.writesDefault mode hvalue (fun mode => ?_)
      ((h.exists_column_iff mode htype hvalue).mpr hadmits)
    rw [literal]
    · simp only [htype, scalarLiteral, Json.Ordered.json_number, Json.Number.render]
    · simp
  · intro htype
    rw [← Literal.quote_toString, ← Fragment.render_string]
    refine h.writesDefault mode hvalue (fun mode => ?_)
      ((h.exists_column_iff mode htype hvalue).mpr hadmits)
    rw [literal]
    · simp only [htype, scalarLiteral, Json.Ordered.json_number, Json.Number.render]
    · simp

end OwnDefault

end Field

theorem literals_faithful :
    (∀ v : Json, v.Signed → ∀ w, Literal.Denotes v.fragment.render w ↔ w = v) ∧
    (∀ v w : Json, v.Signed → w.Signed → (v.fragment.render = w.fragment.render ↔ v = w)) ∧
    ∀ (dialect : Dialect) (mode : DateMode) (model : Model) (field : Field),
      field.OwnDefault dialect model →
      (∀ text v, field.columnType? = some (.scalar .json) →
        field.defaultValue = some (.literal (.string text)) → Json.IsTextOf text v →
        ((∃ column, field.column dialect mode model = .ok column) ↔ Json.NestsWithin text 127) ∧
          (Json.NestsWithin text 127 →
            field.WritesDefault dialect mode model v.json.fragment.render)) ∧
      ∀ n : Int, field.defaultValue = some (.literal (.number (.integer n))) →
        (field.columnType? = some (.scalar .bigInt) →
          field.WritesDefault dialect mode model ("BigInt('" ++ toString n ++ "')")) ∧
        (field.columnType? = some (.scalar .decimal) →
          field.WritesDefault dialect mode model ("'" ++ toString n ++ "'")) := by
  refine ⟨fun v hv => hv.denotes_iff, fun v w hv hw => hv.render_inj hw, ?_⟩
  intro dialect mode model field h
  refine ⟨fun text v htype hvalue htext => h.writesDefault_json mode htype hvalue htext, ?_⟩
  exact fun n hvalue => h.writesDefault_integer mode hvalue

namespace NotedBooks

def notes : Json.Ordered :=
  .object [("a-b", .array [.number (.integer 1), .string "it's\n"]), ("c", .null)]

def noted : Field :=
  { name := "notes", type := "Json",
    defaultValue := some (.literal (.string "\x7b\"a-b\":[1,\"it's\\n\"],\"c\":null\x7d")) }

def copies : Field :=
  { name := "copies", type := "BigInt",
    defaultValue := some (.literal (.number (.integer 18446744073709551615))) }

def price : Field :=
  { name := "price", type := "Decimal",
    defaultValue := some (.literal (.number (.integer (-12)))) }

def book : Model :=
  { name := "Book", fields := [noted, copies, price] }

theorem json_notes : notes.json =
    .object [("a-b", .array [.number (.integer 1), .string "it's\n"]), ("c", .null)] :=
  rfl

theorem signed_notes : notes.json.Signed := by
  rw [json_notes]
  refine .object ?_
  simp only [List.forall_mem_cons, List.not_mem_nil, false_imp_iff, implies_true, and_true]
  refine ⟨.array ?_, .null⟩
  simp only [List.forall_mem_cons, List.not_mem_nil, false_imp_iff, implies_true, and_true]
  exact ⟨.integer (by decide) (by decide), .string _⟩

theorem ownDefault {field : Field} (h : field.documentation = none) (hlist : field.isList = false) :
    field.OwnDefault .mysql book := by
  refine ⟨⟨{}, by rw [Field.directives, h], rfl⟩, by simp [hlist]⟩

end NotedBooks

open NotedBooks in
theorem notedBooks_faithful :
    Literal.Denotes "\x7b 'a-b': [ 1, 'it\\'s\\n' ], c: null \x7d" notes.json ∧
      (Json.null.fragment.render = (Json.string "null").fragment.render ↔
        Json.null = .string "null") ∧
      noted.WritesDefault .mysql .date book "\x7b 'a-b': [ 1, 'it\\'s\\n' ], c: null \x7d" ∧
      copies.WritesDefault .mysql .date book "BigInt('18446744073709551615')" ∧
      price.WritesDefault .mysql .date book "'-12'" := by
  obtain ⟨hdenotes, hinj, hcolumns⟩ := literals_faithful
  have hliteral : notes.json.fragment.render = "\x7b 'a-b': [ 1, 'it\\'s\\n' ], c: null \x7d" := by
    decide
  have hrender : notes.json.render = "\x7b\"a-b\":[1,\"it's\\n\"],\"c\":null\x7d" := by decide
  have hnests : Json.NestsWithin notes.json.render 127 :=
    signed_notes.exact.nestsWithin_iff.mpr (by decide)
  obtain ⟨hjson, -⟩ := hcolumns .mysql .date book noted (ownDefault rfl rfl)
  obtain ⟨-, hnoted⟩ := hjson notes.json.render notes rfl (by rw [hrender]; rfl)
    signed_notes.exact.isTextOf
  obtain ⟨-, hcopies⟩ := hcolumns .mysql .date book copies (ownDefault rfl rfl)
  obtain ⟨-, hprice⟩ := hcolumns .mysql .date book price (ownDefault rfl rfl)
  rw [← hliteral]
  exact ⟨(hdenotes notes.json signed_notes notes.json).mpr rfl, hinj _ _ .null (.string _), hnoted hnests,
    (hcopies _ rfl).1 rfl, (hprice _ rfl).2 rfl⟩

namespace DeepDefaults

def nest : Nat → Json.Ordered
  | 0 => .array []
  | n + 1 => .array [nest n]

def deep : Field :=
  { name := "deep", type := "Json", defaultValue := some (.literal (.string (nest 127).json.render)) }

def tree : Model :=
  { name := "Tree", fields := [deep] }

theorem signed_nest (n : Nat) : (nest n).json.Signed := by
  induction n with
  | zero => exact .array (by simp)
  | succ n ih => exact .array (by simpa using ih)

theorem nesting_nest (n : Nat) : (nest n).json.nesting = n + 1 := by
  induction n with
  | zero => rfl
  | succ n ih =>
    rw [Json.nesting] at ih
    simp only [nest, Json.Ordered.json_array, List.map_cons, List.map_nil, Json.nesting,
      Json.toDraft, Json.itemDrafts, Json.Draft.nesting, Json.Draft.itemNesting, ih, Nat.max_zero]

end DeepDefaults

open DeepDefaults in
theorem deepDefault_not_written :
    (nest 127).json.Signed ∧ Json.IsTextOf (nest 127).json.render (nest 127) ∧
      deep.OwnDefault .postgres tree ∧ deep.columnType? = some (.scalar .json) ∧
      deep.defaultValue = some (.literal (.string (nest 127).json.render)) ∧
      ¬ deep.WritesDefault .postgres .date tree (nest 127).json.fragment.render := by
  have htext := (signed_nest 127).exact.isTextOf
  have hown : deep.OwnDefault .postgres tree := ⟨⟨{}, rfl, rfl⟩, fun _ => rfl⟩
  refine ⟨signed_nest 127, htext, hown, rfl, rfl, ?_⟩
  rintro ⟨column, hcolumn, -⟩
  have hnests := (hown.writesDefault_json .date rfl rfl htext).1.mp ⟨column, hcolumn⟩
  rw [(signed_nest 127).exact.nestsWithin_iff, nesting_nest] at hnests
  omega

end SchemaWriter
