import SchemaWriter.Proofs.Column.Built
import SchemaWriter.Proofs.Fragment.Free
import SchemaWriter.Proofs.Naming.Names
import SchemaWriter.Proofs.Requirement.Merged

namespace SchemaWriter

open Outcome

def globals : List String :=
  ["Date", "BigInt", "Buffer"]

theorem Expression.free {source : String} (h : Expression source) :
    ∀ name ∈ Fragment.freeOfSource source, name ∈ globals := by
  cases h with
  | null | now | nowText => decide
  | date value =>
    rw [String.append_assoc, Fragment.freeOfSource, Fragment.root_date]
    decide
  | bytes value =>
    rw [String.append_assoc, Fragment.freeOfSource, Fragment.root_bytes]
    decide

theorem DateMode.isLiteral_now (mode : DateMode) : mode.now.IsLiteral := by
  cases mode with
  | date => exact .verbatim .now
  | string => exact .verbatim .nowText

namespace Fragment

theorem IsLiteral.free {fragment : Fragment} (h : fragment.IsLiteral) :
    ∀ name ∈ fragment.free, name ∈ globals := by
  induction h with
  | string | integer | float | boolean => nofun
  | verbatim h => exact h.free
  | bigInt value =>
    have hbefore : before '.' "BigInt" = "BigInt" := by decide
    simp [hbefore, globals]
  | array _ ih =>
    rw [free_array, List.forall_mem_flatMap]
    exact ih
  | record _ ih =>
    rw [free_record, List.forall_mem_flatMap]
    exact ih

theorem IsLiteral.verbatims {fragment : Fragment} (h : fragment.IsLiteral) :
    ∀ source ∈ fragment.verbatims, Expression source := by
  induction h with
  | string | integer | float | boolean => nofun
  | verbatim h => simpa using h
  | bigInt value => simp
  | array _ ih =>
    rw [verbatims_array, List.forall_mem_flatMap]
    exact ih
  | record _ ih =>
    rw [verbatims_record, List.forall_mem_flatMap]
    exact ih

structure SelfContained (fragment : Fragment) : Prop where
  used : ∀ r ∈ fragment.imports, ∀ name ∈ r.names, name ∈ fragment.free
  imported : ∀ name ∈ fragment.free, name ∈ globals ∨ ∃ r ∈ fragment.imports, name ∈ r.names

theorem SelfContained.invoke {callee : String} {arguments : List Fragment} {source : Specifier}
    (hcallee : before '.' callee = callee)
    (h : ∀ argument ∈ arguments, argument.SelfContained) :
    ((invoke callee arguments).withImports [⟨.named [callee], source⟩]).SelfContained := by
  constructor
  · rw [imports_invoke_withImports, free_withImports, free_invoke, hcallee]
    intro r hr name hname
    rcases List.mem_cons.mp hr with rfl | hr
    · exact List.mem_cons.mpr (.inl (List.mem_singleton.mp hname))
    · obtain ⟨argument, hargument, hr⟩ := List.mem_flatMap.mp hr
      refine List.mem_cons_of_mem _ (List.mem_flatMap.mpr ⟨argument, hargument, ?_⟩)
      exact (h argument hargument).used r hr name hname
  · rw [imports_invoke_withImports, free_withImports, free_invoke, hcallee]
    intro name hname
    rcases List.mem_cons.mp hname with rfl | hname
    · exact .inr ⟨_, List.mem_cons_self, List.mem_singleton_self name⟩
    · obtain ⟨argument, hargument, hname⟩ := List.mem_flatMap.mp hname
      refine ((h argument hargument).imported name hname).imp_right ?_
      rintro ⟨r, hr, hmem⟩
      exact ⟨r, List.mem_cons_of_mem _ (List.mem_flatMap.mpr ⟨argument, hargument, hr⟩), hmem⟩

theorem SelfContained.record {properties : List (String × Fragment)}
    (h : ∀ property ∈ properties, property.2.SelfContained) :
    (record properties).SelfContained := by
  constructor
  · simp only [imports_record, free_record, List.mem_flatMap]
    rintro r ⟨property, hproperty, hr⟩ name hname
    exact ⟨property, hproperty, (h property hproperty).used r hr name hname⟩
  · simp only [imports_record, free_record, List.mem_flatMap]
    rintro name ⟨property, hproperty, hname⟩
    refine ((h property hproperty).imported name hname).imp_right ?_
    rintro ⟨r, hr, hmem⟩
    exact ⟨r, ⟨property, hproperty, hr⟩, hmem⟩

theorem IsLiteral.selfContained {fragment : Fragment} (h : fragment.IsLiteral) :
    fragment.SelfContained := by
  constructor
  · simp [h.inert.1]
  · exact fun name hname => .inl (h.free name hname)

end Fragment

namespace Modifier

variable {dialect : Dialect} {modifier : Modifier} {link : Fragment}

theorem Undirected.exists_invoke (hmodifier : modifier.Undirected)
    (h : modifier.fragment? dialect = some link) :
    ∃ callee arguments, link = .invoke callee arguments ∧ ∀ argument ∈ arguments,
      argument.IsLiteral ∨ ∃ value : Fragment, value.IsLiteral ∧ argument = .thunk value := by
  cases modifier with
  | narrow | expression => exact hmodifier.elim
  | array | notNull | unique =>
    obtain rfl := Option.some.inj h
    exact ⟨_, _, rfl, List.forall_mem_nil _⟩
  | literal value =>
    obtain rfl := Option.some.inj h
    exact ⟨_, _, rfl, List.forall_mem_singleton.mpr (.inl hmodifier)⟩
  | autoincrement =>
    obtain ⟨name, -, rfl⟩ := Option.map_eq_some_iff.mp h
    exact ⟨_, _, rfl, List.forall_mem_nil _⟩
  | primaryKey numbered =>
    obtain rfl := Option.some.inj h
    unfold Dialect.primaryKey
    split
    · refine ⟨_, _, rfl, List.forall_mem_singleton.mpr (.inl (.record ?_))⟩
      exact List.forall_mem_singleton.mpr (.boolean true)
    · exact ⟨_, _, rfl, List.forall_mem_nil _⟩
  | now mode =>
    obtain rfl := Option.some.inj h
    unfold Dialect.defaultNow
    split
    · exact ⟨_, _, rfl, List.forall_mem_singleton.mpr (.inr ⟨_, mode.isLiteral_now, rfl⟩)⟩
    · exact ⟨_, _, rfl, List.forall_mem_nil _⟩
  | onUpdate mode =>
    obtain rfl := Option.some.inj h
    exact ⟨_, _, rfl, List.forall_mem_singleton.mpr (.inr ⟨_, mode.isLiteral_now, rfl⟩)⟩

theorem Undirected.free (hmodifier : modifier.Undirected)
    (h : modifier.fragment? dialect = some link) :
    ∀ name ∈ Fragment.freeOfLink link, name ∈ globals := by
  obtain ⟨callee, arguments, rfl, harguments⟩ := hmodifier.exists_invoke h
  rw [Fragment.freeOfLink_invoke, List.forall_mem_flatMap]
  intro argument hargument
  rcases harguments argument hargument with hliteral | ⟨value, hliteral, rfl⟩
  · exact hliteral.free
  · simpa [Fragment.thunk] using hliteral.free

theorem Undirected.verbatims (hmodifier : modifier.Undirected)
    (h : modifier.fragment? dialect = some link) :
    ∀ source ∈ link.verbatims, Expression source := by
  obtain ⟨callee, arguments, rfl, harguments⟩ := hmodifier.exists_invoke h
  rw [Fragment.verbatims_invoke, List.forall_mem_flatMap]
  intro argument hargument
  rcases harguments argument hargument with hliteral | ⟨value, hliteral, rfl⟩
  · exact hliteral.verbatims
  · simpa [Fragment.thunk] using hliteral.verbatims

end Modifier

theorem before_enumBinding (name : String) :
    Fragment.before '.' (Naming.enumBinding name) = Naming.enumBinding name :=
  Fragment.before_eq_self ((Naming.plain_enumBinding name).not_mem (by decide) (by decide))

theorem Dialect.before_constructor (dialect : Dialect) (mode : DateMode) (scalar : Scalar) :
    Fragment.before '.' (dialect.constructor mode scalar).function =
      (dialect.constructor mode scalar).function := by
  cases dialect <;> cases scalar <;> cases mode <;> decide

theorem Constructor.isLiteral_options (constructor : Constructor) :
    (Fragment.record (constructor.options.map fun (key, value) =>
      (key, value.fragment))).IsLiteral := by
  refine .record fun property hproperty => ?_
  obtain ⟨⟨key, value⟩, -, rfl⟩ := List.mem_map.mp hproperty
  cases value with
  | string value => exact .string value
  | integer value => exact .integer value

namespace Field

theorem exists_constructorCall_eq {dialect : Dialect} {model : Model} {mode : DateMode}
    {field : Field} {call : Fragment} (h : field.constructorCall dialect model mode = .ok call) :
    ∃ callee arguments source, Fragment.before '.' callee = callee ∧
      (∀ argument ∈ arguments, argument.IsLiteral) ∧
      call = (Fragment.invoke callee arguments).withImports [⟨.named [callee], source⟩] := by
  unfold constructorCall at h
  split at h
  · rename_i scalar _
    obtain rfl := Except.ok.inj h
    refine ⟨_, _, _, dialect.before_constructor mode scalar, ?_, rfl⟩
    refine List.forall_mem_cons.mpr ⟨.string _, ?_⟩
    split
    · exact List.forall_mem_nil _
    · exact List.forall_mem_singleton.mpr (Constructor.isLiteral_options _)
  · split at h
    · obtain rfl := Except.ok.inj h
      exact ⟨_, _, _, before_enumBinding field.type, List.forall_mem_singleton.mpr (.string _), rfl⟩
    · cases h
  · cases h
  · cases h

end Field

namespace Column

variable {dialect : Dialect} {column : Column}

theorem free_fragment : (column.fragment dialect).free = column.base.free ++
    (column.modifiers.filterMap (Modifier.fragment? dialect)).flatMap Fragment.freeOfLink :=
  Fragment.free_foldl_andThen _ _

theorem verbatims_fragment : (column.fragment dialect).verbatims = column.base.verbatims ++
    (column.modifiers.filterMap (Modifier.fragment? dialect)).flatMap Fragment.verbatims :=
  Fragment.verbatims_foldl_andThen _ _

end Column

namespace Field

variable {dialect : Dialect} {mode : DateMode} {model : Model} {field : Field} {column : Column}

theorem column_selfContained (hbare : field.Bare)
    (h : field.column dialect mode model = .ok column) :
    (column.fragment dialect).SelfContained := by
  obtain ⟨directives, -, hcall, hmodifiers⟩ := column_eq_of_bare hbare h
  obtain ⟨callee, arguments, source, hcallee, harguments, hbase⟩ := exists_constructorCall_eq hcall
  have hself : column.base.SelfContained := by
    rw [hbase]
    exact .invoke hcallee fun argument hargument => (harguments argument hargument).selfContained
  have himports := Column.imports_fragment dialect column
  rw [Modifier.requirements_of_undirected hmodifiers, List.append_nil] at himports
  constructor
  · rw [himports, Column.free_fragment]
    exact fun r hr name hname => List.mem_append_left _ (hself.used r hr name hname)
  · rw [himports, Column.free_fragment]
    intro name hname
    rcases List.mem_append.mp hname with hname | hname
    · exact hself.imported name hname
    · obtain ⟨link, hlink, hname⟩ := List.mem_flatMap.mp hname
      obtain ⟨modifier, hmodifier, hlink⟩ := List.mem_filterMap.mp hlink
      exact .inl ((hmodifiers modifier hmodifier).free hlink name hname)

theorem column_verbatims (hbare : field.Bare) (h : field.column dialect mode model = .ok column) :
    ∀ source ∈ (column.fragment dialect).verbatims, Expression source := by
  obtain ⟨directives, -, hcall, hmodifiers⟩ := column_eq_of_bare hbare h
  obtain ⟨callee, arguments, _, -, harguments, hbase⟩ := exists_constructorCall_eq hcall
  rw [Column.verbatims_fragment, hbase, Fragment.verbatims_withImports, Fragment.verbatims_invoke]
  intro source hsource
  rcases List.mem_append.mp hsource with hsource | hsource
  · obtain ⟨argument, hargument, hsource⟩ := List.mem_flatMap.mp hsource
    exact (harguments argument hargument).verbatims source hsource
  · obtain ⟨link, hlink, hsource⟩ := List.mem_flatMap.mp hsource
    obtain ⟨modifier, hmodifier, hlink⟩ := List.mem_filterMap.mp hlink
    exact (hmodifiers modifier hmodifier).verbatims hlink source hsource

end Field

end SchemaWriter
