import SchemaWriter.Proofs.Relation.Synthesis

namespace SchemaWriter.ManyToMany

def swap (link : ManyToMany) : ManyToMany :=
  ⟨link.related, link.opposite, link.model, link.field⟩

def comesFirst (link : ManyToMany) : Bool :=
  if link.isSelf then link.field.name < link.opposite.name
  else link.model.name < link.related.name

def column (link : ManyToMany) : String :=
  if link.comesFirst then "A" else "B"

def ownRelation (link : ManyToMany) : String :=
  if link.comesFirst then link.sideRelations.1 else link.sideRelations.2

def holder (link : ManyToMany) (id : Field) : Field :=
  let (a, b) := sideFields link.sides.1 link.sides.2
  holderField (if link.comesFirst then a else b) link.model.name link.ownRelation link.column
    id.name

structure Proper (link : ManyToMany) : Prop where
  same_model : link.model.name = link.related.name → link.model = link.related
  same_relation : link.opposite.relationName = link.field.relationName
  apart : link.model.name = link.related.name → link.opposite.name ≠ link.field.name

theorem Proper.swap {link : ManyToMany} (h : link.Proper) : link.swap.Proper where
  same_model := fun hname => (h.same_model hname.symm).symm
  same_relation := h.same_relation.symm
  apart := fun hname => (h.apart hname.symm).symm

theorem isSelf_iff {link : ManyToMany} : link.isSelf = true ↔ link.model.name = link.related.name :=
  decide_eq_true_iff

theorem swap_isSelf (link : ManyToMany) : link.swap.isSelf = link.isSelf := by
  rw [Bool.eq_iff_iff, isSelf_iff, isSelf_iff]
  exact eq_comm

theorem decide_lt_swap {a b : String} (h : a ≠ b) : decide (b < a) = !decide (a < b) := by
  by_cases hlt : a < b
  · simp [hlt, String.lt_asymm hlt]
  · have hgt : b < a := by
      rw [← String.not_le]
      exact fun hle => h (String.le_antisymm hle (String.not_lt.mp hlt))
    simp [hlt, hgt]

theorem Proper.swap_comesFirst {link : ManyToMany} (h : link.Proper) :
    link.swap.comesFirst = !link.comesFirst := by
  unfold comesFirst
  rw [swap_isSelf]
  split
  · rename_i hself
    exact decide_lt_swap (h.apart (isSelf_iff.mp hself)).symm
  · rename_i hself
    exact decide_lt_swap fun hname => hself (isSelf_iff.mpr hname)

theorem Proper.column_ne {link : ManyToMany} (h : link.Proper) :
    link.column ≠ link.swap.column := by
  unfold column
  rw [h.swap_comesFirst]
  cases link.comesFirst <;> decide

theorem Proper.sides_eq {link : ManyToMany} (h : link.Proper) : link.sides =
    if link.comesFirst then (link.model, link.related) else (link.related, link.model) := by
  by_cases hname : link.model.name = link.related.name
  -- Within one model both orders of the sides are the same.
  · have hsame := h.same_model hname
    have hnot : ¬ link.related.name < link.model.name := by
      rw [hname]
      exact String.lt_irrefl _
    rw [sides, if_neg hnot, hsame, ite_self]
  · have hfirst : link.comesFirst = decide (link.model.name < link.related.name) := by
      simp [comesFirst, isSelf, hname]
    have hswap := decide_lt_swap hname
    rw [hfirst, sides]
    by_cases hlt : link.model.name < link.related.name
    · have hnot : ¬ link.related.name < link.model.name := String.lt_asymm hlt
      simp [hlt, hnot]
    · have hgt : link.related.name < link.model.name := by simpa [hlt] using hswap
      simp [hlt, hgt]

theorem Proper.swap_sides {link : ManyToMany} (h : link.Proper) : link.swap.sides = link.sides := by
  rw [h.swap.sides_eq, h.sides_eq, h.swap_comesFirst]
  cases link.comesFirst <;> rfl

theorem Proper.swap_relation {link : ManyToMany} (h : link.Proper) :
    link.swap.relation = link.relation :=
  congrArg (fun name => name.getD "") h.same_relation

theorem Proper.swap_sideRelations {link : ManyToMany} (h : link.Proper) :
    link.swap.sideRelations = link.sideRelations := by
  rw [sideRelations, sideRelations, swap_isSelf, h.swap_relation]

theorem Proper.swap_table {link : ManyToMany} (h : link.Proper) (aId bId : Field) :
    link.swap.table aId bId = link.table aId bId := by
  rw [table, table, h.swap_sides, h.swap_sideRelations, tableName, tableName, h.swap_relation]

theorem Proper.exists_swap_joinTable {link : ManyToMany} (h : link.Proper) {join : JoinTable}
    (hjoin : link.joinTable = .ok join) :
    ∃ other, link.swap.joinTable = .ok other ∧ other.table = join.table := by
  obtain ⟨aId, bId, ha, hb, rfl⟩ := joinTable_eq_ok.mp hjoin
  rw [← h.swap_sides] at ha hb
  exact ⟨_, joinTable_eq_ok.mpr ⟨aId, bId, ha, hb, rfl⟩, h.swap_table aId bId⟩

theorem Proper.swap_ownRelation {link : ManyToMany} (h : link.Proper) :
    link.swap.ownRelation =
      if link.comesFirst then link.sideRelations.2 else link.sideRelations.1 := by
  rw [ownRelation, h.swap_comesFirst, h.swap_sideRelations]
  cases link.comesFirst <;> rfl

theorem ownRelation_of_not_isSelf {link : ManyToMany} (h : link.isSelf = false) :
    link.ownRelation = link.relation := by
  simp [ownRelation, sideRelations, h]

theorem ownRelation_of_isSelf {link : ManyToMany} (h : link.isSelf = true) :
    link.ownRelation = link.relation ++ "_" ++ link.column := by
  unfold ownRelation column sideRelations
  rw [if_pos h, String.append_assoc]
  cases link.comesFirst <;> rfl

theorem Proper.ownRelation_ne {link : ManyToMany} (h : link.Proper) (hself : link.isSelf = true) :
    link.ownRelation ≠ link.swap.ownRelation := by
  rw [ownRelation_of_isSelf hself, ownRelation_of_isSelf ((swap_isSelf link).trans hself),
    h.swap_relation]
  exact fun hsame => h.column_ne (String.append_right_inj _ |>.mp hsame)

theorem Proper.mem_endpoints {link : ManyToMany} (h : link.Proper) {endpoint : Endpoint}
    (hmem : endpoint ∈ link.endpoints) :
    endpoint = ⟨link.model.name, link.field.name, link.ownRelation⟩ ∨
      endpoint = ⟨link.related.name, link.opposite.name, link.swap.ownRelation⟩ := by
  rw [h.swap_ownRelation]
  unfold endpoints at hmem
  unfold ownRelation
  by_cases hself : link.isSelf = true
  · have hname := isSelf_iff.mp hself
    have hfirst : link.comesFirst = decide (link.field.name < link.opposite.name) := by
      simp [comesFirst, hself]
    have hswap := decide_lt_swap (h.apart hname).symm
    by_cases hlt : link.field.name < link.opposite.name
    · have hnot : ¬ link.opposite.name < link.field.name := String.lt_asymm hlt
      simpa [hself, hfirst, hlt, hnot, hname] using hmem
    · have hgt : link.opposite.name < link.field.name := by simpa [hlt] using hswap
      simpa [hself, hfirst, hlt, hgt, hname, or_comm] using hmem
  · simpa [hself, sideRelations] using hmem

section Table

variable {link : ManyToMany} {turned : Model} {list : Field}

theorem faces_keyColumn (hrelation : list.relationName = some link.ownRelation)
    (turned related : Model) (name : String) (id : Field) :
    list.faces turned related (keyColumn name id) = false := by
  simp [Field.faces, keyColumn, hrelation]

theorem faces_holderField (hrelation : list.relationName = some link.ownRelation)
    (hname : turned.name = link.model.name) (related : Model)
    (habsent : related.name ≠ link.model.name) (field type relation column id : String) :
    list.faces turned related (holderField field type relation column id) =
      (decide (relation = link.ownRelation) && decide (type = link.model.name)) := by
  simp [Field.faces, holderField, hrelation, hname, habsent]

theorem table_fields (link : ManyToMany) (aId bId : Field) :
    (link.table aId bId).fields =
      [keyColumn "A" aId, keyColumn "B" bId,
        holderField (sideFields link.sides.1 link.sides.2).1 link.sides.1.name
          link.sideRelations.1 "A" aId.name,
        holderField (sideFields link.sides.1 link.sides.2).2 link.sides.2.name
          link.sideRelations.2 "B" bId.name] :=
  rfl

theorem Proper.opposite?_table (h : link.Proper) (habsent : link.tableName ≠ link.model.name)
    (hname : turned.name = link.model.name)
    (hrelation : list.relationName = some link.ownRelation) (aId bId : Field) :
    list.opposite? turned (link.table aId bId) =
      some (link.holder (if link.comesFirst then aId else bId)) := by
  have hkey := faces_keyColumn hrelation turned (link.table aId bId)
  have hholder := faces_holderField hrelation hname (link.table aId bId) habsent
  have hrelated (field type relation column id : String) :
      (holderField field type relation column id).isRelation = true := rfl
  have hsides := h.sides_eq
  unfold Field.opposite? Model.relationFields holder
  rw [List.find?_filter, table_fields]
  cases hfirst : link.comesFirst with
  | true =>
    have hown : link.ownRelation = link.sideRelations.1 := by simp [ownRelation, hfirst]
    simp only [hfirst, if_true] at hsides
    simp [hkey, hholder, hrelated, hsides, hown, column, hfirst]
  | false =>
    have hown : link.ownRelation = link.sideRelations.2 := by simp [ownRelation, hfirst]
    simp only [hfirst, Bool.false_eq_true, if_false] at hsides
    have hother : link.sideRelations.1 = link.sideRelations.2 →
        link.related.name ≠ link.model.name := by
      intro hrelation hself
      have hne := h.ownRelation_ne (isSelf_iff.mpr hself.symm)
      rw [h.swap_ownRelation, hown, hfirst] at hne
      exact hne hrelation.symm
    by_cases hrelation : link.sideRelations.1 = link.sideRelations.2
    · simp [hkey, hholder, hrelated, hsides, hown, column, hfirst, hother hrelation]
    · simp [hkey, hholder, hrelated, hsides, hown, column, hfirst, hrelation]

theorem Proper.exists_holder (h : link.Proper) {join : JoinTable}
    (hjoin : link.joinTable = .ok join)
    (habsent : link.tableName ≠ link.model.name) :
    ∃ id, link.model.idField? = some id ∧ ∀ (turned : Model) (list : Field),
      turned.name = link.model.name → list.relationName = some link.ownRelation →
        list.opposite? turned join.table = some (link.holder id) := by
  obtain ⟨aId, bId, ha, hb, rfl⟩ := joinTable_eq_ok.mp hjoin
  refine ⟨if link.comesFirst then aId else bId, ?_, fun turned list hname hrelation =>
    h.opposite?_table habsent hname hrelation aId bId⟩
  rw [h.sides_eq] at ha hb
  cases hfirst : link.comesFirst with
  | true => simpa [hfirst] using ha
  | false => simpa [hfirst] using hb

end Table

end SchemaWriter.ManyToMany
