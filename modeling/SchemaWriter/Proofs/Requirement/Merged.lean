import SchemaWriter.Requirement.Merge

namespace SchemaWriter.Requirement

def names (r : Requirement) : List String :=
  match r.clause with
  | .named names => names
  | _ => []

def Requires (requirements : List Requirement) (source : Specifier) (name : String) : Prop :=
  ∃ r ∈ requirements, r.source = source ∧ name ∈ r.names

theorem source_eq_of_fits {statement r : Requirement} (h : statement.fits r = true) :
    statement.source = r.source := by
  unfold fits at h
  split at h
  · simpa using h
  · simp only [decide_eq_true_eq] at h
    rw [h]

@[simp] theorem join_source (statement r : Requirement) :
    (statement.join r).source = statement.source := by
  unfold join
  split <;> rfl

@[simp] theorem fresh_source (r : Requirement) : r.fresh.source = r.source := by
  unfold fresh
  split <;> rfl

theorem mem_names_join {statement r : Requirement} (h : statement.fits r = true) {name : String} :
    name ∈ (statement.join r).names ↔ name ∈ statement.names ∨ name ∈ r.names := by
  obtain ⟨clause, source⟩ := statement
  obtain ⟨clause', source'⟩ := r
  cases clause <;> cases clause' <;> simp [fits] at h <;> simp [join, names, mem_addNames]

theorem mem_names_fresh {r : Requirement} {name : String} : name ∈ r.fresh.names ↔ name ∈ r.names := by
  obtain ⟨clause, source⟩ := r
  cases clause <;> simp [fresh, names, mem_addNames]

theorem requires_absorb {statements : List Requirement} {r : Requirement} {source : Specifier}
    {name : String} :
    Requires (absorb statements r) source name ↔
      Requires statements source name ∨ r.source = source ∧ name ∈ r.names := by
  induction statements with
  | nil => simp [absorb, Requires, mem_names_fresh]
  | cons statement rest ih =>
    simp only [Requires] at ih
    simp only [absorb]
    split
    · rename_i h
      simp only [Requires, List.mem_cons, exists_eq_or_imp, join_source, mem_names_join h,
        source_eq_of_fits h, and_or_left]
      exact or_right_comm
    · simp only [Requires, List.mem_cons, exists_eq_or_imp, ih]
      exact or_assoc.symm

theorem exists_source_absorb {statements : List Requirement} {r : Requirement}
    {source : Specifier} :
    (∃ statement ∈ absorb statements r, statement.source = source) ↔
      (∃ statement ∈ statements, statement.source = source) ∨ r.source = source := by
  induction statements with
  | nil => simp [absorb]
  | cons statement rest ih =>
    simp only [absorb]
    split
    · rename_i h
      simp only [List.mem_cons, exists_eq_or_imp, join_source, source_eq_of_fits h]
      rw [or_right_comm, or_self]
    · simp only [List.mem_cons, exists_eq_or_imp, ih]
      exact or_assoc.symm

theorem requires_merge {requirements : List Requirement} {source : Specifier} {name : String} :
    Requires (merge requirements) source name ↔ Requires requirements source name := by
  suffices h : ∀ statements, Requires (requirements.foldl absorb statements) source name ↔
      Requires statements source name ∨ Requires requirements source name by
    simpa [Requires, merge] using h []
  induction requirements with
  | nil => simp [Requires]
  | cons r rest ih =>
    intro statements
    rw [List.foldl_cons, ih, requires_absorb]
    simp only [Requires, List.mem_cons, exists_eq_or_imp]
    exact or_assoc

theorem exists_source_merge {requirements : List Requirement} {source : Specifier} :
    (∃ statement ∈ merge requirements, statement.source = source) ↔
      ∃ r ∈ requirements, r.source = source := by
  suffices h : ∀ statements,
      (∃ statement ∈ requirements.foldl absorb statements, statement.source = source) ↔
        (∃ statement ∈ statements, statement.source = source) ∨
          ∃ r ∈ requirements, r.source = source by
    simpa [merge] using h []
  induction requirements with
  | nil => simp
  | cons r rest ih =>
    intro statements
    rw [List.foldl_cons, ih, exists_source_absorb]
    simp only [List.mem_cons, exists_eq_or_imp]
    exact or_assoc

def isNamed (r : Requirement) : Bool :=
  match r.clause with
  | .named _ => true
  | _ => false

theorem eq_of_fits {statement r : Requirement} (h : statement.fits r = true) :
    statement = r ∨ statement.isNamed = true ∧ r.isNamed = true := by
  unfold fits at h
  split at h
  · rename_i hold hnew
    exact .inr ⟨by simp [isNamed, hold], by simp [isNamed, hnew]⟩
  · exact .inl (of_decide_eq_true h)

@[simp] theorem isNamed_join (statement r : Requirement) :
    (statement.join r).isNamed = statement.isNamed := by
  obtain ⟨clause, source⟩ := statement
  obtain ⟨clause', source'⟩ := r
  cases clause <;> cases clause' <;> rfl

theorem join_eq_self {statement r : Requirement} (h : statement.isNamed = false) :
    statement.join r = statement := by
  obtain ⟨clause, source⟩ := statement
  cases clause with
  | named names => simp [isNamed] at h
  | whole name => rfl
  | wildcard name => rfl

@[simp] theorem isNamed_fresh (r : Requirement) : r.fresh.isNamed = r.isNamed := by
  obtain ⟨clause, source⟩ := r
  cases clause <;> rfl

theorem fresh_eq_self {r : Requirement} (h : r.isNamed = false) : r.fresh = r := by
  obtain ⟨clause, source⟩ := r
  cases clause with
  | named names => simp [isNamed] at h
  | whole name => rfl
  | wildcard name => rfl

theorem mem_absorb_of_not_named {statements : List Requirement} {statement r : Requirement}
    (h : statement.isNamed = false) :
    statement ∈ absorb statements r ↔ statement ∈ statements ∨ statement = r := by
  have differs {other : Requirement} (hother : other.isNamed = true) : statement ≠ other := by
    rintro rfl
    rw [h] at hother
    cases hother
  induction statements with
  | nil =>
    rw [absorb, List.mem_singleton]
    cases hr : r.isNamed with
    | true => simp [differs hr, differs (r.isNamed_fresh.trans hr)]
    | false => simp [fresh_eq_self hr]
  | cons first rest ih =>
    rw [absorb]
    split
    · rename_i hfits
      rcases eq_of_fits hfits with rfl | ⟨hfirst, hr⟩
      · cases hfirst : first.isNamed with
        | true => simp [differs hfirst, differs ((first.isNamed_join first).trans hfirst)]
        | false =>
          rw [join_eq_self hfirst, List.mem_cons]
          grind
      · simp [differs hr, differs hfirst, differs ((first.isNamed_join r).trans hfirst)]
    · rw [List.mem_cons, List.mem_cons, or_assoc]
      exact or_congr_right ih

theorem mem_merge_of_not_named {requirements : List Requirement} {statement : Requirement}
    (h : statement.isNamed = false) : statement ∈ merge requirements ↔ statement ∈ requirements := by
  suffices hrun : ∀ statements, statement ∈ requirements.foldl absorb statements ↔
      statement ∈ statements ∨ statement ∈ requirements by
    simpa [merge] using hrun []
  induction requirements with
  | nil => simp
  | cons r rest ih =>
    intro statements
    rw [List.foldl_cons, ih, mem_absorb_of_not_named h, List.mem_cons, or_assoc]

theorem exists_named_absorb {statements : List Requirement} {r : Requirement}
    (h : ∃ statement ∈ absorb statements r, statement.isNamed = true) :
    (∃ statement ∈ statements, statement.isNamed = true) ∨ r.isNamed = true := by
  induction statements with
  | nil => simpa [absorb] using h
  | cons first rest ih =>
    rw [absorb] at h
    split at h
    · left
      simpa only [List.mem_cons, exists_eq_or_imp, isNamed_join] using h
    · simp only [List.mem_cons, exists_eq_or_imp] at h ⊢
      rcases h with h | h
      · exact .inl (.inl h)
      · exact (ih h).imp_left .inr

theorem exists_named_merge {requirements : List Requirement}
    (h : ∃ statement ∈ merge requirements, statement.isNamed = true) :
    ∃ r ∈ requirements, r.isNamed = true := by
  suffices hrun : ∀ statements,
      (∃ statement ∈ requirements.foldl absorb statements, statement.isNamed = true) →
        (∃ statement ∈ statements, statement.isNamed = true) ∨
          ∃ r ∈ requirements, r.isNamed = true by
    simpa using hrun [] h
  clear h
  induction requirements with
  | nil => simp
  | cons r rest ih =>
    intro statements h
    rcases ih _ h with h | ⟨other, hother, hnamed⟩
    · rcases exists_named_absorb h with h | h
      · exact .inl h
      · exact .inr ⟨r, List.mem_cons_self, h⟩
    · exact .inr ⟨other, List.mem_cons_of_mem _ hother, hnamed⟩

theorem mem_merge_of_none_named {requirements : List Requirement}
    (h : ∀ r ∈ requirements, r.isNamed = false) {statement : Requirement} :
    statement ∈ merge requirements ↔ statement ∈ requirements := by
  constructor
  · intro hmem
    cases hnamed : statement.isNamed with
    | false => exact (mem_merge_of_not_named hnamed).mp hmem
    | true =>
      obtain ⟨r, hr, hr'⟩ := exists_named_merge ⟨statement, hmem, hnamed⟩
      rw [h r hr] at hr'
      cases hr'
  · exact fun hmem => (mem_merge_of_not_named (h statement hmem)).mpr hmem

end SchemaWriter.Requirement
