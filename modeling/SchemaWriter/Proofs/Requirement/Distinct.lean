import Mathlib.Data.List.Lattice
import Mathlib.Data.List.Nodup
import Mathlib.Data.List.Pairwise
import SchemaWriter.Proofs.Requirement.Merged

namespace SchemaWriter.Requirement

def key (r : Requirement) : Requirement :=
  match r.clause with
  | .named _ => ⟨.named [], r.source⟩
  | _ => r

theorem fits_iff {statement r : Requirement} : statement.fits r = true ↔ statement.key = r.key := by
  obtain ⟨clause, source⟩ := statement
  obtain ⟨clause', source'⟩ := r
  cases clause <;> cases clause' <;> simp [fits, key]

@[simp] theorem key_join (statement r : Requirement) : (statement.join r).key = statement.key := by
  obtain ⟨clause, source⟩ := statement
  obtain ⟨clause', source'⟩ := r
  cases clause <;> cases clause' <;> rfl

@[simp] theorem key_fresh (r : Requirement) : r.fresh.key = r.key := by
  obtain ⟨clause, source⟩ := r
  cases clause <;> rfl

def bindings (r : Requirement) : List String :=
  r.clause.bindings

theorem mem_bindings_join {statement r : Requirement} (h : statement.key = r.key) {name : String} :
    name ∈ (statement.join r).bindings ↔ name ∈ statement.bindings ∨ name ∈ r.bindings := by
  obtain ⟨clause, source⟩ := statement
  obtain ⟨clause', source'⟩ := r
  cases clause <;> cases clause' <;>
    simp_all [key, join, bindings, Clause.bindings, mem_addNames]

theorem mem_bindings_fresh {r : Requirement} {name : String} :
    name ∈ r.fresh.bindings ↔ name ∈ r.bindings := by
  obtain ⟨clause, source⟩ := r
  cases clause <;> simp [fresh, bindings, Clause.bindings, mem_addNames]

theorem nodup_addName {names : List String} (h : names.Nodup) (name : String) :
    (addName names name).Nodup := by
  unfold addName
  split
  · exact h
  · rename_i hname
    rw [(List.perm_append_singleton name names).nodup_iff]
    exact List.nodup_cons.mpr ⟨hname, h⟩

theorem nodup_addNames {names : List String} (h : names.Nodup) (more : List String) :
    (addNames names more).Nodup := by
  induction more generalizing names with
  | nil => exact h
  | cons name more ih => exact ih (nodup_addName h name)

theorem nodup_bindings_join {statement : Requirement} (h : statement.bindings.Nodup)
    (r : Requirement) : (statement.join r).bindings.Nodup := by
  obtain ⟨clause, source⟩ := statement
  obtain ⟨clause', source'⟩ := r
  cases clause <;> cases clause' <;> first | exact h | exact nodup_addNames h _

theorem nodup_bindings_fresh (r : Requirement) : r.fresh.bindings.Nodup := by
  obtain ⟨clause, source⟩ := r
  cases clause with
  | named names => exact nodup_addNames List.nodup_nil names
  | whole name => exact List.nodup_singleton name
  | wildcard name => exact List.nodup_singleton name

structure Settled (statements : List Requirement) : Prop where
  keys : (statements.map key).Nodup
  bindings : ∀ statement ∈ statements, statement.bindings.Nodup

def Binds (requirements : List Requirement) (place : Requirement) (name : String) : Prop :=
  ∃ r ∈ requirements, r.key = place ∧ name ∈ r.bindings

theorem map_key_absorb (statements : List Requirement) (r : Requirement) :
    (absorb statements r).map key =
      if r.key ∈ statements.map key then statements.map key else statements.map key ++ [r.key] := by
  induction statements with
  | nil => simp [absorb]
  | cons statement rest ih =>
    rw [absorb]
    cases hfits : statement.fits r with
    | true =>
      have hkey := fits_iff.mp hfits
      simp [hkey]
    | false =>
      have hkey : r.key ≠ statement.key := by
        intro hkey
        rw [fits_iff.mpr hkey.symm] at hfits
        cases hfits
      rw [if_neg (by simp), List.map_cons, ih]
      split <;> simp_all

theorem Settled.absorb {statements : List Requirement} (h : Settled statements) (r : Requirement) :
    Settled (absorb statements r) := by
  constructor
  · rw [map_key_absorb]
    split
    · exact h.keys
    · rename_i hkey
      rw [(List.perm_append_singleton _ _).nodup_iff]
      exact List.nodup_cons.mpr ⟨hkey, h.keys⟩
  · obtain ⟨-, hbindings⟩ := h
    induction statements with
    | nil => simpa [Requirement.absorb] using nodup_bindings_fresh r
    | cons statement rest ih =>
      have hfirst := hbindings statement List.mem_cons_self
      have hrest := fun other hother => hbindings other (List.mem_cons_of_mem statement hother)
      rw [Requirement.absorb]
      split
      · exact List.forall_mem_cons.mpr ⟨nodup_bindings_join hfirst r, hrest⟩
      · exact List.forall_mem_cons.mpr ⟨hfirst, ih hrest⟩

theorem binds_absorb {statements : List Requirement} {r place : Requirement} {name : String} :
    Binds (absorb statements r) place name ↔
      Binds statements place name ∨ r.key = place ∧ name ∈ r.bindings := by
  induction statements with
  | nil => simp [absorb, Binds, mem_bindings_fresh]
  | cons statement rest ih =>
    simp only [Binds] at ih
    simp only [absorb]
    split
    · rename_i h
      have hkey := fits_iff.mp h
      simp only [Binds, List.mem_cons, exists_eq_or_imp, key_join, mem_bindings_join hkey, hkey,
        and_or_left]
      exact or_right_comm
    · simp only [Binds, List.mem_cons, exists_eq_or_imp, ih]
      exact or_assoc.symm

theorem settled_merge (requirements : List Requirement) : Settled (merge requirements) := by
  suffices h : ∀ statements, Settled statements → Settled (requirements.foldl absorb statements) from
    h [] ⟨List.nodup_nil, by simp⟩
  induction requirements with
  | nil => exact fun _ h => h
  | cons r rest ih => exact fun statements h => ih _ (h.absorb r)

theorem binds_merge {requirements : List Requirement} {place : Requirement} {name : String} :
    Binds (merge requirements) place name ↔ Binds requirements place name := by
  suffices h : ∀ statements, Binds (requirements.foldl absorb statements) place name ↔
      Binds statements place name ∨ Binds requirements place name by
    simpa [Binds, merge] using h []
  induction requirements with
  | nil => simp [Binds]
  | cons r rest ih =>
    intro statements
    rw [List.foldl_cons, ih, binds_absorb]
    simp only [Binds, List.mem_cons, exists_eq_or_imp]
    exact or_assoc

def Agree (requirements : List Requirement) : Prop :=
  ∀ name place place', Binds requirements place name → Binds requirements place' name →
    place = place'

theorem nodup_bindings_iff {statements : List Requirement} (h : Settled statements) :
    (statements.flatMap bindings).Nodup ↔ Agree statements := by
  rw [List.nodup_flatMap]
  constructor
  · rintro ⟨-, hdisjoint⟩ name _ _ ⟨s, hs, rfl, hname⟩ ⟨s', hs', rfl, hname'⟩
    by_contra hne
    have hsymm : Std.Symm (Function.onFun List.Disjoint bindings) := ⟨fun _ _ => List.Disjoint.symm⟩
    exact hdisjoint.forall hs hs' (fun heq => hne (heq ▸ rfl)) hname hname'
  · intro hagree
    refine ⟨h.bindings, (List.pairwise_map.mp h.keys).imp_of_mem fun hs hs' hne => ?_⟩
    intro name hname hname'
    exact hne (hagree name _ _ ⟨_, hs, rfl, hname⟩ ⟨_, hs', rfl, hname'⟩)

theorem nodup_bindings_merge_iff {requirements : List Requirement} :
    ((merge requirements).flatMap bindings).Nodup ↔ Agree requirements := by
  rw [nodup_bindings_iff (settled_merge requirements)]
  simp only [Agree, binds_merge]

theorem mem_bindings_merge {requirements : List Requirement} {name : String} :
    name ∈ (merge requirements).flatMap bindings ↔ ∃ place, Binds requirements place name := by
  rw [List.mem_flatMap]
  constructor
  · rintro ⟨r, hr, hname⟩
    exact ⟨r.key, binds_merge.mp ⟨r, hr, rfl, hname⟩⟩
  · rintro ⟨place, h⟩
    obtain ⟨r, hr, -, hname⟩ := binds_merge.mpr h
    exact ⟨r, hr, hname⟩

theorem binds_iff_of_named {requirements : List Requirement}
    (h : ∀ r ∈ requirements, r.isNamed = true) {place : Requirement} {name : String} :
    Binds requirements place name ↔
      ∃ source, place = ⟨.named [], source⟩ ∧ Requires requirements source name := by
  constructor
  · rintro ⟨⟨clause, source⟩, hr, rfl, hname⟩
    cases clause with
    | named names => exact ⟨source, rfl, _, hr, rfl, hname⟩
    | whole name => cases h _ hr
    | wildcard name => cases h _ hr
  · rintro ⟨_, rfl, ⟨clause, source⟩, hr, rfl, hname⟩
    cases clause with
    | named names => exact ⟨_, hr, rfl, hname⟩
    | whole name => cases h _ hr
    | wildcard name => cases h _ hr

theorem agree_iff_of_named {requirements : List Requirement}
    (h : ∀ r ∈ requirements, r.isNamed = true) :
    Agree requirements ↔ ∀ name source source', Requires requirements source name →
      Requires requirements source' name → source = source' := by
  constructor
  · intro hagree name source source' hrequires hrequires'
    have hplace := hagree name ⟨.named [], source⟩ ⟨.named [], source'⟩
      ((binds_iff_of_named h).mpr ⟨source, rfl, hrequires⟩)
      ((binds_iff_of_named h).mpr ⟨source', rfl, hrequires'⟩)
    exact congrArg Requirement.source hplace
  · intro hsources name place place' hbinds hbinds'
    obtain ⟨source, rfl, hrequires⟩ := (binds_iff_of_named h).mp hbinds
    obtain ⟨source', rfl, hrequires'⟩ := (binds_iff_of_named h).mp hbinds'
    rw [hsources name source source' hrequires hrequires']

theorem exists_map_key_merge_cons (first : Requirement) (rest : List Requirement) :
    ∃ others, (merge (first :: rest)).map key = first.key :: others := by
  suffices h : ∀ statements, ∃ others,
      (rest.foldl absorb statements).map key = statements.map key ++ others by
    obtain ⟨others, h⟩ := h [first.fresh]
    exact ⟨others, by simpa [merge, absorb] using h⟩
  induction rest with
  | nil => exact fun statements => ⟨[], (List.append_nil _).symm⟩
  | cons r rest ih =>
    intro statements
    obtain ⟨others, h⟩ := ih (absorb statements r)
    rw [List.foldl_cons, h, map_key_absorb]
    split
    · exact ⟨others, rfl⟩
    · exact ⟨r.key :: others, by rw [List.append_assoc, List.singleton_append]⟩

section Named

variable {requirements : List Requirement} (h : ∀ r ∈ requirements, r.isNamed = true)
include h

theorem isNamed_of_mem_merge {statement : Requirement} (hmem : statement ∈ merge requirements) :
    statement.isNamed = true := by
  cases hnamed : statement.isNamed with
  | true => rfl
  | false => rw [← hnamed, h statement ((mem_merge_of_not_named hnamed).mp hmem)]

theorem exists_eq_of_mem_merge {statement : Requirement} (hmem : statement ∈ merge requirements) :
    ∃ names source, statement = ⟨.named names, source⟩ := by
  have hnamed := isNamed_of_mem_merge h hmem
  obtain ⟨clause, source⟩ := statement
  cases clause with
  | named names => exact ⟨names, source, rfl⟩
  | whole | wildcard => cases hnamed

theorem nodup_sources_merge : ((merge requirements).map source).Nodup := by
  refine (List.nodup_map_iff_inj_on (List.Nodup.of_map _ (settled_merge requirements).keys)).mpr ?_
  intro statement hmem other hother hsource
  obtain ⟨names, source, rfl⟩ := exists_eq_of_mem_merge h hmem
  obtain ⟨names', source', rfl⟩ := exists_eq_of_mem_merge h hother
  obtain rfl : source = source' := hsource
  exact List.inj_on_of_nodup_map (settled_merge requirements).keys hmem hother rfl

theorem mem_names_merge {statement : Requirement} (hmem : statement ∈ merge requirements)
    {name : String} : name ∈ statement.names ↔ Requires requirements statement.source name := by
  rw [← requires_merge]
  constructor
  · exact fun hname => ⟨statement, hmem, rfl, hname⟩
  · rintro ⟨other, hother, hsource, hname⟩
    rwa [List.inj_on_of_nodup_map (nodup_sources_merge h) hmem hother hsource.symm]

end Named

end SchemaWriter.Requirement
