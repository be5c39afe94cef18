import Mathlib.Data.List.Induction
import SchemaWriter.Proofs.Requirement.Distinct

namespace SchemaWriter

/-- The values of a list in the order in which they first appear in it. The order is strict, so that
each of them is kept once. -/
structure FirstSeen {α : Type} [DecidableEq α] (kept all : List α) : Prop where
  mem_iff : ∀ x, x ∈ kept ↔ x ∈ all
  ordered : kept.Pairwise fun x y => all.idxOf x < all.idxOf y

namespace FirstSeen

variable {α : Type} [DecidableEq α] {kept all : List α}

theorem nil : FirstSeen ([] : List α) [] :=
  ⟨fun _ => Iff.rfl, .nil⟩

theorem ordered_append (h : FirstSeen kept all) (more : List α) :
    kept.Pairwise fun x y => (all ++ more).idxOf x < (all ++ more).idxOf y := by
  refine h.ordered.imp_of_mem fun {x y} hx hy hlt => ?_
  rwa [List.idxOf_append_of_mem ((h.mem_iff x).mp hx),
    List.idxOf_append_of_mem ((h.mem_iff y).mp hy)]

theorem concat (h : FirstSeen kept all) (x : α) :
    FirstSeen (if x ∈ kept then kept else kept ++ [x]) (all ++ [x]) := by
  by_cases hx : x ∈ kept
  · rw [if_pos hx]
    refine ⟨fun y => ?_, h.ordered_append [x]⟩
    rw [List.mem_append, List.mem_singleton, ← h.mem_iff y]
    exact ⟨.inl, fun hy => hy.elim id fun heq => heq ▸ hx⟩
  · rw [if_neg hx]
    refine ⟨fun y => by rw [List.mem_append, List.mem_append, h.mem_iff], ?_⟩
    refine List.pairwise_append.mpr ⟨h.ordered_append [x], List.pairwise_singleton _ _, ?_⟩
    intro y hy z hz
    obtain rfl := List.mem_singleton.mp hz
    have hnew : z ∉ all := fun hz => hx ((h.mem_iff z).mpr hz)
    have hseen := (h.mem_iff y).mp hy
    have hplace := List.idxOf_lt_length_of_mem hseen
    rw [List.idxOf_append_of_mem hseen, List.idxOf_append_of_notMem hnew]
    omega

end FirstSeen

namespace Requirement

theorem firstSeen_addNames {names all : List String} (h : FirstSeen names all)
    (more : List String) : FirstSeen (addNames names more) (all ++ more) := by
  induction more generalizing names all with
  | nil => rwa [List.append_nil]
  | cons name more ih =>
    rw [List.append_cons]
    exact ih (h.concat name)

theorem merge_concat (requirements : List Requirement) (r : Requirement) :
    merge (requirements ++ [r]) = absorb (merge requirements) r := by
  rw [merge_append, List.foldl_cons, List.foldl_nil]

theorem firstSeen_keys (requirements : List Requirement) :
    FirstSeen ((merge requirements).map key) (requirements.map key) := by
  induction requirements using List.reverseRecOn with
  | nil => exact .nil
  | append_singleton requirements r ih =>
    rw [merge_concat, map_key_absorb, List.map_append, List.map_singleton]
    exact ih.concat r.key

theorem mem_absorb {statements : List Requirement} (hkeys : (statements.map key).Nodup)
    {r statement : Requirement} (hmem : statement ∈ absorb statements r) :
    (statement ∈ statements ∧ statement.key ≠ r.key) ∨
    (∃ old ∈ statements, old.key = r.key ∧ statement = old.join r) ∨
    (r.key ∉ statements.map key ∧ statement = r.fresh) := by
  induction statements with
  | nil => exact .inr (.inr ⟨List.not_mem_nil, List.mem_singleton.mp hmem⟩)
  | cons first rest ih =>
    obtain ⟨hfirst, hrest⟩ := List.nodup_cons.mp hkeys
    rw [absorb] at hmem
    split at hmem
    case isTrue hfits =>
      have hkey := fits_iff.mp hfits
      rcases List.mem_cons.mp hmem with rfl | hmem
      · exact .inr (.inl ⟨first, List.mem_cons_self, hkey, rfl⟩)
      · refine .inl ⟨List.mem_cons_of_mem _ hmem, fun heq => hfirst ?_⟩
        rw [hkey, ← heq]
        exact List.mem_map_of_mem hmem
    case isFalse hfits =>
      have hkey : first.key ≠ r.key := fun heq => hfits (fits_iff.mpr heq)
      rcases List.mem_cons.mp hmem with rfl | hmem
      · exact .inl ⟨List.mem_cons_self, hkey⟩
      rcases ih hrest hmem with ⟨hmem, hne⟩ | ⟨old, hold, hjoin⟩ | ⟨hnew, hfresh⟩
      · exact .inl ⟨List.mem_cons_of_mem _ hmem, hne⟩
      · exact .inr (.inl ⟨old, List.mem_cons_of_mem _ hold, hjoin⟩)
      · refine .inr (.inr ⟨?_, hfresh⟩)
        rw [List.map_cons, List.mem_cons, not_or]
        exact ⟨hkey.symm, hnew⟩

def namesFrom (source : Specifier) (r : Requirement) : List String :=
  if r.source = source then r.names else []

theorem namesFrom_eq_nil {source : Specifier} {r : Requirement}
    (h : r.key ≠ ⟨.named [], source⟩) : r.namesFrom source = [] := by
  obtain ⟨clause, source'⟩ := r
  cases clause with
  | named names =>
    have hsource : source' ≠ source := fun heq => h (by rw [heq]; rfl)
    exact if_neg hsource
  | whole | wildcard => exact ite_self _

theorem firstSeen_names (requirements : List Requirement) {names : List String} {source : Specifier}
    (hmem : ⟨.named names, source⟩ ∈ merge requirements) :
    FirstSeen names (requirements.flatMap (namesFrom source)) := by
  induction requirements using List.reverseRecOn generalizing names with
  | nil => cases hmem
  | append_singleton requirements r ih =>
    rw [merge_concat] at hmem
    rw [List.flatMap_append, List.flatMap_singleton]
    rcases mem_absorb (settled_merge requirements).keys hmem with
      ⟨hold, hkey⟩ | ⟨⟨clause, source'⟩, hold, hkey, hjoin⟩ | ⟨hnew, hfresh⟩
    · rw [namesFrom_eq_nil fun heq => hkey heq.symm, List.append_nil]
      exact ih hold
    · obtain ⟨clause', source''⟩ := r
      cases clause <;> cases clause' <;> cases hkey <;> cases hjoin
      rw [namesFrom, if_pos rfl]
      exact firstSeen_addNames (ih hold) _
    · obtain ⟨clause, source'⟩ := r
      cases clause <;> cases hfresh
      have hnone : requirements.flatMap (namesFrom source') = [] := by
        refine List.flatMap_eq_nil_iff.mpr fun r hr => namesFrom_eq_nil fun hkey => hnew ?_
        rw [(firstSeen_keys requirements).mem_iff]
        exact List.mem_map.mpr ⟨r, hr, hkey⟩
      rw [hnone, namesFrom, if_pos rfl]
      exact firstSeen_addNames .nil _

def isNamedFrom (source : Specifier) (statement : Requirement) : Bool :=
  statement.isNamed && decide (statement.source = source)

theorem isNamedFrom_iff {source : Specifier} {statement : Requirement} :
    statement.isNamedFrom source = true ↔ statement.key = ⟨.named [], source⟩ := by
  obtain ⟨clause, source'⟩ := statement
  cases clause <;> simp [isNamedFrom, isNamed, key]

/-- The statements that requirements come to. Sources are told apart by their kind and their text:
a package is not the generated module of the same name. -/
structure MergedFrom (requirements statements : List Requirement) : Prop where
  named : ∀ source, (∃ r ∈ requirements, r.isNamedFrom source = true) →
    ∃ names, statements.filter (isNamedFrom source) = [⟨.named names, source⟩] ∧
      FirstSeen names (requirements.flatMap (namesFrom source))
  other : ∀ r ∈ requirements, r.isNamed = false → statements.count r = 1
  required : ∀ statement ∈ statements, ∃ r ∈ requirements, r.key = statement.key
  ordered : FirstSeen (statements.map key) (requirements.map key)

theorem nodup_merge (requirements : List Requirement) : (merge requirements).Nodup :=
  List.Nodup.of_map key (settled_merge requirements).keys

theorem filter_isNamedFrom {requirements : List Requirement} {names : List String}
    {source : Specifier} (hmem : ⟨.named names, source⟩ ∈ merge requirements) :
    (merge requirements).filter (isNamedFrom source) = [⟨.named names, source⟩] := by
  have hkeys := (settled_merge requirements).keys
  refine List.perm_singleton.mp ?_
  refine (List.perm_ext_iff_of_nodup ((nodup_merge requirements).filter _)
    (List.nodup_singleton _)).mpr fun statement => ?_
  rw [List.mem_filter, isNamedFrom_iff, List.mem_singleton]
  constructor
  · rintro ⟨hstatement, hkey⟩
    exact List.inj_on_of_nodup_map hkeys hstatement hmem hkey
  · rintro rfl
    exact ⟨hmem, rfl⟩

theorem merge_mergedFrom (requirements : List Requirement) :
    MergedFrom requirements (merge requirements) := by
  have hordered := firstSeen_keys requirements
  refine ⟨?_, ?_, ?_, hordered⟩
  · rintro source ⟨r, hr, hnamed⟩
    have hplace : (⟨.named [], source⟩ : Requirement) ∈ (merge requirements).map key := by
      rw [hordered.mem_iff, ← isNamedFrom_iff.mp hnamed]
      exact List.mem_map_of_mem hr
    obtain ⟨⟨clause, source'⟩, hmem, hkey⟩ := List.mem_map.mp hplace
    cases clause <;> cases hkey
    exact ⟨_, filter_isNamedFrom hmem, firstSeen_names requirements hmem⟩
  · intro r hr hnamed
    exact List.count_eq_one_of_mem (nodup_merge requirements)
      ((mem_merge_of_not_named hnamed).mpr hr)
  · intro statement hstatement
    exact List.mem_map.mp ((hordered.mem_iff _).mp (List.mem_map_of_mem hstatement))

example : merge [.named ["a", "b"] "x", ⟨.wildcard "x", .sibling "x"⟩, .sibling "c" "x",
    .named ["d", "a"] "x", ⟨.wildcard "x", .sibling "x"⟩] =
    [.named ["a", "b", "d"] "x", ⟨.wildcard "x", .sibling "x"⟩, .sibling "c" "x"] := by
  decide

end Requirement

end SchemaWriter
