import SchemaWriter.Proofs.Requirement.FirstSeen

namespace SchemaWriter.Requirement

theorem addNames_nil (names : List String) : addNames names [] = names :=
  rfl

theorem addNames_append (names front back : List String) :
    addNames names (front ++ back) = addNames (addNames names front) back :=
  List.foldl_append

theorem addNames_addNames (names front back : List String) :
    addNames names (addNames front back) = addNames (addNames names front) back := by
  induction back generalizing front with
  | nil => rfl
  | cons name back ih =>
    refine (ih (addName front name)).trans (congrArg (addNames · back) ?_)
    rw [addName]
    split
    case isTrue hname =>
      exact (if_pos (mem_addNames.mpr (.inr hname))).symm
    case isFalse =>
      exact addNames_append names front [name]

theorem join_join {old statement r : Requirement} (h : old.key = statement.key)
    (hr : statement.key = r.key) : old.join (statement.join r) = (old.join statement).join r := by
  obtain ⟨clause, source⟩ := old
  obtain ⟨clause', source'⟩ := statement
  obtain ⟨clause'', source''⟩ := r
  cases clause <;> cases clause' <;> cases clause'' <;> cases h <;> cases hr <;>
    simp only [join, addNames_addNames]

theorem join_fresh {statement r : Requirement} (h : statement.key = r.key) :
    statement.join r.fresh = statement.join r := by
  obtain ⟨clause, source⟩ := statement
  obtain ⟨clause', source'⟩ := r
  cases clause <;> cases clause' <;> cases h <;>
    simp only [join, fresh, addNames_addNames, addNames_nil]

theorem fresh_join {statement r : Requirement} (h : statement.key = r.key) :
    (statement.join r).fresh = statement.fresh.join r := by
  obtain ⟨clause, source⟩ := statement
  obtain ⟨clause', source'⟩ := r
  cases clause <;> cases clause' <;> cases h <;>
    simp only [join, fresh, addNames_addNames]

theorem fresh_fresh (r : Requirement) : r.fresh.fresh = r.fresh := by
  obtain ⟨clause, source⟩ := r
  cases clause <;> simp only [fresh, addNames_addNames, addNames_nil]

variable {statements : List Requirement} {statement r : Requirement}

theorem absorb_cons_of_key (h : statement.key = r.key) (rest : List Requirement) :
    absorb (statement :: rest) r = statement.join r :: rest :=
  if_pos (fits_iff.mpr h)

theorem absorb_cons_of_ne (h : statement.key ≠ r.key) (rest : List Requirement) :
    absorb (statement :: rest) r = statement :: absorb rest r :=
  if_neg fun hfits => h (fits_iff.mp hfits)

theorem absorb_fresh (statements : List Requirement) (r : Requirement) :
    absorb statements r.fresh = absorb statements r := by
  induction statements with
  | nil => exact congrArg ([·]) (fresh_fresh r)
  | cons first rest ih =>
    by_cases h : first.key = r.key
    · rw [absorb_cons_of_key h, absorb_cons_of_key (h.trans r.key_fresh.symm), join_fresh h]
    · rw [absorb_cons_of_ne h, absorb_cons_of_ne (r.key_fresh.symm ▸ h), ih]

theorem absorb_join (h : statement.key = r.key) (statements : List Requirement) :
    absorb statements (statement.join r) = absorb (absorb statements statement) r := by
  have hkey := key_join statement r
  induction statements with
  | nil =>
    rw [absorb, absorb, absorb_cons_of_key (statement.key_fresh.trans h), fresh_join h]
  | cons first rest ih =>
    by_cases hfirst : first.key = statement.key
    · rw [absorb_cons_of_key (hfirst.trans hkey.symm), absorb_cons_of_key hfirst,
        absorb_cons_of_key ((key_join first statement).trans (hfirst.trans h)), join_join hfirst h]
    · rw [absorb_cons_of_ne (hkey.symm ▸ hfirst), absorb_cons_of_ne hfirst,
        absorb_cons_of_ne (h ▸ hfirst), ih]

theorem absorb_comm (hne : statement.key ≠ r.key) (hmem : r.key ∈ statements.map key) :
    absorb (absorb statements statement) r = absorb (absorb statements r) statement := by
  induction statements with
  | nil => cases hmem
  | cons first rest ih =>
    by_cases hr : first.key = r.key
    · have hfirst : first.key ≠ statement.key := fun heq => hne (heq.symm.trans hr)
      rw [absorb_cons_of_ne hfirst, absorb_cons_of_key hr, absorb_cons_of_key hr,
        absorb_cons_of_ne ((key_join first r).symm ▸ hfirst)]
    · have hrest := (List.mem_cons.mp hmem).resolve_left (Ne.symm hr)
      by_cases hfirst : first.key = statement.key
      · rw [absorb_cons_of_key hfirst, absorb_cons_of_ne hr, absorb_cons_of_key hfirst,
          absorb_cons_of_ne ((key_join first statement).symm ▸ hr)]
      · rw [absorb_cons_of_ne hfirst, absorb_cons_of_ne hr, absorb_cons_of_ne hr,
          absorb_cons_of_ne hfirst, ih hrest]

theorem key_mem_absorb (statements : List Requirement) (r : Requirement) :
    r.key ∈ (absorb statements r).map key := by
  rw [map_key_absorb]
  split
  case isTrue h => exact h
  case isFalse => exact List.mem_append_right _ (List.mem_singleton_self _)

theorem mem_map_key_absorb {place : Requirement} (h : place ∈ statements.map key)
    (r : Requirement) : place ∈ (absorb statements r).map key := by
  rw [map_key_absorb]
  split
  case isTrue => exact h
  case isFalse => exact List.mem_append_left _ h

theorem foldl_absorb_comm {others : List Requirement} (hne : r.key ∉ others.map key)
    (hmem : r.key ∈ statements.map key) :
    others.foldl absorb (absorb statements r) = absorb (others.foldl absorb statements) r := by
  induction others generalizing statements with
  | nil => rfl
  | cons other others ih =>
    obtain ⟨hother, hothers⟩ := not_or.mp (List.mem_cons.not.mp hne)
    rw [List.foldl_cons, List.foldl_cons, ← absorb_comm (Ne.symm hother) hmem,
      ih hothers (mem_map_key_absorb hmem other)]

theorem foldl_absorb_absorb {others : List Requirement} (hkeys : (others.map key).Nodup)
    (r : Requirement) (statements : List Requirement) :
    (absorb others r).foldl absorb statements = absorb (others.foldl absorb statements) r := by
  induction others generalizing statements with
  | nil => exact absorb_fresh statements r
  | cons other others ih =>
    obtain ⟨hother, hothers⟩ := List.nodup_cons.mp hkeys
    -- Nothing behind this statement is for its place, so what joins it may as well come last.
    by_cases h : other.key = r.key
    · rw [absorb_cons_of_key h, List.foldl_cons, List.foldl_cons, absorb_join h]
      exact foldl_absorb_comm (h ▸ hother) (h ▸ key_mem_absorb statements other)
    · rw [absorb_cons_of_ne h, List.foldl_cons, List.foldl_cons, ih hothers]

theorem foldl_absorb_merge (requirements statements : List Requirement) :
    (merge requirements).foldl absorb statements = requirements.foldl absorb statements := by
  induction requirements using List.reverseRecOn with
  | nil => rfl
  | append_singleton requirements r ih =>
    rw [merge_concat, foldl_absorb_absorb (settled_merge requirements).keys, ih,
      List.foldl_append, List.foldl_cons, List.foldl_nil]

theorem merge_merge (requirements : List Requirement) :
    merge (merge requirements) = merge requirements :=
  foldl_absorb_merge requirements []

theorem merge_merge_append (front back : List Requirement) :
    merge (merge front ++ back) = merge (front ++ back) := by
  rw [merge_append, merge_append, merge_merge]

theorem merge_append_merge (front back : List Requirement) :
    merge (front ++ merge back) = merge (front ++ back) := by
  rw [merge_append, merge_append, foldl_absorb_merge]

theorem merge_regroups (front back : List Requirement) :
    merge (front ++ back) = merge (merge front ++ merge back) ∧
      merge (merge front) = merge front ∧
      back.foldl (fun statements r => merge (statements ++ [r])) (merge front) =
        merge (front ++ back) := by
  refine ⟨?_, merge_merge front, ?_⟩
  · rw [merge_merge_append, merge_append_merge]
  · induction back generalizing front with
    | nil => rw [List.foldl_nil, List.append_nil]
    | cons r back ih => rw [List.foldl_cons, merge_merge_append, ih, List.append_assoc]; rfl

end SchemaWriter.Requirement
