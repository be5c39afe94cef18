import SchemaWriter.Proofs.Directive.Lines

namespace SchemaWriter

open Outcome
open Directive

namespace Directives

def AgreesOn (d own : Directives) : Tag → Prop
  | .custom => d.custom = own.custom
  | .default => d.default = own.default
  | .dateMode => d.dateMode = own.dateMode

theorem AgreesOn.has_eq {d own : Directives} {tag : Tag} (h : d.AgreesOn own tag) :
    d.has tag = own.has tag := by
  cases tag <;> exact congrArg Option.isSome h

theorem AgreesOn.trans {a b c : Directives} {tag : Tag} (hab : a.AgreesOn b tag)
    (hbc : b.AgreesOn c tag) : a.AgreesOn c tag := by
  cases tag <;> exact Eq.trans hab hbc

theorem AgreesOn.symm {a b : Directives} {tag : Tag} (h : a.AgreesOn b tag) : b.AgreesOn a tag := by
  cases tag <;> exact Eq.symm h

theorem eq_of_agreesOn {a b : Directives} (h : ∀ tag, a.AgreesOn b tag) : a = b := by
  obtain ⟨custom, default, dateMode⟩ := a
  obtain rfl : custom = b.custom := h .custom
  obtain rfl : default = b.default := h .default
  obtain rfl : dateMode = b.dateMode := h .dateMode
  rfl

def receive (d own : Directives) : Tag → Directives
  | .custom => { d with custom := own.custom }
  | .default => { d with default := own.default }
  | .dateMode => { d with dateMode := own.dateMode }

theorem receive_agreesOn (d own : Directives) (tag : Tag) :
    (d.receive own tag).AgreesOn own tag := by
  cases tag <;> rfl

theorem receive_agreesOn_of_ne (d own : Directives) {tag other : Tag} (h : other ≠ tag) :
    (d.receive own tag).AgreesOn d other := by
  cases tag <;> cases other <;> first | rfl | exact absurd rfl h

theorem put_eq_map (d : Directives) (payload : String) (tag : Tag) :
    d.put payload tag = (put {} payload tag).map (d.receive · tag) := by
  cases tag with
  | custom => cases h : readCustom payload <;> simp [put, h, Except.mapError, bind, Except.bind,
      pure, Except.pure, Except.map, receive]
  | default => cases h : readDefault payload <;> simp [put, h, Except.mapError, bind, Except.bind,
      pure, Except.pure, Except.map, receive]
  | dateMode => cases h : DateMode.ofName? payload <;> simp [put, h, Except.map, receive]

theorem has_empty (tag : Tag) : has {} tag = false := by
  cases tag <;> rfl

theorem has_of_put {d own : Directives} {payload : String} {tag : Tag}
    (h : d.put payload tag = .ok own) : own.has tag = true := by
  obtain ⟨rfl, _, -, rfl⟩ | ⟨rfl, _, -, rfl⟩ | ⟨rfl, _, -, rfl⟩ := put_eq_ok h <;> rfl

variable {d d' : Directives} {tag : Tag} {payload : String} {fault : Fault}
  {listed : List (Tag × String)}

theorem add_eq_of_nonempty (hpayload : payload ≠ "") (hnew : d.has tag = false) :
    d.add tag payload = (add {} tag payload).map (d.receive · tag) := by
  simp only [add, String.isEmpty_iff, hpayload, if_false, hnew, has_empty, Bool.false_eq_true]
  exact put_eq_map d payload tag

theorem add_eq_ok_iff : d.add tag payload = .ok d' ↔
    d.has tag = false ∧ ∃ own, add {} tag payload = .ok own ∧ d' = d.receive own tag := by
  constructor
  · intro h
    obtain ⟨hpayload, hnew, -⟩ := add_eq_ok h
    have hpayload : payload ≠ "" := by simpa [String.isEmpty_iff] using hpayload
    rw [add_eq_of_nonempty hpayload hnew] at h
    obtain ⟨own, hown, rfl⟩ := map_eq_ok.mp h
    exact ⟨hnew, own, hown, rfl⟩
  · rintro ⟨hnew, own, hown, rfl⟩
    have hpayload : payload ≠ "" := by simpa [String.isEmpty_iff] using (add_eq_ok hown).1
    rw [add_eq_of_nonempty hpayload hnew, hown]
    rfl

theorem add_eq_error_iff : d.add tag payload = .error fault ↔
    (payload = "" ∧ fault = .missingPayload tag) ∨
    (payload ≠ "" ∧ d.has tag = true ∧ fault = .duplicate tag) ∨
    (payload ≠ "" ∧ d.has tag = false ∧ add {} tag payload = .error fault) := by
  by_cases hpayload : payload = ""
  · subst hpayload
    have hmissing : d.add tag "" = .error (.missingPayload tag) := by simp [add]
    simp [hmissing, @eq_comm _ _ fault]
  · cases hnew : d.has tag with
    | true =>
      have hrepeated : d.add tag payload = .error (.duplicate tag) := by
        simp [add, String.isEmpty_iff, hpayload, hnew]
      simp [hrepeated, hpayload, @eq_comm _ _ fault]
    | false =>
      rw [add_eq_of_nonempty hpayload hnew]
      cases add {} tag payload <;> simp [Except.map, hpayload]

theorem has_of_add (h : d.add tag payload = .ok d') : d'.has tag = true :=
  has_of_put (add_eq_ok h).2.2

theorem addAll_eq_ok_iff : d.addAll listed = .ok d' ↔
    (∀ entry ∈ listed, d.has entry.1 = false ∧
      ∃ own, add {} entry.1 entry.2 = .ok own ∧ d'.AgreesOn own entry.1) ∧
    (listed.map (·.1)).Nodup ∧ ∀ tag ∉ listed.map (·.1), d'.AgreesOn d tag := by
  -- The directives read so far grow along the list; they have the tags that are past.
  induction listed generalizing d with
  | nil =>
    simp only [addAll, Except.ok.injEq, List.not_mem_nil, false_imp_iff, implies_true, List.map_nil,
      List.nodup_nil, not_false_eq_true, true_imp_iff, true_and]
    exact ⟨by rintro rfl tag; cases tag <;> rfl, fun h => (eq_of_agreesOn h).symm⟩
  | cons entry rest ih =>
    obtain ⟨tag, payload⟩ := entry
    simp only [addAll, bind_eq_ok, List.forall_mem_cons, List.map_cons, List.nodup_cons]
    constructor
    · rintro ⟨_, hadd, hrest⟩
      obtain ⟨hnew, own, hown, rfl⟩ := add_eq_ok_iff.mp hadd
      obtain ⟨heach, hnodup, hothers⟩ := ih.mp hrest
      have hadded : (d.receive own tag).has tag = true :=
        (receive_agreesOn d own tag).has_eq.trans (has_of_add hown)
      have hne : ∀ entry ∈ rest, entry.1 ≠ tag := by
        rintro entry hentry rfl
        simp [(heach entry hentry).1] at hadded
      have htag : tag ∉ rest.map (·.1) := by
        intro hmem
        obtain ⟨entry, hentry, rfl⟩ := List.mem_map.mp hmem
        exact hne entry hentry rfl
      refine ⟨⟨⟨hnew, own, hown, ?_⟩, fun entry hentry => ?_⟩, ⟨htag, hnodup⟩,
        fun other hother => ?_⟩
      · exact (hothers tag htag).trans (receive_agreesOn d own tag)
      · obtain ⟨hfree, hown⟩ := heach entry hentry
        rw [(receive_agreesOn_of_ne d own (hne entry hentry)).has_eq] at hfree
        exact ⟨hfree, hown⟩
      · rw [List.mem_cons, not_or] at hother
        exact (hothers other hother.2).trans (receive_agreesOn_of_ne d own hother.1)
    · rintro ⟨⟨⟨hnew, own, hown, hagrees⟩, heach⟩, ⟨htag, hnodup⟩, hothers⟩
      refine ⟨_, add_eq_ok_iff.mpr ⟨hnew, own, hown, rfl⟩,
        ih.mpr ⟨fun entry hentry => ?_, hnodup, fun other hother => ?_⟩⟩
      · have hne : entry.1 ≠ tag := fun heq => htag (heq ▸ List.mem_map_of_mem hentry)
        rw [(receive_agreesOn_of_ne d own hne).has_eq]
        exact heach entry hentry
      · by_cases heq : other = tag
        · subst heq
          exact hagrees.trans (receive_agreesOn d own other).symm
        · have hboth : other ∉ tag :: rest.map (·.1) := by simp [heq, hother]
          exact (hothers other hboth).trans (receive_agreesOn_of_ne d own heq).symm

theorem addAll_cons_of_ok {next : Directives} {rest : List (Tag × String)}
    (h : d.add tag payload = .ok next) : d.addAll ((tag, payload) :: rest) = next.addAll rest := by
  simp [addAll, h, bind, Except.bind]

theorem addAll_cons_of_error {rest : List (Tag × String)} (h : d.add tag payload = .error fault) :
    d.addAll ((tag, payload) :: rest) = .error fault := by
  simp [addAll, h, bind, Except.bind]

theorem addAll_append {before : List (Tag × String)} (h : d.addAll before = .ok d')
    (after : List (Tag × String)) : d.addAll (before ++ after) = d'.addAll after := by
  induction before generalizing d with
  | nil =>
    obtain rfl := Except.ok.inj h
    rfl
  | cons entry before ih =>
    obtain ⟨next, hadd, hbefore⟩ := bind_eq_ok.mp h
    rw [List.cons_append, addAll_cons_of_ok hadd, ih hbefore]

theorem addAll_eq_error_iff : d.addAll listed = .error fault ↔
    ∃ before tag payload after mid, listed = before ++ (tag, payload) :: after ∧
      d.addAll before = .ok mid ∧ mid.add tag payload = .error fault := by
  constructor
  · intro h
    induction listed generalizing d with
    | nil => cases h
    | cons entry rest ih =>
      obtain ⟨tag, payload⟩ := entry
      cases hadd : d.add tag payload with
      | error first =>
        obtain rfl := Except.error.inj ((addAll_cons_of_error hadd).symm.trans h)
        exact ⟨[], tag, payload, rest, d, rfl, rfl, hadd⟩
      | ok next =>
        rw [addAll_cons_of_ok hadd] at h
        obtain ⟨before, tag', payload', after, mid, rfl, hbefore, hfault⟩ := ih h
        exact ⟨(tag, payload) :: before, tag', payload', after, mid, rfl,
          (addAll_cons_of_ok hadd).trans hbefore, hfault⟩
  · rintro ⟨before, tag, payload, after, mid, rfl, hbefore, hfault⟩
    rw [addAll_append hbefore, addAll_cons_of_error hfault]

theorem has_addAll_iff (h : addAll {} listed = .ok d) :
    d.has tag = true ↔ tag ∈ listed.map (·.1) := by
  obtain ⟨heach, -, hothers⟩ := addAll_eq_ok_iff.mp h
  constructor
  · intro hhas
    by_contra hmem
    rw [(hothers tag hmem).has_eq, has_empty] at hhas
    cases hhas
  · intro hmem
    obtain ⟨entry, hentry, rfl⟩ := List.mem_map.mp hmem
    obtain ⟨-, own, hown, hagrees⟩ := heach entry hentry
    rw [hagrees.has_eq, has_of_add hown]

theorem exists_addAll_iff : (∃ d, addAll {} listed = .ok d) ↔
    (∀ entry ∈ listed, ∃ own, add {} entry.1 entry.2 = .ok own) ∧ (listed.map (·.1)).Nodup := by
  constructor
  · rintro ⟨d, h⟩
    obtain ⟨heach, hnodup, -⟩ := addAll_eq_ok_iff.mp h
    exact ⟨fun entry hentry => (heach entry hentry).2.imp fun _ hown => hown.1, hnodup⟩
  · rintro ⟨heach, hnodup⟩
    cases h : addAll {} listed with
    | ok d => exact ⟨d, rfl⟩
    | error fault =>
      obtain ⟨before, tag, payload, after, mid, rfl, hbefore, hfault⟩ := addAll_eq_error_iff.mp h
      obtain ⟨own, hown⟩ := heach (tag, payload) (by simp)
      have hpayload : payload ≠ "" := by simpa [String.isEmpty_iff] using (add_eq_ok hown).1
      obtain ⟨hempty, -⟩ | ⟨-, hhas, -⟩ | ⟨-, -, halone⟩ := add_eq_error_iff.mp hfault
      · exact absurd hempty hpayload
      · rw [List.map_append, List.nodup_append] at hnodup
        exact absurd rfl (hnodup.2.2 tag ((has_addAll_iff hbefore).mp hhas) tag (by simp))
      · rw [hown] at halone
        cases halone

theorem addAll_eq_of_perm {others : List (Tag × String)} (hperm : others.Perm listed)
    (h : addAll {} listed = .ok d) : addAll {} others = .ok d := by
  obtain ⟨heach, hnodup, hothers⟩ := addAll_eq_ok_iff.mp h
  refine addAll_eq_ok_iff.mpr ⟨fun entry hentry => heach entry (hperm.mem_iff.mp hentry),
    (hperm.map _).nodup_iff.mpr hnodup, fun tag htag => hothers tag fun hmem => htag ?_⟩
  exact (hperm.map _).mem_iff.mpr hmem

structure Acceptable (lines : List String) : Prop where
  alone : ∀ line ∈ lines, Recognized line → ∃ own, parse line = .ok own
  distinct : lines.Pairwise fun line other => ∀ tag, Bears line tag → ¬ Bears other tag

/-- What is wrong with a line after others. A payload that is missing says more than a tag that is
repeated, and a repeated tag more than a payload that cannot be read. -/
inductive Refuses (before : List String) (line : String) : Fault → Prop where
  | missing {tag : Tag} (hcarries : Carries line tag "") :
      Refuses before line (.missingPayload tag)
  | repeated {tag : Tag} {payload : String} (hcarries : Carries line tag payload)
      (hpayload : payload ≠ "") (hbefore : ∃ other ∈ before, Bears other tag) :
      Refuses before line (.duplicate tag)
  | own {tag : Tag} {payload : String} {fault : Fault} (hcarries : Carries line tag payload)
      (hpayload : payload ≠ "") (hbefore : ∀ other ∈ before, ¬ Bears other tag)
      (halone : parse line = .error fault) : Refuses before line fault

section

variable {lines : List String} (hone : ∀ line ∈ lines, '\n' ∉ line.toList)
include hone

theorem alone_iff : (∀ entry ∈ entries lines, ∃ own, add {} entry.1 entry.2 = .ok own) ↔
    ∀ line ∈ lines, Recognized line → ∃ own, parse line = .ok own := by
  constructor
  · rintro h line hline ⟨tag, payload, hcarries⟩
    rw [hcarries.parse_eq (hone line hline)]
    exact h (tag, payload) (mem_entries.mpr ⟨line, hline, hcarries⟩)
  · rintro h ⟨tag, payload⟩ hentry
    obtain ⟨line, hline, hcarries⟩ := mem_entries.mp hentry
    rw [← hcarries.parse_eq (hone line hline)]
    exact h line hline ⟨tag, payload, hcarries⟩

omit hone in
theorem nodup_tags_iff : ((entries lines).map (·.1)).Nodup ↔
    lines.Pairwise fun line other => ∀ tag, Bears line tag → ¬ Bears other tag := by
  rw [List.nodup_iff_pairwise_ne, List.pairwise_map, entries, List.pairwise_filterMap]
  simp only [Prod.forall, recognize_eq_some_iff]
  refine List.Pairwise.iff fun line other => ⟨?_, ?_⟩
  · rintro h tag ⟨payload, hcarries⟩ ⟨payload', hcarries'⟩
    exact h tag payload hcarries tag payload' hcarries' rfl
  · rintro h tag payload hcarries other payload' hcarries' rfl
    exact h tag ⟨payload, hcarries⟩ ⟨payload', hcarries'⟩

theorem exists_addAll_lines_iff :
    (∃ d, addAll {} (entries lines) = .ok d) ↔ Acceptable lines := by
  rw [exists_addAll_iff, alone_iff hone, nodup_tags_iff]
  exact ⟨fun ⟨halone, hdistinct⟩ => ⟨halone, hdistinct⟩, fun h => ⟨h.alone, h.distinct⟩⟩

omit hone in
theorem add_eq_error_iff_refuses {before : List String} {line : String} {d : Directives}
    (hread : addAll {} (entries before) = .ok d) (hcarries : Carries line tag payload)
    (hline : '\n' ∉ line.toList) :
    d.add tag payload = .error fault ↔ Refuses before line fault := by
  have hhas : d.has tag = true ↔ ∃ other ∈ before, Bears other tag :=
    (has_addAll_iff hread).trans mem_tags
  have hfree : d.has tag = false ↔ ∀ other ∈ before, ¬ Bears other tag := by
    rw [← Bool.not_eq_true, hhas]
    simp only [not_exists, not_and]
  rw [add_eq_error_iff, hhas, hfree, ← hcarries.parse_eq hline]
  constructor
  · rintro (⟨rfl, rfl⟩ | ⟨hpayload, hbefore, rfl⟩ | ⟨hpayload, hbefore, halone⟩)
    · exact .missing hcarries
    · exact .repeated hcarries hpayload hbefore
    · exact .own hcarries hpayload hbefore halone
  · intro hrefuses
    cases hrefuses with
    | missing hmissing =>
      obtain ⟨rfl, rfl⟩ := hcarries.unique hmissing
      exact .inl ⟨rfl, rfl⟩
    | repeated hrepeated hpayload hbefore =>
      obtain ⟨rfl, rfl⟩ := hcarries.unique hrepeated
      exact .inr (.inl ⟨hpayload, hbefore, rfl⟩)
    | own hown hpayload hbefore halone =>
      obtain ⟨rfl, rfl⟩ := hcarries.unique hown
      exact .inr (.inr ⟨hpayload, hbefore, halone⟩)

omit hone in
theorem Refuses.carries {before : List String} {line : String} (h : Refuses before line fault) :
    ∃ tag payload, Carries line tag payload := by
  cases h with
  | missing hcarries => exact ⟨_, _, hcarries⟩
  | repeated hcarries => exact ⟨_, _, hcarries⟩
  | own hcarries => exact ⟨_, _, hcarries⟩

theorem addAll_lines_eq_error_iff : addAll {} (entries lines) = .error fault ↔
    ∃ before line after, lines = before ++ line :: after ∧ Acceptable before ∧
      Refuses before line fault := by
  rw [addAll_eq_error_iff]
  constructor
  · rintro ⟨earlier, tag, payload, later, d, hsplit, hread, hfault⟩
    obtain ⟨before, rest, rfl, rfl, hrest⟩ := List.filterMap_eq_append_iff.mp hsplit
    -- Lines that carry nothing may stand between those read and the one that is refused.
    obtain ⟨plain, line, after, rfl, hplain, hline, -⟩ := List.filterMap_eq_cons_iff.mp hrest
    have hcarries := recognize_eq_some_iff.mp hline
    have hentries : entries (before ++ plain) = entries before := by
      rw [entries, List.filterMap_append, List.filterMap_eq_nil_iff.mpr hplain,
        List.append_nil, entries]
    have hread : addAll {} (entries (before ++ plain)) = .ok d := by
      rw [hentries]
      exact hread
    refine ⟨before ++ plain, line, after, by simp, ?_, ?_⟩
    · refine (exists_addAll_lines_iff fun other hother => hone other ?_).mp ⟨d, hread⟩
      obtain hother | hother := List.mem_append.mp hother <;> simp [hother]
    · exact (add_eq_error_iff_refuses hread hcarries (hone line (by simp))).mp hfault
  · rintro ⟨before, line, after, rfl, hbefore, hrefuses⟩
    obtain ⟨tag, payload, hcarries⟩ := hrefuses.carries
    obtain ⟨d, hread⟩ := (exists_addAll_lines_iff fun other hother =>
      hone other (List.mem_append_left _ hother)).mpr hbefore
    refine ⟨entries before, tag, payload, entries after, d, ?_, hread, ?_⟩
    · simp [entries, recognize_eq_some_iff.mpr hcarries]
    · exact (add_eq_error_iff_refuses hread hcarries (hone line (by simp))).mpr hrefuses

end

theorem entries_filter_recognized (lines : List String) :
    entries (lines.filter Recognized) = entries lines := by
  rw [entries, List.filterMap_filter, entries]
  refine List.filterMap_congr fun line _ => ?_
  split
  · rfl
  · rename_i hplain
    rw [decide_eq_true_eq, ← isSome_recognize_iff, Bool.not_eq_true, Option.isSome_eq_false_iff,
      Option.isNone_iff_eq_none] at hplain
    exact hplain.symm

structure LineLocal (documentation : String) : Prop where
  accepted : (∃ d, parse documentation = .ok d) ↔ Acceptable (lines documentation)
  supplied : ∀ d, parse documentation = .ok d → ∀ line ∈ lines documentation, ∀ tag,
    Bears line tag → ∃ own, parse line = .ok own ∧ d.AgreesOn own tag
  absent : ∀ d, parse documentation = .ok d → ∀ tag,
    (∀ line ∈ lines documentation, ¬ Bears line tag) → d.has tag = false
  refused : ∀ fault, parse documentation = .error fault ↔
    ∃ before line after, lines documentation = before ++ line :: after ∧ Acceptable before ∧
      Refuses before line fault
  rearranged : ∀ other,
    (lines other).filter Recognized = (lines documentation).filter Recognized →
    parse other = parse documentation
  permuted : ∀ other d, parse documentation = .ok d →
    ((lines other).filter Recognized).Perm ((lines documentation).filter Recognized) →
    parse other = .ok d

theorem parse_lineLocal (documentation : String) : LineLocal documentation where
  accepted := by
    rw [parse_eq_addAll]
    exact exists_addAll_lines_iff fun _ => not_mem_of_mem_lines
  supplied := by
    rintro d hread line hline tag ⟨payload, hcarries⟩
    rw [parse_eq_addAll] at hread
    obtain ⟨heach, -⟩ := addAll_eq_ok_iff.mp hread
    rw [hcarries.parse_eq (not_mem_of_mem_lines hline)]
    exact (heach (tag, payload) (mem_entries.mpr ⟨line, hline, hcarries⟩)).2
  absent := by
    intro d hread tag hnone
    rw [parse_eq_addAll] at hread
    rw [← Bool.not_eq_true, has_addAll_iff hread, mem_tags]
    rintro ⟨line, hline, hbears⟩
    exact hnone line hline hbears
  refused := by
    intro fault
    rw [parse_eq_addAll]
    exact addAll_lines_eq_error_iff fun _ => not_mem_of_mem_lines
  rearranged := by
    intro other hsame
    rw [parse_eq_addAll, parse_eq_addAll, ← entries_filter_recognized, hsame,
      entries_filter_recognized]
  permuted := by
    intro other d hread hperm
    rw [parse_eq_addAll, ← entries_filter_recognized] at hread ⊢
    exact addAll_eq_of_perm (hperm.filterMap _) hread

example : parse "drizzle.dateMode date\nPlain.\n drizzle.dateMode " =
    .error (.missingPayload .dateMode) := by
  decide

end Directives

end SchemaWriter
