import SchemaWriter.Proofs.Json.Depth
import SchemaWriter.Proofs.Lists
import SchemaWriter.Proofs.Outcome

namespace SchemaWriter.Json

namespace Draft

-- Nothing is read from the draft, whatever the limit.
def IsCut (d : Draft) : Prop :=
  ∀ depth, d.json? depth = none

theorem jsonItems?_eq_none {items : List Draft} {item : Draft} (hitem : item ∈ items)
    {depth : Nat} (h : item.json? depth = none) : jsonItems? depth items = none := by
  induction items with
  | nil => cases hitem
  | cons first items ih =>
    rw [jsonItems?]
    rcases List.mem_cons.mp hitem with rfl | hitem
    · rw [h]
    · rw [ih hitem]
      cases first.json? depth <;> rfl

theorem jsonMembers?_eq_none {members : List (Draft × Draft)} {member : Draft × Draft}
    (hmember : member ∈ members) {depth : Nat} (h : member.2.json? depth = none) :
    jsonMembers? depth members = none := by
  induction members with
  | nil => cases hmember
  | cons first members ih =>
    unfold jsonMembers?
    split
    · contradiction
    · rename_i heq
      obtain ⟨rfl, rfl⟩ := List.cons.inj heq
      rcases List.mem_cons.mp hmember with rfl | hmember
      · simp only [h]
      · rw [ih hmember]
        split
        · contradiction
        · rfl
    · rfl

theorem IsCut.array {items : List Draft} {item : Draft} (h : item.IsCut) (hitem : item ∈ items) :
    IsCut (.array items) := by
  intro depth
  cases depth with
  | zero => rw [json?]
  | succ depth => rw [json?, jsonItems?_eq_none hitem (h depth), Option.map_none]

theorem IsCut.object {members : List (Draft × Draft)} {member : Draft × Draft}
    (h : member.2.IsCut) (hmember : member ∈ members) : IsCut (.object members) := by
  intro depth
  cases depth with
  | zero => rw [json?]
  | succ depth => rw [json?, jsonMembers?_eq_none hmember (h depth), Option.map_none]

theorem isCut_cut : IsCut .cut :=
  fun depth => by cases depth <;> rw [json?]

theorem IsCut.close {child : Draft} (h : child.IsCut) (opened : Opened) :
    (opened.close child).IsCut := by
  cases opened with
  | array items => exact h.array (by simp)
  | object members =>
    have hmember : (child, Draft.cut) ∈ ((child, Draft.cut) :: members).reverse := by simp
    exact IsCut.object isCut_cut hmember
  | member members key =>
    have hmember : (key, child) ∈ ((key, child) :: members).reverse := by simp
    exact IsCut.object h hmember

theorem IsCut.foldl_close {child : Draft} (h : child.IsCut) (stack : List Opened) :
    (stack.foldl Opened.close child).IsCut := by
  induction stack generalizing child with
  | nil => exact h
  | cons opened stack ih => exact ih (h.close opened)

def ended (spellings : List (List Token)) : List Token :=
  spellings.flatMap (· ++ [.comma])

-- What was read of the values that have been begun, the innermost of which is first.
def written : List Opened → List Token
  | [] => []
  | .array items :: stack => written stack ++ .openBracket :: ended (items.reverse.map spelling)
  | .object members :: stack =>
    written stack ++ .openBrace :: ended (memberSpellings members.reverse)
  | .member members key :: stack =>
    written stack ++ .openBrace :: ended (memberSpellings members.reverse) ++
      key.spelling ++ [.colon]

structure AreMembers (members : List (Draft × Draft)) : Prop where
  keys : ∀ member ∈ members, ∃ key, member.1 = .string key
  values : ∀ member ∈ members, member.2.IsValue

inductive Waits : List Opened → Prop where
  | nil : Waits []
  | array {items : List Draft} {stack : List Opened} (hitems : ∀ item ∈ items, item.IsValue)
      (h : Waits stack) : Waits (.array items :: stack)
  | member {members : List (Draft × Draft)} {stack : List Opened} (hmembers : AreMembers members)
      (key : Option String) (h : Waits stack) : Waits (.member members (.string key) :: stack)

-- Until something is wrong, the tokens that were read spell the stack and the value at hand; what
-- was cut for a fault stays cut.
inductive Traces : List Token → Reading → Prop where
  | value {stack : List Opened} (h : Waits stack) : Traces (written stack) (.open .value stack)
  | itemOrEnd {stack : List Opened} (h : Waits stack) :
      Traces (written (.array [] :: stack)) (.open .itemOrEnd (.array [] :: stack))
  | keyOrEnd {stack : List Opened} (h : Waits stack) :
      Traces (written (.object [] :: stack)) (.open .keyOrEnd (.object [] :: stack))
  | key {members : List (Draft × Draft)} {stack : List Opened} (hmembers : AreMembers members)
      (h : Waits stack) :
      Traces (written (.object members :: stack)) (.open .key (.object members :: stack))
  | colon {members : List (Draft × Draft)} {stack : List Opened} (hmembers : AreMembers members)
      (key : Option String) (h : Waits stack) :
      Traces (written (.object members :: stack) ++ [.string key])
        (.open .colon (.member members (.string key) :: stack))
  | item {items : List Draft} {item : Draft} {stack : List Opened}
      (hitems : ∀ item ∈ items, item.IsValue) (hitem : item.IsValue) (h : Waits stack) :
      Traces (written (.array items :: stack) ++ item.spelling)
        (.open .separator (.array (item :: items) :: stack))
  | member {members : List (Draft × Draft)} {value : Draft} {stack : List Opened}
      (hmembers : AreMembers members) (key : Option String) (hvalue : value.IsValue)
      (h : Waits stack) :
      Traces (written (.member members (.string key) :: stack) ++ value.spelling)
        (.open .separator (.object ((.string key, value) :: members) :: stack))
  | complete {d : Draft} (h : d.IsValue) : Traces d.spelling (.complete d)
  | trailing (tokens : List Token) (d : Draft) : Traces tokens (.trailing d)
  | broken (tokens : List Token) {d : Draft} (h : d.IsCut) : Traces tokens (.broken d)

theorem traces_breakAt (tokens : List Token) (stack : List Opened) :
    Traces tokens (breakAt .cut stack) :=
  .broken tokens (isCut_cut.foldl_close stack)

theorem memberSpellings_append (front back : List (Draft × Draft)) :
    memberSpellings (front ++ back) = memberSpellings front ++ memberSpellings back := by
  simp only [memberSpellings_eq_map, List.map_append]

theorem intercalate_ended (front : List (List Token)) (last : List Token) :
    [.comma].intercalate (front ++ [last]) = ended front ++ last := by
  rw [intercalate_append_cons, List.flatMap_nil, List.append_nil, ended]

section

variable {stack : List Opened} (h : Waits stack)
include h

theorem traces_place {d : Draft} (hd : d.IsValue) :
    Traces (written stack ++ d.spelling) (place d stack) := by
  cases h with
  | nil => exact .complete hd
  | array hitems h => exact .item hitems hd h
  | member hmembers key h => exact .member hmembers key hd h

theorem traces_startValue (token : Token) :
    Traces (written stack ++ [token]) (startValue stack token) := by
  cases token with
  | null => exact traces_place h .null
  | bool b => exact traces_place h (.bool b)
  | number n => exact traces_place h (.number n)
  | string s => exact traces_place h (.string s)
  | openBracket => exact .itemOrEnd h
  | openBrace => exact .keyOrEnd h
  | _ => exact traces_breakAt _ _

theorem traces_startKey {members : List (Draft × Draft)} (hmembers : AreMembers members)
    (token : Token) : Traces (written (.object members :: stack) ++ [token])
      (startKey (.object members :: stack) token) := by
  cases token with
  | string s => exact .colon hmembers s h
  | _ => exact traces_breakAt _ _

end

theorem written_array_cons (items : List Draft) (item : Draft) (stack : List Opened) :
    written (.array (item :: items) :: stack) =
      written (.array items :: stack) ++ item.spelling ++ [.comma] := by
  simp [written, ended]

theorem written_object_cons (members : List (Draft × Draft)) (key value : Draft)
    (stack : List Opened) : written (.object ((key, value) :: members) :: stack) =
      written (.member members key :: stack) ++ value.spelling ++ [.comma] := by
  simp [written, ended, memberSpellings_append, memberSpellings]

theorem written_closeBracket (items : List Draft) (item : Draft) (stack : List Opened) :
    written (.array items :: stack) ++ item.spelling ++ [.closeBracket] =
      written stack ++ (Draft.array (item :: items).reverse).spelling := by
  rw [spelling, itemSpellings_eq_map, List.reverse_cons, List.map_append, List.map_singleton,
    intercalate_ended]
  simp [written]

theorem written_closeBrace (members : List (Draft × Draft)) (key value : Draft)
    (stack : List Opened) :
    written (.member members key :: stack) ++ value.spelling ++ [.closeBrace] =
      written stack ++ (Draft.object ((key, value) :: members).reverse).spelling := by
  rw [spelling, List.reverse_cons, memberSpellings_append, memberSpellings, memberSpellings,
    intercalate_ended]
  simp [written]

theorem AreMembers.cons {members : List (Draft × Draft)} (h : AreMembers members)
    (key : Option String) {value : Draft} (hvalue : value.IsValue) :
    AreMembers ((.string key, value) :: members) where
  keys := List.forall_mem_cons.mpr ⟨⟨key, rfl⟩, h.keys⟩
  values := List.forall_mem_cons.mpr ⟨hvalue, h.values⟩

theorem AreMembers.isValue {members : List (Draft × Draft)} (h : AreMembers members) :
    IsValue (.object members.reverse) :=
  .object (fun member hmember => h.keys member (List.mem_reverse.mp hmember))
    fun member hmember => h.values member (List.mem_reverse.mp hmember)

theorem written_nil_array (stack : List Opened) :
    written (.array [] :: stack) ++ [.closeBracket] =
      written stack ++ (Draft.array []).spelling := by
  simp [written, ended, spelling, itemSpellings]

theorem written_nil_object (stack : List Opened) :
    written (.object [] :: stack) ++ [.closeBrace] =
      written stack ++ (Draft.object []).spelling := by
  simp [written, ended, spelling, memberSpellings]

theorem written_colon (members : List (Draft × Draft)) (key : Draft) (stack : List Opened) :
    written (.member members key :: stack) =
      written (.object members :: stack) ++ key.spelling ++ [.colon] := by
  simp [written]

theorem Traces.step {tokens : List Token} {reading : Reading} (h : Traces tokens reading)
    (token : Token) : Traces (tokens ++ [token]) (step reading token) := by
  cases h with
  | value h => exact traces_startValue h token
  | itemOrEnd h =>
    have hwaits : Waits (.array [] :: _) := .array (List.forall_mem_nil _) h
    cases token with
    | closeBracket =>
      rw [written_nil_array]
      exact traces_place h (.array (List.forall_mem_nil _))
    | _ => exact traces_startValue hwaits _
  | keyOrEnd h =>
    have hnone : AreMembers [] := ⟨List.forall_mem_nil _, List.forall_mem_nil _⟩
    cases token with
    | closeBrace =>
      rw [written_nil_object]
      exact traces_place h hnone.isValue
    | _ => exact traces_startKey h hnone _
  | key hmembers h => exact traces_startKey h hmembers token
  | colon hmembers key h =>
    cases token with
    | colon =>
      have hvalue := Traces.value (.member hmembers key h)
      rwa [written_colon] at hvalue
    | _ => exact traces_breakAt _ _
  | item hitems hitem h =>
    have hall := List.forall_mem_cons.mpr ⟨hitem, hitems⟩
    cases token with
    | comma =>
      rw [← written_array_cons]
      exact .value (.array hall h)
    | closeBracket =>
      rw [written_closeBracket]
      exact traces_place h (.array fun item hmem => hall item (List.mem_reverse.mp hmem))
    | _ => exact traces_breakAt _ _
  | member hmembers key hvalue h =>
    have hall := hmembers.cons key hvalue
    cases token with
    | comma =>
      rw [← written_object_cons]
      exact .key hall h
    | closeBrace =>
      rw [written_closeBrace]
      exact traces_place h hall.isValue
    | _ => exact traces_breakAt _ _
  | complete _ => exact .trailing _ _
  | trailing => exact .trailing _ _
  | broken _ hcut => exact .broken _ hcut

theorem traces_run (tokens : List Token) : Traces tokens (run tokens (.open .value [])) := by
  suffices hall : ∀ front reading, Traces front reading →
      Traces (front ++ tokens) (run tokens reading) by
    exact hall [] _ (.value .nil)
  induction tokens with
  | nil => exact fun front reading h => by rwa [List.append_nil]
  | cons token tokens ih =>
    intro front reading h
    have hrest := ih (front ++ [token]) _ (h.step token)
    rwa [List.append_assoc] at hrest

theorem spelled_of_json? {tokens : List Token} {d : Draft} (h : ofTokens tokens = (d, true))
    {depth : Nat} {value : Ordered} (hvalue : d.json? depth = some value) :
    d.IsValue ∧ tokens = d.spelling := by
  have hcut : ¬ d.IsCut := fun hcut => by simp [hcut depth] at hvalue
  have htraces := traces_run tokens
  rw [ofTokens] at h
  rcases hread : run tokens (.open .value []) with ⟨due, stack⟩ | found | found | found
  · rw [hread] at h
    obtain ⟨rfl, -⟩ := Prod.mk.inj h
    exact absurd (isCut_cut.foldl_close stack) hcut
  · rw [hread] at h htraces
    obtain ⟨rfl, -⟩ := Prod.mk.inj h
    cases htraces with
    | complete h => exact ⟨h, rfl⟩
  · rw [hread] at h
    cases h
  · rw [hread] at h htraces
    obtain ⟨rfl, -⟩ := Prod.mk.inj h
    cases htraces with
    | broken _ h => exact absurd h hcut

end Draft

/-- Whether a text is a JSON text of a value, however deep it nests. -/
def IsTextOf (text : String) (value : Ordered) : Prop :=
  ∃ d, Spells text d ∧ d.json? d.nesting = some value

/-- Whether a text is a JSON text of some value, with no more than 127 arrays and objects inside one
another. -/
def IsText (text : String) : Prop :=
  NestsWithin text maxDepth ∧ ∃ value, IsTextOf text value

section

variable {text : String} {value : Ordered}

theorem IsTextOf.read (h : IsTextOf text value) (hnests : NestsWithin text maxDepth) :
    Decoder.json.text (glyphs text) = .ok value := by
  obtain ⟨d, hspells, hvalue⟩ := h
  obtain ⟨d', hspells', hdepth⟩ := hnests
  obtain rfl := hspells.unique hspells'
  rw [hspells.decode, Decoder.json, Draft.json?_eq_of_le hdepth, hvalue]

theorem IsTextOf.isText_iff (h : IsTextOf text value) :
    IsText text ↔ NestsWithin text maxDepth :=
  and_iff_left ⟨value, h⟩

theorem json_eq_ok {depth : Nat} {d : Draft} :
    Decoder.json depth d = .ok value ↔ d.json? depth = some value := by
  rw [Decoder.json]
  cases d.json? depth <;> simp

theorem read_eq_ok : Decoder.json.text (glyphs text) = .ok value ↔
    NestsWithin text maxDepth ∧ IsTextOf text value := by
  constructor
  · intro h
    obtain ⟨⟨d, ended⟩, hread⟩ : ∃ read, Draft.ofGlyphs (glyphs text) = read := ⟨_, rfl⟩
    rw [Decoder.text, hread] at h
    obtain ⟨found, hfound, h⟩ := Outcome.bind_eq_ok.mp h
    rw [json_eq_ok] at hfound
    cases ended with
    | false => cases h
    | true =>
      obtain rfl := Except.ok.inj h
      obtain ⟨hcomplete, hspelled⟩ := Draft.spelled_of_json? hread hfound
      have hspells : Spells text d := ⟨hcomplete, hspelled⟩
      have hnesting := Draft.nesting_le_of_json? d hfound
      exact ⟨⟨d, hspells, hnesting⟩, d, hspells, (Draft.json?_eq_of_le hnesting).symm.trans hfound⟩
  · rintro ⟨hnests, htext⟩
    exact htext.read hnests

theorem exists_read_iff : (∃ value, Decoder.json.text (glyphs text) = .ok value) ↔ IsText text := by
  simp only [read_eq_ok, exists_and_left, IsText]

end

end SchemaWriter.Json
