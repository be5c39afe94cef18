import SchemaWriter.Proofs.Fragment.Imports

namespace SchemaWriter.Fragment

inductive Occurs (node : Fragment) : Fragment → Prop where
  | here : Occurs node node
  | property {entries : List Entry} {key : String} {value : Fragment}
      (hmem : .property key value ∈ entries) (h : Occurs node value) : Occurs node (.object entries)
  | spread {entries : List Entry} {value : Fragment} (hmem : .spread value ∈ entries)
      (h : Occurs node value) : Occurs node (.object entries)
  | item {items : List Fragment} {item : Fragment} (hmem : item ∈ items) (h : Occurs node item) :
      Occurs node (.array items)
  | argument {callee : String} {generic : Option String} {arguments : List Fragment}
      {argument : Fragment} (hmem : argument ∈ arguments) (h : Occurs node argument) :
      Occurs node (.call callee generic arguments)
  | first {first : Fragment} {links : List Fragment} (h : Occurs node first) :
      Occurs node (.chain first links)
  | link {first : Fragment} {links : List Fragment} {link : Fragment} (hmem : link ∈ links)
      (h : Occurs node link) : Occurs node (.chain first links)
  | body {parameters : List String} {body : Fragment} (h : Occurs node body) :
      Occurs node (.lambda parameters body)
  | value {name : String} {value : Fragment} {exported : Bool} (h : Occurs node value) :
      Occurs node (.declaration name value exported)
  | required {requirements : List Requirement} {body : Fragment} (h : Occurs node body) :
      Occurs node (.requiring requirements body)

def Attaches (fragment : Fragment) (r : Requirement) : Prop :=
  ∃ requirements body, Occurs (.requiring requirements body) fragment ∧ r ∈ requirements

variable {r : Requirement}

theorem Attaches.mono {fragment part : Fragment}
    (h : ∀ node, Occurs node part → Occurs node fragment) (hpart : part.Attaches r) :
    fragment.Attaches r := by
  obtain ⟨requirements, body, hoccurs, hr⟩ := hpart
  exact ⟨requirements, body, h _ hoccurs, hr⟩

theorem imports_requiring (requirements : List Requirement) (body : Fragment) :
    (requiring requirements body).imports = requirements ++ body.imports := by
  rw [imports]

theorem imports_subset_of_occurs {node fragment : Fragment} (h : Occurs node fragment) :
    node.imports ⊆ fragment.imports := by
  induction h with
  | here => exact List.Subset.refl _
  | property hmem _ ih | spread hmem _ ih =>
    rw [imports, importsOfEntries_eq_flatMap]
    exact fun r hr => List.mem_flatMap.mpr ⟨_, hmem, by simpa [importsOfEntry] using ih hr⟩
  | item hmem _ ih | argument hmem _ ih =>
    rw [imports, importsOfAll_eq_flatMap]
    exact fun r hr => List.mem_flatMap.mpr ⟨_, hmem, ih hr⟩
  | first _ ih =>
    rw [imports]
    exact fun r hr => List.mem_append_left _ (ih hr)
  | link hmem _ ih =>
    rw [imports, importsOfAll_eq_flatMap]
    exact fun r hr => List.mem_append_right _ (List.mem_flatMap.mpr ⟨_, hmem, ih hr⟩)
  | body _ ih | value _ ih => simpa using ih
  | required _ ih =>
    rw [imports_requiring]
    exact fun r hr => List.mem_append_right _ (ih hr)

mutual

theorem attaches_of_mem_imports (fragment : Fragment) (h : r ∈ fragment.imports) :
    fragment.Attaches r := by
  match fragment with
  | .object entries =>
    obtain ⟨entry, hentry, value, hvalue, hattached⟩ := attaches_of_mem_entries entries h
    rcases hvalue with ⟨key, rfl⟩ | rfl
    · exact hattached.mono fun _ => .property hentry
    · exact hattached.mono fun _ => .spread hentry
  | .array items =>
    obtain ⟨item, hitem, hattached⟩ := attaches_of_mem_all items h
    exact hattached.mono fun _ => .item hitem
  | .call callee generic arguments =>
    obtain ⟨argument, hargument, hattached⟩ := attaches_of_mem_all arguments h
    exact hattached.mono fun _ => .argument hargument
  | .chain first links =>
    rcases List.mem_append.mp h with h | h
    · exact (attaches_of_mem_imports first h).mono fun _ => .first
    · obtain ⟨link, hlink, hattached⟩ := attaches_of_mem_all links h
      exact hattached.mono fun _ => .link hlink
  | .lambda parameters body => exact (attaches_of_mem_imports body h).mono fun _ => .body
  | .declaration name value exported => exact (attaches_of_mem_imports value h).mono fun _ => .value
  | .requiring requirements body =>
    rcases List.mem_append.mp h with h | h
    · exact ⟨requirements, body, .here, h⟩
    · exact (attaches_of_mem_imports body h).mono fun _ => .required

theorem attaches_of_mem_all (fragments : List Fragment) (h : r ∈ importsOfAll fragments) :
    ∃ fragment ∈ fragments, fragment.Attaches r := by
  match fragments with
  | fragment :: rest =>
    rcases List.mem_append.mp h with h | h
    · exact ⟨fragment, List.mem_cons_self, attaches_of_mem_imports fragment h⟩
    · obtain ⟨other, hother, hattached⟩ := attaches_of_mem_all rest h
      exact ⟨other, List.mem_cons_of_mem _ hother, hattached⟩

theorem attaches_of_mem_entry (entry : Entry) (h : r ∈ importsOfEntry entry) :
    ∃ value, ((∃ key, entry = .property key value) ∨ entry = .spread value) ∧
      value.Attaches r := by
  match entry with
  | .property key value => exact ⟨value, .inl ⟨key, rfl⟩, attaches_of_mem_imports value h⟩
  | .spread value => exact ⟨value, .inr rfl, attaches_of_mem_imports value h⟩

theorem attaches_of_mem_entries (entries : List Entry) (h : r ∈ importsOfEntries entries) :
    ∃ entry ∈ entries, ∃ value, ((∃ key, entry = .property key value) ∨ entry = .spread value) ∧
      value.Attaches r := by
  match entries with
  | entry :: rest =>
    rcases List.mem_append.mp h with h | h
    · exact ⟨entry, List.mem_cons_self, attaches_of_mem_entry entry h⟩
    · obtain ⟨other, hother, hattached⟩ := attaches_of_mem_entries rest h
      exact ⟨other, List.mem_cons_of_mem _ hother, hattached⟩

end

theorem mem_imports_iff {fragment : Fragment} : r ∈ fragment.imports ↔ fragment.Attaches r := by
  constructor
  · exact attaches_of_mem_imports fragment
  · rintro ⟨requirements, body, hoccurs, hr⟩
    apply imports_subset_of_occurs hoccurs
    rw [imports_requiring]
    exact List.mem_append_left _ hr

end SchemaWriter.Fragment
