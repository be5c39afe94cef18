import SchemaWriter.Requirement.Basic

namespace SchemaWriter.Requirement

def addName (names : List String) (name : String) : List String :=
  if name ∈ names then names else names ++ [name]

def addNames : List String → List String → List String :=
  List.foldl addName

theorem mem_addName {names : List String} {a b : String} :
    a ∈ addName names b ↔ a ∈ names ∨ a = b := by
  simp only [addName]
  split
  · exact ⟨.inl, fun h => h.elim id (fun h => h ▸ ‹_›)⟩
  · simp

theorem mem_addNames {names more : List String} {a : String} :
    a ∈ addNames names more ↔ a ∈ names ∨ a ∈ more := by
  induction more generalizing names with
  | nil => simp [addNames]
  | cons b more ih =>
    have step : addNames names (b :: more) = addNames (addName names b) more := rfl
    rw [step, ih, mem_addName, List.mem_cons, or_assoc]

def fits (statement r : Requirement) : Bool :=
  match statement.clause, r.clause with
  | .named _, .named _ => statement.source = r.source
  | _, _ => statement = r

def join (statement r : Requirement) : Requirement :=
  match statement.clause, r.clause with
  | .named old, .named new => ⟨.named (addNames old new), statement.source⟩
  | _, _ => statement

def fresh (r : Requirement) : Requirement :=
  match r.clause with
  | .named names => ⟨.named (addNames [] names), r.source⟩
  | _ => r

def absorb : List Requirement → Requirement → List Requirement
  | [], r => [r.fresh]
  | statement :: rest, r =>
    if statement.fits r then statement.join r :: rest else statement :: absorb rest r

def merge (requirements : List Requirement) : List Requirement :=
  requirements.foldl absorb []

theorem merge_append (front back : List Requirement) :
    merge (front ++ back) = back.foldl absorb (merge front) := by
  simp [merge]

end SchemaWriter.Requirement
