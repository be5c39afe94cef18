namespace SchemaWriter.Text

section

variable {α : Type}

def attach (a : α) : List (List α) → List (List α)
  | [] => [[a]]
  | piece :: pieces => (a :: piece) :: pieces

def splitWhere (test : α → Bool) : List α → List (List α)
  | [] => [[]]
  | a :: rest => if test a then [] :: splitWhere test rest else attach a (splitWhere test rest)

theorem flatten_attach (a : α) (pieces : List (List α)) :
    (attach a pieces).flatten = a :: pieces.flatten := by
  cases pieces <;> rfl

theorem splitWhere_ne_nil (test : α → Bool) (as : List α) : splitWhere test as ≠ [] := by
  cases as with
  | nil => simp [splitWhere]
  | cons a rest =>
    simp only [splitWhere]
    split
    · simp
    · cases splitWhere test rest <;> simp [attach]

theorem splitWhere_append_cons {test : α → Bool} {a : α} (ha : test a = true) (xs ys : List α) :
    splitWhere test (xs ++ a :: ys) = splitWhere test xs ++ splitWhere test ys := by
  induction xs with
  | nil => simp [splitWhere, ha]
  | cons x xs ih =>
    cases hx : test x with
    | true => simp [splitWhere, hx, ih]
    | false =>
      obtain ⟨piece, pieces, h⟩ := List.exists_cons_of_ne_nil (splitWhere_ne_nil test xs)
      simp [splitWhere, hx, ih, h, attach]

theorem splitWhere_eq_singleton {test : α → Bool} {as : List α} (h : ∀ a ∈ as, test a = false) :
    splitWhere test as = [as] := by
  induction as with
  | nil => rfl
  | cons a rest ih =>
    have tail := ih fun b hb => h b (List.mem_cons_of_mem a hb)
    simp [splitWhere, h a List.mem_cons_self, tail, attach]

theorem flatten_splitWhere (test : α → Bool) (as : List α) :
    (splitWhere test as).flatten = as.filter (fun a => !test a) := by
  induction as with
  | nil => rfl
  | cons a rest ih =>
    cases h : test a <;> simp [splitWhere, h, flatten_attach, ih]

theorem not_test_of_mem_splitWhere {test : α → Bool} {as piece : List α}
    (hp : piece ∈ splitWhere test as) {a : α} (ha : a ∈ piece) : test a = false := by
  have mem : a ∈ (splitWhere test as).flatten := List.mem_flatten.2 ⟨piece, hp, ha⟩
  rw [flatten_splitWhere] at mem
  simpa using (List.mem_filter.1 mem).2

end

def inRanges (table : List (Nat × Nat)) (n : Nat) : Bool :=
  table.any fun (first, last) => first ≤ n && n ≤ last

/-- Whether the code point is one of `first`, `first + step`, …, `last` for a row of the table. -/
def inStrides (table : List (Nat × Nat × Nat)) (n : Nat) : Bool :=
  table.any fun (first, last, step) => first ≤ n && n ≤ last && (n - first) % step == 0

/-- The Unicode property White_Space. -/
def blankRanges : List (Nat × Nat) := [
    (0x9, 0xd), (0x20, 0x20), (0x85, 0x85), (0xa0, 0xa0), (0x1680, 0x1680), (0x2000, 0x200a),
    (0x2028, 0x2029), (0x202f, 0x202f), (0x205f, 0x205f), (0x3000, 0x3000)]

def isBlank (c : Char) : Bool :=
  inRanges blankRanges c.toNat

def trimStart (cs : List Char) : List Char :=
  cs.dropWhile isBlank

def trimEnd (cs : List Char) : List Char :=
  (cs.reverse.dropWhile isBlank).reverse

def trim (cs : List Char) : List Char :=
  trimEnd (trimStart cs)

def isBlankText (s : String) : Bool :=
  s.toList.all isBlank

end SchemaWriter.Text
