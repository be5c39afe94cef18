import SchemaWriter.Json.Basic
import SchemaWriter.Proofs.Naming.Identifiers

namespace SchemaWriter.Literal

def escapes : List (Char × Char) :=
  [('\\', '\\'), ('\'', '\''), ('n', '\n'), ('r', '\r')]

inductive Content : List Char → List Char → List Char → Prop where
  | done (rest : List Char) : Content ('\'' :: rest) [] rest
  | escaped {mark c : Char} {text cs rest : List Char} (h : (mark, c) ∈ escapes)
      (hcontent : Content text cs rest) : Content ('\\' :: mark :: text) (c :: cs) rest
  | plain {c : Char} {text cs rest : List Char} (h : c ∉ escapes.map Prod.snd)
      (hcontent : Content text cs rest) : Content (c :: text) (c :: cs) rest

structure Digits (digits : List Char) : Prop where
  nonempty : digits ≠ []
  isDigit : ∀ c ∈ digits, c.isDigit = true
  first : digits.head? = some '0' → digits = ['0']

inductive Decimal : List Char → Int → Prop where
  | natural {digits : List Char} (h : Digits digits) : Decimal digits (Nat.ofDigitChars 10 digits 0)
  | negative {digits : List Char} (h : Digits digits) (hzero : digits ≠ ['0']) :
      Decimal ('-' :: digits) (-Nat.ofDigitChars 10 digits 0)

inductive Key : List Char → String → List Char → Prop where
  | bare {name : String} (h : Naming.isIdentifier name = true) (rest : List Char) :
      Key (name.toList ++ ':' :: ' ' :: rest) name rest
  | quoted {text cs rest : List Char} (h : Content text cs (':' :: ' ' :: rest)) :
      Key ('\'' :: text) (String.ofList cs) rest

mutual

inductive Value : List Char → Json → List Char → Prop where
  | null (rest : List Char) : Value ("null".toList ++ rest) .null rest
  | true (rest : List Char) : Value ("true".toList ++ rest) (.bool true) rest
  | false (rest : List Char) : Value ("false".toList ++ rest) (.bool false) rest
  | integer {text rest : List Char} {n : Int} (h : Decimal text n)
      (hrest : ∀ c ∈ rest.head?, c.isDigit = false) :
      Value (text ++ rest) (.number (.integer n)) rest
  | string {text cs rest : List Char} (h : Content text cs rest) :
      Value ('\'' :: text) (.string (String.ofList cs)) rest
  | emptyArray (rest : List Char) : Value ('[' :: ']' :: rest) (.array []) rest
  | array {text rest : List Char} {items : List Json} (h : Items text items rest) :
      Value ('[' :: ' ' :: text) (.array items) rest
  | emptyObject (rest : List Char) : Value ('\x7b' :: '\x7d' :: rest) (.object []) rest
  | object {text rest : List Char} {members : List (String × Json)}
      (h : Members text members rest) : Value ('\x7b' :: ' ' :: text) (.object members) rest

inductive Items : List Char → List Json → List Char → Prop where
  | last {text rest : List Char} {value : Json} (h : Value text value (' ' :: ']' :: rest)) :
      Items text [value] rest
  | cons {text more rest : List Char} {value : Json} {values : List Json}
      (h : Value text value (',' :: ' ' :: more)) (hmore : Items more values rest) :
      Items text (value :: values) rest

inductive Members : List Char → List (String × Json) → List Char → Prop where
  | last {text behind rest : List Char} {key : String} {value : Json} (hkey : Key text key behind)
      (h : Value behind value (' ' :: '\x7d' :: rest)) : Members text [(key, value)] rest
  | cons {text behind more rest : List Char} {key : String} {value : Json}
      {members : List (String × Json)} (hkey : Key text key behind)
      (h : Value behind value (',' :: ' ' :: more)) (hmore : Members more members rest) :
      Members text ((key, value) :: members) rest

end

def Denotes (text : String) (value : Json) : Prop :=
  Value text.toList value []

theorem escapes_functional {mark c d : Char} (hc : (mark, c) ∈ escapes)
    (hd : (mark, d) ∈ escapes) : c = d := by
  simp only [escapes, List.mem_cons, Prod.mk.injEq, List.not_mem_nil, or_false] at hc hd
  rcases hc with ⟨rfl, rfl⟩ | ⟨rfl, rfl⟩ | ⟨rfl, rfl⟩ | ⟨rfl, rfl⟩ <;> simp_all

theorem Content.unique {text cs cs' rest rest' : List Char} (h : Content text cs rest)
    (h' : Content text cs' rest') : cs = cs' ∧ rest = rest' := by
  induction h generalizing cs' rest' with
  | done rest =>
    cases h' with
    | done => exact ⟨rfl, rfl⟩
    | plain hplain => exact absurd (by decide) hplain
  | escaped hescape _ ih =>
    cases h' with
    | escaped hescape' hcontent =>
      obtain ⟨rfl, rfl⟩ := ih hcontent
      exact ⟨by rw [escapes_functional hescape hescape'], rfl⟩
    | plain hplain => exact absurd (by decide) hplain
  | plain hplain _ ih =>
    cases h' with
    | done => exact absurd (by decide) hplain
    | escaped => exact absurd (by decide) hplain
    | plain _ hcontent =>
      obtain ⟨rfl, rfl⟩ := ih hcontent
      exact ⟨rfl, rfl⟩

theorem Digits.unique {digits digits' rest rest' : List Char} (h : Digits digits)
    (h' : Digits digits') (hrest : ∀ c ∈ rest.head?, c.isDigit = false)
    (hrest' : ∀ c ∈ rest'.head?, c.isDigit = false) (htext : digits ++ rest = digits' ++ rest') :
    digits = digits' ∧ rest = rest' := by
  have hinside : ∀ c ∈ digits, (!c.isDigit) = false := fun c hc => by simp [h.isDigit c hc]
  have hinside' : ∀ c ∈ digits', (!c.isDigit) = false := fun c hc => by simp [h'.isDigit c hc]
  exact append_eq_append_of_first hinside hinside' (fun c hc => by simp [hrest c hc])
    (fun c hc => by simp [hrest' c hc]) htext

theorem Digits.exists_cons {digits : List Char} (h : Digits digits) :
    ∃ c more, digits = c :: more ∧ c.isDigit = true := by
  obtain ⟨c, more, rfl⟩ := List.exists_cons_of_ne_nil h.nonempty
  exact ⟨c, more, rfl, h.isDigit c List.mem_cons_self⟩

theorem Digits.ne_minus {digits rest more : List Char} (h : Digits digits) :
    digits ++ rest ≠ '-' :: more := by
  obtain ⟨c, more, rfl, hc⟩ := h.exists_cons
  rintro ⟨⟩
  exact absurd hc (by decide)

theorem Decimal.unique {text text' rest rest' : List Char} {n n' : Int} (h : Decimal text n)
    (h' : Decimal text' n') (hrest : ∀ c ∈ rest.head?, c.isDigit = false)
    (hrest' : ∀ c ∈ rest'.head?, c.isDigit = false) (htext : text ++ rest = text' ++ rest') :
    n = n' ∧ rest = rest' := by
  cases h with
  | natural h =>
    cases h' with
    | natural h' =>
      obtain ⟨rfl, rfl⟩ := h.unique h' hrest hrest' htext
      exact ⟨rfl, rfl⟩
    | negative h' => exact absurd htext h.ne_minus
  | negative h =>
    cases h' with
    | natural h' => exact absurd htext.symm h'.ne_minus
    | negative h' =>
      obtain ⟨rfl, rfl⟩ := h.unique h' hrest hrest' (List.cons.inj htext).2
      exact ⟨rfl, rfl⟩

theorem quote_not_identifier {name : String} (h : Naming.isIdentifier name = true)
    {rest more : List Char} : name.toList ++ rest ≠ '\'' :: more := by
  obtain ⟨c, cs, hname, hc, -⟩ := Naming.isIdentifier_iff.mp h
  rw [hname]
  rintro ⟨⟩
  exact absurd hc (by decide)

theorem colon_not_mem_identifier {name : String} (h : Naming.isIdentifier name = true) :
    ∀ c ∈ name.toList, decide (c = ':') = false := by
  rintro c hc
  refine decide_eq_false ?_
  rintro rfl
  exact absurd (Naming.isIdentifierPart_of_mem h hc) (by decide)

theorem Key.unique {text text' rest rest' : List Char} {key key' : String} (h : Key text key rest)
    (h' : Key text' key' rest') (htext : text = text') : key = key' ∧ rest = rest' := by
  cases h with
  | bare hname rest =>
    cases h' with
    | bare hname' rest' =>
      obtain ⟨hsame, hrest⟩ := append_eq_append_of_first (colon_not_mem_identifier hname)
        (colon_not_mem_identifier hname') (by simp) (by simp) htext
      exact ⟨String.toList_inj.mp hsame, by simpa using hrest⟩
    | quoted _ => exact absurd htext (quote_not_identifier hname)
  | quoted hcontent =>
    cases h' with
    | bare hname' => exact absurd htext.symm (quote_not_identifier hname')
    | quoted hcontent' =>
      obtain rfl := (List.cons.inj htext).2
      obtain ⟨rfl, hrest⟩ := hcontent.unique hcontent'
      exact ⟨rfl, by simpa using hrest⟩

inductive Kind where
  | null
  | bool (value : Bool)
  | number
  | string
  | array
  | object

def Kind.ofChar : Char → Kind
  | 'n' => .null
  | 't' => .bool true
  | 'f' => .bool false
  | '\'' => .string
  | '[' => .array
  | '\x7b' => .object
  | _ => .number

def Kind.ofJson : Json → Kind
  | .null => .null
  | .bool value => .bool value
  | .number _ => .number
  | .string _ => .string
  | .array _ => .array
  | .object _ => .object

theorem Kind.ofChar_of_isDigit {c : Char} (h : c.isDigit = true) : ofChar c = .number := by
  unfold ofChar
  split
  case h_7 => rfl
  all_goals exact absurd h (by decide)

theorem Value.kind {text rest : List Char} {value : Json} (h : Value text value rest) :
    text.head?.map Kind.ofChar = some (Kind.ofJson value) := by
  cases h with
  | integer h =>
    cases h with
    | natural h =>
      obtain ⟨c, more, rfl, hc⟩ := h.exists_cons
      exact congrArg some (Kind.ofChar_of_isDigit hc)
    | negative => rfl
  | _ => rfl

mutual

theorem Value.unique : ∀ (v : Json) {w : Json} {text text' rest rest' : List Char},
    Value text v rest → Value text' w rest' → text = text' → v = w ∧ rest = rest'
  | v, w, text, text', rest, rest', h, h', htext => by
    have hkind : Kind.ofJson v = Kind.ofJson w := by
      rw [← Option.some_inj, ← h.kind, htext, h'.kind]
    match v with
    | .null =>
      cases w <;> cases hkind
      cases h
      cases h'
      exact ⟨rfl, List.append_cancel_left htext⟩
    | .bool b =>
      cases w <;> cases hkind
      cases h <;> cases h' <;> exact ⟨rfl, List.append_cancel_left htext⟩
    | .number n =>
      cases w <;> cases hkind
      cases h with
      | integer h hrest =>
        cases h' with
        | integer h' hrest' =>
          obtain ⟨rfl, rfl⟩ := h.unique h' hrest hrest' htext
          exact ⟨rfl, rfl⟩
    | .string s =>
      cases w <;> cases hkind
      cases h with
      | string h =>
        cases h' with
        | string h' =>
          obtain rfl := (List.cons.inj htext).2
          obtain ⟨rfl, rfl⟩ := h.unique h'
          exact ⟨rfl, rfl⟩
    | .array items =>
      cases w <;> cases hkind
      cases h with
      | emptyArray =>
        cases h' with
        | emptyArray => exact ⟨rfl, by simpa using htext⟩
        | array => simp at htext
      | array h =>
        cases h' with
        | emptyArray => simp at htext
        | array h' =>
          obtain ⟨rfl, rfl⟩ := Items.unique items h h' (by simpa using htext)
          exact ⟨rfl, rfl⟩
    | .object members =>
      cases w <;> cases hkind
      cases h with
      | emptyObject =>
        cases h' with
        | emptyObject => exact ⟨rfl, by simpa using htext⟩
        | object => simp at htext
      | object h =>
        cases h' with
        | emptyObject => simp at htext
        | object h' =>
          obtain ⟨rfl, rfl⟩ := Members.unique members h h' (by simpa using htext)
          exact ⟨rfl, rfl⟩

theorem Items.unique : ∀ (vs : List Json) {ws : List Json} {text text' rest rest' : List Char},
    Items text vs rest → Items text' ws rest' → text = text' → vs = ws ∧ rest = rest'
  | [], _, _, _, _, _, h, _, _ => nomatch h
  | v :: vs, ws, text, text', rest, rest', h, h', htext => by
    cases h with
    | last h =>
      cases h' with
      | last h' =>
        obtain ⟨rfl, hrest⟩ := Value.unique v h h' htext
        exact ⟨rfl, by simpa using hrest⟩
      | cons h' => simpa using (Value.unique v h h' htext).2
    | cons h hmore =>
      cases h' with
      | last h' => simpa using (Value.unique v h h' htext).2
      | cons h' hmore' =>
        obtain ⟨rfl, hrest⟩ := Value.unique v h h' htext
        obtain ⟨rfl, rfl⟩ := Items.unique vs hmore hmore' (by simpa using hrest)
        exact ⟨rfl, rfl⟩

theorem Members.unique : ∀ (vs : List (String × Json)) {ws : List (String × Json)}
    {text text' rest rest' : List Char},
    Members text vs rest → Members text' ws rest' → text = text' → vs = ws ∧ rest = rest'
  | [], _, _, _, _, _, h, _, _ => nomatch h
  | (key, v) :: vs, ws, text, text', rest, rest', h, h', htext => by
    cases h with
    | last hkey h =>
      cases h' with
      | last hkey' h' =>
        obtain ⟨rfl, hbehind⟩ := hkey.unique hkey' htext
        obtain ⟨rfl, hrest⟩ := Value.unique v h h' hbehind
        exact ⟨rfl, by simpa using hrest⟩
      | cons hkey' h' => simpa using (Value.unique v h h' (hkey.unique hkey' htext).2).2
    | cons hkey h hmore =>
      cases h' with
      | last hkey' h' => simpa using (Value.unique v h h' (hkey.unique hkey' htext).2).2
      | cons hkey' h' hmore' =>
        obtain ⟨rfl, hbehind⟩ := hkey.unique hkey' htext
        obtain ⟨rfl, hrest⟩ := Value.unique v h h' hbehind
        obtain ⟨rfl, rfl⟩ := Members.unique vs hmore hmore' (by simpa using hrest)
        exact ⟨rfl, rfl⟩

end

theorem Denotes.unique {text : String} {v w : Json} (h : Denotes text v) (h' : Denotes text w) :
    v = w :=
  (Value.unique v h h' rfl).1

end SchemaWriter.Literal
