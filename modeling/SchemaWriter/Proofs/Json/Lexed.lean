import Mathlib.Data.List.Infix
import SchemaWriter.Json.Token

namespace SchemaWriter.Json

def EndsNumeral (gs : List Glyph) : Prop :=
  ∀ c, gs.head? = some (some c) → c.isDigit = false ∧ c ∉ ['.', 'e', 'E', '+', '-']

theorem endsNumeral_cons {c : Char}
    (h : (c.isDigit || ['.', 'e', 'E', '+', '-'].contains c) = false) (gs : List Glyph) :
    EndsNumeral (some c :: gs) := by
  rintro d ⟨⟩
  simpa using h

theorem takeDigits_suffix (gs : List Glyph) : (takeDigits gs).2 <:+ gs := by
  induction gs with
  | nil => exact List.suffix_rfl
  | cons g gs ih =>
    rw [takeDigits]
    split
    · exact ih.trans (List.suffix_cons g gs)
    · exact List.suffix_rfl

theorem takeDigits_eq_nil {gs : List Glyph} (h : EndsNumeral gs) : takeDigits gs = ([], gs) := by
  match gs with
  | [] => rfl
  | none :: gs => rfl
  | some c :: gs => simp [takeDigits, digit?, (h c rfl).1]

section

variable {back : List Glyph} (h : EndsNumeral back)
include h

theorem takeDigits_append (gs : List Glyph) :
    takeDigits (gs ++ back) = ((takeDigits gs).1, (takeDigits gs).2 ++ back) := by
  induction gs with
  | nil => exact takeDigits_eq_nil h
  | cons g gs ih =>
    rw [List.cons_append, takeDigits, takeDigits, ih]
    split <;> rfl

theorem wholeDigits?_append (gs : List Glyph) : wholeDigits? (gs ++ back) =
    (wholeDigits? gs).map fun read => (read.1, read.2 ++ back) := by
  rw [wholeDigits?, wholeDigits?, takeDigits_append h]
  generalize takeDigits gs = read
  obtain ⟨digits, rest⟩ := read
  match digits with
  | [] => rfl
  | 0 :: _ :: _ => rfl
  | [0] => rfl
  | (d + 1) :: _ => rfl

omit h in
theorem fractionDigits?_of_ne {c : Char} (hc : c ≠ '.') (gs : List Glyph) :
    fractionDigits? (some c :: gs) = some ([], some c :: gs) := by
  unfold fractionDigits?
  split
  · rename_i heq
    simp_all
  · rfl

theorem fractionDigits?_append (gs : List Glyph) : fractionDigits? (gs ++ back) =
    (fractionDigits? gs).map fun read => (read.1, read.2 ++ back) := by
  match gs with
  | [] =>
    match back with
    | [] => rfl
    | none :: back => rfl
    | some c :: back =>
      have hc : c ≠ '.' := by
        rintro rfl
        simpa using (h '.' rfl).2
      exact fractionDigits?_of_ne hc back
  | none :: gs => rfl
  | some c :: gs =>
    by_cases hc : c = '.'
    · subst hc
      rw [List.cons_append, fractionDigits?, fractionDigits?, takeDigits_append h]
      generalize takeDigits gs = read
      obtain ⟨_ | ⟨d, digits⟩, rest⟩ := read <;> rfl
    · rw [List.cons_append, fractionDigits?_of_ne hc, fractionDigits?_of_ne hc]
      rfl

def exponentSign (gs : List Glyph) : Bool × List Glyph :=
  match gs with
  | some '-' :: more => (true, more)
  | some '+' :: more => (false, more)
  | _ => (false, gs)

omit h in
theorem exponent?_cons (c : Char) (gs : List Glyph) :
    exponent? (some c :: gs) =
      if c = 'e' || c = 'E' then
        match takeDigits (exponentSign gs).2 with
        | ([], _) => none
        | (digits, rest) =>
          let size : Int := decimalValue digits
          some (some (if (exponentSign gs).1 then -size else size), rest)
      else some (none, some c :: gs) :=
  rfl

omit h in
theorem exponentSign_eq {gs : List Glyph}
    (hsign : ∀ c, gs.head? = some (some c) → c ≠ '-' ∧ c ≠ '+') :
    exponentSign gs = (false, gs) := by
  unfold exponentSign
  split
  · exact absurd rfl (hsign '-' rfl).1
  · exact absurd rfl (hsign '+' rfl).2
  · rfl

theorem exponentSign_append (gs : List Glyph) :
    exponentSign (gs ++ back) = ((exponentSign gs).1, (exponentSign gs).2 ++ back) := by
  match gs with
  | [] =>
    refine exponentSign_eq fun c hc => ⟨?_, ?_⟩ <;>
    · rintro rfl
      simpa using (h _ hc).2
  | none :: gs => rfl
  | some c :: gs =>
    by_cases hc : c ≠ '-' ∧ c ≠ '+'
    · have hsign : ∀ gs, exponentSign (some c :: gs) = (false, some c :: gs) := by
        intro gs
        refine exponentSign_eq ?_
        rintro _ ⟨⟩
        exact hc
      rw [List.cons_append, hsign, hsign]
      rfl
    · obtain rfl | rfl : c = '-' ∨ c = '+' := by
        rwa [not_and_or, not_not, not_not] at hc
      · rfl
      · rfl

theorem exponent?_append (gs : List Glyph) : exponent? (gs ++ back) =
    (exponent? gs).map fun read => (read.1, read.2 ++ back) := by
  match gs with
  | [] =>
    match back with
    | [] => rfl
    | none :: back => rfl
    | some c :: back =>
      rw [List.nil_append, exponent?_cons, if_neg]
      · rfl
      · have hother := (h c rfl).2
        simp at hother
        simp [hother]
  | none :: gs => rfl
  | some c :: gs =>
    rw [List.cons_append, exponent?_cons, exponent?_cons, exponentSign_append h,
      takeDigits_append h]
    split
    · generalize takeDigits (exponentSign gs).2 = read
      obtain ⟨_ | ⟨d, digits⟩, rest⟩ := read <;> rfl
    · rfl

theorem numeral?_append (negative : Bool) (gs : List Glyph) : numeral? negative (gs ++ back) =
    (numeral? negative gs).map fun read => (read.1, read.2 ++ back) := by
  simp only [numeral?, wholeDigits?_append h, fractionDigits?_append h, exponent?_append h,
    bind, Option.bind_map, Option.map_bind, Function.comp_def]
  rfl

end

def withMark (mark : Mark) (read : Option (List Mark × List Glyph)) :
    Option (List Mark × List Glyph) :=
  read.map fun (marks, rest) => (mark :: marks, rest)

theorem withMark_eq_some {mark : Mark} {read : Option (List Mark × List Glyph)}
    {marks : List Mark} {more : List Glyph} : withMark mark read = some (marks, more) ↔
      ∃ others, read = some (others, more) ∧ marks = mark :: others := by
  simp only [withMark, Option.map_eq_some_iff, Prod.exists, Prod.mk.injEq]
  constructor
  · rintro ⟨others, _, hread, rfl, rfl⟩
    exact ⟨others, hread, rfl⟩
  · rintro ⟨others, hread, rfl⟩
    exact ⟨others, more, hread, rfl, rfl⟩

theorem stringMarks?_of_plain {c : Char} (hquote : c ≠ '"') (hescape : c ≠ '\\')
    (hcontrol : ¬ c < ' ') (gs : List Glyph) :
    stringMarks? (some c :: gs) = withMark (.char c) (stringMarks? gs) := by
  rw [stringMarks?, if_neg (by simp [hescape, hcontrol])]
  · cases stringMarks? gs <;> rfl
  · exact hquote
  · exact fun _ _ _ _ _ _ => hescape
  · exact fun _ _ _ => hescape

theorem stringMarks?_of_escape {c d : Char} (h : escape? c = some d) (gs : List Glyph) :
    stringMarks? (some '\\' :: some c :: gs) = withMark (.char d) (stringMarks? gs) := by
  rw [stringMarks?]
  · rw [h]
    cases stringMarks? gs <;> rfl
  · rintro _ _ _ _ _ - rfl
    cases h

theorem stringMarks?_of_unit {a b c d : Glyph} {unit : Nat} (h : hexUnit? a b c d = some unit)
    (gs : List Glyph) : stringMarks? (some '\\' :: some 'u' :: a :: b :: c :: d :: gs) =
      withMark (.ofUnit unit) (stringMarks? gs) := by
  change (hexUnit? a b c d).bind (fun unit => (stringMarks? gs).bind _) = _
  rw [h]
  cases stringMarks? gs <;> rfl

theorem stringMarks?_none (gs : List Glyph) :
    stringMarks? (none :: gs) = withMark .stray (stringMarks? gs) := by
  change (stringMarks? gs).bind _ = _
  cases stringMarks? gs <;> rfl

theorem stringMarks?_eq_some {gs : List Glyph} {marks : List Mark} {more : List Glyph}
    (h : stringMarks? gs = some (marks, more)) :
    more <:+ gs ∧ ∀ back, stringMarks? (gs ++ back) = some (marks, more ++ back) := by
  fun_induction stringMarks? gs generalizing marks more with
  | case1 => cases h
  | case2 rest =>
    cases h
    exact ⟨List.suffix_cons _ _, fun back => rfl⟩
  | case3 a b c d rest ih =>
    simp only [bind, pure, Option.bind_eq_some_iff, Option.some.injEq, Prod.mk.injEq] at h
    obtain ⟨unit, hunit, ⟨marks, rest'⟩, hrest, rfl, rfl⟩ := h
    obtain ⟨hsuffix, happend⟩ := ih hrest
    refine ⟨hsuffix.trans (List.suffix_append [_, _, _, _, _, _] rest), fun back => ?_⟩
    exact (stringMarks?_of_unit hunit _).trans (withMark_eq_some.mpr ⟨_, happend back, rfl⟩)
  | case4 c rest _ ih =>
    simp only [bind, pure, Option.bind_eq_some_iff, Option.some.injEq, Prod.mk.injEq] at h
    obtain ⟨d, hd, ⟨marks, rest'⟩, hrest, rfl, rfl⟩ := h
    obtain ⟨hsuffix, happend⟩ := ih hrest
    refine ⟨hsuffix.trans (List.suffix_append [_, _] rest), fun back => ?_⟩
    exact (stringMarks?_of_escape hd _).trans (withMark_eq_some.mpr ⟨_, happend back, rfl⟩)
  | case5 rest ih =>
    simp only [bind, pure, Option.bind_eq_some_iff, Option.some.injEq, Prod.mk.injEq] at h
    obtain ⟨⟨marks, rest'⟩, hrest, rfl, rfl⟩ := h
    obtain ⟨hsuffix, happend⟩ := ih hrest
    refine ⟨hsuffix.trans (List.suffix_cons _ rest), fun back => ?_⟩
    exact (stringMarks?_none _).trans (withMark_eq_some.mpr ⟨_, happend back, rfl⟩)
  | case6 => cases h
  | case7 c rest hquote _ _ hplain ih =>
    simp only [bind, pure, Option.bind_eq_some_iff, Option.some.injEq, Prod.mk.injEq] at h
    obtain ⟨⟨marks, rest'⟩, hrest, rfl, rfl⟩ := h
    obtain ⟨hsuffix, happend⟩ := ih hrest
    obtain ⟨hescape, hcontrol⟩ : c ≠ '\\' ∧ ¬ c < ' ' := by simpa using hplain
    refine ⟨hsuffix.trans (List.suffix_cons _ rest), fun back => ?_⟩
    exact (stringMarks?_of_plain hquote hescape hcontrol _).trans
      (withMark_eq_some.mpr ⟨_, happend back, rfl⟩)

theorem wholeDigits?_suffix {g : Glyph} {gs more : List Glyph} {digits : List Nat}
    (h : wholeDigits? (g :: gs) = some (digits, more)) : more <:+ gs := by
  have hsuffix := takeDigits_suffix gs
  rw [wholeDigits?, takeDigits] at h
  cases hg : digit? g with
  | none => simp [hg] at h
  | some d =>
    simp only [hg] at h
    split at h
    · cases h
    · cases h
    · rwa [(Prod.ext_iff.mp (Option.some.inj h)).2] at hsuffix

theorem fractionDigits?_suffix {gs more : List Glyph} {digits : List Nat}
    (h : fractionDigits? gs = some (digits, more)) : more <:+ gs := by
  unfold fractionDigits? at h
  split at h
  · rename_i rest
    have hsuffix := takeDigits_suffix rest
    split at h
    · cases h
    · rw [Option.some.inj h] at hsuffix
      exact hsuffix.trans (List.suffix_cons _ rest)
  · cases h
    exact List.suffix_rfl

theorem exponentSign_suffix (gs : List Glyph) : (exponentSign gs).2 <:+ gs := by
  unfold exponentSign
  split
  · exact List.suffix_cons _ _
  · exact List.suffix_cons _ _
  · exact List.suffix_rfl

theorem exponent?_suffix {gs more : List Glyph} {exponent : Option Int}
    (h : exponent? gs = some (exponent, more)) : more <:+ gs := by
  match gs with
  | [] =>
    cases h
    exact List.suffix_rfl
  | none :: gs =>
    cases h
    exact List.suffix_rfl
  | some c :: gs =>
    have hsuffix := (takeDigits_suffix (exponentSign gs).2).trans (exponentSign_suffix gs)
    rw [exponent?_cons] at h
    split at h
    · split at h
      · cases h
      · rename_i hread
        cases h
        rw [hread] at hsuffix
        exact hsuffix.trans (List.suffix_cons _ gs)
    · cases h
      exact List.suffix_rfl

theorem numeral?_suffix {negative : Bool} {g : Glyph} {gs more : List Glyph} {n : Numeral}
    (h : numeral? negative (g :: gs) = some (n, more)) : more <:+ gs := by
  simp only [numeral?, bind, pure, Option.bind_eq_some_iff, Option.some.injEq, Prod.mk.injEq] at h
  obtain ⟨⟨whole, afterWhole⟩, hwhole, ⟨fraction, afterFraction⟩, hfraction,
    ⟨exponent, rest⟩, hexponent, -, rfl⟩ := h
  exact (exponent?_suffix hexponent).trans
    ((fractionDigits?_suffix hfraction).trans (wholeDigits?_suffix hwhole))

theorem numeral?_eq_none {negative : Bool} {c : Char} (h : c.isDigit = false) (gs : List Glyph) :
    numeral? negative (some c :: gs) = none := by
  simp [numeral?, wholeDigits?, takeDigits, digit?, h]

namespace Token

def ofNumeral : Option (Numeral × List Glyph) → Token × List Glyph
  | some (n, more) => (.number n, more)
  | none => (.broken, [])

def ofMarks : Option (List Mark × List Glyph) → Token × List Glyph
  | some (marks, more) => (.string ((Mark.text? marks).map String.ofList), more)
  | none => (.broken, [])

theorem read_quote (rest : List Glyph) : read '"' rest = ofMarks (stringMarks? rest) := by
  change (match stringMarks? rest with | some (marks, more) => _ | none => _) = _
  cases stringMarks? rest <;> rfl

theorem read_minus (rest : List Glyph) : read '-' rest = ofNumeral (numeral? true rest) := by
  change (match numeral? true rest with | some (n, more) => _ | none => _) = _
  cases numeral? true rest <;> rfl

theorem read_of_isDigit {c : Char} (h : c.isDigit = true) (rest : List Glyph) :
    read c rest = ofNumeral (numeral? false (some c :: rest)) := by
  unfold read
  split
  case h_12 => cases numeral? false (some c :: rest) <;> rfl
  all_goals exact absurd h (by decide)

theorem ofNumeral_append {read longer : Option (Numeral × List Glyph)} {back : List Glyph}
    (hlonger : longer = read.map fun read => (read.1, read.2 ++ back))
    (h : (ofNumeral read).1 ≠ .broken) :
    ofNumeral longer = ((ofNumeral read).1, (ofNumeral read).2 ++ back) := by
  subst hlonger
  match read with
  | none => exact absurd rfl h
  | some (n, more) => rfl

theorem read_append {c : Char} {rest back : List Glyph} (h : (read c rest).1 ≠ .broken)
    (hback : EndsNumeral back) :
    read c (rest ++ back) = ((read c rest).1, (read c rest).2 ++ back) := by
  by_cases hdigit : c.isDigit = true
  · rw [read_of_isDigit hdigit] at h ⊢
    rw [read_of_isDigit hdigit, ← List.cons_append]
    exact ofNumeral_append (numeral?_append hback false _) h
  by_cases hminus : c = '-'
  · rw [hminus, read_minus] at h ⊢
    rw [read_minus]
    exact ofNumeral_append (numeral?_append hback true _) h
  by_cases hquote : c = '"'
  · rw [hquote, read_quote] at h ⊢
    rw [read_quote]
    match hmarks : stringMarks? rest with
    | none => exact absurd (by rw [hmarks]; rfl) h
    | some (marks, more) =>
      rw [(stringMarks?_eq_some hmarks).2 back]
      rfl
  -- What is left over begins no token, or has a fixed spelling.
  revert h
  fun_cases read c rest
  case case14 | case15 =>
    intro h
    rw [numeral?_eq_none (by simpa using hdigit)] at h
    exact absurd rfl h
  all_goals first | exact fun _ => rfl | contradiction

theorem read_suffix (c : Char) (rest : List Glyph) : (read c rest).2 <:+ rest := by
  fun_cases read c rest
  case case7 | case8 => exact List.suffix_append [_, _, _] _
  case case9 => exact List.suffix_append [_, _, _, _] _
  case case10 marks more hmarks =>
    rw [hmarks]
    exact (stringMarks?_eq_some hmarks).1
  case case12 n more hn =>
    rw [hn]
    match rest with
    | g :: rest => exact (numeral?_suffix hn).trans (List.suffix_cons g rest)
  case case14 n more hn _ _ _ =>
    rw [hn]
    exact numeral?_suffix hn
  case case11 hnone | case13 hnone | case15 hnone _ _ _ =>
    rw [hnone]
    exact List.nil_suffix
  all_goals exact List.suffix_rfl

end Token

theorem tokens_space {c : Char} (h : isSpace c = true) (rest : List Glyph) :
    tokens (some c :: rest) = tokens rest := by
  simp [tokens, tokensAfter, h]

theorem tokens_cons {c : Char} (h : isSpace c = false) (rest : List Glyph) :
    tokens (some c :: rest) = (Token.read c rest).1 :: tokens (Token.read c rest).2 := by
  have hdrop := List.suffix_iff_eq_drop.mp (Token.read_suffix c rest)
  calc
    tokens (some c :: rest)
    _ = (Token.read c rest).1 ::
        tokensAfter (rest.length - (Token.read c rest).2.length) rest := if_neg (by simp [h])
    _ = (Token.read c rest).1 :: tokens (Token.read c rest).2 := by
      rw [tokensAfter_eq_drop, ← hdrop]

theorem tokens_append {front back : List Glyph} (h : Token.broken ∉ tokens front)
    (hback : EndsNumeral back) : tokens (front ++ back) = tokens front ++ tokens back := by
  match front with
  | [] => rfl
  | none :: rest => exact absurd List.mem_cons_self h
  | some c :: rest =>
    cases hc : isSpace c with
    | true =>
      rw [tokens_space hc] at h
      rw [List.cons_append, tokens_space hc, tokens_space hc, tokens_append h hback]
    | false =>
      rw [tokens_cons hc, List.mem_cons, not_or] at h
      have hshorter := (Token.read_suffix c rest).length_le
      rw [List.cons_append, tokens_cons hc, tokens_cons hc,
        Token.read_append (Ne.symm h.1) hback, List.cons_append, tokens_append h.2 hback]
  termination_by front.length

theorem tokens_intercalate {parts : List (List Glyph)}
    (h : ∀ part ∈ parts, Token.broken ∉ tokens part) {back : List Glyph}
    (hback : EndsNumeral back) :
    tokens ([some ','].intercalate parts ++ back) =
      [Token.comma].intercalate (parts.map tokens) ++ tokens back := by
  induction parts with
  | nil => rfl
  | cons part parts ih =>
    obtain ⟨hpart, hparts⟩ := List.forall_mem_cons.mp h
    match parts with
    | [] => rw [List.intercalate_singleton, tokens_append hpart hback]; simp
    | next :: parts =>
      have hcomma : EndsNumeral (some ',' :: ([some ','].intercalate (next :: parts) ++ back)) :=
        endsNumeral_cons rfl _
      simp only [List.map_cons, List.intercalate_cons_cons, List.append_assoc, List.cons_append,
        List.nil_append] at ih ⊢
      rw [tokens_append hpart hcomma, tokens_cons rfl]
      exact congrArg (tokens part ++ .comma :: ·) (ih hparts)

end SchemaWriter.Json
