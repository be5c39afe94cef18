import SchemaWriter.Json.Numeral

namespace SchemaWriter.Json

/-- A string token has no content if its bytes or its surrogate escapes make up no text. -/
inductive Token where
  | openBracket
  | closeBracket
  | openBrace
  | closeBrace
  | colon
  | comma
  | null
  | bool (value : Bool)
  | number (literal : Numeral)
  | string (content : Option String)
  | broken
  deriving DecidableEq, Repr

abbrev Glyph := Option Char

def isSpace (c : Char) : Bool :=
  c = ' ' || c = '\t' || c = '\n' || c = '\r'

def digit? : Glyph → Option Nat
  | some c => if c.isDigit then some (c.toNat - '0'.toNat) else none
  | none => none

def takeDigits : List Glyph → List Nat × List Glyph
  | [] => ([], [])
  | g :: gs =>
    match digit? g with
    | some d => ((d :: (takeDigits gs).1), (takeDigits gs).2)
    | none => ([], g :: gs)

def hexDigit? : Glyph → Option Nat
  | some c =>
    if c.isDigit then some (c.toNat - '0'.toNat)
    else if 'a' ≤ c && c ≤ 'f' then some (c.toNat - 'a'.toNat + 10)
    else if 'A' ≤ c && c ≤ 'F' then some (c.toNat - 'A'.toNat + 10)
    else none
  | none => none

def hexUnit? (a b c d : Glyph) : Option Nat := do
  return (((← hexDigit? a) * 16 + (← hexDigit? b)) * 16 + (← hexDigit? c)) * 16 + (← hexDigit? d)

inductive Mark where
  | char (c : Char)
  | half (unit : Nat)
  | stray
  deriving DecidableEq, Repr

def Mark.ofUnit (unit : Nat) : Mark :=
  if 0xD800 ≤ unit && unit < 0xE000 then .half unit else .char (Char.ofNat unit)

def Mark.text? : List Mark → Option (List Char)
  | [] => some []
  | .char c :: marks => (text? marks).map (c :: ·)
  | .half high :: .half low :: marks =>
    if high < 0xDC00 && 0xDC00 ≤ low then
      (text? marks).map (Char.ofNat (0x10000 + (high - 0xD800) * 0x400 + (low - 0xDC00)) :: ·)
    else none
  | _ => none

def escape? : Char → Option Char
  | '"' => some '"'
  | '\\' => some '\\'
  | '/' => some '/'
  | 'b' => some '\x08'
  | 'f' => some '\x0c'
  | 'n' => some '\n'
  | 'r' => some '\r'
  | 't' => some '\t'
  | _ => none

def stringMarks? : List Glyph → Option (List Mark × List Glyph)
  | [] => none
  | some '"' :: rest => some ([], rest)
  | some '\\' :: some 'u' :: a :: b :: c :: d :: rest => do
    let unit ← hexUnit? a b c d
    let (marks, rest) ← stringMarks? rest
    return (.ofUnit unit :: marks, rest)
  | some '\\' :: some c :: rest => do
    let c ← escape? c
    let (marks, rest) ← stringMarks? rest
    return (.char c :: marks, rest)
  | none :: rest => do
    let (marks, rest) ← stringMarks? rest
    return (.stray :: marks, rest)
  | some c :: rest =>
    if c = '\\' || c < ' ' then none
    else do
      let (marks, rest) ← stringMarks? rest
      return (.char c :: marks, rest)

def wholeDigits? (gs : List Glyph) : Option (List Nat × List Glyph) :=
  match takeDigits gs with
  | ([], _) => none
  | (0 :: _ :: _, _) => none
  | read => some read

def fractionDigits? : List Glyph → Option (List Nat × List Glyph)
  | some '.' :: gs =>
    match takeDigits gs with
    | ([], _) => none
    | read => some read
  | gs => some ([], gs)

def decimalValue (digits : List Nat) : Nat :=
  digits.foldl (fun n d => 10 * n + d) 0

def exponent? : List Glyph → Option (Option Int × List Glyph)
  | some c :: gs =>
    if c = 'e' || c = 'E' then
      let (negative, gs) := match gs with
        | some '-' :: more => (true, more)
        | some '+' :: more => (false, more)
        | _ => (false, gs)
      match takeDigits gs with
      | ([], _) => none
      | (digits, rest) =>
        let size : Int := decimalValue digits
        some (some (if negative then -size else size), rest)
    else some (none, some c :: gs)
  | gs => some (none, gs)

def numeral? (negative : Bool) (gs : List Glyph) : Option (Numeral × List Glyph) := do
  let (whole, gs) ← wholeDigits? gs
  let (fraction, gs) ← fractionDigits? gs
  let (exponent, gs) ← exponent? gs
  return (⟨negative, whole, fraction, exponent⟩, gs)

def Token.read (c : Char) (rest : List Glyph) : Token × List Glyph :=
  match c, rest with
  | '[', _ => (.openBracket, rest)
  | ']', _ => (.closeBracket, rest)
  | '{', _ => (.openBrace, rest)
  | '}', _ => (.closeBrace, rest)
  | ':', _ => (.colon, rest)
  | ',', _ => (.comma, rest)
  | 'n', some 'u' :: some 'l' :: some 'l' :: more => (.null, more)
  | 't', some 'r' :: some 'u' :: some 'e' :: more => (.bool true, more)
  | 'f', some 'a' :: some 'l' :: some 's' :: some 'e' :: more => (.bool false, more)
  | '"', _ =>
    match stringMarks? rest with
    | some (marks, more) => (.string ((Mark.text? marks).map String.ofList), more)
    | none => (.broken, [])
  | '-', _ =>
    match numeral? true rest with
    | some (n, more) => (.number n, more)
    | none => (.broken, [])
  | _, _ =>
    match numeral? false (some c :: rest) with
    | some (n, more) => (.number n, more)
    | none => (.broken, [])

def tokensAfter : Nat → List Glyph → List Token
  | _, [] => []
  | skip + 1, _ :: rest => tokensAfter skip rest
  | 0, none :: _ => [.broken]
  | 0, some c :: rest =>
    if isSpace c then tokensAfter 0 rest
    else
      let (token, more) := Token.read c rest
      token :: tokensAfter (rest.length - more.length) rest

def tokens : List Glyph → List Token :=
  tokensAfter 0

theorem tokensAfter_eq_drop (skip : Nat) (gs : List Glyph) :
    tokensAfter skip gs = tokens (gs.drop skip) := by
  induction gs generalizing skip with
  | nil => cases skip <;> rfl
  | cons g gs ih =>
    cases skip with
    | zero => rfl
    | succ skip => simpa [tokensAfter] using ih skip

def glyphs (s : String) : List Glyph :=
  s.toList.map some

end SchemaWriter.Json
