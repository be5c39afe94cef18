import SchemaWriter.Text.Alphanumeric
import SchemaWriter.Text.CaseMap
import SchemaWriter.Text.Basic

namespace SchemaWriter.Naming

open SchemaWriter.Text

inductive Mode where
  | boundary
  | lower
  | upper
  deriving DecidableEq, Repr

def Mode.after (mode : Mode) (c : Char) : Mode :=
  if isLowercase c then .lower else if isUppercase c then .upper else mode

def cutWords : Mode → List Char → List (List Char)
  | _, [] => []
  | _, [c] => [[c]]
  | mode, c :: next :: rest =>
    if mode.after c = .lower && isUppercase next then
      [c] :: cutWords .boundary (next :: rest)
    else if mode = .upper && isUppercase c && isLowercase next then
      [] :: attach c (cutWords .boundary (next :: rest))
    else
      attach c (cutWords (mode.after c) (next :: rest))

theorem flatten_cutWords (mode : Mode) (cs : List Char) : (cutWords mode cs).flatten = cs := by
  fun_induction cutWords mode cs <;> simp_all [flatten_attach]

def words (name : List Char) : List (List Char) :=
  (splitWhere (fun c => !isAlphanumeric c) name).flatMap (cutWords .boundary)

theorem flatten_words (name : List Char) : (words name).flatten = name.filter isAlphanumeric := by
  have cut : ∀ pieces : List (List Char),
      (pieces.flatMap (cutWords .boundary)).flatten = pieces.flatten := by
    intro pieces
    induction pieces with
    | nil => rfl
    | cons piece pieces ih => simp [flatten_cutWords, ih]
  rw [words, cut, flatten_splitWhere]
  simp

theorem words_append_cons {c : Char} (hc : isAlphanumeric c = false) (xs ys : List Char) :
    words (xs ++ c :: ys) = words xs ++ words ys := by
  rw [words, splitWhere_append_cons (by simp [hc]), List.flatMap_append]
  rfl

def lowerWord : List Char → List Char
  | [] => []
  | ['Σ'] => ['ς']
  | c :: cs => lowerChar c ++ lowerWord cs

def capitalWord : List Char → List Char
  | [] => []
  | c :: cs => upperChar c ++ lowerWord cs

def kebab (name : List Char) : List Char :=
  ['-'].intercalate ((words name).map lowerWord)

def lowerCamel (name : List Char) : List Char :=
  match words name with
  | [] => []
  | first :: rest => lowerWord first ++ rest.flatMap capitalWord

end SchemaWriter.Naming
