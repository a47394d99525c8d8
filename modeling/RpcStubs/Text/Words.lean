import RpcStubs.Text.Alphanumeric
import RpcStubs.Text.LetterCase

/-!
# Words of a name, and the two spellings made of them

A name is cut at every character that is not alphanumeric. Inside a piece a word also ends
after a lower case character that is followed by an upper case one, and before the last upper
case character of a run that goes on in lower case: `getUser` has the words `get` and `User`,
`HTTPServer` the words `HTTP` and `Server`.
-/

namespace RpcStubs.Text

/-- The case seen last inside a word. Characters without case do not change it. -/
inductive CaseMode where
  | boundary
  | lower
  | upper
  deriving DecidableEq, Repr

def CaseMode.next (mode : CaseMode) (c : Char) : CaseMode :=
  if isLowercase c then .lower else if isUppercase c then .upper else mode

/-- Words of a piece. `word` holds the word begun so far, in reverse. -/
def pieceWords (mode : CaseMode) (word : List Char) : List Char → List (List Char)
  | [] => []
  | [c] => [(c :: word).reverse]
  | c :: d :: rest =>
    if mode.next c = .lower ∧ isUppercase d then
      (c :: word).reverse :: pieceWords .boundary [] (d :: rest)
    else if mode = .upper ∧ isUppercase c ∧ isLowercase d then
      word.reverse :: pieceWords .boundary [c] (d :: rest)
    else pieceWords (mode.next c) (c :: word) (d :: rest)

/-- The maximal alphanumeric pieces of a text, empty ones included. -/
def pieces : List Char → List (List Char)
  | [] => [[]]
  | c :: rest =>
    if isAlphanumeric c then
      match pieces rest with
      | [] => [[c]]
      | p :: ps => (c :: p) :: ps
    else [] :: pieces rest

def words (cs : List Char) : List (List Char) :=
  (pieces cs).flatMap (pieceWords .boundary [])

/-- Lower case of a word. A sigma that ends the word has its final form. -/
def lowerWord : List Char → List Char
  | [] => []
  | [c] => if c = 'Σ' then ['ς'] else toLower c
  | c :: rest => toLower c ++ lowerWord rest

/-- The first character in upper case and the others in lower case. -/
def capitalizeWord : List Char → List Char
  | [] => []
  | c :: rest => toUpper c ++ lowerWord rest

/-- Words in lower case, joined by underscores. -/
def snakeChars (cs : List Char) : List Char :=
  ['_'].intercalate ((words cs).map lowerWord)

/-- Capitalized words, joined by nothing. -/
def pascalChars (cs : List Char) : List Char :=
  (words cs).flatMap capitalizeWord

def snakeCase (s : String) : String := String.ofList (snakeChars s.toList)

def pascalCase (s : String) : String := String.ofList (pascalChars s.toList)

end RpcStubs.Text
