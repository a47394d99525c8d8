import RpcStubs.Idl.Literal
import RpcStubs.Text.Blank
import RpcStubs.Text.Quoted

/-!
# From text to token trees

The text is cut into lexemes from left to right, and delimiters are then matched. A doc comment
stands for the attribute that it abbreviates.
-/

namespace RpcStubs.Idl

open Text (isIdentStart isIdentContinue)

/-- A tree, or a delimiter whose partner is still to be found. -/
inductive Lexeme where
  | tree (t : TokenTree)
  | opening (d : Delimiter)
  | closing (d : Delimiter)
  deriving Repr

/-! ## Blanks and comments -/

/-- Blanks between tokens: White_Space and the two direction marks. -/
def isSpace (c : Char) : Bool :=
  Text.isBlank c || c.toNat == 0x200e || c.toNat == 0x200f

/-- The rest of the line, and what follows from its end on. -/
def readLine : List Char → List Char × List Char
  | [] => ([], [])
  | '\n' :: cs => ([], '\n' :: cs)
  | '\r' :: '\n' :: cs => ([], '\n' :: cs)
  | c :: cs =>
    let (line, rest) := readLine cs
    (c :: line, rest)

/-- A block comment with those nested in it, and what follows. `depth` comments are open. -/
def readComment (depth : Nat) : List Char → Option (List Char × List Char)
  | [] => none
  | '/' :: '*' :: cs =>
    (readComment (depth + 1) cs).map (fun (text, rest) => ('/' :: '*' :: text, rest))
  | '*' :: '/' :: cs =>
    if depth ≤ 1 then some (['*', '/'], cs)
    else (readComment (depth - 1) cs).map (fun (text, rest) => ('*' :: '/' :: text, rest))
  | c :: cs => (readComment depth cs).map (fun (text, rest) => (c :: text, rest))

/-- What follows a blank or a comment that documents nothing. -/
def dropBlank? : List Char → Option (List Char)
  | '/' :: '/' :: '/' :: '/' :: cs => some (readLine cs).2
  | '/' :: '/' :: '/' :: _ => none
  | '/' :: '/' :: '!' :: _ => none
  | '/' :: '/' :: cs => some (readLine cs).2
  | '/' :: '*' :: '*' :: '/' :: cs => some cs
  | cs@('/' :: '*' :: '*' :: '*' :: _) => (readComment 0 cs).map (·.2)
  | '/' :: '*' :: '*' :: _ => none
  | '/' :: '*' :: '!' :: _ => none
  | cs@('/' :: '*' :: _) => (readComment 0 cs).map (·.2)
  | c :: cs => if isSpace c then some cs else none
  | [] => none

/-- Drops blanks and comments, at most `fuel` of them. -/
def dropBlanks : Nat → List Char → List Char
  | 0, cs => cs
  | fuel + 1, cs =>
    match dropBlank? cs with
    | some rest => dropBlanks fuel rest
    | none => cs

/-- The text of a block comment without its marks. -/
def blockText (comment : List Char) : List Char :=
  (comment.drop 3).take (comment.length - 5)

/-- A doc comment: whether it belongs to what encloses it, its text, and what follows. -/
def readDoc? : List Char → Option (Bool × List Char × List Char)
  | '/' :: '/' :: '!' :: cs => some (true, readLine cs)
  | '/' :: '/' :: '/' :: cs => some (false, readLine cs)
  | cs@('/' :: '*' :: '!' :: _) =>
    (readComment 0 cs).map (fun (comment, rest) => (true, blockText comment, rest))
  | cs@('/' :: '*' :: '*' :: _) =>
    (readComment 0 cs).map (fun (comment, rest) => (false, blockText comment, rest))
  | _ => none

/-- Every carriage return is followed by a line feed. -/
def carriagesPaired : List Char → Bool
  | [] => true
  | '\r' :: '\n' :: cs => carriagesPaired cs
  | c :: cs => c != '\r' && carriagesPaired cs

/-- Text as a string literal. A nul before an octal digit is written with two digits. -/
def literalChars : List Char → List Char
  | [] => []
  | '\x00' :: cs =>
    (match cs with
     | d :: _ => if '0' ≤ d ∧ d ≤ '7' then ['\\', 'x', '0', '0'] else ['\\', '0']
     | [] => ['\\', '0']) ++ literalChars cs
  | c :: cs => Text.escapeChar c ++ literalChars cs

def literalOf (text : List Char) : Literal :=
  ⟨.string, String.ofList ('"' :: literalChars text ++ ['"'])⟩

/-- The attribute that a doc comment stands for. -/
def docTrees (inner : Bool) (text : List Char) : List TokenTree :=
  .punct '#' false :: (if inner then [.punct '!' false] else []) ++
    [.group .bracket [.ident "doc", .punct '=' false, .literal (literalOf text)]]

/-! ## Leaves -/

def isPunctChar (c : Char) : Bool := "~!@#$%^&*-=+|;:,<.>/?'".toList.contains c

/-- Does a punctuation character begin here? The first character of a comment is none. -/
def startsPunct : List Char → Bool
  | '/' :: '/' :: _ => false
  | '/' :: '*' :: _ => false
  | c :: _ => isPunctChar c
  | [] => false

/-- An identifier, raw or not, by its text and what follows it. -/
def readIdent : List Char → Option (List Char × List Char)
  | 'r' :: '#' :: cs =>
    match readWord cs with
    | some (word, rest) =>
      if ["_", "super", "self", "Self", "crate"].contains (String.ofList word) then none
      else some ('r' :: '#' :: word, rest)
    | none => none
  | cs => readWord cs

/-- Beginnings of string literals, which are no identifiers. -/
def startsString (cs : List Char) : Bool :=
  ["r\"", "r#\"", "r##", "b\"", "b'", "br\"", "br#", "c\"", "cr\"", "cr#"].any
    (·.toList.isPrefixOf cs)

/-- An apostrophe begins a lifetime if no other one follows the identifier. -/
def startsLifetime (cs : List Char) : Bool :=
  match readIdent cs with
  | none => false
  | some (_, '\'' :: _) => false
  | some (_, '#' :: _) => ['r', '#'].isPrefixOf cs
  | some _ => true

def readPunct : List Char → Option (TokenTree × List Char)
  | [] => none
  | c :: cs =>
    if startsPunct (c :: cs) then
      if c = '\'' then if startsLifetime cs then some (.punct c true, cs) else none
      else some (.punct c (startsPunct cs), cs)
    else none

def readLeaf (cs : List Char) : Option (TokenTree × List Char) :=
  match readLiteral cs with
  | some (kind, rest) =>
    some (.literal ⟨kind, String.ofList (cs.take (cs.length - rest.length))⟩, rest)
  | none =>
    match readPunct cs with
    | some found => some found
    | none =>
      if startsString cs then none
      else (readIdent cs).map (fun (word, rest) => (.ident (String.ofList word), rest))

/-! ## Lexemes and trees -/

def delimiterLexeme? (c : Char) : Option Lexeme :=
  if c = '(' then some (.opening .paren)
  else if c = '[' then some (.opening .bracket)
  else if c = '{' then some (.opening .brace)
  else if c = ')' then some (.closing .paren)
  else if c = ']' then some (.closing .bracket)
  else if c = '}' then some (.closing .brace)
  else none

/-- The lexemes that begin the text. A blank has none. -/
def readLexemes (cs : List Char) : Option (List Lexeme × List Char) :=
  match dropBlank? cs with
  | some rest => some ([], rest)
  | none =>
    match readDoc? cs with
    | some (inner, text, rest) =>
      if carriagesPaired text then some ((docTrees inner text).map .tree, rest) else none
    | none =>
      match cs with
      | [] => none
      | c :: rest =>
        match delimiterLexeme? c with
        | some lexeme => some ([lexeme], rest)
        | none => (readLeaf cs).map (fun (t, rest) => ([.tree t], rest))

/-- All lexemes of a text that has at most `fuel` of them. -/
def lexemes : Nat → List Char → Option (List Lexeme)
  | _, [] => some []
  | 0, _ :: _ => none
  | fuel + 1, c :: cs =>
    match readLexemes (c :: cs) with
    | none => none
    | some (found, rest) => (lexemes fuel rest).map (found ++ ·)

/-- Matches delimiters. `outer` holds the groups that are open, each with the trees before it,
and `trees` those of the innermost group, in reverse. -/
def nest (outer : List (Delimiter × List TokenTree)) (trees : List TokenTree) :
    List Lexeme → Option (List TokenTree)
  | [] => if outer.isEmpty then some trees.reverse else none
  | .tree t :: rest => nest outer (t :: trees) rest
  | .opening d :: rest => nest ((d, trees) :: outer) [] rest
  | .closing d :: rest =>
    match outer with
    | [] => none
    | (e, before) :: outer =>
      if d = e then nest outer (.group d trees.reverse :: before) rest else none

/-- The token trees of a text. -/
def tokenTrees (cs : List Char) : Option (List TokenTree) :=
  (lexemes (cs.length + 1) cs).bind (nest [] [])

/-! ## Beginning of a file -/

def byteOrderMark : Char := Char.ofNat 0xfeff

def dropByteOrderMark : List Char → List Char
  | c :: cs => if c = byteOrderMark then cs else c :: cs
  | [] => []

/-- A first line `#!` that is no inner attribute names an interpreter and is dropped. -/
def dropInterpreter : List Char → List Char
  | '#' :: '!' :: cs =>
    match dropBlanks (cs.length + 1) cs with
    | '[' :: _ => '#' :: '!' :: cs
    | _ => cs.dropWhile (· != '\n')
  | cs => cs

/-- The token trees of a file. -/
def fileTrees (source : String) : Option (List TokenTree) :=
  tokenTrees (dropByteOrderMark (dropInterpreter (dropByteOrderMark source.toList)))

end RpcStubs.Idl
