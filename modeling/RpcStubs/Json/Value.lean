/-!
# Documents

Values of a document, and their text in the JSON format. The fields of an object keep the order
in which they are given.
-/

namespace RpcStubs.Json

inductive Value where
  | null
  | bool (b : Bool)
  /-- A number, or another plain value, by its text. -/
  | number (text : String)
  | string (text : String)
  | array (elems : List Value)
  | object (fields : List (String × Value))
  deriving Inhabited, Repr

/-! ## Strings -/

/-- The four hexadecimal digits of a code point below 65536. -/
def hexDigits4 (n : Nat) : List Char :=
  [Nat.digitChar (n / 4096 % 16), Nat.digitChar (n / 256 % 16), Nat.digitChar (n / 16 % 16),
    Nat.digitChar (n % 16)]

/-- Quotes, backslashes and control characters are escaped. -/
def escapeChar (c : Char) : List Char :=
  if c = '"' then ['\\', '"']
  else if c = '\\' then ['\\', '\\']
  else if c = '\x08' then ['\\', 'b']
  else if c = '\x0c' then ['\\', 'f']
  else if c = '\n' then ['\\', 'n']
  else if c = '\r' then ['\\', 'r']
  else if c = '\t' then ['\\', 't']
  else if c.toNat < 0x20 then '\\' :: 'u' :: hexDigits4 c.toNat
  else [c]

def quote (s : String) : List Char := '"' :: (s.toList.flatMap escapeChar ++ ['"'])

namespace Value

/-! ## Compact text -/

mutual

def compact : Value → List Char
  | null => "null".toList
  | bool true => "true".toList
  | bool false => "false".toList
  | number text => text.toList
  | string text => quote text
  | array elems => '[' :: (compactElems elems ++ [']'])
  | object fields => '{' :: (compactFields fields ++ ['}'])

def compactElems : List Value → List Char
  | [] => []
  | [v] => v.compact
  | v :: vs => v.compact ++ ',' :: compactElems vs

def compactFields : List (String × Value) → List Char
  | [] => []
  | [(key, v)] => quote key ++ ':' :: v.compact
  | (key, v) :: fields => quote key ++ ':' :: (v.compact ++ ',' :: compactFields fields)

end

/-! ## Indented text -/

/-- A new line, indented by two blanks a level. -/
def newline (depth : Nat) : List Char := '\n' :: List.replicate (2 * depth) ' '

mutual

/-- Each element and field is on a line of its own. -/
def pretty (depth : Nat) : Value → List Char
  | null => "null".toList
  | bool true => "true".toList
  | bool false => "false".toList
  | number text => text.toList
  | string text => quote text
  | array [] => ['[', ']']
  | array elems => '[' :: (prettyElems (depth + 1) elems ++ newline depth ++ [']'])
  | object [] => ['{', '}']
  | object fields => '{' :: (prettyFields (depth + 1) fields ++ newline depth ++ ['}'])

def prettyElems (depth : Nat) : List Value → List Char
  | [] => []
  | [v] => newline depth ++ v.pretty depth
  | v :: vs => newline depth ++ v.pretty depth ++ ',' :: prettyElems depth vs

def prettyFields (depth : Nat) : List (String × Value) → List Char
  | [] => []
  | [(key, v)] => newline depth ++ quote key ++ ':' :: ' ' :: v.pretty depth
  | (key, v) :: fields =>
    newline depth ++ quote key ++ ':' :: ' ' :: (v.pretty depth ++ ',' :: prettyFields depth fields)

end

def compactText (v : Value) : String := String.ofList v.compact

def prettyText (v : Value) : String := String.ofList (v.pretty 0)

/-- A list of strings. -/
def strings (texts : List String) : Value := array (texts.map string)

/-- A string, or null if there is none. -/
def ofOption (text : Option String) : Value :=
  match text with
  | some text => string text
  | none => null

/-- The field of a name. -/
def field? (name : String) : Value → Option Value
  | object fields => (fields.find? (·.1 == name)).map (·.2)
  | _ => none

end Value

end RpcStubs.Json
