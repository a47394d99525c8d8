import RpcStubs.Toml.Number
import RpcStubs.Toml.Table

/-!
# Configuration texts

A text is a sequence of lines with keys and values or headers of tables.
-/

namespace RpcStubs.Toml

open Json (Value)

/-! ## Values -/

/-- Elements between commas, the last of which may be followed by one. -/
def elements (value : Scan Value) : Nat → Scan (List Value)
  | 0 => fail
  | fuel + 1 => do
    allBlanks
    if ← accept [']'] then return []
    let first ← value
    allBlanks
    if ← accept [','] then
      let rest ← elements value fuel
      return first :: rest
    else
      expect [']']
      return [first]

/-- A key and its value. -/
def pair (value : Scan Value) : Scan ((List String × String) × Value) := do
  let name ← key
  expect ['=']
  blanks
  let v ← value
  return (name, v)

/-- Pairs between commas on one line. -/
def pairs (value : Scan Value) : Nat → Table → Scan Table
  | 0, _ => fail
  | fuel + 1, table => do
    let ((path, name), v) ← pair value
    match table.insert path name v with
    | none => fail
    | some table =>
      blanks
      if ← accept [','] then pairs value fuel table
      else
        expect ['}']
        return table

/-- A value nested at most `depth` deep. -/
def valueUpTo : Nat → Scan Value
  | 0 => fail
  | depth + 1 => do
    match ← peek with
    | none => fail
    | some c =>
      if c = '"' || c = '\'' then return .string (← string)
      else if (c = '[' || c = '{') && depth = 0 then fail
      else if c = '[' then
        drop 1
        return .array (← elements (valueUpTo depth) ((← get).length + 1))
      else if c = '{' then
        drop 1
        blanks
        if ← accept ['}'] then return .object []
        else
          let table ← pairs (valueUpTo depth) ((← get).length + 1) .empty
          return table.toValue
      else
        let word ← takeWhile (fun c => c.isLower)
        if word = "true".toList then return .bool true
        else if word = "false".toList then return .bool false
        else
          modify (word ++ ·)
          return .number (← plainWord)

/-- Lists and tables nest less deep than the limit. -/
def value : Scan Value := valueUpTo depthLimit

/-! ## Lines -/

/-- A header behind its first bracket. -/
def header (d : Draft) : Scan Draft := do
  let several ← accept ['[']
  let (path, name) ← key
  expect (if several then [']', ']'] else [']'])
  lineEnd
  match if several then d.openElement path name else d.openTable path name with
  | some d => return d
  | none => fail

/-- A line of a text. -/
def line (d : Draft) : Scan Draft := do
  blanks
  match ← peek with
  | none => return d
  | some c =>
    if c = '#' || c = '\n' || c = '\r' then
      lineEnd
      return d
    else if c = '[' then
      drop 1
      header d
    else
      let ((path, name), v) ← pair value
      lineEnd
      match d.insert path name v with
      | some d => return d
      | none => fail

def linesUpTo : Nat → Draft → Scan Draft
  | 0, _ => fail
  | fuel + 1, d => do
    if ← atEnd then return d
    let d ← line d
    linesUpTo fuel d

/-- A mark of the byte order may come first. -/
def dropMark : List Char → List Char
  | c :: cs => if c.toNat = 0xfeff then cs else c :: cs
  | [] => []

/-- The value of a text, if it is one. -/
def parse? (source : String) : Option Value := do
  let cs := dropMark source.toList
  let (d, _) ← linesUpTo (cs.length + 1) .empty cs
  let table ← d.finish
  return table.toValue

end RpcStubs.Toml
