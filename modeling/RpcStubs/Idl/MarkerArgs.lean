import RpcStubs.Declaration
import RpcStubs.Idl.Literal
import RpcStubs.Idl.Parse

/-!
# Arguments of markers

Arguments stand between commas. Each is a string, which sets the name, or a key with a string.
-/

namespace RpcStubs.Idl

/-- Why arguments cannot be read. -/
inductive ArgError where
  | notIdentifier
  | reserved (word : String)
  | missingEquals
  | notString
  | missingString
  | missingComma
  deriving DecidableEq, Repr

def ArgError.message : ArgError → String
  | notIdentifier => "expected identifier"
  | reserved word => "expected identifier, found keyword `" ++ word ++ "`"
  | missingEquals => "expected `=`"
  | notString => "expected string literal"
  | missingString => "unexpected end of input, expected string literal"
  | missingComma => "expected `,`"

/-- A key, its value, and what follows. -/
abbrev ArgResult := Except ArgError ((String × String) × List TokenTree)

/-- The value of a key. -/
def readArgValue (key : String) : List TokenTree → ArgResult
  | [] => .error .missingString
  | .literal lit :: rest =>
    match lit.stringValue? with
    | some value => .ok ((key, value), rest)
    | none => .error .notString
  | _ :: _ => .error .notString

def readKeyedArg (ts : List TokenTree) : ArgResult :=
  match ts with
  | .ident word :: rest =>
    if isIdentifier word then
      match dropOperator? ['='] rest with
      | some rest => readArgValue word rest
      | none => .error .missingEquals
    else .error (.reserved word)
  | _ => .error .notIdentifier

def readArg (ts : List TokenTree) : ArgResult :=
  if nextIsString ts then readArgValue Marker.nameKey ts else readKeyedArg ts

/-- Arguments up to the end of the trees, of which there are at most `fuel`. -/
def readArgsUpTo : Nat → List TokenTree → Except ArgError (List (String × String))
  | _, [] => .ok []
  | 0, _ :: _ => .error .missingComma
  | fuel + 1, t :: ts =>
    match readArg (t :: ts) with
    | .error e => .error e
    | .ok (arg, []) => .ok [arg]
    | .ok (arg, u :: us) =>
      match dropOperator? [','] (u :: us) with
      | none => .error .missingComma
      | some rest =>
        match readArgsUpTo fuel rest with
        | .ok args => .ok (arg :: args)
        | .error e => .error e

/-- All arguments of a marker. -/
def readArgs (ts : List TokenTree) : Except ArgError (List (String × String)) :=
  readArgsUpTo ts.length ts

end RpcStubs.Idl
