import RpcStubs.Json.Scan
import RpcStubs.SortedMap

/-!
# Reading typed values

A reader takes a value of one type from a text. A record is read from an object, in which unknown
fields are skipped, or from the list of its fields in order. The first fault of the text counts.
-/

namespace RpcStubs.Json

/-- A reader is told how many more levels of nesting there may be. -/
abbrev Reader (α : Type) := Nat → Scan α

/-- Levels of nesting that a text may not reach. -/
def depthLimit : Nat := 128

/-- The levels that are left inside of a list or object. -/
def enter (depth : Nat) : Scan Nat :=
  if depth ≤ 1 then fault .recursionLimit else return depth - 1

/-! ## Skipping -/

/-- Something that is open around a skipped value. -/
inductive Frame where
  | list
  | object
  deriving DecidableEq, Repr

namespace Frame

def closer : Frame → Char
  | list => ']'
  | object => '}'

def endsEarly : Frame → Cause
  | list => .endInList
  | object => .endInObject

def notClosed : Frame → Cause
  | list => .expectedListEnd
  | object => .expectedObjectEnd

end Frame

def colon : Scan Unit := do
  match ← peek with
  | some ':' => drop
  | some _ => fault .expectedColon
  | none => fault .endInObject

/-- What stands before a value inside of a frame: a key and a colon, or nothing. -/
def skipKey : Frame → Scan Unit
  | .list => return
  | .object => do
    match ← peek with
    | some '"' =>
      drop
      skipString
      colon
    | some _ => fault .keyNotString
    | none => fault .endInObject

/-- A value that is neither a list nor an object, of which `c` is the first character. -/
def skipScalar (c : Char) : Scan Unit := do
  if c = 'n' then
    drop
    word "ull".toList
  else if c = 't' then
    drop
    word "rue".toList
  else if c = 'f' then
    drop
    word "alse".toList
  else if c = '-' then
    drop
    skipNumber
  else if isDigit c then skipNumber
  else if c = '"' then
    drop
    skipString
  else fault .expectedValue

mutual

/-- Skips a value, and then what is left of the frames around it. -/
def skipUpTo : Nat → List Frame → Scan Unit
  | 0, _ => fault .endInValue
  | fuel + 1, frames => do
    match ← peek with
    | none => fault .endInValue
    | some c =>
      if c = '[' then
        drop
        closeUpTo fuel false (.list :: frames)
      else if c = '{' then
        drop
        closeUpTo fuel false (.object :: frames)
      else
        skipScalar c
        closeUpTo fuel true frames

/-- Goes on inside of frames, of which the innermost is the first. A comma may come next if a
value has been skipped in it. -/
def closeUpTo : Nat → Bool → List Frame → Scan Unit
  | _, _, [] => return
  | 0, _, _ :: _ => fault .endInValue
  | fuel + 1, comma, frame :: frames => do
    match ← peek with
    | none => fault frame.endsEarly
    | some c =>
      if c = ',' && comma then
        drop
        skipKey frame
        skipUpTo fuel (frame :: frames)
      else if c = frame.closer then
        drop
        closeUpTo fuel true frames
      else if comma then fault frame.notClosed
      else
        skipKey frame
        skipUpTo fuel (frame :: frames)

end

/-- Any value, without a limit on its nesting. -/
def skipValue : Scan Unit := do skipUpTo (2 * (← get).length + 2) []

/-! ## Plain values -/

/-- The fault of a value of another type, of which `c` is the first character. -/
def wrongType {α : Type} (expected : String) (c : Char) : Scan α := do
  if c = 'n' then
    drop
    word "ull".toList
    fault (.wrongType .null expected)
  else if c = 't' then
    drop
    word "rue".toList
    fault (.wrongType (.bool true) expected)
  else if c = 'f' then
    drop
    word "alse".toList
    fault (.wrongType (.bool false) expected)
  else if c = '-' then
    drop
    let n ← number true
    fault (.wrongType n.found expected)
  else if isDigit c then
    let n ← number false
    fault (.wrongType n.found expected)
  else if c = '"' then
    drop
    let text ← stringBody
    fault (.wrongType (.string text) expected)
  else if c = '[' then fault (.wrongType .sequence expected)
  else if c = '{' then fault (.wrongType .map expected)
  else fault .expectedValue

/-- Goes on with the first character of a value. -/
def withNext {α : Type} (read : Char → Scan α) : Scan α := do
  match ← peek with
  | some c => read c
  | none => fault .endInValue

/-- A string, where something described is expected. -/
def stringAs (expected : String) : Scan String :=
  withNext (fun c =>
    if c = '"' then do
      drop
      stringBody
    else wrongType expected c)

def string : Reader String := fun _ => stringAs "a string"

def bool : Reader Bool := fun _ =>
  withNext (fun c =>
    if c = 't' then do
      drop
      word "rue".toList
      return true
    else if c = 'f' then do
      drop
      word "alse".toList
      return false
    else wrongType "a boolean" c)

def unit : Reader Unit := fun _ =>
  withNext (fun c =>
    if c = 'n' then do
      drop
      word "ull".toList
    else wrongType "unit" c)

/-- A value or null. -/
def nullable {α : Type} (r : Reader α) : Reader (Option α) := fun depth => do
  match ← peek with
  | some 'n' =>
    drop
    word "ull".toList
    return none
  | _ =>
    let a ← r depth
    return some a

/-! ## Lists -/

/-- Does another element follow? -/
def hasElement (first : Bool) : Scan Bool := do
  match ← peek with
  | none => fault .endInList
  | some c =>
    if c = ']' then return false
    else if first then return true
    else if c = ',' then
      drop
      match ← peek with
      | some ']' => fault .trailingComma
      | some _ => return true
      | none => fault .endInValue
    else fault .expectedListEnd

/-- The end of a list of which all that is known has been read. -/
def endList : Scan Unit := do
  match ← peek with
  | some ']' => drop
  | some ',' =>
    drop
    if (← peek) = some ']' then fault .trailingComma else fault .trailingCharacters
  | some _ => fault .trailingCharacters
  | none => fault .endInList

def elementsUpTo {α : Type} (read : Scan α) : Nat → Bool → Scan (List α)
  | 0, _ => fault .endInList
  | fuel + 1, first => do
    if ← hasElement first then
      let a ← read
      let rest ← elementsUpTo read fuel false
      return a :: rest
    else return []

def listOf {α : Type} (r : Reader α) : Reader (List α) := fun depth =>
  withNext (fun c =>
    if c = '[' then do
      let depth ← enter depth
      drop
      let elems ← elementsUpTo (r depth) ((← get).length + 1) true
      endList
      return elems
    else wrongType "a sequence" c)

/-! ## Objects -/

/-- Does another key follow? -/
def hasKey (first : Bool) : Scan Bool := do
  match ← peek with
  | none => fault .endInObject
  | some c =>
    if c = '}' then return false
    else if first then if c = '"' then return true else fault .keyNotString
    else if c = ',' then
      drop
      match ← peek with
      | some '"' => return true
      | some '}' => fault .trailingComma
      | some _ => fault .keyNotString
      | none => fault .endInValue
    else fault .expectedObjectEnd

/-- A key that is known to follow. -/
def key : Scan String := do
  drop
  stringBody

def endObject : Scan Unit := do
  match ← peek with
  | some '}' => drop
  | some ',' => fault .trailingComma
  | some _ => fault .trailingCharacters
  | none => fault .endInObject

def entriesUpTo {α : Type} (read : Scan α) : Nat → Bool → Scan (List (String × α))
  | 0, _ => fault .endInObject
  | fuel + 1, first => do
    if ← hasKey first then
      let name ← key
      colon
      let a ← read
      let rest ← entriesUpTo read fuel false
      return (name, a) :: rest
    else return []

/-- An object of any keys. The last of equal keys wins. -/
def mapOf {α : Type} (r : Reader α) : Reader (SortedMap α) := fun depth =>
  withNext (fun c =>
    if c = '{' then do
      let depth ← enter depth
      drop
      let entries ← entriesUpTo (r depth) ((← get).length + 1) true
      endObject
      return .ofList entries
    else wrongType "a map" c)

/-! ## Records -/

/-- A field of a record that is read into a draft `σ`. -/
structure Field (σ : Type) where
  name : String
  required : Bool
  isSet : σ → Bool
  /-- Reads the value and gives how the draft changes. -/
  read : Reader (σ → σ)

structure Record (σ α : Type) where
  name : String
  fields : List (Field σ)
  empty : σ
  /-- The record of a draft in which all required fields are set. -/
  finish : σ → Option α

namespace Record

variable {σ α : Type}

def expected (r : Record σ α) : String := "struct " ++ r.name

/-- Reads fields by their names. -/
def fieldsUpTo (r : Record σ α) (depth : Nat) : Nat → Bool → σ → Scan σ
  | 0, _, _ => fault .endInObject
  | fuel + 1, first, draft => do
    if ← hasKey first then
      let name ← key
      match r.fields.find? (·.name == name) with
      | some field =>
        if field.isSet draft then fault (.duplicateField name)
        else
          colon
          let update ← field.read depth
          r.fieldsUpTo depth fuel false (update draft)
      | none =>
        colon
        skipValue
        r.fieldsUpTo depth fuel false draft
    else return draft

/-- Reads fields in order. Those that are not required may be missing at the end. -/
def positional (r : Record σ α) (depth : Nat) : List (Field σ) → Nat → Bool → σ → Scan σ
  | [], _, _, draft => return draft
  | field :: fields, index, first, draft => do
    if ← hasElement first then
      let update ← field.read depth
      r.positional depth fields (index + 1) false (update draft)
    else if field.required then
      fault (.wrongLength index
        (r.expected ++ " with " ++ toString r.fields.length ++ " elements"))
    else r.positional depth fields (index + 1) first draft

/-- The record of a draft, unless a required field is missing. -/
def complete (r : Record σ α) (draft : σ) : Scan α :=
  match r.fields.find? (fun f => f.required && !f.isSet draft) with
  | some field => fault (.missingField field.name)
  | none =>
    match r.finish draft with
    | some a => return a
    | none => fault .expectedValue

def reader (r : Record σ α) : Reader α := fun depth =>
  withNext (fun c =>
    if c = '[' then do
      let depth ← enter depth
      drop
      let draft ← r.positional depth r.fields 0 true r.empty
      let a ← r.complete draft
      endList
      return a
    else if c = '{' then do
      let depth ← enter depth
      drop
      let draft ← r.fieldsUpTo depth ((← get).length + 1) true r.empty
      let a ← r.complete draft
      endObject
      return a
    else wrongType r.expected c)

end Record

/-! ## Choices -/

/-- One of some names. -/
def variant {α : Type} (variants : List (String × α)) : Scan α := do
  let name ← stringAs "variant identifier"
  match variants.find? (·.1 == name) with
  | some (_, a) => return a
  | none => fault (.unknownVariant name (variants.map (·.1)))

/-- A name, or an object that has it as its only key, with null as the value. -/
def choice {α : Type} (variants : List (String × α)) : Reader α := fun depth =>
  withNext (fun c =>
    if c = '{' then do
      let depth ← enter depth
      drop
      let a ← variant variants
      colon
      unit depth
      match ← peek with
      | some '}' =>
        drop
        return a
      | some _ => fault .expectedValue
      | none => fault .endInObject
    else if c = '"' then variant variants
    else fault .expectedValue)

/-! ## Documents -/

/-- A value and nothing else. -/
def whole {α : Type} (r : Reader α) : Scan α := do
  let a ← r depthLimit
  match ← peek with
  | some _ => fault .trailingCharacters
  | none => return a

/-- The value of a text, or what is wrong with it. -/
def parse {α : Type} (r : Reader α) (source : String) : Except String α :=
  match whole r source.toList with
  | .ok (a, _) => .ok a
  | .error f => .error (f.message source.toList)

end RpcStubs.Json
