/-!
# Segments of a qualified name

A qualified name is cut at every `::`, from left to right. The base name is what follows the
last `::`.
-/

namespace RpcStubs.Text

/-- The parts between the separators `::`, empty ones included. -/
def segments : List Char → List (List Char)
  | [] => [[]]
  | ':' :: ':' :: rest => [] :: segments rest
  | c :: rest =>
    match segments rest with
    | [] => [[c]]
    | s :: ss => (c :: s) :: ss

/-- What stands before the first `::`. -/
def untilColons : List Char → List Char
  | ':' :: ':' :: _ => []
  | c :: rest => c :: untilColons rest
  | [] => []

/-- What follows the last `::`, or the whole name. -/
def baseSegment (cs : List Char) : List Char := (untilColons cs.reverse).reverse

/-- The segments of a name that are not empty. -/
def nameSegments (s : String) : List String :=
  ((segments s.toList).filter (!·.isEmpty)).map String.ofList

/-- The text without `suffix`, if it ends in it. -/
def dropSuffix? (suffix cs : List Char) : Option (List Char) :=
  if suffix.isSuffixOf cs then some (cs.take (cs.length - suffix.length)) else none

end RpcStubs.Text
