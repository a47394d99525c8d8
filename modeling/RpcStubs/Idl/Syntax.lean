import RpcStubs.Declaration
import RpcStubs.Idl.Token

/-!
# The parts of a declaration file that matter

Of types, patterns and items only what a declaration is made of is told apart. The rest is kept
as the trees in which it is printed.
-/

namespace RpcStubs.Idl

/-- What follows the path of an attribute. -/
inductive AttributeForm where
  | path
  | list (args : List TokenTree)
  /-- The value is given if it is a string literal and nothing else. -/
  | value (text : Option String)
  deriving Repr

structure Attribute where
  /-- The path, if it is a single identifier. -/
  name : Option String
  form : AttributeForm
  deriving Repr

mutual

/-- A type, with the trees in which it is printed. -/
inductive TypeSyntax where
  | paren (elem : TypeSyntax) (trees : List TokenTree)
  | unit (trees : List TokenTree)
  | path (path : PathSyntax) (trees : List TokenTree)
  /-- An opaque type by its bounds. Bounds other than traits are left out. -/
  | bounded (traits : List PathSyntax) (trees : List TokenTree)
  | other (trees : List TokenTree)

inductive PathSyntax where
  | mk (absolute : Bool) (segments : List SegmentSyntax)

inductive SegmentSyntax where
  | mk (name : String) (args : SegmentArgs)

inductive SegmentArgs where
  | none
  | angled (args : List ArgSyntax)
  | parenthesized

inductive ArgSyntax where
  | lifetime
  | type (type : TypeSyntax)
  | assoc (name : String) (type : TypeSyntax)
  | other

end

namespace PathSyntax

def absolute : PathSyntax → Bool
  | mk absolute _ => absolute

def segments : PathSyntax → List SegmentSyntax
  | mk _ segments => segments

end PathSyntax

namespace SegmentSyntax

def name : SegmentSyntax → String
  | mk name _ => name

def args : SegmentSyntax → SegmentArgs
  | mk _ args => args

def isPlain (s : SegmentSyntax) : Bool :=
  match s.args with
  | .none => true
  | _ => false

end SegmentSyntax

/-- No segment has arguments. -/
def PathSyntax.isPlain (p : PathSyntax) : Bool := p.segments.all SegmentSyntax.isPlain

/-- The identifier that the path consists of. -/
def PathSyntax.ident? : PathSyntax → Option String
  | .mk false [.mk name .none] => some name
  | _ => none

def TypeSyntax.trees : TypeSyntax → List TokenTree
  | paren _ trees | unit trees | path _ trees | bounded _ trees | other trees => trees

/-- A parameter's pattern: a name, or something else by the trees in which it is printed. -/
inductive PatternSyntax where
  | name (name : String)
  | other (trees : List TokenTree)

structure ParamSyntax where
  pattern : PatternSyntax
  type : TypeSyntax

/-- A signature without its receiver. -/
structure SignatureSyntax where
  name : String
  isAsync : Bool
  params : List ParamSyntax
  output : Option TypeSyntax

structure MethodSyntax where
  attrs : List Attribute
  signature : SignatureSyntax

inductive ItemSyntax where
  | trait (name : String) (attrs : List Attribute) (methods : List MethodSyntax)
  /-- An inline module. -/
  | module (name : String) (items : List ItemSyntax)
  /-- Any other item that may carry a service marker by mistake. -/
  | plain (kind : DeclKind) (name : String) (attrs : List Attribute)
  | other

end RpcStubs.Idl
