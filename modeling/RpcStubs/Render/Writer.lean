import RpcStubs.Render.Line

/-!
# Indented text

Source text is written line by line. An opening line indents what follows it and a closing line
ends that again.
-/

namespace RpcStubs

inductive Step where
  | line (content : Line)
  /-- A line that begins a block. -/
  | opening (content : Line)
  /-- A line that ends a block. -/
  | closing (text : String)
  deriving DecidableEq, Repr

namespace Step

def content : Step → Line
  | line content => content
  | opening content => content
  | closing text => [.text text]

def text (step : Step) : String := step.content.shown

/-- A line without marks. -/
def plain (text : String) : Step := line [.text text]

@[simp] theorem text_plain (t : String) : (plain t).text = t := by
  simp [plain, text, content, Line.shown, Piece.shown, String.join]

end Step

structure Writer where
  text : String
  depth : Nat
  deriving DecidableEq, Repr

namespace Writer

def empty : Writer := ⟨"", 0⟩

/-- Four spaces for each open block. -/
def indentation : Nat → String
  | 0 => ""
  | n + 1 => "    " ++ indentation n

/-- One line at the current depth. An empty line is not indented. -/
def line (w : Writer) (text : String) : Writer :=
  if text.isEmpty then { w with text := w.text ++ "\n" }
  else { w with text := w.text ++ indentation w.depth ++ text ++ "\n" }

def opening (w : Writer) (text : String) : Writer :=
  let w := w.line text
  { w with depth := w.depth + 1 }

/-- At depth 0 the line stays there. -/
def closing (w : Writer) (text : String) : Writer := { w with depth := w.depth - 1 }.line text

def step (w : Writer) (step : Step) : Writer :=
  match step with
  | .line _ => w.line step.text
  | .opening _ => w.opening step.text
  | .closing _ => w.closing step.text

/-- The text so far, and a writer that starts anew. -/
def take (w : Writer) : String × Writer := (w.text, empty)

/-- Length of the text in bytes. -/
def position (w : Writer) : Nat := w.text.utf8ByteSize

def run (w : Writer) (steps : List Step) : Writer := steps.foldl step w

end Writer

/-- A block: a line that opens it, what is inside, and a line that closes it. -/
def block (first : Line) (body : List Step) (last : String) : List Step :=
  .opening first :: body ++ [.closing last]

/-- The text of a list of steps. -/
def Step.render (steps : List Step) : String := (Writer.empty.run steps).take.1

end RpcStubs
