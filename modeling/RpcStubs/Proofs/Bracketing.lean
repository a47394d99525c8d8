import Mathlib
import RpcStubs.Render.Source

/-!
# Blocks of generated files

A file is written line by line, and a line may open a block or close one. In every file each block
that is opened is closed again, inside out, so that the indentation of a line counts the blocks
around it.
-/

namespace RpcStubs

/-! ## Opening and closing lines -/

namespace Step

def isOpening : Step → Bool
  | opening _ => true
  | _ => false

def isClosing : Step → Bool
  | closing _ => true
  | _ => false

def opened (steps : List Step) : Nat := steps.countP isOpening

def closed (steps : List Step) : Nat := steps.countP isClosing

/-- The blocks that are open around the text of a step. A closing line stands outside of the block
that it closes. -/
def around (before : List Step) (step : Step) : Nat := opened before - closed (before ++ [step])

def written (depth : Nat) (step : Step) : String :=
  (if step.text.isEmpty then "" else String.ofList (List.replicate (4 * depth) ' ') ++ step.text) ++
    "\n"

def writtenAfter (before : List Step) : List Step → String
  | [] => ""
  | step :: steps => step.written (around before step) ++ writtenAfter (before ++ [step]) steps

theorem opened_append (xs ys : List Step) : opened (xs ++ ys) = opened xs + opened ys :=
  List.countP_append

theorem closed_append (xs ys : List Step) : closed (xs ++ ys) = closed xs + closed ys :=
  List.countP_append

theorem opened_concat (steps : List Step) (step : Step) :
    opened (steps ++ [step]) = opened steps + if step.isOpening then 1 else 0 := by
  rw [opened_append, opened, opened, List.countP_singleton]

theorem closed_concat (steps : List Step) (step : Step) :
    closed (steps ++ [step]) = closed steps + if step.isClosing then 1 else 0 := by
  rw [closed_append, closed, closed, List.countP_singleton]

theorem opened_block (first : Line) (body : List Step) (last : String) :
    opened (block first body last) = opened body + 1 := by
  rw [block, opened_concat, opened, List.countP_cons]
  rfl

theorem closed_block (first : Line) (body : List Step) (last : String) :
    closed (block first body last) = closed body + 1 := by
  rw [block, closed_concat, closed, List.countP_cons]
  rfl

end Step

namespace Writer

theorem run_append (w : Writer) (xs ys : List Step) : w.run (xs ++ ys) = (w.run xs).run ys :=
  List.foldl_append

theorem run_concat (w : Writer) (steps : List Step) (step : Step) :
    w.run (steps ++ [step]) = (w.run steps).step step :=
  w.run_append steps [step]

theorem run_block (w : Writer) (first : Line) (body : List Step) (last : String) :
    w.run (block first body last) =
      ((w.step (.opening first)).run body).step (.closing last) :=
  w.run_concat (.opening first :: body) (.closing last)

@[simp] theorem depth_line (w : Writer) (text : String) : (w.line text).depth = w.depth := by
  unfold line
  split <;> rfl

@[simp] theorem depth_step_line (w : Writer) (content : Line) :
    (w.step (.line content)).depth = w.depth := w.depth_line _

@[simp] theorem depth_step_opening (w : Writer) (content : Line) :
    (w.step (.opening content)).depth = w.depth + 1 := by
  simp [step, opening]

@[simp] theorem depth_step_closing (w : Writer) (text : String) :
    (w.step (.closing text)).depth = w.depth - 1 := by
  simp [step, closing]

theorem indentation_eq (depth : Nat) :
    indentation depth = String.ofList (List.replicate (4 * depth) ' ') := by
  induction depth with
  | zero => rfl
  | succ depth ih =>
    have hspaces : List.replicate (4 * (depth + 1)) ' ' =
        [' ', ' ', ' ', ' '] ++ List.replicate (4 * depth) ' ' := by
      rw [Nat.mul_add, Nat.add_comm, List.replicate_add]
      rfl
    rw [indentation, ih, hspaces, String.ofList_append]

theorem text_step_eq (w : Writer) (step : Step) :
    (w.step step).text =
      w.text ++ step.written (if step.isClosing then w.depth - 1 else w.depth) := by
  have hline : ∀ v : Writer, (v.line step.text).text = v.text ++ step.written v.depth := by
    intro v
    rw [Writer.line, Step.written, indentation_eq]
    split
    · simp
    · simp only [String.append_assoc]
  cases step with
  | line content => exact hline w
  | opening content => exact hline w
  | closing text => exact hline { w with depth := w.depth - 1 }

end Writer

/-! ## Balanced steps -/

/-- Every block that is opened is closed, inside out, and no other block is. -/
inductive Balanced : List Step → Prop
  | nil : Balanced []
  | line (content : Line) : Balanced [.line content]
  | append {xs ys : List Step} (hxs : Balanced xs) (hys : Balanced ys) : Balanced (xs ++ ys)
  | block (first : Line) (last : String) {body : List Step} (hbody : Balanced body) :
      Balanced (block first body last)

def Counted (steps : List Step) : Prop :=
  ∀ w : Writer, (w.run steps).depth + Step.closed steps = w.depth + Step.opened steps

theorem counted_nil : Counted [] := fun _ => rfl

theorem Counted.append {xs ys : List Step} (hxs : Counted xs) (hys : Counted ys) :
    Counted (xs ++ ys) := by
  intro w
  have hx := hxs w
  have hy := hys (w.run xs)
  simp only [Writer.run_append, Step.closed_append, Step.opened_append]
  omega

theorem counted_line (content : Line) : Counted [.line content] :=
  fun w => w.depth_step_line content

theorem counted_opening (content : Line) : Counted [.opening content] :=
  fun w => w.depth_step_opening content

namespace Balanced

theorem opened_eq_closed {steps : List Step} (h : Balanced steps) :
    Step.opened steps = Step.closed steps := by
  induction h with
  | nil => rfl
  | line content => rfl
  | append _ _ ihx ihy => rw [Step.opened_append, Step.closed_append, ihx, ihy]
  | block first last _ ih => rw [Step.opened_block, Step.closed_block, ih]

/-- A closing line is only read inside of a block, so that the depth goes down by one at it. -/
theorem counted {steps : List Step} (h : Balanced steps) : Counted steps := by
  induction h with
  | nil => exact counted_nil
  | line content => exact counted_line content
  | append _ _ ihx ihy => exact ihx.append ihy
  | block first last hbody ih =>
    intro w
    -- The body leaves the depth as it is, which is positive behind the opening line.
    have hinside := ih (w.step (.opening first))
    have hbalance := hbody.opened_eq_closed
    rw [Writer.depth_step_opening] at hinside
    rw [Writer.run_block, Writer.depth_step_closing, Step.opened_block, Step.closed_block]
    omega

theorem counted_before {steps : List Step} (h : Balanced steps) :
    ∀ before, before <+: steps → Counted before := by
  induction h with
  | nil =>
    intro before hbefore
    rw [List.prefix_nil.mp hbefore]
    exact counted_nil
  | line content =>
    intro before hbefore
    rcases List.prefix_cons_iff.mp hbefore with rfl | ⟨rest, rfl, hrest⟩
    · exact counted_nil
    · rw [List.prefix_nil.mp hrest]
      exact counted_line content
  | append hxs _ ihx ihy =>
    intro before hbefore
    obtain ⟨after, heq⟩ := hbefore
    -- The beginning ends in the first half, or it is the first half and a beginning of the second.
    rcases List.append_eq_append_iff.mp heq with ⟨rest, hin, -⟩ | ⟨rest, rfl, hrest⟩
    · exact ihx before ⟨rest, hin.symm⟩
    · exact hxs.counted.append (ihy rest ⟨after, hrest.symm⟩)
  | block first last hbody ih =>
    intro before hbefore
    rcases List.prefix_cons_iff.mp hbefore with rfl | ⟨rest, rfl, hrest⟩
    · exact counted_nil
    · rcases List.prefix_concat_iff.mp hrest with rfl | hin
      · exact (hbody.block first last).counted
      · exact (counted_opening first).append (ih rest hin)

variable {steps before : List Step}

theorem depth_run (h : Balanced steps) (w : Writer) : (w.run steps).depth = w.depth := by
  have hcounted := h.counted w
  rw [h.opened_eq_closed] at hcounted
  omega

theorem depth_closing (h : Balanced steps) {text : String}
    (hbefore : before ++ [.closing text] <+: steps) (w : Writer) :
    1 ≤ (w.run before).depth := by
  have hopen := h.counted_before before ((List.prefix_append before _).trans hbefore) w
  have hclosed := h.counted_before _ hbefore w
  rw [Writer.run_concat, Writer.depth_step_closing, Step.closed_concat,
    Step.opened_concat] at hclosed
  simp only [Step.isClosing, Step.isOpening, if_true, Bool.false_eq_true, if_false] at hclosed
  omega

theorem closed_le_opened (h : Balanced steps) {step : Step} (hbefore : before ++ [step] <+: steps) :
    Step.closed (before ++ [step]) ≤ Step.opened before := by
  have hopen := h.counted_before before ((List.prefix_append before _).trans hbefore) .empty
  have hdepth : (if step.isClosing then 1 else 0) ≤ (Writer.empty.run before).depth := by
    cases step with
    | line content => exact Nat.zero_le _
    | opening content => exact Nat.zero_le _
    | closing text => exact h.depth_closing hbefore .empty
  rw [Step.closed_concat]
  simp only [Writer.empty] at hopen hdepth
  omega

theorem render_step (h : Balanced steps) {step : Step} (hbefore : before ++ [step] <+: steps) :
    Step.render (before ++ [step]) =
      Step.render before ++ step.written (Step.around before step) := by
  have hopen := h.counted_before before ((List.prefix_append before _).trans hbefore) .empty
  have hdepth : (if step.isClosing then (Writer.empty.run before).depth - 1
      else (Writer.empty.run before).depth) = Step.around before step := by
    rw [Step.around, Step.closed_concat]
    simp only [Writer.empty] at hopen ⊢
    split <;> omega
  rw [Step.render, Writer.take, Writer.run_concat, Writer.text_step_eq, hdepth]
  rfl

theorem render_append (h : Balanced steps) (later : List Step) (hsteps : before ++ later = steps) :
    Step.render steps = Step.render before ++ Step.writtenAfter before later := by
  induction later generalizing before with
  | nil => rw [← hsteps, List.append_nil, Step.writtenAfter, String.append_empty]
  | cons step later ih =>
    have hassoc : before ++ [step] ++ later = steps := by rw [← hsteps, List.append_assoc]; rfl
    have hstep := h.render_step ⟨later, hassoc⟩
    rw [ih hassoc, hstep, Step.writtenAfter, String.append_assoc]

theorem render_eq (h : Balanced steps) : Step.render steps = Step.writtenAfter [] steps := by
  have hempty : Step.render [] = "" := rfl
  have happend := h.render_append steps (List.nil_append steps)
  rwa [hempty, String.empty_append] at happend

theorem cons_line (content : Line) (h : Balanced steps) : Balanced (.line content :: steps) :=
  (line content).append h

theorem of_plain {α : Type} (f : α → String) (l : List α) :
    Balanced (l.map (fun a => .plain (f a))) := by
  induction l with
  | nil => exact nil
  | cons a l ih => exact ih.cons_line _

theorem flatMap {α : Type} {f : α → List Step} (hf : ∀ a, Balanced (f a)) (l : List α) :
    Balanced (l.flatMap f) := by
  induction l with
  | nil => exact nil
  | cons a l ih => exact (hf a).append ih

end Balanced

/-! ## Parts of a file -/

namespace Renderer

/-- The methods, records, entries and bindings of an artifact from top to bottom, each with the
number of blocks around it. -/
def parts : Artifact → List (Nat × List Step)
  | .interface a => a.methods.map (fun s => (1, signatureSteps s))
  | .descriptor a =>
    a.wrappers.map (fun w => (0, wrapperSteps w)) ++
    (a.entries.map (fun e => (1, [fieldStep e])) ++ a.entries.map (fun e => (3, entrySteps e)))
  | .client a => a.methods.map (fun m => (1, clientMethodSteps m))
  | .provider a => a.bindings.map (fun b => (2, bindingSteps b))

end Renderer

/-- The parts stand in the steps one after the other. Each begins at its depth and ends at it. -/
inductive LaidOut : Writer → List (Nat × List Step) → List Step → Prop
  | done (w : Writer) (steps : List Step) : LaidOut w [] steps
  | part {w : Writer} {gap part later : List Step} {depth : Nat} {parts : List (Nat × List Step)}
      (hbegin : (w.run gap).depth = depth) (hend : ((w.run gap).run part).depth = depth)
      (h : LaidOut ((w.run gap).run part) parts later) :
      LaidOut w ((depth, part) :: parts) (gap ++ part ++ later)

theorem LaidOut.gap {w : Writer} {parts : List (Nat × List Step)} {later : List Step}
    (steps : List Step) (h : LaidOut (w.run steps) parts later) :
    LaidOut w parts (steps ++ later) := by
  cases h with
  | done => exact .done _ _
  | part hbegin hend h =>
    rw [← Writer.run_append w] at hbegin hend h
    rw [← List.append_assoc, ← List.append_assoc]
    exact .part hbegin hend h

/-- Balanced steps that begin at a depth, and the parts among them. -/
inductive Arranged : Nat → List (Nat × List Step) → List Step → Prop
  | gap {depth : Nat} {steps : List Step} (h : Balanced steps) : Arranged depth [] steps
  | part {depth : Nat} {steps : List Step} (h : Balanced steps) :
      Arranged depth [(depth, steps)] steps
  | append {depth : Nat} {ps qs : List (Nat × List Step)} {xs ys : List Step}
      (hxs : Arranged depth ps xs) (hys : Arranged depth qs ys) :
      Arranged depth (ps ++ qs) (xs ++ ys)
  | block (first : Line) (last : String) {depth : Nat} {ps : List (Nat × List Step)}
      {body : List Step} (hbody : Arranged (depth + 1) ps body) :
      Arranged depth ps (block first body last)

namespace Arranged

variable {depth : Nat} {parts qs : List (Nat × List Step)} {steps later : List Step}

theorem balanced (h : Arranged depth parts steps) : Balanced steps := by
  induction h with
  | gap h => exact h
  | part h => exact h
  | append _ _ ihx ihy => exact ihx.append ihy
  | block first last _ ih => exact ih.block first last

theorem laidOut (h : Arranged depth parts steps) {w : Writer} (hw : w.depth = depth)
    (hlater : LaidOut (w.run steps) qs later) : LaidOut w (parts ++ qs) (steps ++ later) := by
  induction h generalizing w qs later with
  | gap _ => exact hlater.gap
  | @part depth steps h =>
    have hend := (h.depth_run w).trans hw
    rw [← List.nil_append steps]
    exact .part hw hend hlater
  | @append depth ps qs xs ys hxs hys ihx ihy =>
    rw [Writer.run_append] at hlater
    have hmiddle := (hxs.balanced.depth_run w).trans hw
    rw [List.append_assoc, List.append_assoc]
    exact ihx hw (ihy hmiddle hlater)
  | @block first last depth ps body hbody ih =>
    -- The body is laid out after the opening line, and the closing line is a gap behind it.
    have hopen : (w.step (.opening first)).depth = depth + 1 := by simp [hw]
    have hclose : LaidOut ((w.step (.opening first)).run body) qs (.closing last :: later) := by
      rw [Writer.run_block] at hlater
      exact .gap [.closing last] hlater
    have hblock : LaidOut w (ps ++ qs) ([.opening first] ++ (body ++ .closing last :: later)) :=
      .gap [.opening first] (ih hopen hclose)
    simpa [RpcStubs.block] using hblock

theorem after {gap : List Step} (hgap : Balanced gap) (h : Arranged depth parts steps) :
    Arranged depth parts (gap ++ steps) :=
  (Arranged.gap hgap).append h

theorem lines {α : Type} {f : α → Step} (hf : ∀ a, Balanced [f a]) (l : List α) :
    Arranged depth (l.map (fun a => (depth, [f a]))) (l.map f) := by
  induction l with
  | nil => exact .gap .nil
  | cons a l ih => exact (Arranged.part (hf a)).append ih

theorem each {α : Type} {f : α → List Step} (hf : ∀ a, Balanced (f a)) (l : List α) :
    Arranged depth (l.map (fun a => (depth, f a))) (l.flatMap f) := by
  induction l with
  | nil => exact .gap .nil
  | cons a l ih => exact (Arranged.part (hf a)).append ih

theorem separated {α : Type} {f : α → List Step} (hf : ∀ a, Balanced (f a)) (l : List α) :
    Arranged depth (l.map (fun a => (depth, f a))) (Renderer.separated (l.map f)) := by
  induction l with
  | nil => exact .gap .nil
  | cons a l ih =>
    cases l with
    | nil => exact .part (hf a)
    | cons b l =>
      have hblank : Arranged depth [] [.plain ""] := .gap (.line _)
      exact (Arranged.part (hf a)).append (hblank.append ih)

end Arranged

/-! ## Files -/

namespace Renderer

theorem balanced_header : Balanced header :=
  (Balanced.line _).cons_line _

theorem balanced_docLines (docs : List String) : Balanced (docLines docs) :=
  .of_plain docLine docs

theorem balanced_allowUnused (path : String) : Balanced (allowUnused path) :=
  (Balanced.line _).cons_line _

theorem balanced_runtimeUse (r : Renderer) (items : List String) : Balanced (r.runtimeUse items) :=
  (balanced_allowUnused _).append (.flatMap balanced_allowUnused r.imports)

theorem balanced_siblingUses (importer : String) (interface descriptor : FileId)
    (wrappers : List String) : Balanced (siblingUses importer interface descriptor wrappers) := by
  unfold siblingUses
  refine .append ?_ (.line _)
  split
  · exact .nil
  · exact .line _

theorem balanced_signatureSteps (s : Signature) : Balanced (signatureSteps s) :=
  (balanced_docLines s.docs).append (.line _)

theorem balanced_wrapperSteps (w : Wrapper) : Balanced (wrapperSteps w) := by
  unfold wrapperSteps
  exact ((Balanced.line _).append ((Balanced.of_plain _ w.fields).block _ _)).append (.line _)

theorem balanced_entrySteps (e : DescriptorEntry) : Balanced (entrySteps e) := by
  unfold entrySteps
  exact .block _ _ (((((Balanced.line _).cons_line _).cons_line _).cons_line _).cons_line _)

theorem balanced_clientMethodSteps (m : ClientMethod) : Balanced (clientMethodSteps m) := by
  unfold clientMethodSteps
  exact .block _ _ (.line _)

theorem balanced_bindingSteps (b : ProviderBinding) : Balanced (bindingSteps b) := by
  unfold bindingSteps
  refine (Balanced.line _).append ?_
  split
  · exact .block _ _ ((Balanced.line _).cons_line _)
  · exact .line _

theorem arranged_interface (r : Renderer) (a : InterfaceArtifact) :
    Arranged 0 (parts (.interface a)) (r.interfaceSteps a) := by
  simp only [interfaceSteps, List.append_assoc]
  refine .after (.line _) (.after (balanced_runtimeUse r _) (.after (.line _) ?_))
  refine .after (balanced_docLines a.docs) (.after ((Balanced.line _).cons_line _) ?_)
  exact .block _ _ (.separated balanced_signatureSteps a.methods)

theorem arranged_descriptor (r : Renderer) (a : DescriptorArtifact) :
    Arranged 0 (parts (.descriptor a)) (r.descriptorSteps a) := by
  have himport : Balanced (if a.wrappers.isEmpty then []
      else [.plain "use serde::\x7bDeserialize, Serialize\x7d;"]) := by
    split
    · exact .nil
    · exact .line _
  simp only [descriptorSteps, List.append_assoc]
  refine .after himport (.after (balanced_runtimeUse r _) (.after (.line _) ?_))
  refine .append (.each balanced_wrapperSteps a.wrappers) ?_
  refine .after ((Balanced.line _).cons_line _) ?_
  refine .append (.block _ _ (.lines (fun _ => .line _) a.entries)) (.after (.line _) ?_)
  refine .block _ _ (.after ((Balanced.line _).cons_line _) (.block _ _ ?_))
  exact .after (.of_plain _ a.codecs) (.block _ _ (.each balanced_entrySteps a.entries))

theorem arranged_client (r : Renderer) (a : ClientArtifact) :
    Arranged 0 (parts (.client a)) (r.clientSteps a) := by
  simp only [clientSteps, List.append_assoc]
  refine .after (((Balanced.line _).cons_line _).cons_line _) ?_
  refine .after (balanced_runtimeUse r _) (.after (balanced_siblingUses ..) ?_)
  refine .after (((Balanced.line _).cons_line _).cons_line _) ?_
  refine .after (.block _ _ ((Balanced.line _).cons_line _)) (.after (.line _) ?_)
  refine .after (.block _ _ (.block _ _ (.line _))) (.after ((Balanced.line _).cons_line _) ?_)
  exact .block _ _ (.separated balanced_clientMethodSteps a.methods)

theorem arranged_provider (r : Renderer) (a : ProviderArtifact) :
    Arranged 0 (parts (.provider a)) (r.providerSteps a) := by
  simp only [providerSteps, List.append_assoc]
  refine .after ((Balanced.line _).cons_line _) ?_
  refine .after (balanced_runtimeUse r _) (.after (balanced_siblingUses ..) ?_)
  refine .after (((Balanced.line _).cons_line _).cons_line _) ?_
  exact .block _ _ (.block _ _ (.each balanced_bindingSteps a.bindings))

theorem arranged_steps (r : Renderer) (a : Artifact) : Arranged 0 (parts a) (r.steps a) := by
  refine .after balanced_header ?_
  cases a with
  | interface a => exact arranged_interface r a
  | descriptor a => exact arranged_descriptor r a
  | client a => exact arranged_client r a
  | provider a => exact arranged_provider r a

end Renderer

/-- In the file of every artifact a closing line finds an open block, no block is left open, and
each method, record, entry and binding ends at the depth at which it begins. Every text is indented
by four spaces for each of the blocks around it. -/
theorem rendering_well_bracketed (r : Renderer) (a : Artifact) :
    (∀ before text, before ++ [.closing text] <+: r.steps a →
      1 ≤ (Writer.empty.run before).depth) ∧
    (Writer.empty.run (r.steps a)).depth = 0 ∧
    LaidOut .empty (Renderer.parts a) (r.steps a) ∧
    (∀ before step, before ++ [step] <+: r.steps a →
      Step.closed (before ++ [step]) ≤ Step.opened before) ∧
    r.render a = Step.writtenAfter [] (r.steps a) := by
  have harranged := r.arranged_steps a
  have hbalanced := harranged.balanced
  refine ⟨?_, hbalanced.depth_run .empty, ?_, ?_, hbalanced.render_eq⟩
  · intro before text hbefore
    exact hbalanced.depth_closing hbefore .empty
  · have hlaid := harranged.laidOut rfl (.done (Writer.empty.run (r.steps a)) [])
    rwa [List.append_nil, List.append_nil] at hlaid
  · intro before step hbefore
    exact hbalanced.closed_le_opened hbefore

end RpcStubs
