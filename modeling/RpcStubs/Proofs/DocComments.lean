import RpcStubs.Idl.Inspect
import RpcStubs.Proofs.Lexing
import RpcStubs.Proofs.Literals
import RpcStubs.Proofs.Readers
import RpcStubs.Render.Source

/-!
# Documentation and its comments

Documentation is written as line comments, one for each entry, and a line comment is read as an
entry. An entry that has a line break in it, however, is written as it is.
-/

namespace RpcStubs

/-! ## Lines -/

def physicalLines (text : String) : List (List Char) := (text.toList.splitOn '\n').dropLast

/-- A line that is a doc comment, apart from its indentation. -/
def BeginsDoc (line : List Char) : Prop := ['/', '/', '/'] <+: line.dropWhile (· == ' ')

instance (line : List Char) : Decidable (BeginsDoc line) :=
  inferInstanceAs (Decidable (['/', '/', '/'] <+: line.dropWhile (· == ' ')))

/-- The text that is written for documentation at a depth. -/
def writtenDocs (depth : Nat) (docs : List String) : String :=
  ((⟨"", depth⟩ : Writer).run (Renderer.docLines docs)).text

def docChars (depth : Nat) (doc : String) : List Char :=
  (Writer.indentation depth).toList ++ (Renderer.docLine doc).toList

theorem docLine_ne_empty (doc : String) : (Renderer.docLine doc).isEmpty = false := by
  unfold Renderer.docLine
  split
  · rfl
  · rw [← Bool.not_eq_true, String.isEmpty_iff]
    simp [String.append_eq_empty_iff]

theorem line_docLine (w : Writer) (doc : String) :
    w.line (Renderer.docLine doc) =
      ⟨w.text ++ String.ofList (docChars w.depth doc ++ ['\n']), w.depth⟩ := by
  unfold Writer.line
  rw [docLine_ne_empty]
  simp [docChars, String.append_assoc]

theorem run_docLines (w : Writer) (docs : List String) :
    w.run (Renderer.docLines docs) = ⟨w.text ++
      String.ofList (docs.flatMap (fun d => docChars w.depth d ++ ['\n'])), w.depth⟩ := by
  induction docs generalizing w with
  | nil => simp [Renderer.docLines, Writer.run]
  | cons doc docs ih =>
    have hstep : w.run (Renderer.docLines (doc :: docs)) =
        (w.line (Renderer.docLine doc)).run (Renderer.docLines docs) := rfl
    rw [hstep, ih, line_docLine]
    simp [String.append_assoc]

theorem writtenDocs_toList (depth : Nat) (docs : List String) :
    (writtenDocs depth docs).toList = docs.flatMap (fun d => docChars depth d ++ ['\n']) := by
  rw [writtenDocs, run_docLines]
  simp

theorem indentation_blank (depth : Nat) : ∀ c ∈ (Writer.indentation depth).toList, c = ' ' := by
  induction depth with
  | zero => simp [Writer.indentation]
  | succ depth ih =>
    intro c hc
    rw [Writer.indentation, String.toList_append, List.mem_append] at hc
    rcases hc with hc | hc
    · simpa using hc
    · exact ih c hc

/-! ## Attributes of documentation -/

namespace Idl

open Parse

def docAttribute (text : List Char) : Attribute := ⟨some "doc", .value (some (String.ofList text))⟩

namespace Grammar

variable {g : Grammar}

theorem reads_attributeBody (g : Grammar) (lit : Literal) :
    g.attributeBody.Reads [.ident "doc", .punct '=' false, .literal lit] []
      ⟨some "doc", .value lit.stringValue?⟩ := by
  intro taken
  exact ⟨_, rfl⟩

theorem reads_outerAttribute (text : List Char) (us : List TokenTree) :
    g.outerAttribute.Reads (docTrees false text ++ us) us (docAttribute text) := by
  have hbody := reads_attributeBody g (literalOf text)
  rw [stringValue?_literalOf] at hbody
  unfold outerAttribute
  have hpound : (operator "#").Reads (docTrees false text ++ us)
      (.group .bracket [.ident "doc", .punct '=' false, .literal (literalOf text)] :: us) () :=
    reads_operator rfl
  exact hpound.bind (hbody.group .bracket)

theorem length_le_docTrees (texts : List (List Char)) :
    texts.length ≤ (texts.flatMap (docTrees false)).length := by
  induction texts with
  | nil => simp
  | cons text texts ih =>
    simp only [List.flatMap_cons, List.length_append, List.length_cons, docTrees]
    omega

theorem reads_outerAttributes (texts : List (List Char)) :
    g.outerAttributes.Reads (texts.flatMap (docTrees false)) [] (texts.map docAttribute) := by
  unfold outerAttributes many
  apply reads_look
  have hlength := length_le_docTrees texts
  exact reads_manyUpTo reads_outerAttribute (fun _ _ => rfl) rfl texts (by omega)

end Grammar

def docOf (text : List Char) : List Char :=
  Text.trimEnd (match text with
    | ' ' :: rest => rest
    | line => line)

theorem docs_docAttributes (texts : List (List Char)) :
    docs (texts.map docAttribute) = texts.map (fun text => String.ofList (docOf text)) := by
  induction texts with
  | nil => rfl
  | cons text texts ih =>
    have hdoc : (docAttribute text).doc? = some (String.ofList (docOf text)) := by
      simp only [docAttribute, Attribute.doc?, String.toList_ofList]
      rfl
    rw [List.map_cons, List.map_cons, docs, List.filterMap_cons_some hdoc, ← ih]
    rfl

/-- The documentation that doc comments are read as. -/
def readDocs (source : String) : Option (List String) :=
  (tokenTrees source.toList).bind fun trees =>
    (readAll (Grammar.ofDepth (nestingBound trees)).outerAttributes trees).map (docs ∘ Prod.fst)

theorem readDocs_of_docTrees {source : String} {texts : List (List Char)}
    (h : tokenTrees source.toList = some (texts.flatMap (docTrees false))) :
    readDocs source = some (texts.map (fun text => String.ofList (docOf text))) := by
  let g := Grammar.ofDepth (nestingBound (texts.flatMap (docTrees false)))
  have hreads : g.outerAttributes.Reads (texts.flatMap (docTrees false)) []
      (texts.map docAttribute) := Grammar.reads_outerAttributes texts
  obtain ⟨taken, hall⟩ := hreads.readAll
  rw [readDocs, h, Option.bind_some, hall, Option.map_some, Function.comp_apply,
    docs_docAttributes]

/-! ## Line comments -/

theorem nests_trees (ts : List TokenTree) : Nests (ts.map .tree) ts := by
  induction ts with
  | nil => exact nests_nil
  | cons t ts ih => exact (nests_tree t).append ih

theorem readLine_of_not_mem {text : List Char} (hfeed : '\n' ∉ text) (hcarriage : '\r' ∉ text)
    (rest : List Char) : readLine (text ++ '\n' :: rest) = (text, '\n' :: rest) := by
  induction text with
  | nil => rfl
  | cons c text ih =>
    have hc : c ≠ '\n' ∧ c ≠ '\r' := by
      constructor
      · rintro rfl
        simp at hfeed
      · rintro rfl
        simp at hcarriage
    have hrest := ih (fun h => hfeed (List.mem_cons_of_mem _ h))
      (fun h => hcarriage (List.mem_cons_of_mem _ h))
    rw [List.cons_append]
    unfold readLine
    split <;> simp_all

theorem carriagesPaired_of_not_mem {text : List Char} (h : '\r' ∉ text) :
    carriagesPaired text = true := by
  induction text with
  | nil => rfl
  | cons c text ih =>
    have hc : c ≠ '\r' := by rintro rfl; simp at h
    have hrest := ih (fun hm => h (List.mem_cons_of_mem _ hm))
    unfold carriagesPaired
    split <;> simp_all

theorem readLexemes_doc {text : List Char} (hslash : text.head? ≠ some '/') (rest : List Char) :
    readLexemes ('/' :: '/' :: '/' :: (text ++ '\n' :: rest)) =
      if carriagesPaired (readLine (text ++ '\n' :: rest)).1 then
        some ((docTrees false (readLine (text ++ '\n' :: rest)).1).map .tree,
          (readLine (text ++ '\n' :: rest)).2)
      else none := by
  have hblank : dropBlank? ('/' :: '/' :: '/' :: (text ++ '\n' :: rest)) = none := by
    cases text with
    | nil => rfl
    | cons c text =>
      have hc : c ≠ '/' := by simpa using hslash
      simp [dropBlank?, hc]
  simp only [readLexemes, hblank, readDoc?]

theorem lexesAs_doc {text : List Char} (hslash : text.head? ≠ some '/') (hfeed : '\n' ∉ text)
    (hcarriage : '\r' ∉ text) (rest : List Char) :
    LexesAs ('/' :: '/' :: '/' :: text ++ ['\n']) rest (docTrees false text) := by
  have hread := readLexemes_doc hslash rest
  rw [readLine_of_not_mem hfeed hcarriage, if_pos (carriagesPaired_of_not_mem hcarriage)] at hread
  refine ⟨(docTrees false text).map .tree, nests_trees _, ?_⟩
  intro later hlater
  have hfeed : Lexes ('\n' :: rest) later := hlater.blank (by decide)
  have hlex := Lexes.step hread (by simp; omega) hfeed
  simpa using hlex

/-! ## Texts of line comments -/

/-- A text of nothing but line comments with three slashes. -/
inductive DocText : List Char → Prop
  | nil : DocText []
  | blank {cs : List Char} (h : DocText cs) : DocText (' ' :: cs)
  | line {text cs : List Char} (hfeed : '\n' ∉ text) (h : DocText cs) :
      DocText ('/' :: '/' :: '/' :: (text ++ '\n' :: cs))

theorem readLine_line {text : List Char} (hfeed : '\n' ∉ text) (rest : List Char) :
    ∃ line, readLine (text ++ '\n' :: rest) = (line, '\n' :: rest) ∧ '\n' ∉ line := by
  induction text with
  | nil => exact ⟨[], rfl, by simp⟩
  | cons c text ih =>
    obtain ⟨line, hline, hmem⟩ := ih (fun h => hfeed (List.mem_cons_of_mem _ h))
    have hc : c ≠ '\n' := by rintro rfl; simp at hfeed
    by_cases hcarriage : c = '\r' ∧ text = []
    · obtain ⟨rfl, rfl⟩ := hcarriage
      exact ⟨[], rfl, by simp⟩
    · refine ⟨c :: line, ?_, by simp [hmem, Ne.symm hc]⟩
      rw [List.cons_append]
      unfold readLine
      split
      · simp_all
      · simp_all
      · rename_i heq
        cases text with
        | nil => simp_all
        | cons d text => simp_all
      · simp_all

theorem carriage_not_mem_of_paired {text : List Char} (hfeed : '\n' ∉ text)
    (h : carriagesPaired text = true) : '\r' ∉ text := by
  induction text with
  | nil => simp
  | cons c text ih =>
    unfold carriagesPaired at h
    split at h
    · simp_all
    · simp_all
    · rename_i heq
      cases heq
      simp only [Bool.and_eq_true, bne_iff_ne, ne_eq] at h
      have hrest := ih (fun hm => hfeed (List.mem_cons_of_mem _ hm)) h.2
      simp [hrest, Ne.symm h.1]

theorem lexemes_cons {fuel : Nat} {c : Char} {cs : List Char} {ls : List Lexeme}
    (h : lexemes fuel (c :: cs) = some ls) :
    ∃ left found rest later, readLexemes (c :: cs) = some (found, rest) ∧
      lexemes left rest = some later ∧ ls = found ++ later := by
  cases fuel with
  | zero => cases h
  | succ fuel =>
    simp only [lexemes] at h
    split at h
    · cases h
    · rename_i found rest hread
      obtain ⟨later, hlater, rfl⟩ := Option.map_eq_some_iff.mp h
      exact ⟨fuel, found, rest, later, hread, hlater, rfl⟩

def PlainDocs (ls : List Lexeme) : Prop :=
  ∃ texts : List (List Char), ls = (texts.flatMap (docTrees false)).map .tree ∧
    ∀ text ∈ texts, '\n' ∉ text ∧ '\r' ∉ text

theorem PlainDocs.cons {ls : List Lexeme} (h : PlainDocs ls) {text : List Char}
    (hfeed : '\n' ∉ text) (hcarriage : '\r' ∉ text) :
    PlainDocs ((docTrees false text).map .tree ++ ls) := by
  obtain ⟨texts, rfl, htexts⟩ := h
  exact ⟨text :: texts, by simp, List.forall_mem_cons.mpr ⟨⟨hfeed, hcarriage⟩, htexts⟩⟩

theorem DocText.plainDocs {cs : List Char} (h : DocText cs) {fuel : Nat} {ls : List Lexeme}
    (hls : lexemes fuel cs = some ls) : PlainDocs ls := by
  induction h generalizing fuel ls with
  | nil =>
    have hnil : ls = [] := by
      cases fuel <;> cases hls <;> rfl
    exact ⟨[], by simp [hnil], by simp⟩
  | blank h ih =>
    obtain ⟨left, found, rest, later, hread, hlater, rfl⟩ := lexemes_cons hls
    cases hread
    exact ih hlater
  | @line text cs hfeed h ih =>
    -- The line feed is a blank behind the comment.
    have hafter : ∀ {left later}, lexemes left ('\n' :: cs) = some later → PlainDocs later := by
      intro left later hlater
      obtain ⟨left, found, rest, later, hread, hlater, rfl⟩ := lexemes_cons hlater
      cases hread
      exact ih hlater
    obtain ⟨left, found, rest, later, hread, hlater, rfl⟩ := lexemes_cons hls
    by_cases hslash : text.head? = some '/'
    · obtain ⟨text, rfl⟩ := List.head?_eq_some_iff.mp hslash
      obtain ⟨line, hline, -⟩ := readLine_line (fun h => hfeed (List.mem_cons_of_mem _ h)) cs
      have hcomment : readLexemes ('/' :: '/' :: '/' :: ('/' :: text ++ '\n' :: cs)) =
          some ([], '\n' :: cs) := by
        simp [readLexemes, dropBlank?, hline]
      rw [hcomment] at hread
      cases hread
      exact hafter hlater
    · obtain ⟨line, hline, hmem⟩ := readLine_line hfeed cs
      rw [readLexemes_doc hslash, hline] at hread
      split at hread
      · rename_i hpaired
        cases hread
        exact (hafter hlater).cons hmem (carriage_not_mem_of_paired hmem hpaired)
      · cases hread

/-! ## Entries of documentation -/

theorem mem_of_mem_trimEnd {cs : List Char} {c : Char} (h : c ∈ Text.trimEnd cs) : c ∈ cs :=
  List.mem_reverse.mp ((List.dropWhile_suffix _).subset (List.mem_reverse.mp h))

theorem trimEnd_trimEnd (cs : List Char) : Text.trimEnd (Text.trimEnd cs) = Text.trimEnd cs := by
  unfold Text.trimEnd
  rw [List.reverse_reverse, List.dropWhile_idempotent]

theorem mem_of_mem_docOf {text : List Char} {c : Char} (h : c ∈ docOf text) : c ∈ text := by
  have hmem := mem_of_mem_trimEnd h
  split at hmem
  · exact List.mem_cons_of_mem _ hmem
  · exact hmem

theorem plain_of_readDocs {source : String} {ds : List String} (h : DocText source.toList)
    (hread : readDocs source = some ds) : ∀ d ∈ ds, '\n' ∉ d.toList ∧ '\r' ∉ d.toList := by
  obtain ⟨trees, htrees, -⟩ := Option.bind_eq_some_iff.mp hread
  obtain ⟨ls, hls, hnest⟩ := Option.bind_eq_some_iff.mp htrees
  obtain ⟨texts, rfl, htexts⟩ := h.plainDocs hls
  have hnested := nests_trees (texts.flatMap (docTrees false)) [] [] []
  simp only [List.append_nil, nest, List.isEmpty_nil, if_true, List.reverse_reverse] at hnested
  rw [hnested] at hnest
  cases hnest
  rw [readDocs_of_docTrees htrees] at hread
  cases hread
  intro d hd
  obtain ⟨text, htext, rfl⟩ := List.mem_map.mp hd
  obtain ⟨hfeed, hcarriage⟩ := htexts text htext
  rw [String.toList_ofList]
  exact ⟨fun h => hfeed (mem_of_mem_docOf h), fun h => hcarriage (mem_of_mem_docOf h)⟩

theorem trimEnd_of_mem_docs {attrs : List Attribute} {d : String} (h : d ∈ docs attrs) :
    Text.trimEnd d.toList = d.toList := by
  obtain ⟨a, -, ha⟩ := List.mem_filterMap.mp h
  unfold Attribute.doc? at ha
  split at ha
  · cases ha
    rw [String.toList_ofList, trimEnd_trimEnd]
  · cases ha

def docTail (doc : String) : List Char :=
  if doc.isEmpty then [] else ' ' :: Text.trimEnd doc.toList

theorem docLine_toList (doc : String) :
    (Renderer.docLine doc).toList = '/' :: '/' :: '/' :: docTail doc := by
  unfold Renderer.docLine docTail
  split
  · rfl
  · simp

theorem head?_docTail (doc : String) : (docTail doc).head? ≠ some '/' := by
  unfold docTail
  split <;> simp

theorem docOf_docTail (doc : String) : docOf (docTail doc) = Text.trimEnd doc.toList := by
  unfold docTail
  split
  · rename_i hempty
    rw [String.isEmpty_iff.mp hempty]
    rfl
  · exact trimEnd_trimEnd doc.toList

theorem mem_docTail {doc : String} {c : Char} (h : c ∈ docTail doc) : c = ' ' ∨ c ∈ doc.toList := by
  unfold docTail at h
  split at h
  · cases h
  · exact (List.mem_cons.mp h).imp_right mem_of_mem_trimEnd

/-! ## Written lines -/

theorem physicalLines_cons (depth : Nat) (doc : String) (docs : List String) :
    physicalLines (writtenDocs depth (doc :: docs)) =
      (docChars depth doc).splitOn '\n' ++ physicalLines (writtenDocs depth docs) := by
  unfold physicalLines
  rw [writtenDocs_toList, List.flatMap_cons, List.append_assoc, List.singleton_append,
    List.splitOn_append_cons_self, List.dropLast_append_of_ne_nil (List.splitOn_ne_nil _ _),
    writtenDocs_toList]

theorem DocText.blanks {blanks cs : List Char} (hblanks : ∀ c ∈ blanks, c = ' ')
    (h : DocText cs) : DocText (blanks ++ cs) := by
  induction blanks with
  | nil => exact h
  | cons c blanks ih =>
    obtain ⟨rfl, hlater⟩ := List.forall_mem_cons.mp hblanks
    exact .blank (ih hlater)

theorem docText_line {line rest : List Char} (hfeed : '\n' ∉ line) (hline : BeginsDoc line)
    (hrest : DocText rest) : DocText (line ++ '\n' :: rest) := by
  obtain ⟨text, htext⟩ := hline
  have hsplit : line = line.takeWhile (· == ' ') ++ '/' :: '/' :: '/' :: text := by
    conv_lhs => rw [← List.takeWhile_append_dropWhile (p := (· == ' ')) (l := line), ← htext]
    rfl
  have htextfeed : '\n' ∉ text := by
    intro h
    apply hfeed
    rw [hsplit]
    simp [h]
  rw [hsplit, List.append_assoc]
  refine DocText.blanks ?_ (.line htextfeed hrest)
  intro c hc
  simpa using List.mem_takeWhile_imp hc

theorem docText_lines {cs rest : List Char} (h : ∀ line ∈ cs.splitOn '\n', BeginsDoc line)
    (hrest : DocText rest) : DocText (cs ++ '\n' :: rest) := by
  induction hlength : cs.length using Nat.strongRecOn generalizing cs with
  | ind n ih =>
    by_cases hfeed : '\n' ∈ cs
    · obtain ⟨line, later, rfl, hline⟩ := List.eq_append_cons_of_mem hfeed
      rw [List.splitOn_append_cons_self, List.splitOn_eq_singleton hline] at h
      obtain ⟨hfirst, hlater⟩ := List.forall_mem_cons.mp h
      have hlater := ih later.length (by simp at hlength; omega) hlater rfl
      rw [List.append_assoc, List.cons_append]
      exact docText_line hline hfirst hlater
    · rw [List.splitOn_eq_singleton hfeed] at h
      exact docText_line hfeed (h cs List.mem_cons_self) hrest

theorem docText_writtenDocs {depth : Nat} {docs : List String}
    (h : ∀ line ∈ physicalLines (writtenDocs depth docs), BeginsDoc line) :
    DocText (writtenDocs depth docs).toList := by
  induction docs with
  | nil => exact .nil
  | cons doc docs ih =>
    rw [physicalLines_cons] at h
    have hrest := ih fun line hline => h line (List.mem_append_right _ hline)
    rw [writtenDocs_toList, List.flatMap_cons, List.append_assoc, List.singleton_append,
      ← writtenDocs_toList]
    exact docText_lines (fun line hline => h line (List.mem_append_left _ hline)) hrest

theorem beginsDoc_docChars (depth : Nat) (doc : String) : BeginsDoc (docChars depth doc) := by
  have hblank : ∀ c ∈ (Writer.indentation depth).toList, (c == ' ') = true := by
    intro c hc
    simpa using indentation_blank depth c hc
  unfold BeginsDoc docChars
  rw [List.dropWhile_append_of_pos hblank, docLine_toList]
  exact ⟨docTail doc, rfl⟩

theorem feed_not_mem_docChars {depth : Nat} {doc : String} (h : '\n' ∉ doc.toList) :
    '\n' ∉ docChars depth doc := by
  intro hmem
  rw [docChars, docLine_toList, List.mem_append] at hmem
  rcases hmem with hmem | hmem
  · exact absurd (indentation_blank depth _ hmem) (by decide)
  · simp only [List.mem_cons, Char.reduceEq, false_or] at hmem
    rcases mem_docTail hmem with hmem | hmem
    · exact absurd hmem (by decide)
    · exact h hmem

theorem beginsDoc_of_plain {depth : Nat} {docs : List String}
    (h : ∀ d ∈ docs, '\n' ∉ d.toList) :
    ∀ line ∈ physicalLines (writtenDocs depth docs), BeginsDoc line := by
  induction docs with
  | nil => simp [physicalLines, writtenDocs_toList]
  | cons doc docs ih =>
    obtain ⟨hdoc, hdocs⟩ := List.forall_mem_cons.mp h
    rw [physicalLines_cons, List.splitOn_eq_singleton (feed_not_mem_docChars hdoc)]
    exact List.forall_mem_cons.mpr ⟨beginsDoc_docChars depth doc, ih hdocs⟩

theorem lexesAs_blanks {blanks : List Char} (h : ∀ c ∈ blanks, c = ' ') (rest : List Char) :
    LexesAs blanks rest [] := by
  induction blanks with
  | nil => exact lexesAs_nil rest
  | cons c blanks ih =>
    obtain ⟨rfl, hblanks⟩ := List.forall_mem_cons.mp h
    exact (lexesAs_blank (by decide) (blanks ++ rest)).append (ih hblanks)

theorem lexesAs_docChars (depth : Nat) {doc : String} (hfeed : '\n' ∉ doc.toList)
    (hcarriage : '\r' ∉ doc.toList) (rest : List Char) :
    LexesAs (docChars depth doc ++ ['\n']) rest (docTrees false (docTail doc)) := by
  have hplain : '\n' ∉ docTail doc ∧ '\r' ∉ docTail doc := by
    constructor
    · intro h
      exact (mem_docTail h).elim (by decide) hfeed
    · intro h
      exact (mem_docTail h).elim (by decide) hcarriage
  have hline := lexesAs_doc (head?_docTail doc) hplain.1 hplain.2 rest
  have hblanks := lexesAs_blanks (indentation_blank depth)
  rw [docChars, List.append_assoc, docLine_toList]
  exact (hblanks _).append hline

theorem lexesAs_writtenDocs (depth : Nat) {docs : List String}
    (h : ∀ d ∈ docs, '\n' ∉ d.toList ∧ '\r' ∉ d.toList) :
    LexesAs (writtenDocs depth docs).toList [] ((docs.map docTail).flatMap (docTrees false)) := by
  induction docs with
  | nil => exact lexesAs_nil []
  | cons doc docs ih =>
    obtain ⟨hdoc, hdocs⟩ := List.forall_mem_cons.mp h
    have hrest := ih hdocs
    rw [writtenDocs_toList] at hrest ⊢
    rw [List.flatMap_cons, List.map_cons, List.flatMap_cons]
    exact (lexesAs_docChars depth hdoc.1 hdoc.2 _).append hrest

theorem readDocs_writtenDocs (depth : Nat) {docs : List String}
    (h : ∀ d ∈ docs, '\n' ∉ d.toList ∧ '\r' ∉ d.toList)
    (htrimmed : ∀ d ∈ docs, Text.trimEnd d.toList = d.toList) :
    readDocs (writtenDocs depth docs) = some docs := by
  rw [readDocs_of_docTrees (lexesAs_writtenDocs depth h).tokenTrees, List.map_map]
  congr 1
  conv_rhs => rw [← List.map_id docs]
  apply List.map_congr_left
  intro d hd
  rw [Function.comp_apply, docOf_docTail, htrimmed d hd, String.ofList_toList]
  rfl

/-- Documentation is written as line comments and read back from them, exactly if no entry has a
line break or a carriage return in it. -/
theorem docs_read_back_iff (attrs : List Attribute) (depth : Nat) :
    (∀ w : Writer, w.depth = depth → w.run (Renderer.docLines (docs attrs)) =
      ⟨w.text ++ writtenDocs depth (docs attrs), depth⟩) ∧
    ((∀ line ∈ physicalLines (writtenDocs depth (docs attrs)), BeginsDoc line) ∧
        readDocs (writtenDocs depth (docs attrs)) = some (docs attrs) ↔
      ∀ d ∈ docs attrs, '\n' ∉ d.toList ∧ '\r' ∉ d.toList) := by
  refine ⟨?_, ?_, ?_⟩
  · rintro w rfl
    rw [run_docLines, ← writtenDocs_toList, String.ofList_toList]
  · rintro ⟨hlines, hread⟩
    exact plain_of_readDocs (docText_writtenDocs hlines) hread
  · intro hplain
    exact ⟨beginsDoc_of_plain fun d hd => (hplain d hd).1,
      readDocs_writtenDocs depth hplain fun d hd => trimEnd_of_mem_docs hd⟩

def blockDocSource : String := "/**a\nb*/#[service]trait S\x7b\x7d"

/-- The second line of a block comment is written without slashes, and a carriage return in a doc
comment cannot be read. -/
theorem block_doc_escapes :
    inspect "idl" blockDocSource "" =
        .ok [.ok ⟨"S", "", .interface, [⟨"service", .empty⟩], [], ["a\nb"]⟩] ∧
      docs [docAttribute ['a', '\n', 'b']] = ["a\nb"] ∧
      physicalLines (writtenDocs 0 ["a\nb"]) = [['/', '/', '/', ' ', 'a'], ['b']] ∧
      ¬ ((∀ line ∈ physicalLines (writtenDocs 0 ["a\nb"]), BeginsDoc line) ∧
        readDocs (writtenDocs 0 ["a\nb"]) = some ["a\nb"]) ∧
      docs [docAttribute ['a', '\r', 'b']] = ["a\rb"] ∧
      readDocs (writtenDocs 0 ["a\rb"]) = none := by
  decide +kernel

end Idl

end RpcStubs
