import Swatchbook.Markdown.Builder
import Swatchbook.Markdown.Code
import Swatchbook.Markdown.Definition
import Swatchbook.Markdown.Heading
import Swatchbook.Markdown.Inline
import Swatchbook.Markdown.Table

/-!
# Documents

A document is taken one block at a time. The containers that are open decide
how much of the margin of a line belongs to them; a line that does not reach
all of them closes the others, unless it continues a paragraph.
-/

namespace Swatchbook.Markdown

/-- The mark of an item: its character, its number, the indent of its content
and the margin of the content. -/
def listMark? (s : Source) (m : Margin) : Option (Char × Nat × Nat × Margin) :=
  let (outer, m) := m.upTo s 4
  if 4 ≤ outer || (rule? s m.place).isSome then none
  else
    match itemMark? s m.place with
    | none => none
    | some (mark, number, width) =>
      let (spaced, after) := (m.drop width).exactly s 1
      if !spaced && !after.isAtEnd s then none
      else
        let indent := outer + width + 1
        let (more, inner) := after.upTo s 4
        if s.isBlankLine after.place || 4 ≤ more then some (mark, number, indent, after)
        else some (mark, number, indent + more, inner)

/-- A box with a cross or a blank, and a blank behind it. -/
def task? (s : Source) (m : Margin) : Option (Bool × Margin) :=
  let (_, m) := m.upTo s 3
  match s.at? m.place, s.at? (m.place + 1), s.at? (m.place + 2), s.at? (m.place + 3) with
  | some '[', some c, some ']', some d =>
    if !isGap d then none
    else if isGap c then some (false, m.drop 3)
    else if c == 'x' || c == 'X' then some (true, m.drop 3)
    else none
  | _, _, _, _ => none

namespace Builder

/-- Opens the footnote that begins here. A footnote is not part of another. -/
def addFootnote (b : Builder) (label : Text) (start : Nat) : Builder :=
  let b := b.finishList start
  let b := match b.innermost with
    | some (.footnote _) => b.close start
    | _ => b
  { b with footnotes := Link.foldLabel label :: b.footnotes }.enter (.footnote label) start

/-- Opens the containers that a line begins. Gives where the last of them left
the line and its margin, or the next line if nothing else stands on this one. -/
def openContainers : Nat → Builder → Nat → Margin → Builder × (Nat × Margin ⊕ Nat)
  | 0, b, start, m => (b, .inl (start, m))
  | fuel + 1, b, start, m =>
    let s := b.source
    let (outer, inner) := m.upTo s 4
    match if outer < 4 then footnote? s false inner.place else none with
    | some (label, behind) =>
      let next := s.skipGaps behind
      openContainers fuel (b.addFootnote label inner.place) next (.ofPlace next)
    | none =>
      match listMark? s m with
      | some (mark, number, indent, inner) =>
        let b := (b.continueList mark number m.place).enter (.item indent) m.place
        match s.blankLine? inner.place with
        | some next => ({ b with emptyItem := some next }, .inr next)
        | none =>
          match task? s inner with
          | some (done, after) =>
            let mark := Node.token inner.place after.place (.task done)
            openContainers fuel { b with task := some mark } start after
          | none => openContainers fuel { b with task := none } start inner
      | none =>
        match m.quote? s with
        | some inner => openContainers fuel ((b.finishList start).enter .quote m.place) start inner
        | none => (b, .inl (start, m))

/-- What follows a line of a paragraph: another line of it that begins at a
place, a line that makes it a heading, or nothing. -/
inductive Following
  | line (start : Nat)
  | underline (level stop : Nat)
  | nothing

def following (s : Source) (spine : Spine) (i : Nat) : Following :=
  let (inside, m) := spine.enter s i
  let (indented, m) := m.exactly s 4
  match if inside && !indented then underline? s m.place else none with
  | some (level, stop) => .underline level stop
  | none =>
    let start := (m.skipAll s).place
    if (!indented && interrupts s spine inside m.place) || (s.lineEnd? start).isSome then .nothing
    else .line start

/-- The backslash of a hard break that turns out to be text. -/
def lastBackslash (s : Source) (brk : Node) : List Node :=
  if s.isAt '\\' brk.start then Node.text brk.start (brk.start + 1) else []

/-- A paragraph, or the table or heading that its lines turn out to be. -/
def paragraphFrom (c : Content.Context) (start : Nat) : Nat → List Node → Nat → Node × Nat
  | 0, tokens, i => (.block start i .paragraph tokens.reverse, i)
  | fuel + 1, tokens, i =>
    let s := c.source
    let (more, next, ending) := Content.readLine c (if i == start then .header else .plain) i
    let tokens := more ++ tokens
    match ending with
    | none => (.block start next .paragraph tokens.reverse, next)
    | some (.table columns) => Table.read c columns start next
    | some (.lineBreak brk) =>
      let whole := (lastBackslash s brk) ++ tokens
      match following s c.spine next with
      | .line i => paragraphFrom c start fuel (brk :: tokens) i
      | .nothing => (.block start next .paragraph whole.reverse, next)
      | .underline level stop =>
        let slashed := whole.length != tokens.length
        let (tokens, attributes) := Heading.ofParagraph s start slashed tokens
        (.block start stop (.heading level attributes) ((lastBackslash s brk) ++ tokens).reverse, stop)

def addParagraph (b : Builder) (start : Nat) : Builder × Nat :=
  let (node, next) := paragraphFrom b.context start (b.source.stop - start + 1) b.task.toList start
  ({ b with task := none }.add node, next)

/-- Takes the definitions at the beginning of a paragraph. Gives where the
rest of the paragraph begins, or the next line if there is none. -/
def takeDefinitions (b : Builder) : Nat → Nat → Builder × (Nat ⊕ Nat)
  | 0, i => (b, .inl i)
  | fuel + 1, i =>
    let s := b.source
    match Definition.read? s b.spine i with
    | none => (b, .inl i)
    | some (label, target, stop) =>
      let b := b.define label target
      match s.blankLine? stop with
      | none => (b, .inr stop)
      | some next =>
        let (inside, m) := b.spine.enter s next
        let (indented, m) := m.exactly s 4
        if !indented && interrupts s b.spine inside m.place then (b, .inr next)
        else takeDefinitions b fuel (m.skipAll s).place

def addLeaf (b : Builder) (start : Nat) (m : Margin) : Builder × Nat :=
  let s := b.source
  let (indent, inner) := m.upTo s 4
  let i := inner.place
  let finished := b.finishList start
  let spine := finished.spine
  let leaf : Node × Nat → Builder × Nat := fun (node, next) => (finished.add node, next)
  if indent == 4 then
    let code := Code.indented s spine inner
    let node := Node.block i code.keptStop (.code .indented) code.kept.reverse
    ({ finished with blank := code.blank }.add node, code.stop)
  else
    let isMarkup := s.isAt '<' i
    match if isMarkup then Markup.endMark? s (i + 1) else none with
    | some mark => leaf (Code.markup s spine (some mark) (max m.spaces indent) i)
    | none =>
      if isMarkup && (Markup.startsBlock s (i + 1) || Markup.isLoneTag s (i + 1)) then
        leaf (Code.markup s spine none (max m.spaces indent) i)
      else
        match rule? s i, headingLevel? s i, fence? s i with
        | some stop, _, _ => leaf (.token i stop .rule, stop)
        | none, some level, _ => leaf (Heading.marked finished.context level i)
        | none, none, some (mark, length) => leaf (Code.fenced s spine indent mark length i)
        | none, none, none =>
          match finished.takeDefinitions (s.stop - i + 1) i with
          | (b, .inr next) => (b, next)
          | (b, .inl i) => b.addParagraph i

/-- Takes the line that begins at a place, and with it the lines of the block
that it begins. -/
def addLine (b : Builder) (start : Nat) : Builder × Nat :=
  let s := b.source
  let (n, m) := b.spine.reach s start
  match openContainers (s.stop - start + 1) (b.closeTo n start) start m with
  | (b, .inr next) => (b, next)
  | (b, .inl (start, m)) =>
    match s.blankLine? m.place with
    | some next => (b.addBlank, next)
    | none => b.addLeaf start m

/-- Each round takes a character, so the length of the source bounds them. -/
def addLines : Nat → Builder → Nat → Builder
  | 0, b, _ => b
  | fuel + 1, b, i =>
    if b.source.stop ≤ i then b
    else
      let (b, i) := b.addLine i
      addLines fuel b i

end Builder

structure Document where
  source : Source
  nodes : List Node
  references : References

def Document.ofText (t : Text) : Document :=
  let s := Source.ofText t
  let b := (Builder.addLines s.stop (.ofSource s) 0).closeTo 0 s.stop
  ⟨s, b.roots.reverse, b.references⟩

def Block.spine (spine : Spine) : Block → Spine
  | .container c => spine ++ [c]
  | _ => spine

def Block.isCell : Block → Bool
  | .tableCell => true
  | _ => false

namespace Document

/-- The events of parts, added backwards to `done`, and what is left of the
budget. The nodes before the first one that depends on others are read first,
then all those behind it, and then the blocks among them. The fuel bounds how
deep blocks are nested. -/
def eventsFrom (d : Document) : Nat → Spine → List Event × Nat → List Part → List Event × Nat
  | 0, _, found, _ => found
  | fuel + 1, spine, found, parts =>
    parts.foldl (fun (done, budget) part =>
      match part with
      | .event e => (e :: done, budget)
      | .block stop b children =>
        let spine := b.spine spine
        let c : Inline.Context := ⟨d.source.before stop, spine, d.references, b.isCell⟩
        let (first, others) := children.span (!·.isOpen)
        let (firstParts, _) := Inline.parts c budget first
        let (done, budget) := eventsFrom d fuel spine (.start b.tag :: done, budget) firstParts
        let (otherParts, budget) := Inline.parts c budget others
        let (done, budget) := eventsFrom d fuel spine (done, budget) otherParts
        (.stop b.tag :: done, budget)) found

/-- How many bytes references may add to a document, at least. -/
def referenceBudget : Nat := 100000

def events (d : Document) : List Event :=
  let budget := max referenceBudget (Text.byteSize d.source.chars.toList)
  let c : Inline.Context := ⟨d.source, [], d.references, false⟩
  (eventsFrom d (d.source.stop + 4) [] ([], budget) (Inline.parts c budget d.nodes).1).1.reverse

end Document

end Swatchbook.Markdown
