import Swatchbook.Markdown.Content
import Swatchbook.Markdown.Emphasis

/-!
# Text inside blocks

The tokens of a block are read from left to right. Code, markup and autolinks
bind tighter than brackets, and brackets tighter than emphasis. What a
construct takes of the source is gone for the tokens behind it, and in an item
of a tight list that can be whole blocks.
-/

namespace Swatchbook.Markdown.Inline

/-- What is known when the content of a block is read. The source ends where
the block does. -/
structure Context where
  source : Source
  spine : Spine
  references : References
  inTable : Bool

/-- The nodes from a place on. A node in whose middle the place lies begins there. -/
def jump (nodes : List Node) (i : Nat) : List Node :=
  match nodes.dropWhile (·.stop ≤ i) with
  | p :: rest => p.withStart (max p.start i) :: rest
  | [] => []

/-- An opening bracket that may still be matched while it is live, and the
elements behind it, backwards. -/
structure Bracket where
  start : Nat
  stop : Nat
  image : Bool
  live : Bool
  inside : List Element

/-- What has been read: the open brackets, the innermost first, and the
elements before them, backwards. References can be followed while the budget,
which the bytes of their targets are taken from, is not used up. -/
structure Scan where
  brackets : List Bracket
  elements : List Element
  budget : Nat

namespace Scan

def add (r : Scan) (more : List Element) : Scan :=
  match r.brackets with
  | b :: outer => { r with brackets := { b with inside := more ++ b.inside } :: outer }
  | [] => { r with elements := more ++ r.elements }

def events (r : Scan) (es : List Event) : Scan := r.add [.events es]

def unmatched (c : Context) (b : Bracket) : List Element :=
  b.inside ++ [.text (c.source.slice b.start b.stop)]

def flatten (c : Context) (r : Scan) : Scan :=
  { r with brackets := [], elements := r.brackets.flatMap (unmatched c) ++ r.elements }

/-- Links do not hold links. -/
def deactivate (r : Scan) : Scan :=
  { r with brackets := r.brackets.map fun b => if b.image then b else { b with live := false } }

end Scan

/-- The text between backticks: line ends are spaces, and what belongs to the
containers is left out. -/
def codeFrom (c : Context) (stop : Nat) : Nat → Text → Nat → Text
  | 0, done, _ => done.reverse
  | fuel + 1, done, i =>
    if stop ≤ i then done.reverse
    else
      match c.source.at? i with
      | none => done.reverse
      | some '\n' | some '\r' => codeFrom c stop fuel (' ' :: done) (c.spine.behind c.source (i + 1))
      | some d =>
        if c.inTable && d == '\\' && c.source.isAt '|' (i + 1) then codeFrom c stop fuel ('|' :: done) (i + 2)
        else codeFrom c stop fuel (d :: done) (i + 1)

/-- One space on either side is dropped unless there is nothing else. -/
def codeText (c : Context) (start stop : Nat) : Text :=
  let t := codeFrom c stop (stop - start + 1) [] start
  if t.all (· == ' ') then t
  else if t.head? == some ' ' && t.getLast? == some ' ' then (t.drop 1).dropLast
  else t

/-- Where the first token of exactly `n` backticks begins, and the nodes behind it. -/
def closingTicks? (n : Nat) : List Node → Option (Nat × List Node)
  | [] => none
  | .token start _ (.backticks m _) :: rest =>
    if m == n then some (start, rest) else closingTicks? n rest
  | _ :: rest => closingTicks? n rest

/-- Backticks. One behind a backslash is text, and the others may begin code. -/
def ticks (c : Context) (r : Scan) (p : Node) (length : Nat) (escaped : Bool) (rest : List Node) :
    Scan × List Node :=
  let n := if escaped then length - 1 else length
  match if n == 0 then none else closingTicks? n rest with
  | none => (r.add [.text (c.source.slice p.start p.stop)], rest)
  | some (stop, after) =>
    let lead := if escaped then [Event.text ['\x60']] else []
    (r.events (lead ++ [.code (codeText c p.stop stop)]), after)

/-- Markup or an autolink, which begins with the node behind the bracket. -/
def angle (c : Context) (r : Scan) (p : Node) (rest : List Node) : Scan × List Node :=
  let s := c.source
  let found : Option (List Event × Nat) := rest.head?.bind fun next =>
    let link (tag : Text → Tag) (stop : Nat) : List Event × Nat :=
      let tag := tag (s.slice next.start stop)
      ([.start tag, .text (s.slice (p.start + 1) stop), .stop tag], stop + 1)
    match Markup.address? s next.start, Markup.mail? s next.start with
    | some stop, _ => some (link (.link · []) stop)
    | none, some stop => some (link .mail stop)
    | none, none =>
      (Markup.inline? s (some (c.spine.behind s)) next.start).map fun cursor =>
        ([.inlineHtml (cursor.text s p.start)], cursor.place)
  match found with
  | some (events, stop) => (r.events events, jump rest stop)
  | none => (r.add [.text (s.slice p.start p.stop)], rest)

/-- A label between brackets. That of a footnote stands on one line. -/
inductive Label
  | link (label : Text)
  | footnote (label : Text)

def label? (c : Context) (s : Source) (i : Nat) : Option (Label × Nat) :=
  if s.isAt '[' i then
    let note := if s.isAt '^' (i + 1) && !s.isAt ']' (i + 2) then Link.lineLabel? s c.inTable (i + 2) else none
    match note with
    | some (label, behind) => some (.footnote label, behind)
    | none =>
      (Link.label? s c.inTable (fun j => some (c.spine.behind s j)) (i + 1)).map fun (label, behind) =>
        (.link label, behind)
  else none

/-- What follows a closing bracket: another label, with the place behind it,
an empty one, or that of a footnote. -/
inductive Tail
  | full (label : Text) (behind : Nat)
  | collapsed
  | footnote
  | nothing

def tailOf (c : Context) (rest : List Node) : Tail :=
  match rest with
  | [] => .nothing
  | next :: _ =>
    if c.source.atText "[]" next.start then .collapsed
    else
      match label? c c.source next.start with
      | some (.link label, behind) => .full label behind
      | some (.footnote _, _) => .footnote
      | none => .nothing

/-- The label that the text between a pair of brackets is, if it is one. -/
def ownLabel? (c : Context) (b : Bracket) (stop : Nat) : Option Label :=
  match label? c (c.source.before stop) (b.stop - 1) with
  | some (label, behind) => if behind == stop then some label else none
  | none => none

def target? (c : Context) (r : Scan) (label : Text) : Option Target :=
  if r.budget == 0 then none else c.references.targets.lookup (Link.foldLabel label)

/-- Makes the node that a label ends in a closing bracket that is no
reference. Gives the nodes, and those behind that node. -/
def closeLabel? (stop : Nat) (before : List Node) : List Node → Option (List Node × List Node)
  | [] => none
  | p :: rest =>
    if p.stop < stop then closeLabel? stop (p :: before) rest
    else some (before.reverse ++ .token p.start p.stop (.closing false) :: rest, rest)

/-- What a pair of brackets turns out to be: a link, at a cost and with the
nodes behind it, a footnote, or text with the nodes behind it. -/
inductive Bracketed
  | link (target : Target) (cost : Nat) (rest : List Node)
  | footnote (label : Text)
  | plain (rest : List Node)

def reference (target : Option Target) (rest plain : List Node) : Bracketed :=
  match target with
  | some target => .link target (Text.byteSize target.address + Text.byteSize target.title) rest
  | none => .plain plain

/-- A pair of brackets that ends with the node `p`. `live` tells that its own
text may be a label. -/
def bracketed (c : Context) (r : Scan) (b : Bracket) (p : Node) (live : Bool) (rest : List Node) : Bracketed :=
  let content (i : Nat) : Option Nat := ((rest.find? (i + 1 < ·.stop)).map Node.start).filter (i < ·)
  let own (behind : List Node) : Bracketed :=
    match if live then ownLabel? c b p.stop else none with
    | some (.link label) => reference (target? c r label) behind rest
    | some (.footnote label) =>
      if c.references.footnotes.contains (Link.foldLabel label) then .footnote label else .plain rest
    | none => .plain rest
  match Link.inline? c.source c.inTable (c.spine.behind c.source) content p.stop with
  | some (target, stop) => .link target 0 (jump rest stop)
  | none =>
    match tailOf c rest with
    | .full label behind =>
      match closeLabel? behind [] rest with
      | some (marked, after) => reference (target? c r label) after marked
      | none => .plain rest
    | .footnote => .plain rest
    | .collapsed => own (rest.drop 2)
    | .nothing => own rest

def close (c : Context) (r : Scan) (p : Node) (live : Bool) (rest : List Node) : Scan × List Node :=
  let text := Element.text (c.source.slice p.start p.stop)
  match r.brackets with
  | [] => (r.add [text], rest)
  | b :: outer =>
    let r := { r with brackets := outer }
    let plain := r.add (text :: Scan.unmatched c b)
    if !b.live then (plain, rest)
    else
      match bracketed c r b p live rest with
      | .plain rest => (plain, rest)
      | .footnote label =>
        let lead := if b.image then [Event.text ['!']] else []
        ((r.flatten c).events (lead ++ [.footnoteMark label]), rest)
      | .link target cost rest =>
        let tag := if b.image then Tag.image target.address target.title
          else .link target.address target.title
        let parts := .event (.start tag) :: Emphasis.resolve b.inside.reverse ++ [.event (.stop tag)]
        let r := { r with budget := r.budget - cost }
        ((if b.image then r else r.deactivate).add [.parts parts], rest)

def step (c : Context) (r : Scan) (p : Node) (rest : List Node) : Scan × List Node :=
  let written := c.source.slice p.start p.stop
  match p with
  | .block _ stop b children => (r.add [.parts [.block stop b children]], rest)
  | .token start stop t =>
    match t with
    | .text => (r.add [.text written], rest)
    | .literal t => (r.add [.text t], rest)
    | .html => (r.events [.html written], rest)
    | .softBreak => (r.events [.softBreak], rest)
    | .hardBreak => (r.events [.hardBreak], rest)
    | .rule => (r.events [.rule], rest)
    | .task done => (r.events [.task done], rest)
    | .run mark length opens closes => (r.add [.run mark length opens closes (written.drop length)], rest)
    | .backticks length escaped => ticks c r p length escaped rest
    | .angle => angle c r p rest
    | .opening image => ({ r with brackets := ⟨start, stop, image, true, []⟩ :: r.brackets }, rest)
    | .closing live => close c r p live rest

/-- Each round takes a node, so their number bounds the rounds. -/
def readAll (c : Context) : Nat → Scan → List Node → Scan
  | 0, r, _ => r
  | _, r, [] => r
  | fuel + 1, r, p :: rest => let (r, rest) := step c r p rest; readAll c fuel r rest

def parts (c : Context) (budget : Nat) (nodes : List Node) : List Part × Nat :=
  let r := (readAll c nodes.length ⟨[], [], budget⟩ nodes).flatten c
  (Emphasis.resolve r.elements.reverse, r.budget)

end Swatchbook.Markdown.Inline
