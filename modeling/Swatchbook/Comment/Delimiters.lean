import Swatchbook.Fault
import Swatchbook.Pattern.Reader

/-!
# Comment delimiters

The patterns that begin and end an annotation comment, and the pattern of a
whole block: from a beginning to the nearest end after it.
-/

namespace Swatchbook

structure Delimiters where
  start : Pattern
  stop : Pattern
  block : Pattern

namespace Delimiters

def compile (which pattern : Text) : Except Fault Pattern :=
  match Pattern.read pattern with
  | .ok p => .ok p
  | .error e => .error ((Fault.foreign e.message).chain
      (.of ("invalid comment " ++ which ++ " pattern") [("pattern", pattern)]))

def blockText (start stop : Text) : Text := "(?:" ++ start ++ ")[\\s\\S]*?(?:" ++ stop ++ ")"

/-- Each delimiter has to be a pattern by itself, and so has the block. -/
def read (start stop : Text) : Except Fault Delimiters := do
  let start' ← compile "start" start
  let stop' ← compile "end" stop
  let block ← compile "block" (blockText start stop)
  return ⟨start', stop', block⟩

def literalPattern (t : Text) : Pattern := Pattern.seqOf (t.map fun c => .set (.char c))

/-- Any characters, as few as will do. -/
def gap : Pattern :=
  .repeated 0 none false (.set (.union (.union .none .blank) (.not .blank)))

def literal (start stop : Text) : Delimiters :=
  ⟨literalPattern start, literalPattern stop,
    .seq (literalPattern start) (.seq gap (literalPattern stop))⟩

def defaultStart : Text := "/\\*"

def defaultStop : Text := "\\*/"

def css : Delimiters := literal ['/', '*'] ['*', '/']

/-- The text without the first beginning, and then without the first end. -/
def strip (d : Delimiters) (raw : Text) : Text := d.stop.removeFirst (d.start.removeFirst raw)

end Delimiters

end Swatchbook
