import Swatchbook.Text

/-!
# Faults

A fault is a cause, and below it the fault that it comes from, if there is one.
It is shown one cause below the other, each cause four columns further in than
the one that it explains.
-/

namespace Swatchbook

/-- A line below a message: `key: value`, or the value alone. -/
structure Detail where
  key : Option Text
  value : Text
  deriving DecidableEq

/-- Causes of this program have keyed details. A foreign cause comes from the
file system or from the reader of some notation, whose wording this program
does not choose; its details are the messages behind it. -/
inductive Cause
  | own (message : Text) (details : List Detail)
  | foreign (message : Text) (behind : List Text)
  deriving DecidableEq

namespace Cause

def message : Cause → Text
  | .own message _ => message
  | .foreign message _ => message

def details : Cause → List Detail
  | .own _ details => details
  | .foreign _ behind => behind.map fun text => ⟨none, text⟩

def isForeign : Cause → Bool
  | .own .. => false
  | .foreign .. => true

end Cause

inductive Fault
  | root (cause : Cause)
  /-- A cause, and the fault that is underneath. -/
  | upon (cause : Cause) (below : Fault)
  deriving DecidableEq

namespace Fault

def ofCause (cause : Cause) : Fault := .root cause

def top : Fault → Cause
  | root cause => cause
  | upon cause _ => cause

def causes : Fault → List Cause
  | root cause => [cause]
  | upon cause below => cause :: below.causes

def of (message : Text) (details : List (Text × Text)) : Fault :=
  .ofCause (.own message (details.map fun (key, value) => ⟨some key, value⟩))

def foreign (message : Text) : Fault := .ofCause (.foreign message [])

/-- Places `fault` underneath another one, below its deepest cause. -/
def chain (fault : Fault) : Fault → Fault
  | root cause => upon cause fault
  | upon cause below => upon cause (fault.chain below)

@[simp] theorem causes_chain (fault above : Fault) :
    (fault.chain above).causes = above.causes ++ fault.causes := by
  induction above with
  | root cause => rfl
  | upon cause below ih => rw [chain, causes, causes, ih, List.cons_append]

def message (fault : Fault) : Text := fault.top.message

def reindent (indent t : Text) : Text :=
  t.flatMap fun c => if c == '\n' then '\n' :: indent else [c]

def showDetail (indent : Text) (detail : Detail) : Text :=
  let value := reindent indent detail.value
  match detail.key with
  | some key => indent ++ key ++ ": " ++ value ++ "\n"
  | none => indent ++ value ++ "\n"

def showCause (depth : Nat) (cause : Cause) : Text :=
  let indent := Text.spaces (4 * depth)
  indent ++ reindent indent cause.message ++ "\n" ++ cause.details.flatMap (showDetail indent)

def showFrom (depth : Nat) : List Cause → Text
  | [] => []
  | cause :: rest => showCause depth cause ++ showFrom (depth + 1) rest

/-- The causes, each at its depth, every line ended by a line feed. -/
def display (fault : Fault) : Text := showFrom 0 fault.causes

end Fault

/-- Puts `above` on top of the fault of a failed step. -/
def Except.under {α : Type} (result : Except Fault α) (above : Fault) : Except Fault α :=
  result.mapError fun fault => fault.chain above

end Swatchbook
