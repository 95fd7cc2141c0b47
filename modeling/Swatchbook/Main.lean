import Swatchbook.Program

/-!
# Command line

The part of the file system that a run can reach is read into a volume, the
run works on that volume, and what it changed is written back.
-/

namespace Swatchbook.Main

def locationOf (p : Path) : Location :=
  (Path.normalParts p.parts).filterMap fun
    | .name text => some text
    | _ => none

def spell (place : Location) : String := String.ofList ('/' :: Text.join ['/'] place)

/-- Reads what stands at a location, and everything below it, into a volume. -/
partial def gather (v : Volume) (place : Location) : IO Volume := do
  let path := (← IO.currentDir) / spell place
  if ← path.isDir then
    let mut v := v.plant place .folder
    for entry in ← path.readDir do
      v ← gather v (place ++ [entry.fileName.toList])
    return v
  else if ← path.pathExists then
    return v.plant place (.file (← IO.FS.readBinFile path))
  else return v

def gatherAll (v : Volume) (paths : List Path) : IO Volume :=
  paths.foldlM (fun v path => gather v (locationOf path)) v

/-- The part of the file system that the arguments lead to. -/
def survey (arguments : List Text) (directory : Path) : IO Volume := do
  let place := locationOf directory
  let v := (Volume.mk place []).plant place .folder
  match Flags.read arguments with
  | .error _ => return v
  | .ok flags =>
    let v ← gatherAll v [Program.settingsFile flags directory]
    match Config.load v flags directory with
    | .error _ => return v
    | .ok config => gatherAll v (Program.reachedBy config directory)

/-- Writes what changed between two volumes, folders before what is in them. -/
def settle (before after : Volume) : IO Unit := do
  for (place, item) in after.items.mergeSort fun a b => a.1.length ≤ b.1.length do
    match item, before.at? place with
    | .folder, none => IO.FS.createDirAll (spell place)
    | .folder, some _ => pure ()
    | .file bytes, some (.file old) =>
      if bytes.data != old.data then IO.FS.writeBinFile (spell place) bytes
    | .file bytes, _ => IO.FS.writeBinFile (spell place) bytes

end Swatchbook.Main

open Swatchbook

def main (arguments : List String) : IO UInt32 := do
  let arguments := arguments.map String.toList
  let directory : Path := ⟨(← IO.currentDir).toString.toList⟩
  let before ← Main.survey arguments directory
  let outcome := Program.execute arguments directory before
  Main.settle before outcome.volume
  IO.print (String.ofList outcome.out)
  IO.eprint (String.ofList outcome.err)
  return outcome.status.toUInt32
