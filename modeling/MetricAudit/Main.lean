/-
MetricAudit.Main — the program.

What a run decides is `Command.run`, a function of the arguments, of the
files it may look at and of the terminal. Here those files are read
beforehand, and the outcome is written afterwards.
-/
import MetricAudit.Command.Run
import MetricAudit.Rendering.Console

namespace MetricAudit

/-- The complaint that an error of the system is. -/
def systemFault? : IO.Error → Option SystemFault
  | .noFileOrDirectory _ number reason => some ⟨number.toNat, reason.toList⟩
  | .inappropriateType _ number reason => some ⟨number.toNat, reason.toList⟩
  | .permissionDenied _ number reason => some ⟨number.toNat, reason.toList⟩
  | .invalidArgument _ number reason => some ⟨number.toNat, reason.toList⟩
  | .resourceExhausted _ number reason => some ⟨number.toNat, reason.toList⟩
  | .otherError number reason => some ⟨number.toNat, reason.toList⟩
  | .hardwareFault number reason => some ⟨number.toNat, reason.toList⟩
  | _ => none

/-- What the system has at a path, or its complaint. -/
def look (path : String) : IO (Except SystemFault FileNode) := do
  try
    return .ok (.file (← IO.FS.readBinFile path).toList)
  catch error =>
    match systemFault? error with
    | none => throw error
    | some fault =>
      -- a file that is seen but not read is there
      if fault.number = SystemFault.isDirectory.number then return .ok .directory
      else if fault.number = 13 then return .ok (.locked fault)
      else return .error fault

/-- A tree with what the system has at a path and on the way to it. -/
def explore (tree : FileTree) (p : Path) : IO FileTree := do
  let mut tree := tree
  for n in List.range (p.parts.length + 1) do
    let onTheWay := { p with parts := p.parts.take n }
    match ← look (String.ofList onTheWay.text) with
    | .ok node => tree := tree.put (onTheWay.parts.foldl Path.step p.root) node
    | .error fault => if !fault.isAbsence then tree := tree.refuse onTheWay fault
  return tree

/-- Write a text to a file, and make the directories on the way. -/
def store (p : Path) (text : Text) : IO Unit := do
  IO.FS.createDirAll (String.ofList p.parent.text)
  IO.FS.writeFile (String.ofList p.text) (String.ofList text)

/-- Run the program on what the system holds. -/
def runProgram (args : List Text) : IO Command.Outcome := do
  let tree ← (Command.pathsRead args).foldlM explore {}
  let directory := (← IO.getEnv "PWD").getD "."
  -- a terminal is taken to show colors
  let terminal ← (← IO.getStdout).isTty
  let surroundings : Command.Surroundings :=
    { tree, directory := directory.toList, limits := .usual
      renderer := Rendering.Console.renderer, terminal, showsColors := terminal }
  let outcome := Command.run surroundings args
  if let some (p, text) := outcome.written then store p text
  return outcome

end MetricAudit

/-- Run the program, write what it has to say, and end with its status. -/
def main (args : List String) : IO UInt32 := do
  let outcome ← MetricAudit.runProgram (args.map String.toList)
  IO.print (String.ofList outcome.out)
  IO.eprint (String.ofList outcome.errorText)
  if let some failure := outcome.failure then
    IO.eprintln (String.ofList failure.message)
  return outcome.status.code.toUInt32
