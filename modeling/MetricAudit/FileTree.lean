/-
MetricAudit.FileTree — files and directories as a value.

A file tree gives the contents of files, seen from a working directory.
Paths are texts with slashes; `Path.parse` drops empty parts and single
dots, so `./a//b` and `a/b` are one path. Looking a path up finds a file,
a directory, something that cannot be opened, or nothing: a part below a
file leads nowhere, and two dots lead to the directory above.

The system may also refuse to look a path up, for instance where a name
in it is too long. Then it is not known whether anything is there, unless
the refusal itself says that there is nothing.

`FileTree.target` is where a file with a path is written. The directories
on the way are made; a file in the way, a directory at its end or a
refusal keep it from being written.
-/
import MetricAudit.Text.Quoted

namespace MetricAudit

/-- A path, by its parts. An absolute one starts at the root. -/
structure Path where
  absolute : Bool
  parts : List Text
  deriving DecidableEq, Repr

namespace Path

/-- The parts of a text between slashes. -/
def splitSlashes : Text → List Text
  | [] => [[]]
  | c :: cs =>
    match splitSlashes cs with
    | [] => [[c]]
    | part :: parts => if c = '/' then [] :: part :: parts else (c :: part) :: parts

/-- Read a path. -/
def parse (s : Text) : Path :=
  { absolute := s.head? = some '/'
    parts := (splitSlashes s).filter fun part => part ≠ [] ∧ part ≠ ['.'] }

/-- A path as it is written. -/
def text (p : Path) : Text :=
  let joined := Text.join "/" p.parts
  if p.absolute then '/' :: joined
  else if joined.isEmpty then "." else joined

/-- The last part. -/
def name (p : Path) : Text := (p.parts.getLast?).getD []

/-- The path without its last part. -/
def parent (p : Path) : Path := { p with parts := p.parts.dropLast }

/-- The root that a path starts from: that of all files, or the working
directory. -/
def root (p : Path) : Path := { p with parts := [] }

/-- Two dots. -/
def isUp (part : Text) : Bool := part = ['.', '.']

/-- The path that one more part leads to. Above the root of all files is
that root again. -/
def step (p : Path) (part : Text) : Path :=
  if isUp part then
    match p.parts.getLast? with
    | none => if p.absolute then p else { p with parts := [part] }
    | some last => if isUp last then { p with parts := p.parts ++ [part] } else p.parent
  else { p with parts := p.parts ++ [part] }

/-- Whether one path is that of a directory which the other one leads
through. -/
def leadsTo (p q : Path) : Bool :=
  p.absolute = q.absolute && p.parts.isPrefixOf q.parts

/-- What follows the last point of the name, where something stands
before and after it. -/
def extension (p : Path) : Text :=
  let reversed := p.name.reverse
  let after := reversed.takeWhile (· != '.')
  match reversed.dropWhile (· != '.') with
  | '.' :: _ :: _ => after.reverse
  | _ => []

end Path

/-! ## The system -/

/-- A complaint of the system: its number, and the reason in words. -/
structure SystemFault where
  number : Nat
  reason : Text
  deriving DecidableEq, Repr

namespace SystemFault

def isDirectory : SystemFault := ⟨21, "Is a directory"⟩

def fileExists : SystemFault := ⟨17, "File exists"⟩

def notADirectory : SystemFault := ⟨20, "Not a directory"⟩

def nameTooLong : SystemFault := ⟨36, "File name too long"⟩

/-- The name of the kind of a complaint. -/
def kind (fault : SystemFault) : Text :=
  match fault.number with
  | 1 => "PermissionError"
  | 2 => "FileNotFoundError"
  | 13 => "PermissionError"
  | 17 => "FileExistsError"
  | 20 => "NotADirectoryError"
  | 21 => "IsADirectoryError"
  | _ => "OSError"

/-- The complaint about what is shown as `path`. -/
def message (fault : SystemFault) (path : Text) : Text :=
  "[Errno " ++ Text.ofNat fault.number ++ "] " ++ fault.reason ++ ": " ++ Text.quoted path

/-- The complaint that a file is not there. -/
def isMissing (fault : SystemFault) : Bool := fault.number == 2

/-- The complaint that a path leads nowhere: there is no such file, a part
on the way is no directory, or links lead in a circle. -/
def isAbsence (fault : SystemFault) : Bool := [2, 9, 20, 40].contains fault.number

end SystemFault

/-! ## Looking up -/

/-- What a path leads to. Something locked is there, but cannot be
opened. -/
inductive FileNode where
  | file (bytes : List UInt8)
  | directory
  | locked (fault : SystemFault)
  deriving DecidableEq, Repr

/-- Files and directories by their paths, which have two dots at most at
their fronts. Every path on the way to one is a directory. -/
structure FileTree where
  nodes : List (Path × FileNode) := []
  /-- Why the system refuses to look a path up. -/
  refusal? : Path → Option SystemFault := fun _ => none

namespace FileTree

/-- What stands at a path without detours. -/
def at? (tree : FileTree) (place : Path) : Option FileNode :=
  match tree.nodes.find? fun node => node.1 = place with
  | some (_, node) => some node
  | none =>
    if place.parts.all Path.isUp || tree.nodes.any (fun node => place.leadsTo node.1) then
      some .directory
    else none

/-- Follow parts from a place. Every part is looked up in a directory. -/
def follow (tree : FileTree) (place : Path) : List Text → Option Path
  | [] => some place
  | part :: parts =>
    if tree.at? place = some .directory then follow tree (place.step part) parts
    else none

/-- What a path leads to, if anything, or why it is not looked up. -/
def find? (tree : FileTree) (p : Path) : Except SystemFault (Option FileNode) :=
  match tree.refusal? p with
  | some fault => if fault.isAbsence then .ok none else .error fault
  | none => .ok ((tree.follow p.root p.parts).bind tree.at?)

/-- A tree with a file or directory at a place. -/
def put (tree : FileTree) (place : Path) (node : FileNode) : FileTree :=
  { tree with nodes := (place, node) :: tree.nodes.filter fun other => other.1 ≠ place }

/-- A tree whose system refuses to look a path up. -/
def refuse (tree : FileTree) (p : Path) (fault : SystemFault) : FileTree :=
  { tree with refusal? := fun q => if q = p then some fault else tree.refusal? q }

/-! ## Writing -/

/-- Why a file cannot be written: the system complains of what stands at a
path. -/
structure WriteFault where
  path : Path
  fault : SystemFault
  deriving DecidableEq, Repr

def WriteFault.message (f : WriteFault) : Text := f.fault.message f.path.text

/-- Whether something other than a directory stands at a place. -/
def isBlocked (tree : FileTree) (place : Path) : Bool :=
  match tree.at? place with
  | none => false
  | some .directory => false
  | some _ => true

/-- Follow parts from a place and make the directories that are missing;
none where a file is in the way. -/
def open? (tree : FileTree) (place : Path) : List Text → Option Path
  | [] => some place
  | part :: parts =>
    let next := place.step part
    if tree.isBlocked next then none else open? tree next parts

/-- The directory that a file with a path is written to. -/
def targetDirectory (tree : FileTree) (p : Path) : Except WriteFault Path :=
  match tree.refusal? p.parent, tree.open? p.root p.parent.parts with
  | some fault, _ => .error ⟨p.parent, fault⟩
  | none, some directory => .ok directory
  | none, none =>
    if (tree.open? p.root p.parent.parent.parts).isSome then
      .error ⟨p.parent, .fileExists⟩
    else .error ⟨p.parent, .notADirectory⟩

/-- The place where a file with a path is written. -/
def target (tree : FileTree) (p : Path) : Except WriteFault Path := do
  let directory ← tree.targetDirectory p
  let place := if p.parts.isEmpty then directory else directory.step p.name
  match tree.refusal? p, tree.at? place with
  | some fault, _ => .error ⟨p, fault⟩
  | none, some .directory => .error ⟨p, .isDirectory⟩
  | none, some (.locked fault) => .error ⟨p, fault⟩
  | none, _ => .ok place

end FileTree
end MetricAudit
