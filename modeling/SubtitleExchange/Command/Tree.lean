import SubtitleExchange.Command.Host

/-!
# Trees of files

A tree holds what is found at places, which are lists of names from the root on. A path is walked
name by name, from the root or from the working directory, and every name that is passed must be that
of a directory. A host is made from a tree, from standard input and from the environment.
-/

namespace SubtitleExchange
namespace Command

inductive Device where
  | null
  | full
  | stdin
  | stdout
  | stderr
  | terminal
deriving DecidableEq

inductive Item where
  | directory (writable : Bool)
  | file (bytes : List UInt8)
  | device (device : Device)
deriving DecidableEq

abbrev Location := List String

structure Tree where
  items : List (Location × Item)
  working : Location
  stdin : List UInt8
  logVariable : Option String

namespace Tree

def item? (tree : Tree) (location : Location) : Option Item :=
  tree.items.lookup location

def isDirectory (tree : Tree) (location : Location) : Bool :=
  match tree.item? location with
  | some (.directory _) => true
  | _ => false

/-!
# Paths
-/

/-- The bytes of the longest name that can be given to a file. -/
def longestName : Nat := 255

/-- The bytes of the longest path that can be asked for. -/
def longestPath : Nat := 4095

/-- The location a name leads to, in a directory. -/
def stepTo (location : Location) (name : String) : Option Location :=
  if name = "" ∨ name = "." then some location
  else if name = ".." then some location.dropLast
  else if name.utf8ByteSize ≤ longestName then some (location ++ [name])
  else none

def walk (tree : Tree) (location : Location) : List String → Option Location
  | [] => some location
  | name :: rest =>
      if tree.isDirectory location then
        (stepTo location name).bind fun next => tree.walk next rest
      else
        none

/-- The location of a path, whether or not there is something at its end. -/
def location? (tree : Tree) (path : String) : Option Location :=
  if longestPath < path.utf8ByteSize then none
  else
    match path.toList.splitOn '/' with
    | [[]] => none
    | [] :: names => tree.walk [] (names.map String.ofList)
    | names => tree.walk tree.working (names.map String.ofList)

/-!
# Reading and writing
-/

/-- What is found at a location. Output devices have nothing to read. -/
def entryAt (tree : Tree) (location : Location) : Entry :=
  match tree.item? location with
  | none => .missing
  | some (.directory _) => .directory
  | some (.file bytes) => .file bytes
  | some (.device .stdin) => .pipe tree.stdin
  | some (.device .stdout) => .pipe []
  | some (.device .stderr) => .pipe []
  | some (.device .terminal) => .missing
  | some (.device _) => .file []

def entry (tree : Tree) (path : String) : Entry :=
  match tree.location? path with
  | some location => tree.entryAt location
  | none => .missing

def isWritable (tree : Tree) (location : Location) : Bool :=
  match tree.item? location with
  | some (.directory writable) => writable
  | _ => false

def sinkAt (tree : Tree) (location : Location) : Option Sink :=
  match tree.item? location with
  | none => if tree.isWritable location.dropLast then some .file else none
  | some (.directory _) => none
  | some (.file _) => some .file
  | some (.device .full) => some .full
  | some (.device .stdout) => some .stdout
  | some (.device .stderr) => some .stderr
  | some (.device .terminal) => none
  | some (.device _) => some .nowhere

/-- The tree with an empty file at a location. -/
def withEmptyFile (tree : Tree) (location : Location) : Tree :=
  { tree with items := (location, .file []) :: tree.items }

def create? (tree : Tree) (path : String) : Option Creation := do
  let location ← tree.location? path
  let sink ← tree.sinkAt location
  let changed := if sink = .file then tree.withEmptyFile location else tree
  return ⟨sink, changed.entry⟩

def host (tree : Tree) : Host where
  stdin := tree.stdin
  logVariable := tree.logVariable
  entry := tree.entry
  create? := tree.create?

theorem entryAt_withEmptyFile (tree : Tree) (location : Location) :
    (tree.withEmptyFile location).entryAt location = .file [] := by
  simp [entryAt, item?, withEmptyFile]

theorem entryAt_withEmptyFile_of_ne {tree : Tree} {location other : Location}
    (h : other ≠ location) :
    (tree.withEmptyFile location).entryAt other = tree.entryAt other := by
  have hne : (other == location) = false := beq_eq_false_iff_ne.mpr h
  have hlookup : (tree.withEmptyFile location).item? other = tree.item? other := by
    simp [item?, withEmptyFile, List.lookup_cons, hne]
  have hstdin : (tree.withEmptyFile location).stdin = tree.stdin := rfl
  rw [entryAt, entryAt, hlookup, hstdin]

end Tree
end Command
end SubtitleExchange
