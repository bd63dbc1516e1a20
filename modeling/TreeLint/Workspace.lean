/-
  TreeLint/Workspace.lean
  =======================
  **A directory held in memory.**  A workspace has documents at paths below its root, and directories;
  every directory on the way to a document or to another directory exists.  Paths are followed name by
  name from the root: a name below a document leads nowhere, two points lead up, and what lies above
  the root is a directory of which nothing else is known.  Names and paths are limited in length.

  A path is a root and names divided by slashes.  The normal form has one slash between names, none at the
  end, and no name that is a single point; two points stay, because what they lead to depends on the
  directory.  Exactly two leading slashes are a root of their own; any other number of them is the root
  `/`.  The path without root and names is a single point.
-/
import TreeLint.Context

namespace TreeLint

/-! ### Paths as text -/

namespace Path

/-- The names of a path between its slashes, empty ones and points included. -/
def segments (path : String) : List String := (Text.divide '/' path.toList).map String.ofList

/-- The root that a path starts from, empty for a relative path. -/
def root (path : String) : String :=
  match (path.toList.takeWhile (· == '/')).length with
  | 0 => ""
  | 2 => "//"
  | _ => "/"

/-- The names of a path that lead somewhere. -/
def names (path : String) : List String := (segments path).filter fun s => s != "" && s != "."

def normalize (path : String) : String :=
  let text := root path ++ "/".intercalate (names path)
  if text.isEmpty then "." else text

end Path

/-! ### Documents and directories -/

/-- Documents and directories by the names that lead to them from the root. -/
structure Workspace where
  documents : List (List String × Document)
  directories : List (List String)

inductive Place where
  | directory (names : List String)
  | above (levels : Nat)
  | document (d : Document)
  | lost (cause : FileError)

namespace Workspace

def ofPaths (documents : List (String × Document)) (directories : List String) : Workspace where
  documents := documents.map fun (path, d) => (Path.names path, d)
  directories := directories.map Path.names

/-- A directory: the root, one that was asked for, or one on the way to something. -/
def isDirectory (w : Workspace) (names : List String) : Bool :=
  names.isEmpty || w.directories.any (names.isPrefixOf ·)
    || w.documents.any fun (path, _) => names.isPrefixOf path && path.length != names.length

def enter (w : Workspace) (names : List String) : Place :=
  match w.documents.find? (·.1 == names) with
  | some (_, d) => .document d
  | none => if w.isDirectory names then .directory names else .lost .notFound

def nameLimit : Nat := 255

def pathLimit : Nat := 4095

def step (w : Workspace) : Place → String → Place
  | .lost cause, _ => .lost cause
  | .document _, _ => .lost .notDirectory
  | .above levels, name =>
    if name = "" ∨ name = "." then .above levels
    else if name = ".." then .above (levels + 1)
    else if nameLimit < name.utf8ByteSize then .lost .nameTooLong
    else .lost .notFound
  | .directory names, name =>
    if name = "" ∨ name = "." then .directory names
    else if name = ".." then
      if names.isEmpty then .above 1 else .directory names.dropLast
    else if nameLimit < name.utf8ByteSize then .lost .nameTooLong
    else w.enter (names ++ [name])

def locate (w : Workspace) (path : String) : Place :=
  if path.isEmpty then .lost .notFound
  else if pathLimit < path.utf8ByteSize then .lost .nameTooLong
  else
    let start : Place := if path.toList.head? = some '/' then .above 0 else .directory []
    (Path.segments path).foldl w.step start

def lookup (w : Workspace) (path : String) : Lookup :=
  if path.toList.contains (Char.ofNat 0) then .badPath
  else match w.locate path with
    | .document d => .document d
    | .lost cause => .refused cause
    | .directory _ | .above _ => .refused .isDirectory

end Workspace

end TreeLint
