/-
  TreeLint/Main.lean
  ==================
  **The program.**  The words of the command line and the files that they name are read, the run is
  computed from them, and its result is printed.  The tree of a file is read from the JSON document next
  to it, whose name is the file's with `.tree.json` added; a file without one has a root and nothing
  below it.
-/
import TreeLint.CommandLine.Run
import TreeLint.Tree.Document

namespace TreeLint

def directoryCode : UInt32 := 21

def longNameCode : UInt32 := 36

def FileError.ofSystem : IO.Error → FileError
  | .inappropriateType _ code _ => if code = directoryCode then .isDirectory else .notDirectory
  | .invalidArgument _ code _ => if code = longNameCode then .nameTooLong else .notFound
  | _ => .notFound

def readLookup (path : String) : IO Lookup := do
  if path.toList.contains (Char.ofNat 0) then return .badPath
  match ← (IO.FS.readBinFile path).toBaseIO with
  | .error e => return .refused (FileError.ofSystem e)
  | .ok bytes =>
    let source : Source := ⟨bytes.toList⟩
    match ← (IO.FS.readFile (path ++ ".tree.json")).toBaseIO with
    | .error _ => return .document (Document.ofTree source none false)
    | .ok text => return .document (Document.ofJson source text)

def lookupIn (found : List (String × Lookup)) (path : String) : Lookup :=
  (Data.Entries.get? path found).getD (.refused .notFound)

def readNamed (words : List String) : IO (String → Lookup) := do
  let files := match CommandLine.Invocation.read words with
    | .ok invocation => invocation.files
    | .error _ => []
  let found ← (files.map Path.normalize).eraseDups.mapM fun path =>
    return (path, ← readLookup path)
  return lookupIn found

end TreeLint

/-- Runs the command line; a usage error exits with 2. -/
def main (words : List String) : IO UInt32 := do
  let columns ← IO.getEnv "COLUMNS"
  let lookup ← TreeLint.readNamed words
  match TreeLint.CommandLine.run lookup columns words with
  | .usage e =>
    IO.eprintln ("Error: " ++ e.message)
    return 2
  | .exited code output errors =>
    IO.print output
    IO.eprint errors
    return code.toUInt32
  | .crashed cause output errors =>
    IO.print output
    IO.eprint errors
    IO.eprintln ("Error: " ++ cause.message)
    return 1
