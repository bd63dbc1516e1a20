/-
  TreeLint/Context.lean
  =====================
  **What a rule sees of a file.**  A context bundles the file's name, its bytes, its parse tree and the
  settings of the rule that looks at it.  Contexts do not change; each rule gets a view that differs in
  the settings only.

  The tree is made by a parser outside this library.  Its outcome is taken as it is, with a mark that
  tells whether the parser met errors.
-/
import TreeLint.Configuration
import TreeLint.Tree.Node

namespace TreeLint

structure Parse where
  root : Node
  hasError : Bool
  deriving Repr, Inhabited

structure Document where
  source : Source
  parse : Parse
  deriving Repr, Inhabited

structure Context where
  file : String
  source : Source
  parse : Parse
  settings : Settings
  deriving Repr, Inhabited

/-! ### Building contexts -/

def Parse.record (p : Parse) : Record :=
  if p.hasError then
    ⟨.warning, .parser, "Parse completed with errors: root=" ++ p.root.kind⟩
  else ⟨.debug, .parser, "Parse succeeded: root=" ++ p.root.kind⟩

namespace Context

def root (c : Context) : Node := c.parse.root

/-- A view of the same file with other settings. -/
def withSettings (c : Context) (settings : Settings) : Context := { c with settings := settings }

/-- The context of a document; default settings where none are given. -/
def ofDocument (d : Document) (file : String) (settings : Option Settings) : Logged Context :=
  ⟨⟨file, d.source, d.parse, settings.getD {}⟩, [d.parse.record]⟩

def summary (c : Context) : Record :=
  ⟨.info, .context,
    "Parsed " ++ c.file ++ ": " ++ toString c.root.count ++ " nodes, "
      ++ toString c.source.lineCount ++ " line(s)"
      ++ (if c.parse.hasError then " (with parse errors)" else "")⟩

end Context

/-! ### Reading files -/

inductive FileError where
  | notFound
  | isDirectory
  | notDirectory
  | nameTooLong
  deriving DecidableEq, Repr

/-- What a path leads to.  A path that holds U+0000 leads nowhere, and asking for it is a mistake of
the caller. -/
inductive Lookup where
  | document (d : Document)
  | refused (cause : FileError)
  | badPath

def FileError.message (path : String) : FileError → String
  | .notFound => "[Errno 2] No such file or directory: " ++ Text.quoted path
  | .isDirectory => "[Errno 21] Is a directory: " ++ Text.quoted path
  | .notDirectory => "[Errno 20] Not a directory: " ++ Text.quoted path
  | .nameTooLong => "[Errno 36] File name too long: " ++ Text.quoted path

inductive BadPath where
  | embeddedNull
  deriving DecidableEq, Repr

def BadPath.message : BadPath → String
  | .embeddedNull => "embedded null byte"

/-- The context of the file at a path, given what the path leads to.  A file that cannot be read is
reported and gives no context. -/
def Context.ofLookup (path : String) (settings : Option Settings) :
    Lookup → Logged (Except BadPath (Option Context))
  | .document d => do
    let context ← Context.ofDocument d path settings
    Logged.andThen ⟨(), [context.summary]⟩ fun _ => pure (.ok (some context))
  | .refused cause => do
    Logged.note .error .context ("Failed to read file " ++ path ++ ": " ++ cause.message path)
    pure (.ok none)
  | .badPath => pure (.error .embeddedNull)

/-! ### Immutability -/

/-- The sentence that refuses an assignment to a field of a context, known or not. -/
def Context.assignRefusal (field : String) : String :=
  "cannot assign to field " ++ Text.quoted field

end TreeLint
