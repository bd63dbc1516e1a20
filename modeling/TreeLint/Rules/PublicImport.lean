/-
  TreeLint/Rules/PublicImport.lean
  ================================
  **Imports that leak a dependency.**  An import is flagged when it re-exports the module it imports: by
  the attribute `@_exported`, or by the visibility `public` or `open`.  The attribute is looked for
  first.  Both are looked for everywhere below the import, because a parser may hang them at any depth,
  and the first in document order counts.

  The fix puts a new text in place of the import.  For the attribute it drops the attribute together
  with the blanks that follow it; for the visibility it writes `internal` instead.  The rest of the
  import's content is copied byte by byte.
-/
import TreeLint.Rule

namespace TreeLint.PublicImport

/-! ### Recognising imports -/

def reexportAttribute : List Char := "_exported".toList

/-- The visibilities that make an import part of the interface. -/
def leakingLevels : List (List Char) := ["public".toList, "open".toList]

/-- Words after `import` that say what sort of thing is imported; they are no part of its path. -/
def importSorts : List String :=
  ["typealias", "struct", "class", "enum", "protocol", "let", "var", "func"]

/-- A text up to its first opening parenthesis, without blanks around it. -/
def beforeArguments (cs : List Char) : List Char := Text.trim (cs.takeWhile (· != '('))

/-- The name of an attribute: its text without the signs `@` before it and the arguments after it. -/
def attributeName (source : Source) (n : Node) : List Char :=
  beforeArguments ((n.trimmedText source).dropWhile (· == '@'))

/-- The level that a visibility modifier sets: its text without arguments. -/
def visibilityLevel (source : Source) (n : Node) : List Char :=
  beforeArguments (n.trimmedText source)

def isReexport (source : Source) (n : Node) : Bool :=
  n.kind == "attribute" && attributeName source n == reexportAttribute

def isLeaking (source : Source) (n : Node) : Bool :=
  n.kind == "visibility_modifier" && leakingLevels.contains (visibilityLevel source n)

def findReexport (source : Source) (n : Node) : Option Node :=
  n.descendants.find? (isReexport source)

def findLeaking (source : Source) (n : Node) : Option Node :=
  n.descendants.find? (isLeaking source)

def isPathToken (n : Node) : Bool := !importSorts.contains n.kind && !n.isComment

/-- The path of the imported module: the text of the last identifier among the import's children or,
without one, the tokens after `import` joined.  `none` when there is no `import`, or nothing after
it. -/
def modulePath (source : Source) (n : Node) : Option (List Char) :=
  match n.children.reverse.find? (·.kind == "identifier") with
  | some identifier => some (identifier.trimmedText source)
  | none =>
    match n.children.dropWhile (·.kind != "import") with
    | [] => none
    | _ :: tokens =>
      match (tokens.filter isPathToken).flatMap (·.trimmedText source) with
      | [] => none
      | path => some path

/-! ### Fixes -/

/-- Space, tab, carriage return and line feed. -/
def isSeparator (b : UInt8) : Bool := b == 0x20 || b == 0x09 || b == 0x0D || b == 0x0A

def skipSeparators (source : Source) (offset : Nat) : Nat :=
  offset + ((source.bytes.drop offset).takeWhile isSeparator).length

/-- The text of a span with the bytes of an inner span replaced. -/
def splice (source : Source) (outer inner : Span) (replacement : String) : String :=
  Text.Utf8.decodeString
    (source.slice ⟨outer.start, inner.start⟩ ++ Text.Utf8.encodeString replacement
      ++ source.slice ⟨inner.stop, outer.stop⟩)

inductive Leak where
  | reexported (marker : Node)
  | visible (modifier : Node)

/-- The leak of an import, the attribute before the visibility. -/
def findLeak (source : Source) (n : Node) : Option Leak :=
  match findReexport source n with
  | some marker => some (.reexported marker)
  | none => (findLeaking source n).map .visible

namespace Leak

def span (source : Source) : Leak → Span
  | .reexported marker => ⟨marker.start, skipSeparators source marker.stop⟩
  | .visible modifier => modifier.span

def replacement : Leak → String
  | .reexported _ => ""
  | .visible _ => "internal"

def fixDescription : Leak → String
  | .reexported _ => "Remove @_exported attribute"
  | .visible _ => "Change to internal import"

def message (path : List Char) : Leak → String
  | .reexported _ =>
    "@_exported import '" ++ String.ofList path
      ++ "' leaks dependency to consumers. Remove @_exported."
  | .visible _ =>
    "public import '" ++ String.ofList path
      ++ "' leaks dependency to consumers. Use internal or package import."

def fix (source : Source) (content : Span) (leak : Leak) : Fix where
  description := leak.fixDescription
  replacement := splice source content (leak.span source) leak.replacement
  range := some (Range.ofSpan source content)

end Leak

/-! ### The rule -/

/-- What to do at an import: report its leak and go past it, or look inside it. -/
def inspect (context : Context) (n : Node) (state : Unit) : Reply Unit :=
  match modulePath context.source n, findLeak context.source n with
  | some path, some leak =>
    match context.source.contentSpan n with
    | .error cause => ⟨[], .error (.span cause), state⟩
    | .ok content =>
      ⟨[⟨n, .text (leak.message path), some (leak.fix context.source content), []⟩],
        .ok (some .skipChildren), state⟩
  | _, _ => ⟨[], .ok (some .visitChildren), state⟩

def inspector : Inspector where
  State := Unit
  initial := ()
  handler? context kind := if kind = "import_declaration" then some (inspect context) else none

def info : RuleInfo where
  identifier := "library-design.public-import"
  name := "Public Import Prevention"
  description :=
    "Public imports (using `public import` or `@_exported import`) expose internal "
      ++ "dependencies to consumers of your library. This creates tight coupling and "
      ++ "can cause issues with versioning and API stability. Use internal or package "
      ++ "access level for imports, and re-export only intentionally chosen types."
  category := .libraryDesign
  defaultSeverity := .error
  documentation := none

def definition : RuleDefinition where
  serial := 0
  label := "PublicImportRule"
  info := info
  triggering :=
    ["public import Foundation", "@_exported import NIO", "public import struct Foundation.URL"]
  nonTriggering := ["import Foundation", "internal import NIO", "package import MyInternalModule"]
  check := inspector.check info

end TreeLint.PublicImport
