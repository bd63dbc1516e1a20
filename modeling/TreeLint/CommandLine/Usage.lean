/-
  TreeLint/CommandLine/Usage.lean
  ===============================
  **Mistakes on the command line**, in the words of typer.  A usage error names what could not be
  understood.  Where a name close to an existing one was given, the error suggests the existing one.
  Words are shown as they were given, but for control characters, which are shown by their codes.
-/
import TreeLint.Text.Quoted

namespace TreeLint.CommandLine

inductive Mistake where
  | missingCommand
  | unknownCommand (name : String)
  | extraArguments (arguments : List String)
  | unknownOption (name : String) (similar : List String)
  | valueRequired (option : String)
  | valueRefused (option : String)
  | missingFiles
  | badSeverity (value : String)
  | fileNotFound (path : String)
  | fileIsDirectory (path : String)
  | fileHasNull
  deriving DecidableEq, Repr

/-- A mistake, and commands that may have been meant. -/
structure UsageError where
  mistake : Mistake
  commands : List String := []
  deriving DecidableEq, Repr

def optionHint : List String → String
  | [] => ""
  | names =>
    " (Possible options: " ++ ", ".intercalate (names.mergeSort fun a b => decide (a ≤ b)) ++ ")"

/-- The sentence that explains a mistake, without hints. -/
def Mistake.sentence : Mistake → String
  | .missingCommand => "Missing command."
  | .unknownCommand name => "No such command " ++ Text.quoted name ++ "."
  | .extraArguments arguments =>
    "Got unexpected extra argument(s) (" ++ " ".intercalate arguments ++ ")"
  | .unknownOption name _ => "No such option: " ++ name
  | .valueRequired option => "Option " ++ Text.quoted option ++ " requires an argument."
  | .valueRefused option => "Option " ++ Text.quoted option ++ " does not take a value."
  | .missingFiles => "Missing argument 'files'."
  | .badSeverity value =>
    "Invalid value for '--min-severity': Value error, " ++ Text.quoted value
      ++ " is not one of 'info', 'warning', 'error'."
  | .fileNotFound path => "Invalid value for 'files': file " ++ Text.quoted path ++ " does not exist."
  | .fileIsDirectory path =>
    "Invalid value for 'files': file " ++ Text.quoted path ++ " is a directory."
  | .fileHasNull => "Invalid value for 'files': Value error, embedded null byte"

def Mistake.hint : Mistake → String
  | .unknownOption _ similar => optionHint similar
  | _ => ""

def withoutStop (s : String) : String :=
  String.ofList ((s.toList.reverse.dropWhile (· == '.')).reverse)

def isControl (c : Char) : Bool := c.toNat < 0x20 || (0x7F ≤ c.toNat && c.toNat < 0xA0)

/-- A text with the codes of control characters in their place. -/
def withoutControls (s : String) : String :=
  String.ofList (s.toList.flatMap fun c =>
    if isControl c then '\\' :: 'x' :: Text.hexDigits 2 c.toNat else [c])

def UsageError.message (e : UsageError) : String :=
  withoutControls ((if e.commands.isEmpty then e.mistake.sentence
    else withoutStop e.mistake.sentence ++ ". Did you mean "
      ++ ", ".intercalate (e.commands.map Text.quoted) ++ "?")
    ++ e.mistake.hint)

end TreeLint.CommandLine
