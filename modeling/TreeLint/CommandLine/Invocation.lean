/-
  TreeLint/CommandLine/Invocation.lean
  ====================================
  **What the command line asks for.**  There are two commands: one lints files, the other lists the
  rules.  Options before the command concern the whole program.  Of an option that takes one value and
  is given several times, the last counts.  Help can be asked for everywhere, and then nothing else is
  done.

  Mistakes are found in this order: words that cannot be read, from left to right; an unknown severity;
  files that are missing, or are not there; arguments that are too many.
-/
import TreeLint.CommandLine.Arguments
import TreeLint.Workspace

namespace TreeLint.CommandLine

/-! ### Options -/

inductive ProgramOption where
  | debug
  | completion
  | help
  deriving DecidableEq, Repr

inductive LintOption where
  | profile
  | rule
  | minSeverity
  | verbose
  | help
  deriving DecidableEq, Repr

inductive RulesOption where
  | help
  deriving DecidableEq, Repr

def programOptions : List (OptionSpec ProgramOption) :=
  [⟨["--debug"], .debug, false⟩, ⟨["--install-completion"], .completion, false⟩,
   ⟨["--show-completion"], .completion, false⟩, ⟨["--help"], .help, false⟩]

def lintOptions : List (OptionSpec LintOption) :=
  [⟨["--profile", "-p"], .profile, true⟩, ⟨["--rule", "-r"], .rule, true⟩,
   ⟨["--min-severity"], .minSeverity, true⟩, ⟨["--verbose", "-v"], .verbose, false⟩,
   ⟨["--help"], .help, false⟩]

def rulesOptions : List (OptionSpec RulesOption) := [⟨["--help"], .help, false⟩]

def hasOption {κ : Type} [DecidableEq κ] (key : κ) (options : List (Occurrence κ)) : Bool :=
  options.any (·.key = key)

def valuesOf (key : LintOption) (options : List (Occurrence LintOption)) : List String :=
  options.filterMap fun o => if o.key = key then o.value else none

/-! ### Requests -/

structure LintRequest where
  profile : Option String
  rules : List String
  minSeverity : Severity
  verbose : Bool
  files : List String
  deriving DecidableEq, Repr

/-- A command and what it needs, or the text of help that was asked for instead. -/
inductive Command where
  | lint (request : LintRequest)
  | rules
  | help (text : String)
  deriving DecidableEq, Repr

structure Invocation where
  debug : Bool
  command : Command
  deriving DecidableEq, Repr

def commandNames : List String := ["lint", "rules"]

/-! ### Help -/

def programHelp : String := "Usage: serverlint [OPTIONS] COMMAND [ARGS]...\n"

def lintHelp : String := "Usage: serverlint lint [OPTIONS] FILES...\n"

def rulesHelp : String := "Usage: serverlint rules [OPTIONS]\n"

/-- What the program's options ask for instead of a command; there is nothing to say on completion. -/
def programRequest? (options : List (Occurrence ProgramOption)) : Option Command :=
  if hasOption .help options then some (.help programHelp)
  else if hasOption .completion options then some (.help "")
  else none

/-! ### Reading -/

/-- The words of a command line divided: the command with its words, or what the program's options ask
for instead. -/
inductive Division where
  | command (debug : Bool) (name : String) (words : List String)
  | instead (command : Command)

/-- The commands that look like the first of some words. -/
def similarCommands : List String → List String
  | [] => []
  | word :: _ => closeMatches word commandNames

/-- What words are that name no command.  They are read as options once more, and a command is suggested
by what is left of them then. -/
def refuseCommand (name : String) (rest : List String) : Except UsageError Division :=
  match scan programOptions false (name :: rest) with
  | .error e => .error ⟨e.mistake, similarCommands e.rest⟩
  | .ok arguments =>
    match programRequest? arguments.options with
    | some command => .ok (.instead command)
    | none => .error ⟨.unknownCommand name, similarCommands arguments.positional⟩

def divide (words : List String) : Except UsageError Division :=
  match scan programOptions false words with
  | .error e => .error ⟨e.mistake, []⟩
  | .ok arguments =>
    match programRequest? arguments.options, arguments.positional with
    | some command, _ => .ok (.instead command)
    | none, [] => .error ⟨.missingCommand, []⟩
    | none, name :: rest =>
      if commandNames.contains name then
        .ok (.command (hasOption .debug arguments.options) name rest)
      else refuseCommand name rest

/-- The least severity that is shown; all are where none is given. -/
def readSeverity (options : List (Occurrence LintOption)) : Except UsageError Severity :=
  match (valuesOf .minSeverity options).getLast? with
  | none => .ok .info
  | some name =>
    match Severity.ofName? name with
    | some s => .ok s
    | none => .error ⟨.badSeverity name, []⟩

/-- Reads the words of the command that lints, files unchecked. -/
def readLint (words : List String) : Except UsageError Command :=
  match scan lintOptions true words with
  | .error e => .error ⟨e.mistake, []⟩
  | .ok arguments =>
    if hasOption .help arguments.options then .ok (.help lintHelp)
    else match readSeverity arguments.options with
      | .error e => .error e
      | .ok minSeverity =>
        if arguments.positional.isEmpty then .error ⟨.missingFiles, []⟩
        else .ok (.lint
          { profile := (valuesOf .profile arguments.options).getLast?
            rules := valuesOf .rule arguments.options
            minSeverity := minSeverity
            verbose := hasOption .verbose arguments.options
            files := arguments.positional })

/-- Reads the words of the command that lists rules; it takes no arguments. -/
def readRules (words : List String) : Except UsageError Command :=
  match scan rulesOptions true words with
  | .error e => .error ⟨e.mistake, []⟩
  | .ok arguments =>
    if hasOption .help arguments.options then .ok (.help rulesHelp)
    else if arguments.positional.isEmpty then .ok .rules
    else .error ⟨.extraArguments arguments.positional, []⟩

/-- Reads a command line, files unchecked. -/
def Invocation.read (words : List String) : Except UsageError Invocation :=
  match divide words with
  | .error e => .error e
  | .ok (.instead command) => .ok ⟨false, command⟩
  | .ok (.command debug name rest) =>
    ((if name = "lint" then readLint rest else readRules rest).map fun command => ⟨debug, command⟩)

def Invocation.files (i : Invocation) : List String :=
  match i.command with
  | .lint request => request.files
  | .rules | .help _ => []

end TreeLint.CommandLine
