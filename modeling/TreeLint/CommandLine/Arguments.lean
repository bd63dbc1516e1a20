/-
  TreeLint/CommandLine/Arguments.lean
  ===================================
  **Options and arguments**, as typer reads them.  A long option begins with two dashes and may have its
  value after an equals sign or as the next word.  A short option is one letter after a dash; several may
  share a dash, and what follows one that takes a value is its value, else the next word is.  A word `--`
  ends the options.  A single dash is an argument.
-/
import TreeLint.CommandLine.Similarity
import TreeLint.CommandLine.Usage

namespace TreeLint.CommandLine

/-- An option: its names, what it is for, and whether it takes a value. -/
structure OptionSpec (κ : Type) where
  names : List String
  key : κ
  takesValue : Bool

structure Occurrence (κ : Type) where
  key : κ
  value : Option String

/-- A word that could not be understood, and the words after it. -/
structure ScanError where
  mistake : Mistake
  rest : List String

structure Arguments (κ : Type) where
  options : List (Occurrence κ)
  positional : List String

/-- What a word with options is: complete, or waiting for a value in the next word. -/
inductive OptionWord (κ : Type) where
  | complete (options : List (Occurrence κ))
  | awaiting (options : List (Occurrence κ)) (name : String) (key : κ)

section Scanning

variable {κ : Type}

def findOption (specs : List (OptionSpec κ)) (name : String) : Option (OptionSpec κ) :=
  specs.find? (·.names.contains name)

def isLong (name : String) : Bool := ['-', '-'].isPrefixOf name.toList

def longNames (specs : List (OptionSpec κ)) : List String :=
  specs.flatMap fun spec => spec.names.filter isLong

def readLong (specs : List (OptionSpec κ)) (word : String) : Except Mistake (OptionWord κ) :=
  let name := String.ofList (word.toList.takeWhile (· != '='))
  let value : Option String :=
    match word.toList.dropWhile (· != '=') with
    | [] => none
    | _ :: cs => some (String.ofList cs)
  match findOption specs name with
  | none => .error (.unknownOption name (closeMatches name (longNames specs)))
  | some spec =>
    match spec.takesValue, value with
    | true, some v => .ok (.complete [⟨spec.key, some v⟩])
    | true, none => .ok (.awaiting [] name spec.key)
    | false, some _ => .error (.valueRefused name)
    | false, none => .ok (.complete [⟨spec.key, none⟩])

/-- Reads the letters of short options that share a dash, after those read already. -/
def readShort (specs : List (OptionSpec κ)) (done : List (Occurrence κ)) :
    List Char → Except Mistake (OptionWord κ)
  | [] => .ok (.complete done)
  | c :: cs =>
    let name := String.ofList ['-', c]
    match findOption specs name with
    | none => .error (.unknownOption name [])
    | some spec =>
      if spec.takesValue then
        if cs.isEmpty then .ok (.awaiting done name spec.key)
        else .ok (.complete (done ++ [⟨spec.key, some (String.ofList cs)⟩]))
      else readShort specs (done ++ [⟨spec.key, none⟩]) cs

/-- A word that is read as options: a dash with something after it. -/
def isOptionWord (word : String) : Bool :=
  match word.toList with
  | '-' :: _ :: _ => true
  | _ => false

def readOptionWord (specs : List (OptionSpec κ)) (word : String) :
    Except Mistake (OptionWord κ) :=
  if isLong word then readLong specs word else readShort specs [] (word.toList.drop 1)

def Arguments.addOptions (options : List (Occurrence κ)) (a : Arguments κ) : Arguments κ :=
  { a with options := options ++ a.options }

def Arguments.addPositional (word : String) (a : Arguments κ) : Arguments κ :=
  { a with positional := word :: a.positional }

/-- Reads words.  Unless options may follow arguments, everything from the first argument on is an
argument. -/
def scan (specs : List (OptionSpec κ)) (interspersed : Bool) :
    List String → Except ScanError (Arguments κ)
  | [] => .ok ⟨[], []⟩
  | word :: rest =>
    if word = "--" then .ok ⟨[], rest⟩
    else if isOptionWord word then
      match readOptionWord specs word with
      | .error mistake => .error ⟨mistake, rest⟩
      | .ok (.complete options) =>
        (scan specs interspersed rest).map (Arguments.addOptions options)
      | .ok (.awaiting options name key) =>
        match rest with
        | [] => .error ⟨.valueRequired name, []⟩
        | value :: others =>
          (scan specs interspersed others).map
            (Arguments.addOptions (options ++ [⟨key, some value⟩]))
    else if interspersed then (scan specs interspersed rest).map (Arguments.addPositional word)
    else .ok ⟨[], word :: rest⟩

end Scanning

end TreeLint.CommandLine
