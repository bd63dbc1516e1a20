/-
  TreeLint/Registry.lean
  ======================
  **The rules that are known.**  A registry has rule definitions by identifier.  Registering a
  definition again changes nothing; an empty identifier, and an identifier that another definition
  holds, are refused.  Listings go by identifier in code point order, whatever the order of
  registration.
-/
import TreeLint.Rules.PublicImport

namespace TreeLint

/-- Definitions in order of registration. -/
structure Registry where
  definitions : List RuleDefinition

inductive RegistryError where
  | emptyIdentifier (label : String)
  | duplicate (identifier existing offered : String)
  deriving DecidableEq, Repr

def RegistryError.message : RegistryError → String
  | .emptyIdentifier label => label ++ " has an empty identifier"
  | .duplicate identifier existing offered =>
    "Duplicate rule identifier " ++ Text.quoted identifier ++ ": " ++ existing ++ " and " ++ offered

namespace Registry

def empty : Registry := ⟨[]⟩

/-! ### Queries -/

def get? (r : Registry) (identifier : String) : Option RuleDefinition :=
  r.definitions.find? (·.identifier == identifier)

def contains (r : Registry) (identifier : String) : Bool := (r.get? identifier).isSome

def size (r : Registry) : Nat := r.definitions.length

/-- The known identifiers in code point order. -/
def identifiers (r : Registry) : List String :=
  (r.definitions.map (·.identifier)).mergeSort fun a b => decide (a ≤ b)

def rules (r : Registry) : List RuleDefinition := r.identifiers.filterMap r.get?

def rulesFor (r : Registry) (category : Category) : List RuleDefinition :=
  r.rules.filter (·.info.category == category)

def create (r : Registry) (identifier : String) (settings : Option Settings) : Option Rule :=
  (r.get? identifier).map (·.create settings)

def info? (r : Registry) (identifier : String) : Option RuleInfo :=
  (r.get? identifier).map (·.info)

def allInfo (r : Registry) : List RuleInfo := r.identifiers.filterMap r.info?

/-! ### Registration -/

def registrationRecord (d : RuleDefinition) : Record :=
  ⟨.debug, .registry, "Registered rule " ++ d.identifier ++ " (" ++ d.label ++ ")"⟩

def register (r : Registry) (d : RuleDefinition) : Except RegistryError (Logged Registry) :=
  if d.identifier.isEmpty then .error (.emptyIdentifier d.label)
  else match r.get? d.identifier with
    | none => .ok ⟨⟨r.definitions ++ [d]⟩, [registrationRecord d]⟩
    | some existing =>
      if existing.serial = d.serial then .ok ⟨r, [registrationRecord d]⟩
      else .error (.duplicate d.identifier existing.label d.label)

/-- Adds definitions one after the other, up to the first that is refused. -/
def registerAll (r : Registry) : List RuleDefinition → Except RegistryError (Logged Registry)
  | [] => .ok (pure r)
  | d :: rest =>
    match r.register d with
    | .error e => .error e
    | .ok added =>
      match registerAll added.value rest with
      | .error e => .error e
      | .ok done => .ok ⟨done.value, added.records ++ done.records⟩

def ofList (ds : List RuleDefinition) : Except RegistryError (Logged Registry) :=
  empty.registerAll ds

/-! ### The built-in rules -/

def builtin : List RuleDefinition := [PublicImport.definition]

def default : Logged Registry := ⟨⟨builtin⟩, builtin.map registrationRecord⟩

end Registry

end TreeLint
