/-
  TreeLint/Configuration.lean
  ===========================
  **Which settings apply to which rule.**  Settings switch a rule on or off, may override its severity,
  and carry free options.  A configuration has settings by rule identifier, and profiles by name that
  overlay them.  A rule without an entry has the default settings.

  An overlay can switch a rule off but never on, replaces the severity where it sets one, and adds its
  options to those below.
-/
import TreeLint.Severity
import TreeLint.Log

namespace TreeLint

open Data

structure Settings where
  enabled : Bool := true
  severity : Option Severity := none
  options : Entries Value := []
  deriving Repr, Inhabited

/-- Settings by rule identifier, to be laid over the base. -/
structure Profile where
  rules : Entries Settings := []
  deriving Repr, Inhabited

/-- Base settings by rule identifier, and profiles by name. -/
structure Configuration where
  rules : Entries Settings := []
  profiles : Entries Profile := []
  deriving Repr, Inhabited

/-! ### Settings in force -/

def Settings.overlay (base upper : Settings) : Settings where
  enabled := base.enabled && upper.enabled
  severity := upper.severity.or base.severity
  options := Entries.overlay base.options upper.options

namespace Configuration

def baseSettings (c : Configuration) (identifier : String) : Settings :=
  (Entries.get? identifier c.rules).getD {}

/-- The settings in force for a rule under a profile.  A profile that does not exist is reported and
changes nothing. -/
def settingsFor (c : Configuration) (identifier : String) (profile : Option String) :
    Logged Settings :=
  let base := c.baseSettings identifier
  match profile with
  | none => pure base
  | some name =>
    match Entries.get? name c.profiles with
    | none => do
      Logged.note .warning .configuration
        ("Unknown profile " ++ Text.quoted name ++ "; using base configuration")
      pure base
    | some p =>
      match Entries.get? identifier p.rules with
      | none => pure base
      | some upper => pure (base.overlay upper)

def isEnabled (c : Configuration) (identifier : String) (profile : Option String) : Bool :=
  (c.settingsFor identifier profile).value.enabled

end Configuration

/-! ### Equality -/

/-- Equality up to the spelling of option values and the order of options. -/
def Settings.same (s t : Settings) : Bool :=
  s.enabled == t.enabled && s.severity == t.severity && Entries.agree Value.same s.options t.options

/-- Equality of profiles, entry order aside. -/
def Profile.same (p q : Profile) : Bool := Entries.agree Settings.same p.rules q.rules

/-- Equality of configurations, entry order aside. -/
def Configuration.same (c d : Configuration) : Bool :=
  Entries.agree Settings.same c.rules d.rules && Entries.agree Profile.same c.profiles d.profiles

/-! ### Documents -/

instance : Schema Settings where
  name := "RuleConfiguration"
  read fields :=
    Settings.mk <$> optional readFlag true "enabled" fields
      <*> optional (nullable Severity.read) none "severity" fields
      <*> optional (entriesOf readAny) [] "options" fields
  fields s :=
    [("enabled", .bool s.enabled), ("severity", Severity.dumpOption s.severity),
     ("options", .object s.options)]
  freeValues s := s.options.map (·.2)

def dumpEntries {α : Type} [Schema α] (entries : Entries α) : Value :=
  .object (entries.map fun (key, a) => (key, Schema.dump a))

/-- The values of any shape in entries of records. -/
def freeEntries {α : Type} [Schema α] (entries : Entries α) : List Value :=
  entries.flatMap fun (_, a) => Schema.freeValues a

instance : Schema Profile where
  name := "Profile"
  read fields := Profile.mk <$> optional (entriesOf (Schema.record Settings)) [] "rules" fields
  fields p := [("rules", dumpEntries p.rules)]
  holding _ := .keyed
  freeValues p := freeEntries p.rules

instance : Schema Configuration where
  name := "LintConfig"
  read fields :=
    Configuration.mk <$> optional (entriesOf (Schema.record Settings)) [] "rules" fields
      <*> optional (entriesOf (Schema.record Profile)) [] "profiles" fields
  fields c := [("rules", dumpEntries c.rules), ("profiles", dumpEntries c.profiles)]
  holding _ := .keyed
  freeValues c := freeEntries c.rules ++ freeEntries c.profiles

end TreeLint
