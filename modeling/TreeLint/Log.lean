/-
  TreeLint/Log.lean
  =================
  **What happened on the way.**  Building a linter, parsing, walking and linting report what they did
  as log records.  Nothing is written while they run: a computation that logs is a value together with
  its records in order, and the outer layer decides which records a reader sees.
-/

namespace TreeLint

/-! ### Records -/

inductive Level where
  | debug
  | info
  | warning
  | error
  deriving DecidableEq, Repr

inductive Channel where
  | parser
  | context
  | configuration
  | walk
  | registry
  | linter
  deriving DecidableEq, Repr

structure Record where
  level : Level
  channel : Channel
  message : String
  deriving DecidableEq, Repr

namespace Level

def name : Level → String
  | .debug => "DEBUG"
  | .info => "INFO"
  | .warning => "WARNING"
  | .error => "ERROR"

/-- Warnings and errors are shown without being asked for. -/
def isAlert : Level → Bool
  | .warning | .error => true
  | .debug | .info => false

end Level

def Channel.name : Channel → String
  | .parser => "serverlint.parser"
  | .context => "serverlint.context"
  | .configuration => "serverlint.config"
  | .walk => "serverlint.rules.visitor"
  | .registry => "serverlint.rules.registry"
  | .linter => "serverlint.linter"

def Record.line (r : Record) : String :=
  r.level.name ++ " " ++ r.channel.name ++ ": " ++ r.message

/-! ### Computations that log -/

/-- A value and the records that were made on the way to it, oldest first. -/
structure Logged (α : Type) where
  value : α
  records : List Record

namespace Logged

variable {α β : Type}

/-- Runs one computation after another; the records follow in that order. -/
def andThen (first : Logged α) (next : α → Logged β) : Logged β :=
  let second := next first.value
  ⟨second.value, first.records ++ second.records⟩

instance : Monad Logged where
  pure value := ⟨value, []⟩
  bind := andThen

def note (level : Level) (channel : Channel) (message : String) : Logged Unit :=
  ⟨(), [⟨level, channel, message⟩]⟩

@[simp] theorem value_pure (a : α) : (pure a : Logged α).value = a := rfl

@[simp] theorem records_pure (a : α) : (pure a : Logged α).records = [] := rfl

@[simp] theorem value_bind (x : Logged α) (f : α → Logged β) :
    (x >>= f).value = (f x.value).value := rfl

@[simp] theorem records_bind (x : Logged α) (f : α → Logged β) :
    (x >>= f).records = x.records ++ (f x.value).records := rfl

end Logged

end TreeLint
