/-
  TreeLint/Data/Held.lean
  =======================
  **Records in the hands of a caller**, as frozen models of pydantic are.  A record does not change: an
  attempt to assign to a field, known or not, is refused.  Names that begin with an underscore are no
  field's.  Most of them a holder keeps without any effect, but some have a meaning: one replaces all that
  is kept under the names of fields, some stand for things that are never assigned, and some for the
  operations of the holder, which fail when something else has taken their place.
-/
import TreeLint.Data.Reading

namespace TreeLint.Data

inductive HeldError where
  | frozen (cause : Invalid)
  | dictionaryExpected (kind : String)
  | classExpected (kind : String)
  | readOnly (member schema : String)
  | noSetter (member schema : String)
  | notCallable (kind : String)
  | noMember (kind member : String)
  | textIndex
  | listIndex
  | noIndex (kind : String)
  | noKey (key : String)
  | unwritable (cause : Unwritable)
  deriving DecidableEq, Repr

def HeldError.message : HeldError → String
  | .frozen _ => Fault.message .frozen
  | .dictionaryExpected kind => "__dict__ must be set to a dictionary, not a '" ++ kind ++ "'"
  | .classExpected kind => "__class__ must be set to a class, not '" ++ kind ++ "' object"
  | .readOnly member schema =>
    "attribute '" ++ member ++ "' of '" ++ schema ++ "' objects is not writable"
  | .noSetter member schema =>
    "property '" ++ member ++ "' of '" ++ schema ++ "' object has no setter"
  | .notCallable kind => "'" ++ kind ++ "' object is not callable"
  | .noMember kind member => "'" ++ kind ++ "' object has no attribute '" ++ member ++ "'"
  | .textIndex => "string indices must be integers, not 'str'"
  | .listIndex => "list indices must be integers or slices, not str"
  | .noIndex kind => "'" ++ kind ++ "' object is not subscriptable"
  | .noKey key => "'" ++ key ++ "'"
  | .unwritable cause => cause.message

/-- A record with what its holder has assigned: contents in place of the fields, values under names
that are no field's, and two values that only a comparison looks at. -/
structure Held (α : Type) where
  record : α
  contents : Option (Entries Value) := none
  loose : Entries Value := []
  extra : Value := .null
  hidden : Value := .null

namespace Held

variable {α : Type}

def assigned? (h : Held α) (name : String) : Option Value :=
  (Entries.get? name h.loose).or (h.contents.bind (Entries.get? name))

/-! ### Assigning -/

/-- Fails where the operations that assign have been replaced. -/
def checkAssigning (h : Held α) (name : String) : Except HeldError Unit := do
  match h.assigned? "__pydantic_setattr_handlers__" with
  | some (.object handlers) =>
    match Entries.get? name handlers with
    | some .null | none => pure ()
    | some handler => throw (.notCallable handler.kind)
  | some other => throw (.noMember other.kind "get")
  | none => pure ()
  match h.assigned? "_setattr_handler" with
  | some other => throw (.notCallable other.kind)
  | none => pure ()

def assignSpecial [Schema α] (h : Held α) (name : String) (v : Value) :
    Except HeldError (Held α) :=
  match name with
  | "__dict__" =>
    match v with
    | .object contents => .ok { h with contents := some contents, loose := [] }
    | other => .error (.dictionaryExpected other.kind)
  | "__class__" => .error (.classExpected v.kind)
  | "__weakref__" => .error (.readOnly name (Schema.name α))
  | "__fields_set__" => .error (.noSetter name (Schema.name α))
  | "__pydantic_extra__" => .ok { h with extra := v }
  | "__pydantic_private__" => .ok { h with hidden := v }
  | "__pydantic_fields_set__" => .ok h
  | _ => .ok { h with loose := (name, v) :: h.loose }

/-- Assigns under a name.  A field, known or not, is refused. -/
def assign [Schema α] (h : Held α) (name : String) (v : Value) : Except HeldError (Held α) := do
  h.checkAssigning name
  if name.toList.head? = some '_' then h.assignSpecial name v
  else throw (.frozen ⟨Schema.name α, [⟨[.field name], .frozen⟩]⟩)

/-- Assigns one value after the other; an attempt that fails changes nothing.  The outcomes are in the
order of the attempts. -/
def assignAll [Schema α] (h : Held α) :
    List (String × Value) → List (Except HeldError Unit) × Held α
  | [] => ([], h)
  | (name, v) :: rest =>
    match h.assign name v with
    | .error e =>
      let (outcomes, last) := h.assignAll rest
      (.error e :: outcomes, last)
    | .ok next =>
      let (outcomes, last) := next.assignAll rest
      (.ok () :: outcomes, last)

/-! ### Writing -/

/-- Writes a held record: what has been put in place of the fields as it is, under the names of fields. -/
def write [Schema α] (h : Held α) : Except HeldError Value :=
  match h.assigned? "model_dump", h.assigned? "__pydantic_serializer__" with
  | some other, _ => .error (.notCallable other.kind)
  | none, some other => .error (.noMember other.kind "to_python")
  | none, none =>
    match h.contents with
    | none => (Schema.write h.record).mapError .unwritable
    | some contents =>
      let names := (Schema.fields h.record).map (·.1)
      let kept := contents.filter fun (name, _) => names.contains name
      if kept.any fun (_, v) => writableDepth < v.depth then .error (.unwritable .tooDeep)
      else .ok (.object kept)

/-! ### Comparing -/

/-- Whether a value from outside equals what a field holds, whose written form is given. -/
def equalsHeld (outside written : Value) : Holding → Bool
  | .plain => outside.same written
  | .record =>
    match outside, written with
    | .null, .null => true
    | _, _ => false
  | .sequence => false
  | .keyed =>
    match outside, written with
    | .object [], .object [] => true
    | _, _ => false

/-- Whether contents from outside equal the fields of a record. -/
def equalsContents [Schema α] (contents : Entries Value) (a : α) : Bool :=
  (Schema.fields a).all fun (name, written) =>
    match Entries.get? name contents with
    | some outside => equalsHeld outside written (Schema.holding α name)
    | none => false

def keepsType (h : Held α) : Except HeldError Bool :=
  match h.assigned? "__pydantic_generic_metadata__" with
  | none => .ok true
  | some (.object entries) =>
    match Entries.get? "origin" entries with
    | none => .error (.noKey "origin")
    | some v => .ok v.isVoid
  | some (.text _) => .error .textIndex
  | some (.list _) => .error .listIndex
  | some other => .error (.noIndex other.kind)

def equals [Schema α] (same : α → α → Bool) (h : Held α) (other : α) : Except HeldError Bool := do
  let keeps ← h.keepsType
  let fields := match h.contents with
    | none => same h.record other
    | some contents => equalsContents contents other
  pure (keeps && h.hidden.same .null && h.extra.same .null && fields)

end Held

end TreeLint.Data
