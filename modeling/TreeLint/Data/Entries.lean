/-
  TreeLint/Data/Entries.lean
  ==========================
  **Keyed entries in order.**  Objects of a document, rule settings by identifier and profiles by name
  are all lists of keyed entries whose order is visible.  Looking a key up finds its first entry;
  setting a key changes its entry in place or adds one at the end.
-/

namespace TreeLint.Data

/-- Values by key, in order of first appearance. -/
abbrev Entries (α : Type) := List (String × α)

namespace Entries

variable {α : Type}

def get? (key : String) : Entries α → Option α
  | [] => none
  | (k, v) :: rest => if k = key then some v else get? key rest

def has (key : String) (entries : Entries α) : Bool := (get? key entries).isSome

def keys (entries : Entries α) : List String := entries.map Prod.fst

/-- Puts a value under a key: in place where the key has an entry, at the end otherwise. -/
def set (key : String) (value : α) : Entries α → Entries α
  | [] => [(key, value)]
  | (k, v) :: rest => if k = key then (key, value) :: rest else (k, v) :: set key value rest

/-- The entries of `base`, each replaced by that of `upper` with its key, then the further entries of
`upper`. -/
def overlay (base upper : Entries α) : Entries α :=
  upper.foldl (fun entries entry => set entry.1 entry.2 entries) base

/-- Equality that ignores order: as many entries, and each key of the first has an equal value in the
second. -/
def agree (same : α → α → Bool) (xs ys : Entries α) : Bool :=
  xs.length == ys.length && xs.all fun (key, x) =>
    match get? key ys with
    | some y => same x y
    | none => false

end Entries

end TreeLint.Data
