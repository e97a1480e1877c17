import Mathlib.Data.List.Basic

/-!
# D-Bus values

The values in a D-Bus message, and the two loops that programs read containers with: a dictionary
is read entry by entry as long as the keys have the expected type (`entries`, `pathEntries`), an
array of strings as long as there are strings (`strings`). `dict` and the other functions that
build such values are read back by them.
-/

namespace DBus

/-- `basic` is any other basic type, with its code. -/
inductive Value
  | string (s : List UInt8)
  | objectPath (p : List UInt8)
  | basic (type : UInt8) (value : Nat)
  | array (elements : List Value)
  | struct (fields : List Value)
  | dictEntry (key value : Value)
  | variant (value : Value)

/-- The entries at the front of a dictionary whose keys are strings. -/
def entries : List Value → List (List UInt8 × Value)
  | .dictEntry (.string key) value :: rest => (key, value) :: entries rest
  | _ => []

/-- The entries at the front of a dictionary whose keys are object paths. -/
def pathEntries : List Value → List (List UInt8 × Value)
  | .dictEntry (.objectPath path) value :: rest => (path, value) :: pathEntries rest
  | _ => []

/-- The strings at the front of an array. -/
def strings : List Value → List (List UInt8)
  | .string s :: rest => s :: strings rest
  | _ => []

/-- The elements, if there is an array at all. -/
def elements : Option Value → List Value
  | some (.array vs) => vs
  | _ => []

variable {α : Type}

/-- A dictionary with strings as its keys. -/
def dict (f : α → Value) (l : List (List UInt8 × α)) : Value :=
  .array (l.map fun e => .dictEntry (.string e.1) (f e.2))

/-- A dictionary with object paths as keys. -/
def pathDict (f : α → Value) (l : List (List UInt8 × α)) : Value :=
  .array (l.map fun e => .dictEntry (.objectPath e.1) (f e.2))

/-- An array of strings. -/
def stringArray (l : List (List UInt8)) : Value := .array (l.map .string)

/-- A dictionary is read back. -/
@[simp] theorem entries_dict (f : α → Value) (l : List (List UInt8 × α)) :
    entries (elements (some (dict f l))) = l.map fun e => (e.1, f e.2) := by
  rw [dict, elements]
  induction l with
  | nil => rfl
  | cons e l ih => rw [List.map_cons, entries, ih, List.map_cons]

@[simp] theorem pathEntries_pathDict (f : α → Value) (l : List (List UInt8 × α)) :
    pathEntries (elements (some (pathDict f l))) = l.map fun e => (e.1, f e.2) := by
  rw [pathDict, elements]
  induction l with
  | nil => rfl
  | cons e l ih => rw [List.map_cons, pathEntries, ih, List.map_cons]

/-- An array of strings is read back. -/
@[simp] theorem strings_stringArray (l : List (List UInt8)) :
    strings (elements (some (stringArray l))) = l := by
  rw [stringArray, elements]
  induction l with
  | nil => rfl
  | cons s l ih => rw [List.map_cons, strings, ih]

end DBus
