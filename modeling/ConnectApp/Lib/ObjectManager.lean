import ConnectApp.Lib.CString
import ConnectApp.Lib.DBus
import Mathlib.Logic.Function.Basic

/-!
# The object manager protocol of D-Bus

A service has objects with interfaces and their properties (`Objects`). It tells of a change with
a signal (`Update`, `Objects.Step`) and lists all it has on request (`Objects.Lists`).
-/

namespace ObjectManager

open CString DBus

/-- An interface that every D-Bus library knows. -/
def introspectable : List UInt8 := chars "org.freedesktop.DBus.Introspectable"
/-- The one with the property signals. -/
def propertiesInterface : List UInt8 := chars "org.freedesktop.DBus.Properties"

/-! ## Properties -/

/-- Changes of properties, one after the other; `none` takes a property out. -/
def write (m : List UInt8 → Option Value) (cs : List (List UInt8 × Option Value)) :
    List UInt8 → Option Value :=
  cs.foldl (fun m e => Function.update m e.1 e.2) m

/-- Properties with their values, as changes. -/
def given (props : List (List UInt8 × Value)) : List (List UInt8 × Option Value) :=
  props.map fun e => (e.1, some e.2)

/-- The properties a list makes up. -/
def table (props : List (List UInt8 × Value)) : List UInt8 → Option Value :=
  write (fun _ => none) (given props)

theorem write_append (m : List UInt8 → Option Value) (cs cs' : List (List UInt8 × Option Value)) :
    write m (cs ++ cs') = write (write m cs) cs' := List.foldl_append

/-- A property that is not written keeps its value. -/
theorem write_of_not_mem {cs : List (List UInt8 × Option Value)} {name : List UInt8}
    (h : name ∉ cs.map Prod.fst) (m : List UInt8 → Option Value) : write m cs name = m name := by
  induction cs generalizing m with
  | nil => rfl
  | cons e cs ih =>
    rw [List.map_cons, List.mem_cons, not_or] at h
    show write (Function.update m e.1 e.2) cs name = m name
    rw [ih h.2, Function.update_of_ne h.1]

/-- A property that is written does not depend on its old value. -/
theorem write_of_mem {cs : List (List UInt8 × Option Value)} {name : List UInt8}
    (h : name ∈ cs.map Prod.fst) (m m' : List UInt8 → Option Value) :
    write m cs name = write m' cs name := by
  induction cs generalizing m m' with
  | nil => exact absurd h List.not_mem_nil
  | cons e cs ih =>
    show write (Function.update m e.1 e.2) cs name = write (Function.update m' e.1 e.2) cs name
    by_cases hcs : name ∈ cs.map Prod.fst
    · exact ih hcs _ _
    · -- the last change of the property is this one
      obtain rfl : name = e.1 := (List.mem_cons.mp h).resolve_right hcs
      rw [write_of_not_mem hcs, write_of_not_mem hcs, Function.update_self, Function.update_self]

/-- Properties written a second time change nothing. -/
theorem write_table (props : List (List UInt8 × Value)) :
    write (table props) (given props) = table props := by
  funext name
  by_cases h : name ∈ (given props).map Prod.fst
  · exact write_of_mem h _ _
  · exact write_of_not_mem h _

/-! ## Objects -/

/-- For an object and an interface, the properties. -/
abbrev Objects := List UInt8 × List UInt8 → Option (List UInt8 → Option Value)

/-- Interfaces with the properties they have, as in a message. -/
abbrev Interfaces := List (List UInt8 × List (List UInt8 × Value))

/-- The signals of a service. -/
inductive Update
  | added (path : List UInt8) (interfaces : Interfaces)
  | removed (path : List UInt8) (names : List (List UInt8))
  | changed (path interface : List UInt8) (props : List (List UInt8 × Value))
      (invalidated : List (List UInt8))

/-- `a{sv}`. -/
def propertiesValue (props : List (List UInt8 × Value)) : Value := dict .variant props

/-- `a{sa{sv}}`. -/
def interfacesValue (interfaces : Interfaces) : Value := dict propertiesValue interfaces

namespace Objects

/-- The service gets an interface. -/
def put (o : Objects) (path interface : List UInt8) (props : List (List UInt8 × Value)) : Objects :=
  Function.update o (path, interface) (some (table props))

/-- The service gets interfaces of one object. -/
def addAll (o : Objects) (path : List UInt8) (interfaces : Interfaces) : Objects :=
  interfaces.foldl (fun o e => o.put path e.1 e.2) o

/-- The service loses interfaces of one object. -/
def removeAll (o : Objects) (path : List UInt8) (names : List (List UInt8)) : Objects :=
  names.foldl (fun o name => Function.update o (path, name) none) o

/-- A change, and the signal for it. Interfaces are added that are not there, and properties are
changed of those that are. -/
inductive Step : Objects → Update → Objects → Prop
  | added {o : Objects} {path : List UInt8} {interfaces : Interfaces} :
      (interfaces.map Prod.fst).Nodup → (∀ e ∈ interfaces, o (path, e.1) = none) →
      Step o (.added path interfaces) (o.addAll path interfaces)
  | removed {o : Objects} {path : List UInt8} {names : List (List UInt8)} :
      Step o (.removed path names) (o.removeAll path names)
  | changed {o : Objects} {path interface : List UInt8} {props : List (List UInt8 × Value)}
      {invalidated : List (List UInt8)} {m : List UInt8 → Option Value} :
      o (path, interface) = some m →
      Step o (.changed path interface props invalidated)
        (Function.update o (path, interface)
          (some (write m (given props ++ invalidated.map (·, none)))))

/-- The reply names every interface of every object. -/
structure Lists (o : Objects) (objects : List (List UInt8 × Interfaces)) : Prop where
  sound : ∀ e ∈ objects, ∀ i ∈ e.2, o (e.1, i.1) = some (table i.2)
  complete : ∀ path interface m, o (path, interface) = some m →
    ∃ e ∈ objects, e.1 = path ∧ interface ∈ e.2.map Prod.fst

end Objects

end ObjectManager
