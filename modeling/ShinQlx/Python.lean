import Mathlib.Data.List.Basic

/-! # What the bindings see of Python

The Rust code never looks inside a Python object.  It calls it, compares it with
`==` and `!=`, and tries to extract a `bool`, an `int`, a `str` or a `dict` from
it.  This module holds that interface: the exceptions, the values a handler can
return and the return codes read off them (`PythonReturnCodes.extract`), and the
comparisons, each of which may raise.
-/
namespace ShinQlx

/-- A Python exception: one the bindings raise, by its class and message, or one
raised by a plugin's own code. -/
inductive PyErr where
  | valueError (msg : String)
  | keyError (msg : String)
  | typeError (msg : String)
  | attributeError (msg : String)
  | assertionError (msg : String)
  | environmentError (msg : String)
  | runtimeError (msg : String)
  | nonexistentPlayerError (msg : String)
  | pluginLoadError (msg : String)
  | pluginUnloadError (msg : String)
  | raised (what : String)
  deriving DecidableEq, Repr

/-- A call that returns a value or raises. -/
abbrev PyResult (α : Type) := Except PyErr α

/-- `Result::unwrap_or`. -/
def PyResult.unwrapOr {α : Type} (r : PyResult α) (d : α) : α :=
  match r with
  | .ok a => a
  | .error _ => d

theorem PyResult.bind_eq_ok {α β : Type} {r : PyResult α} {f : α → PyResult β} {b : β} :
    r >>= f = .ok b ↔ ∃ a, r = .ok a ∧ f a = .ok b := by
  cases r with
  | error e => exact ⟨nofun, nofun⟩
  | ok a => exact ⟨fun h => ⟨a, rfl, h⟩, fun ⟨_, ha, h⟩ => Except.ok.inj ha ▸ h⟩

/-- A call into the Rust code: it returns, raises, or panics. -/
inductive Outcome (α : Type) where
  | ok (a : α)
  | err (e : PyErr)
  | panic
  deriving DecidableEq, Repr

/-- `?` on a fallible Python call: its exception is the outcome. -/
def Outcome.ofResult {α : Type} : PyResult α → Outcome α
  | .ok a => .ok a
  | .error e => .err e

/-- The answer of an operation on a registry: its outcome, the registry it
leaves, and the tasks it put on `next_frame_tasks`. -/
structure Reply (S T : Type) where
  outcome : Outcome Unit
  state : S
  queued : List T

/-! ## Values -/

/-- A Python value other than a dict, as the extractions tell it apart: an `int` is
any object that indexes as one, and `other` an object that none of them takes. -/
inductive PyScalar where
  | none
  | bool (b : Bool)
  | int (i : Int)
  | str (s : String)
  | other (id : Nat)
  deriving DecidableEq, Repr

/-- A `dict`, as its items in insertion order. -/
abbrev PyDict := List (PyScalar × PyScalar)

/-- A Python value as far as the bindings tell values apart. -/
inductive PyValue where
  | scalar (v : PyScalar)
  | dict (d : PyDict)
  deriving DecidableEq, Repr

namespace PyValue

/-- `None`. -/
abbrev none : PyValue := .scalar .none

/-- `True` and `False`. -/
abbrev bool (b : Bool) : PyValue := .scalar (.bool b)

/-- An `int`. -/
abbrev int (i : Int) : PyValue := .scalar (.int i)

/-- A `str`. -/
abbrev str (s : String) : PyValue := .scalar (.str s)

/-- `extract::<String>`, with its exception dropped. -/
def extractString : PyValue → Option String
  | .scalar (.str s) => some s
  | _ => Option.none

/-- `cast::<PyDict>`, with its exception dropped. -/
def castDict : PyValue → Option PyDict
  | .dict d => some d
  | _ => Option.none

/-- `cast::<PyBool>().is_ok_and(|value| !value.is_true())`. -/
def isFalse : PyValue → Bool
  | .scalar (.bool b) => !b
  | _ => false

@[simp] theorem extractString_str (s : String) : extractString (str s) = some s := rfl

@[simp] theorem isFalse_bool (b : Bool) : isFalse (bool b) = !b := rfl

@[simp] theorem isFalse_str (s : String) : isFalse (str s) = false := rfl

end PyValue

/-! ## Return codes -/

/-- What a handler can return to affect the flow of an event. -/
inductive PythonReturnCodes where
  | retNone
  | retStop
  | retStopEvent
  | retStopAll
  | retUsage
  deriving DecidableEq, Repr

namespace PythonReturnCodes

/-- The Python integer of a return code. -/
def toInt : PythonReturnCodes → Int
  | .retNone => 0
  | .retStop => 1
  | .retStopEvent => 2
  | .retStopAll => 3
  | .retUsage => 4

/-- The return code a value stands for.  `None` stands for `RET_NONE`, a `bool`
for nothing although Python counts it as an `int`. -/
def extract : PyValue → Option PythonReturnCodes
  | .scalar .none => some .retNone
  | .scalar (.int i) =>
    if i = toInt .retNone then some .retNone
    else if i = toInt .retStop then some .retStop
    else if i = toInt .retStopAll then some .retStopAll
    else if i = toInt .retStopEvent then some .retStopEvent
    else if i = toInt .retUsage then some .retUsage
    else none
  | _ => none

end PythonReturnCodes

/-! ## Comparisons -/

/-- Python's `==` and `!=` on a type of objects.  Both call into the objects, so
both may raise, and nothing ties one to the other. -/
class PyCompare (H : Type) where
  eq : H → H → PyResult Bool
  ne : H → H → PyResult Bool

namespace PyCompare
variable {H : Type} [PyCompare H]

/-- `a == b` returns `True`. -/
def equals (a b : H) : Bool := (eq a b).unwrapOr false

/-- `a == b` returns `True` or raises. -/
def maybeEquals (a b : H) : Bool := (eq a b).unwrapOr true

/-- `a != b` returns `True` or raises. -/
def maybeDiffers (a b : H) : Bool := (ne a b).unwrapOr true

/-- `a != b` returns `True`. -/
def differs (a b : H) : Bool := (ne a b).unwrapOr false

end PyCompare

/-- An ordinary Python function: it compares by identity and never raises. -/
structure PyFunction where
  id : Nat
  deriving DecidableEq, Repr

instance : PyCompare PyFunction where
  eq f g := .ok (f == g)
  ne f g := .ok (f != g)

/-- A handler whose comparisons always raise. -/
inductive Raiser where
  | handler
  deriving DecidableEq, Repr

instance : PyCompare Raiser where
  eq _ _ := .error (.raised "==")
  ne _ _ := .error (.raised "!=")

end ShinQlx
