import ShinQlx.HookLedger
import ShinQlx.Loop

/-! # Dispatching an event

`EventDispatcher::dispatch` calls the registered handlers one after another until
one of them stops it.  The handlers are arbitrary Python, so what a call returns
or raises is up to an interpreter (`Interp`) that is asked once for every
position of the loop; the position stands for everything that happened before.

`dispatch_semantics` states the documented semantics over the history of the
registry: which handlers are called, in which order, and what comes back.  It
needs the dispatcher to have a name.  Without one `dispatch` gives up before the
first handler and returns `None` (`dispatch_nameless_none`).
-/
namespace ShinQlx

/-- The Python side of one dispatch: what the handler at position `k` does when
called with some arguments, and what the dispatcher's `handle_return` makes of
an unknown value. -/
structure Interp (H A : Type) where
  call : Nat → H → A → PyResult PyValue
  handleReturn : Nat → H → PyValue → PyResult PyValue

/-- What a dispatch did: its result and the handler calls it made, in order. -/
structure Dispatched (R H A : Type) where
  result : R
  calls : List (H × A)
  deriving DecidableEq

namespace EventDispatcher
variable {H A : Type}

/-- The body of the loop over the handlers; the state is `return_value`. -/
def dispatchBody (py : Interp H A) (args : A) (k : Nat) (handler : H) (returnValue : PyValue) :
    Loop.Control PyValue PyValue :=
  match py.call k handler args with
  | .error _ => .next returnValue
  | .ok res =>
    match PythonReturnCodes.extract res with
    | some .retNone => .next returnValue
    | some .retStop => .ret (.bool true)
    | some .retStopEvent => .next (.bool false)
    | some .retStopAll => .ret (.bool false)
    -- `RET_USAGE` means nothing to an event, so it is an unknown value too
    | _ =>
      match py.handleReturn k handler res with
      | .error _ => .next returnValue
      | .ok value => if value = .none then .next returnValue else .ret value

/-- `EventDispatcherMethods::dispatch`. -/
def dispatch (t : DispatcherType) (py : Interp H A) (args : A) (plugins : Plugins H) :
    Dispatched PyValue H A :=
  match t.name with
  | none => ⟨.none, []⟩
  | some _ =>
    let trace := Loop.run (dispatchBody py args) id 0 (handlers plugins) (.bool true)
    ⟨trace.result, trace.visited.map fun v => (v.1, args)⟩

/-- `EventDispatcherMethods::handle_return`, which a subclass may override: it
only logs. -/
def handleReturn (t : DispatcherType) (_handler : H) (_value : PyValue) : PyResult PyValue :=
  match t.name with
  | none => .error (.attributeError "name")
  | some _ => .ok .none

/-! ## Reactions -/

/-- What a handler's outcome means for the event: nothing, a stop of the event
at the engine, or the end of the dispatch with a result. -/
inductive Reaction where
  | proceed
  | stopEvent
  | stop (result : PyValue)
  deriving DecidableEq, Repr

/-- The result of a reaction that ends the dispatch. -/
def Reaction.result? : Reaction → Option PyValue
  | .stop result => some result
  | _ => none

/-- The documented meaning of the outcome of the handler at position `k`. -/
def reaction (py : Interp H A) (args : A) (k : Nat) (handler : H) : Reaction :=
  match py.call k handler args with
  | .error _ => .proceed
  | .ok res =>
    match PythonReturnCodes.extract res with
    | some .retNone => .proceed
    | some .retStop => .stop (.bool true)
    | some .retStopEvent => .stopEvent
    | some .retStopAll => .stop (.bool false)
    | _ =>
      match py.handleReturn k handler res with
      | .error _ => .proceed
      | .ok value => if value = .none then .proceed else .stop value

/-- The reactions of a list of handlers at consecutive positions from `k`. -/
def reactions (py : Interp H A) (args : A) (k : Nat) (hs : List H) : List Reaction :=
  (hs.zipIdx k).map fun e => reaction py args e.2 e.1

theorem dispatchBody_eq (py : Interp H A) (args : A) (k : Nat) (handler : H) (rv : PyValue) :
    dispatchBody py args k handler rv =
      match reaction py args k handler with
      | .proceed => .next rv
      | .stopEvent => .next (.bool false)
      | .stop result => .ret result := by
  unfold dispatchBody reaction
  cases py.call k handler args with
  | error e => rfl
  | ok res =>
    simp only
    split
    · rfl
    · rfl
    · rfl
    · rfl
    · cases py.handleReturn k handler res with
      | error e => rfl
      | ok value =>
        by_cases hv : value = .none
        · simp [hv]
        · simp [hv]

/-- The loop visits the handlers up to the first one that ends the dispatch, and
its result is that one's or, without one, what `RET_STOP_EVENT` left. -/
theorem run_dispatchBody (py : Interp H A) (args : A) (hs : List H) (k : Nat) (rv : PyValue) :
    let rs := reactions py args k hs
    (Loop.run (dispatchBody py args) id k hs rv).visited.map Prod.fst =
        hs.take (rs.findIdx (·.result?.isSome) + 1) ∧
      (Loop.run (dispatchBody py args) id k hs rv).result =
        (rs.findSome? (·.result?)).getD (if .stopEvent ∈ rs then .bool false else rv) := by
  induction hs generalizing k rv with
  | nil => simp [reactions]
  | cons h hs ih =>
    have hrs : reactions py args k (h :: hs) =
        reaction py args k h :: reactions py args (k + 1) hs := rfl
    have hbody := dispatchBody_eq py args k h rv
    simp only [hrs]
    cases hr : reaction py args k h with
    | proceed =>
      rw [hr] at hbody
      obtain ⟨hv, hres⟩ := ih (k + 1) rv
      rw [Loop.run_cons_next hbody]
      simp [Reaction.result?, List.findIdx_cons, hv, hres]
    | stopEvent =>
      rw [hr] at hbody
      obtain ⟨hv, hres⟩ := ih (k + 1) (.bool false)
      rw [Loop.run_cons_next hbody]
      simp [Reaction.result?, List.findIdx_cons, hv, hres]
    | stop result =>
      rw [hr] at hbody
      rw [Loop.run_cons_ret hbody]
      simp [Reaction.result?, List.findIdx_cons]

/-- **The documented semantics of a dispatch** after a run of registry calls.
The handlers are the live registrations in the order of dispatch; they are
called up to the first one that ends the dispatch; its result is returned, or
else whether no handler returned `RET_STOP_EVENT`. -/
def DispatchSemantics [PyCompare H] (t : DispatcherType) (cs : List (CallEnv × HookCall H))
    (py : Interp H A) (args : A) : Prop :=
  let hs := (Ledger.ofRun t cs).order
  let rs := reactions py args 0 hs
  dispatch t py args (Run.final (step t) [] cs) =
    { result := (rs.findSome? (·.result?)).getD (.bool (.stopEvent ∉ rs))
      calls := (hs.take (rs.findIdx (·.result?.isSome) + 1)).map (·, args) }

/-- **Dispatch of a named dispatcher**, for every history of its registry and
every behaviour of its handlers. -/
theorem dispatch_semantics [PyCompare H] {t : DispatcherType} (hname : t.name ≠ none)
    (cs : List (CallEnv × HookCall H)) (py : Interp H A) (args : A) :
    DispatchSemantics t cs py args := by
  obtain ⟨name, hname⟩ := Option.ne_none_iff_exists'.mp hname
  obtain ⟨hv, hres⟩ := run_dispatchBody py args (Ledger.ofRun t cs).order 0 (.bool true)
  have hhs : handlers (Run.final (step t) [] cs) = (Ledger.ofRun t cs).order :=
    Ledger.handlers_eq_order (Ledger.refines_run t cs)
  simp only [DispatchSemantics, dispatch, hname, hhs]
  rw [Dispatched.mk.injEq]
  constructor
  · rw [hres]
    congr 1
    by_cases h : Reaction.stopEvent ∈ reactions py args 0 (Ledger.ofRun t cs).order
    · simp [h]
    · simp [h]
  · rw [← hv, List.map_map]
    rfl

/-- Two plugins, three handlers: the second in the order of dispatch asks for the
event to be stopped, the third raises. -/
theorem dispatch_semantics_chain :
    DispatchSemantics ⟨some "custom_event", some false⟩
      [(⟨false, .ok none, .ok ()⟩, .add "late" (PyFunction.mk 0) 4),
        (⟨false, .ok none, .ok ()⟩, .add "early" (PyFunction.mk 1) 0),
        (⟨false, .ok none, .ok ()⟩, .add "late" (PyFunction.mk 2) 2)]
      ⟨fun k _ _ =>
          if k = 1 then .ok (.int 2) else if k = 2 then .error (.raised "boom") else .ok .none,
        fun _ _ _ => .ok .none⟩ () :=
  dispatch_semantics (by decide) _ _ _

/-- A dispatcher class without a `name` cannot be hooked, and dispatching it
returns `None` where the documented semantics of an empty chain is `True`. -/
theorem dispatch_nameless_none :
    ¬ DispatchSemantics (H := PyFunction) (A := Unit) ⟨none, some false⟩ []
      ⟨fun _ _ _ => .ok .none, fun _ _ _ => .ok .none⟩ () := by
  rw [DispatchSemantics]
  decide

end EventDispatcher
end ShinQlx
