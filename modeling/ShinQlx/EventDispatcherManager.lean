import ShinQlx.Registries

/-! # The event dispatcher manager

`EVENT_DISPATCHERS` keeps an instance of every dispatcher class that was added to it,
under the `name` of the class.  A class without a name, or with one that is taken, is
turned down, so a dispatcher is always found under its own name (`managed_named`).  A
hook call that is queued for a later frame relies on it: the task goes by the name in
the class of the dispatcher that queued it.
-/
namespace ShinQlx

/-- The `dispatchers` field of the manager. -/
abbrev Dispatchers (H : Type) := List (String × Dispatcher H)

/-- A class given to `add_dispatcher`: whether it is a subclass of `EventDispatcher`, its
attributes, and what comes of instantiating it. -/
structure DispatcherClass where
  isSubclass : Bool
  type : DispatcherType
  call0 : PyResult Unit

/-- A call on the manager.  A dispatcher that is to be removed is known by its `name`
attribute; `held` and `nextFrame` are as for a hook call. -/
inductive ManagerCall where
  | addDispatcher (dispatcher : DispatcherClass)
  | removeDispatcher (name : Option String) (held : Bool) (nextFrame : PyResult Unit)
  | removeDispatcherByName (dispatcherName : String) (held : Bool) (nextFrame : PyResult Unit)

namespace EventDispatcherManager
variable {H : Type}

/-- `EventDispatcherManagerMethods::__contains__`. -/
def contains (key : String) (dispatchers : Dispatchers H) : Bool :=
  dispatchers.any fun entry => key = entry.1

/-- `EventDispatcherManagerMethods::add_dispatcher`. -/
def addDispatcher (dispatcher : DispatcherClass) (dispatchers : Dispatchers H) :
    Reply (Dispatchers H) String :=
  if !dispatcher.isSubclass then
    ⟨.err (.valueError "Cannot add an event dispatcher not based on EventDispatcher."),
      dispatchers, []⟩
  else
    match dispatcher.type.name with
    | none => ⟨.err (.valueError "Cannot add an event dispatcher with no name."), dispatchers, []⟩
    | some name =>
      if contains name dispatchers then
        ⟨.err (.valueError "Event name already taken."), dispatchers, []⟩
      else
        match dispatcher.call0 with
        | .error e => ⟨.err e, dispatchers, []⟩
        | .ok () => ⟨.ok (), dispatchers ++ [(name, ⟨dispatcher.type, []⟩)], []⟩

/-- `EventDispatcherManagerMethods::remove_dispatcher_by_name`. -/
def removeDispatcherByName (held : Bool) (nextFrame : PyResult Unit) (dispatcherName : String)
    (dispatchers : Dispatchers H) : Reply (Dispatchers H) String :=
  if !contains dispatcherName dispatchers then
    ⟨.err (.valueError "Event name not found."), dispatchers, []⟩
  else if held then
    match nextFrame with
    | .error e => ⟨.err e, dispatchers, []⟩
    | .ok () => ⟨.ok (), dispatchers, [dispatcherName]⟩
  else
    ⟨.ok (), Assoc.erase dispatcherName dispatchers, []⟩

/-- `EventDispatcherManagerMethods::remove_dispatcher`. -/
def removeDispatcher (held : Bool) (nextFrame : PyResult Unit) (name : Option String)
    (dispatchers : Dispatchers H) : Reply (Dispatchers H) String :=
  match name with
  | none => ⟨.err (.valueError "Cannot remove an event dispatcher with no name."), dispatchers, []⟩
  | some name => removeDispatcherByName held nextFrame name dispatchers

/-- The manager as a machine for `Run`. -/
def step (dispatchers : Dispatchers H) (call : ManagerCall) :
    Reply (Dispatchers H) String × Dispatchers H :=
  let reply :=
    match call with
    | .addDispatcher dispatcher => addDispatcher dispatcher dispatchers
    | .removeDispatcher name held nextFrame => removeDispatcher held nextFrame name dispatchers
    | .removeDispatcherByName name held nextFrame =>
      removeDispatcherByName held nextFrame name dispatchers
  (reply, reply.state)

/-- Every dispatcher is kept under the name of its class, and no name twice. -/
structure Managed (dispatchers : Dispatchers H) : Prop where
  unique : (dispatchers.map Prod.fst).Nodup
  named : ∀ entry ∈ dispatchers, entry.2.type.name = some entry.1

theorem contains_eq_false_iff {key : String} {dispatchers : Dispatchers H} :
    contains key dispatchers = false ↔ key ∉ dispatchers.map Prod.fst := by
  rw [contains, List.any_eq_false, List.mem_map]
  constructor
  · rintro h ⟨entry, hmem, rfl⟩
    exact h entry hmem (decide_eq_true rfl)
  · intro h entry hmem hkey
    exact h ⟨entry, hmem, (of_decide_eq_true hkey).symm⟩

/-- `add_dispatcher` fails, or it appends a dispatcher under a name that was free. -/
theorem addDispatcher_cases (dispatcher : DispatcherClass) (dispatchers : Dispatchers H) :
    (∃ e, addDispatcher dispatcher dispatchers = ⟨.err e, dispatchers, []⟩) ∨
    ∃ name, dispatcher.type.name = some name ∧ contains name dispatchers = false ∧
      addDispatcher dispatcher dispatchers =
        ⟨.ok (), dispatchers ++ [(name, ⟨dispatcher.type, []⟩)], []⟩ := by
  unfold addDispatcher
  cases dispatcher.isSubclass with
  | false => exact .inl ⟨_, rfl⟩
  | true =>
    cases hname : dispatcher.type.name with
    | none => exact .inl ⟨_, rfl⟩
    | some name =>
      cases htaken : contains name dispatchers with
      | true => exact .inl ⟨_, if_pos htaken⟩
      | false =>
        cases dispatcher.call0 with
        | error e => exact .inl ⟨e, by simp [htaken]⟩
        | ok u => exact .inr ⟨name, rfl, htaken, by simp [htaken]⟩

theorem addDispatcher_managed {dispatchers : Dispatchers H} (h : Managed dispatchers)
    (dispatcher : DispatcherClass) : Managed (addDispatcher dispatcher dispatchers).state := by
  rcases addDispatcher_cases dispatcher dispatchers with ⟨e, hs⟩ | ⟨name, hname, hfree, hs⟩
  · rw [hs]
    exact h
  · have hnew := contains_eq_false_iff.mp hfree
    rw [hs]
    constructor
    · rw [List.map_append, List.nodup_append]
      refine ⟨h.unique, List.nodup_singleton _, ?_⟩
      rintro key hkey other hother rfl
      rw [List.map_singleton, List.mem_singleton] at hother
      subst hother
      exact hnew hkey
    · intro entry hentry
      rcases List.mem_append.mp hentry with hold | hold
      · exact h.named entry hold
      · rw [List.mem_singleton.mp hold]
        exact hname

theorem removeDispatcherByName_managed {dispatchers : Dispatchers H} (h : Managed dispatchers)
    (held : Bool) (nextFrame : PyResult Unit) (dispatcherName : String) :
    Managed (removeDispatcherByName held nextFrame dispatcherName dispatchers).state := by
  unfold removeDispatcherByName
  split
  · exact h
  · cases held with
    | true => cases nextFrame <;> exact h
    | false =>
      have hsub : (Assoc.erase dispatcherName dispatchers).Sublist dispatchers :=
        List.filter_sublist
      exact ⟨h.unique.sublist (hsub.map Prod.fst), fun entry he => h.named entry (hsub.subset he)⟩

/-- One call on the manager keeps its dispatchers under their names. -/
theorem step_managed (dispatchers : Dispatchers H) (call : ManagerCall) (h : Managed dispatchers) :
    Managed (step dispatchers call).2 := by
  cases call with
  | addDispatcher dispatcher => exact addDispatcher_managed h dispatcher
  | removeDispatcherByName name held nextFrame =>
    exact removeDispatcherByName_managed h held nextFrame name
  | removeDispatcher name held nextFrame =>
    cases name with
    | none => exact h
    | some name => exact removeDispatcherByName_managed h held nextFrame name

/-- **Dispatchers are found under their names**, after any calls on the manager. -/
theorem managed_named {C : Type} (calls : List ManagerCall) (r : Registries H C) :
    ({ r with dispatchers := some (Run.final step [] calls) } : Registries H C).Named := by
  have hempty : Managed ([] : Dispatchers H) := ⟨List.nodup_nil, by simp⟩
  have hmanaged := Run.invariant Managed step_managed hempty calls
  intro event d hd
  exact hmanaged.named (event, d) (Assoc.mem_of_lookup hd)

end EventDispatcherManager
end ShinQlx
