import ShinQlx.Assoc
import ShinQlx.Levels
import ShinQlx.Python
import ShinQlx.Run

/-! # The hook registry of an event dispatcher

An `EventDispatcher` keeps, for every plugin that ever hooked it, five lists of
handlers, one for each priority.  `addHook` and `removeHook` are the two ways to
change them.  Both first ask for the write lock: while a dispatch reads the
registry they queue the same call for the next frame instead.

A plugin keeps its place once it has one: removing its last handler leaves its
five empty lists behind.
-/
namespace ShinQlx

/-- The handlers of one plugin, a list for each priority. -/
abbrev Hooks (H : Type) := Fin 5 → List H

/-- The `plugins` field: every plugin that ever hooked the event, in the order
in which it first did. -/
abbrev Plugins (H : Type) := List (String × Hooks H)

/-- The class attributes of a dispatcher, `none` where one is missing or of the
wrong type. -/
structure DispatcherType where
  name : Option String
  needZmqStatsEnabled : Option Bool
  deriving DecidableEq, Repr

/-- What a registry call finds around it: whether a dispatch holds the registry,
the `zmq_stats_enable` cvar, and whether a deferred call can be queued. -/
structure CallEnv where
  held : Bool
  zmqStatsEnable : PyResult (Option String)
  nextFrame : PyResult Unit

/-- A call of `add_hook` or `remove_hook`. -/
inductive HookCall (H : Type) where
  | add (plugin : String) (handler : H) (priority : Int)
  | remove (plugin : String) (handler : H) (priority : Int)
  deriving DecidableEq, Repr

/-- A call that waits on `next_frame_tasks`, for the dispatcher of `event`. -/
structure HookTask (H : Type) where
  event : String
  call : HookCall H
  deriving DecidableEq, Repr

/-- The list a priority selects: `priority as usize` as an index into five
lists. -/
def priorityIndex (priority : Int) : Option (Fin 5) :=
  if h : 0 ≤ priority ∧ priority < 5 then some ⟨priority.toNat, by omega⟩ else none

theorem priorityIndex_eq_some {priority : Int} {i : Fin 5} :
    priorityIndex priority = some i ↔ priority = (i : Int) := by
  unfold priorityIndex
  split
  · rw [Option.some.injEq, Fin.ext_iff]
    show priority.toNat = (i : Nat) ↔ _
    omega
  · have := i.isLt
    constructor
    · intro h
      cases h
    · omega

namespace EventDispatcher
variable {H : Type} [PyCompare H]

/-- The error of a priority outside `0..5`. -/
def invalidPriority (priority : Int) : PyErr :=
  .valueError s!"'{priority}' is an invalid priority level."

/-- The error of hooking the same handler twice. -/
def alreadyHooked : PyErr :=
  .valueError "The event has already been hooked with the same handler and priority."

/-- The error of removing a handler that is not hooked. -/
def notHooked : PyErr :=
  .valueError "The event has not been hooked with the handler provided"

/-- Queues `call` for the next frame, through a Python function built for it. -/
def deferHook (env : CallEnv) (event : String) (call : HookCall H) (plugins : Plugins H) :
    Reply (Plugins H) (HookTask H) :=
  match env.nextFrame with
  | .error e => ⟨.err e, plugins, []⟩
  | .ok () => ⟨.ok (), plugins, [⟨event, call⟩]⟩

/-- `add_hook` with the write lock taken. -/
def storeHook (plugin : String) (handler : H) (i : Fin 5) (plugins : Plugins H) :
    Reply (Plugins H) (HookTask H) :=
  match Assoc.lookup plugin plugins with
  | none => ⟨.ok (), plugins ++ [(plugin, Levels.push i handler fun _ => [])], []⟩
  | some hooks =>
    -- a comparison that raises does not count as equal
    if (hooks i).any (PyCompare.equals · handler) then
      ⟨.err alreadyHooked, plugins, []⟩
    else
      ⟨.ok (), Assoc.modify plugin (Levels.push i handler) plugins, []⟩

/-- `EventDispatcherMethods::add_hook`. -/
def addHook (t : DispatcherType) (env : CallEnv) (plugin : String) (handler : H) (priority : Int)
    (plugins : Plugins H) : Reply (Plugins H) (HookTask H) :=
  match priorityIndex priority with
  | none => ⟨.err (invalidPriority priority), plugins, []⟩
  | some i =>
    match t.name with
    | none =>
      ⟨.err (.attributeError "Cannot add a hook from an event dispatcher with no name."),
        plugins, []⟩
    | some name =>
      match t.needZmqStatsEnabled with
      | none =>
        ⟨.err (.attributeError "Cannot add a hook from an event dispatcher with no need_zmq_stats_enabled flag."),
          plugins, []⟩
      | some needZmqStatsEnabled =>
        match env.zmqStatsEnable with
        | .error e => ⟨.err e, plugins, []⟩
        | .ok cvar =>
          if needZmqStatsEnabled && !cvar.any (· ≠ "0") then
            ⟨.err (.assertionError
              s!"{name} hook requires zmq_stats_enabled cvar to have nonzero value"), plugins, []⟩
          else if env.held then
            deferHook env name (.add plugin handler priority) plugins
          else
            storeHook plugin handler i plugins

/-- `remove_hook` with the write lock taken.  The priority is an index that
nothing has checked. -/
def dropHook (plugin : String) (handler : H) (priority : Int) (plugins : Plugins H) :
    Reply (Plugins H) (HookTask H) :=
  match Assoc.lookup plugin plugins with
  | none => ⟨.err notHooked, plugins, []⟩
  | some hooks =>
    match priorityIndex priority with
    | none => ⟨.panic, plugins, []⟩
    | some i =>
      -- a comparison that raises counts as equal here, and as different below
      if !(hooks i).any (PyCompare.maybeEquals · handler) then
        ⟨.err notHooked, plugins, []⟩
      else
        ⟨.ok (), Assoc.modify plugin (Levels.keepAt i (PyCompare.maybeDiffers · handler)) plugins,
          []⟩

/-- `EventDispatcherMethods::remove_hook`. -/
def removeHook (t : DispatcherType) (env : CallEnv) (plugin : String) (handler : H)
    (priority : Int) (plugins : Plugins H) : Reply (Plugins H) (HookTask H) :=
  match t.name with
  | none =>
    ⟨.err (.attributeError "Cannot remove a hook from an event dispatcher with no name."),
      plugins, []⟩
  | some name =>
    if env.held then
      deferHook env name (.remove plugin handler priority) plugins
    else
      dropHook plugin handler priority plugins

/-- One call on the registry. -/
def applyCall (t : DispatcherType) (env : CallEnv) (plugins : Plugins H) :
    HookCall H → Reply (Plugins H) (HookTask H)
  | .add plugin handler priority => addHook t env plugin handler priority plugins
  | .remove plugin handler priority => removeHook t env plugin handler priority plugins

/-- The registry as a machine for `Run`: a call is made in an environment. -/
def step (t : DispatcherType) (plugins : Plugins H) (c : CallEnv × HookCall H) :
    Reply (Plugins H) (HookTask H) × Plugins H :=
  let reply := applyCall t c.1 plugins c.2
  (reply, reply.state)

/-- The handlers in the order in which a dispatch calls them: by priority, then
by plugin, then by position in the plugin's list. -/
def handlers (plugins : Plugins H) : List H :=
  (List.finRange 5).flatMap fun i => plugins.flatMap fun entry => entry.2 i

/-! ## What a call can do

Each call either leaves the registry as it was or performs one of two updates,
and it performs an update only when it returns `Ok` and no dispatch holds the
registry. -/

/-- The calls that get past the checks of `add_hook` to the registry itself. -/
def AddPasses (t : DispatcherType) (env : CallEnv) : Prop :=
  t.name ≠ none ∧ ∃ need cvar, t.needZmqStatsEnabled = some need ∧ env.zmqStatsEnable = .ok cvar ∧
    (need && !cvar.any (· ≠ "0")) = false

/-- The checks of `add_hook` fail, or it gets to the lock.  They look at neither the
lock nor the registry. -/
theorem addHook_checks (t : DispatcherType) (zmqStatsEnable : PyResult (Option String))
    (plugin : String) (handler : H) (priority : Int) :
    (∃ e, ∀ held nextFrame (plugins : Plugins H),
      addHook t ⟨held, zmqStatsEnable, nextFrame⟩ plugin handler priority plugins =
        ⟨.err e, plugins, []⟩) ∨
    ∃ i name, priority = (i : Fin 5) ∧ t.name = some name ∧
      ∀ held nextFrame, AddPasses t ⟨held, zmqStatsEnable, nextFrame⟩ ∧
        ∀ plugins : Plugins H,
          addHook t ⟨held, zmqStatsEnable, nextFrame⟩ plugin handler priority plugins =
            if held then
              deferHook ⟨held, zmqStatsEnable, nextFrame⟩ name (.add plugin handler priority) plugins
            else storeHook plugin handler i plugins := by
  unfold addHook
  cases hi : priorityIndex priority with
  | none => exact .inl ⟨_, fun _ _ _ => rfl⟩
  | some i =>
    cases hname : t.name with
    | none => exact .inl ⟨_, fun _ _ _ => rfl⟩
    | some name =>
      cases hneed : t.needZmqStatsEnabled with
      | none => exact .inl ⟨_, fun _ _ _ => rfl⟩
      | some need =>
        cases zmqStatsEnable with
        | error e => exact .inl ⟨e, fun _ _ _ => rfl⟩
        | ok cvar =>
          by_cases hzmq : (need && !cvar.any (· ≠ "0")) = true
          · exact .inl ⟨_, fun _ _ _ => if_pos hzmq⟩
          · refine .inr ⟨i, name, priorityIndex_eq_some.mp hi, rfl, fun held nextFrame => ⟨?_, ?_⟩⟩
            · exact ⟨by simp [hname], need, cvar, hneed, rfl, Bool.eq_false_iff.mpr hzmq⟩
            · exact fun _ => if_neg hzmq

/-- **What `add_hook` can do.**  Either it leaves the registry alone, and then it
failed or a dispatch holds the registry; or it reaches the registry and stores
the handler there. -/
theorem addHook_cases (t : DispatcherType) (env : CallEnv) (plugin : String) (handler : H)
    (priority : Int) (plugins : Plugins H) :
    (∃ e, addHook t env plugin handler priority plugins = ⟨.err e, plugins, []⟩) ∨
    (∃ name, t.name = some name ∧ env.held = true ∧
      addHook t env plugin handler priority plugins =
        ⟨.ok (), plugins, [⟨name, .add plugin handler priority⟩]⟩) ∨
    (∃ i, priority = (i : Fin 5) ∧ AddPasses t env ∧ env.held = false ∧
      addHook t env plugin handler priority plugins = storeHook plugin handler i plugins) := by
  obtain ⟨held, zmqStatsEnable, nextFrame⟩ := env
  rcases addHook_checks t zmqStatsEnable plugin handler priority with
    ⟨e, hs⟩ | ⟨i, name, hi, hname, hs⟩
  · exact .inl ⟨e, hs held nextFrame plugins⟩
  · obtain ⟨hpass, hs⟩ := hs held nextFrame
    cases held with
    | false => exact .inr (.inr ⟨i, hi, hpass, rfl, hs plugins⟩)
    | true =>
      cases nextFrame with
      | error e => exact .inl ⟨e, hs plugins⟩
      | ok u => exact .inr (.inl ⟨name, hname, rfl, hs plugins⟩)

theorem addHook_of_passes {t : DispatcherType} {env : CallEnv} {priority : Int} {i : Fin 5}
    (hi : priorityIndex priority = some i) (hpass : AddPasses t env) (hheld : env.held = false)
    (plugin : String) (handler : H) (plugins : Plugins H) :
    addHook t env plugin handler priority plugins = storeHook plugin handler i plugins := by
  obtain ⟨hname, need, cvar, hneed, hcvar, hzmq⟩ := hpass
  obtain ⟨name, hname⟩ := Option.ne_none_iff_exists'.mp hname
  simp only [addHook, hi, hname, hneed, hcvar]
  rw [if_neg (Bool.eq_false_iff.mp hzmq), if_neg (Bool.eq_false_iff.mp hheld)]

theorem removeHook_of_named {t : DispatcherType} {env : CallEnv} (hname : t.name ≠ none)
    (hheld : env.held = false) (plugin : String) (handler : H) (priority : Int)
    (plugins : Plugins H) :
    removeHook t env plugin handler priority plugins =
      dropHook plugin handler priority plugins := by
  obtain ⟨name, hname⟩ := Option.ne_none_iff_exists'.mp hname
  simp only [removeHook, hname]
  rw [if_neg (Bool.eq_false_iff.mp hheld)]

/-- **What `remove_hook` can do.** -/
theorem removeHook_cases (t : DispatcherType) (env : CallEnv) (plugin : String) (handler : H)
    (priority : Int) (plugins : Plugins H) :
    (∃ e, removeHook t env plugin handler priority plugins = ⟨.err e, plugins, []⟩) ∨
    (∃ name, t.name = some name ∧ env.held = true ∧
      removeHook t env plugin handler priority plugins =
        ⟨.ok (), plugins, [⟨name, .remove plugin handler priority⟩]⟩) ∨
    (t.name ≠ none ∧ env.held = false ∧
      removeHook t env plugin handler priority plugins =
        dropHook plugin handler priority plugins) := by
  unfold removeHook
  cases hname : t.name with
  | none => exact .inl ⟨_, rfl⟩
  | some name =>
    by_cases hheld : env.held = true
    · simp only [if_pos hheld, deferHook]
      cases env.nextFrame with
      | error e => exact .inl ⟨_, rfl⟩
      | ok u => exact .inr (.inl ⟨name, rfl, hheld, rfl⟩)
    · exact .inr (.inr ⟨by simp, Bool.eq_false_iff.mpr hheld, if_neg hheld⟩)

/-- Storing a handler: the plugin's first one, a duplicate, or a further one. -/
theorem storeHook_cases (plugin : String) (handler : H) (i : Fin 5) (plugins : Plugins H) :
    (Assoc.lookup plugin plugins = none ∧ storeHook plugin handler i plugins =
      ⟨.ok (), plugins ++ [(plugin, Levels.push i handler fun _ => [])], []⟩) ∨
    ∃ hooks, Assoc.lookup plugin plugins = some hooks ∧
      (((hooks i).any (PyCompare.equals · handler) = true ∧
        storeHook plugin handler i plugins = ⟨.err alreadyHooked, plugins, []⟩) ∨
      ((hooks i).any (PyCompare.equals · handler) = false ∧
        storeHook plugin handler i plugins =
          ⟨.ok (), Assoc.modify plugin (Levels.push i handler) plugins, []⟩)) := by
  unfold storeHook
  cases hlook : Assoc.lookup plugin plugins with
  | none => exact .inl ⟨rfl, rfl⟩
  | some hooks =>
    refine .inr ⟨hooks, rfl, ?_⟩
    cases hdup : (hooks i).any (PyCompare.equals · handler) with
    | true => exact .inl ⟨rfl, if_pos hdup⟩
    | false => exact .inr ⟨rfl, if_neg (by simp [hdup])⟩

/-- Dropping a handler: the plugin is unknown, the priority indexes no list, no
handler of the list may be equal, or the list is filtered. -/
theorem dropHook_cases (plugin : String) (handler : H) (priority : Int) (plugins : Plugins H) :
    (Assoc.lookup plugin plugins = none ∧
      dropHook plugin handler priority plugins = ⟨.err notHooked, plugins, []⟩) ∨
    ∃ hooks, Assoc.lookup plugin plugins = some hooks ∧
      ((priorityIndex priority = none ∧
        dropHook plugin handler priority plugins = ⟨.panic, plugins, []⟩) ∨
      ∃ i, priorityIndex priority = some i ∧
        (((hooks i).any (PyCompare.maybeEquals · handler) = false ∧
          dropHook plugin handler priority plugins = ⟨.err notHooked, plugins, []⟩) ∨
        ((hooks i).any (PyCompare.maybeEquals · handler) = true ∧
          dropHook plugin handler priority plugins =
            ⟨.ok (),
              Assoc.modify plugin (Levels.keepAt i (PyCompare.maybeDiffers · handler)) plugins,
              []⟩))) := by
  unfold dropHook
  cases hlook : Assoc.lookup plugin plugins with
  | none => exact .inl ⟨rfl, rfl⟩
  | some hooks =>
    refine .inr ⟨hooks, rfl, ?_⟩
    cases hi : priorityIndex priority with
    | none => exact .inl ⟨rfl, rfl⟩
    | some i =>
      refine .inr ⟨i, rfl, ?_⟩
      cases hany : (hooks i).any (PyCompare.maybeEquals · handler) with
      | false => exact .inl ⟨rfl, if_pos (by simp [hany])⟩
      | true => exact .inr ⟨rfl, if_neg (by simp [hany])⟩

end EventDispatcher
end ShinQlx
