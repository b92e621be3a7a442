import ShinQlx.Registries

/-! # What a call on the registries can do

A call on the hooks of an event either fails, or is queued, or changes one list of one
plugin (`callHook_add_cases`, `callHook_remove_cases`); a call on the commands likewise
(`callCommand_add_cases`, `callCommand_remove_cases`).  Nothing is queued unless a
dispatch holds the registry, so the tasks of a frame leave none behind (`drain_tasks`).
-/
namespace ShinQlx

/-! ## Lists of a plugin -/

section HooksIn
variable {H : Type}

theorem hooksIn_append_new {plugins : Plugins H} {plugin : String}
    (h : Assoc.lookup plugin plugins = none) (f : Hooks H → Hooks H) (q : String) :
    hooksIn (plugins ++ [(plugin, f fun _ => [])]) q =
      if q = plugin then f (hooksIn plugins plugin) else hooksIn plugins q := by
  unfold hooksIn
  rw [Assoc.lookup_append, Assoc.lookup_cons]
  by_cases hq : q = plugin
  · subst hq
    simp [h]
  · cases hl : Assoc.lookup q plugins <;> simp [hq, Ne.symm hq]

theorem hooksIn_modify {plugins : Plugins H} {plugin : String} {hooks : Hooks H}
    (h : Assoc.lookup plugin plugins = some hooks) (f : Hooks H → Hooks H) (q : String) :
    hooksIn (Assoc.modify plugin f plugins) q =
      if q = plugin then f (hooksIn plugins plugin) else hooksIn plugins q := by
  unfold hooksIn
  rw [Assoc.lookup_modify]
  by_cases hq : q = plugin
  · simp [hq, h]
  · simp [hq]

namespace EventDispatcher
variable [PyCompare H]

/-- Storing a handler fails, or it appends it to one list of the plugin. -/
theorem storeHook_effect (plugin : String) (handler : H) (i : Fin 5) (plugins : Plugins H) :
    (∃ e, storeHook plugin handler i plugins = ⟨.err e, plugins, []⟩) ∨
    ∃ state, storeHook plugin handler i plugins = ⟨.ok (), state, []⟩ ∧
      (∀ q, hooksIn state q =
        if q = plugin then Levels.push i handler (hooksIn plugins plugin) else hooksIn plugins q) ∧
      (state.map Prod.fst).filter (· ≠ plugin) = (plugins.map Prod.fst).filter (· ≠ plugin) := by
  rcases storeHook_cases plugin handler i plugins with
    ⟨hlook, hs⟩ | ⟨hooks, hlook, ⟨-, hs⟩ | ⟨-, hs⟩⟩
  · refine .inr ⟨_, hs, hooksIn_append_new hlook _, ?_⟩
    simp [List.filter_append]
  · exact .inl ⟨_, hs⟩
  · exact .inr ⟨_, hs, hooksIn_modify hlook _, by rw [Assoc.keys_modify]⟩

/-- Dropping a handler raises or panics and there was nothing to remove, or it
filters one list of the plugin, in which it found a handler. -/
theorem dropHook_effect (plugin : String) (handler : H) (priority : Int) (plugins : Plugins H) :
    (∃ o, o ≠ .ok () ∧ dropHook plugin handler priority plugins = ⟨o, plugins, []⟩ ∧
      ∀ i : Fin 5, priority = i →
        ∀ a ∈ hooksIn plugins plugin i, PyCompare.maybeEquals a handler = false) ∨
    ∃ i state, priority = (i : Fin 5) ∧
      (∃ a ∈ hooksIn plugins plugin i, PyCompare.maybeEquals a handler = true) ∧
      dropHook plugin handler priority plugins = ⟨.ok (), state, []⟩ ∧
      (∀ q, hooksIn state q =
        if q = plugin then
          Levels.keepAt i (PyCompare.maybeDiffers · handler) (hooksIn plugins plugin)
        else hooksIn plugins q) ∧
      (state.map Prod.fst).filter (· ≠ plugin) = (plugins.map Prod.fst).filter (· ≠ plugin) := by
  rcases dropHook_cases plugin handler priority plugins with
    ⟨hlook, hs⟩ | ⟨hooks, hlook, ⟨hi, hs⟩ | ⟨i, hi, ⟨hany, hs⟩ | ⟨hany, hs⟩⟩⟩
  · refine .inl ⟨_, by simp, hs, fun i _ a ha => ?_⟩
    rw [hooksIn, hlook] at ha
    cases ha
  · refine .inl ⟨_, by simp, hs, fun i hp => ?_⟩
    cases hi.symm.trans (priorityIndex_eq_some.mpr hp)
  · refine .inl ⟨_, by simp, hs, fun j hp a ha => ?_⟩
    cases hi.symm.trans (priorityIndex_eq_some.mpr hp)
    rw [hooksIn, hlook] at ha
    exact Bool.eq_false_iff.mpr (List.any_eq_false.mp hany a ha)
  · refine .inr ⟨i, _, priorityIndex_eq_some.mp hi, ?_, hs, hooksIn_modify hlook _, ?_⟩
    · rw [hooksIn, hlook]
      exact List.any_eq_true.mp hany
    · rw [Assoc.keys_modify]

/-- A call that nobody keeps from the registry does not look at the next frame. -/
theorem applyCall_free (t : DispatcherType) (zmqStatsEnable : PyResult (Option String))
    (nextFrame : PyResult Unit) (plugins : Plugins H) (call : HookCall H) :
    applyCall t ⟨false, zmqStatsEnable, nextFrame⟩ plugins call =
      applyCall t ⟨false, zmqStatsEnable, .ok ()⟩ plugins call := by
  cases call with
  | add plugin handler priority => simp only [applyCall, addHook, Bool.false_eq_true, if_false]
  | remove plugin handler priority =>
    simp only [applyCall, removeHook, Bool.false_eq_true, if_false]

/-- A call that nobody keeps from the registry queues nothing. -/
theorem queued_free (t : DispatcherType) (zmqStatsEnable : PyResult (Option String))
    (nextFrame : PyResult Unit) (plugins : Plugins H) (call : HookCall H) :
    (applyCall t ⟨false, zmqStatsEnable, nextFrame⟩ plugins call).queued = [] := by
  cases call with
  | add plugin handler priority =>
    rcases addHook_cases t ⟨false, zmqStatsEnable, nextFrame⟩ plugin handler priority plugins with
      ⟨e, hs⟩ | ⟨name, -, hheld, -⟩ | ⟨i, rfl, -, -, hs⟩
    · rw [applyCall, hs]
    · cases hheld
    · rcases storeHook_effect plugin handler i plugins with ⟨e, hst⟩ | ⟨state, hst, -⟩
      · rw [applyCall, hs, hst]
      · rw [applyCall, hs, hst]
  | remove plugin handler priority =>
    rcases removeHook_cases t ⟨false, zmqStatsEnable, nextFrame⟩ plugin handler priority
        plugins with
      ⟨e, hs⟩ | ⟨name, -, hheld, -⟩ | ⟨-, -, hs⟩
    · rw [applyCall, hs]
    · cases hheld
    · rcases dropHook_effect plugin handler priority plugins with
        ⟨o, -, hst, -⟩ | ⟨i, state, rfl, -, hst, -⟩
      · rw [applyCall, hs, hst]
      · rw [applyCall, hs, hst]

end EventDispatcher
end HooksIn

namespace CommandInvoker
variable {Pl H C : Type} [PyCompare H]

/-- A call that nobody keeps from the registry looks at nothing around it. -/
theorem applyCall_free (zmqStatsEnable : PyResult (Option String)) (nextFrame : PyResult Unit)
    (commands : Commands Pl H C) (call : CommandCall Pl H C) :
    applyCall ⟨false, zmqStatsEnable, nextFrame⟩ commands call =
      applyCall ⟨false, .ok none, .ok ()⟩ commands call := by
  cases call with
  | add command priority => simp only [applyCall, addCommand, Bool.false_eq_true, if_false]
  | remove command => simp only [applyCall, removeCommand, Bool.false_eq_true, if_false]

/-- A call that nobody keeps from the registry queues nothing. -/
theorem queued_free (zmqStatsEnable : PyResult (Option String)) (nextFrame : PyResult Unit)
    (commands : Commands Pl H C) (call : CommandCall Pl H C) :
    (applyCall ⟨false, zmqStatsEnable, nextFrame⟩ commands call).queued = [] := by
  cases call with
  | add command priority =>
    cases hreg : isRegistered command commands with
    | true => rw [applyCall, addCommand_of_registered hreg]
    | false =>
      rcases addCommand_of_new hreg ⟨false, zmqStatsEnable, nextFrame⟩ priority with
        ⟨h, -⟩ | ⟨-, i, -, hs⟩ | ⟨-, -, hs⟩
      · cases h
      · rw [applyCall, hs]
      · rw [applyCall, hs]
  | remove command =>
    cases hreg : isRegistered command commands with
    | false => rw [applyCall, removeCommand_of_unregistered hreg]
    | true =>
      rw [applyCall, removeCommand_of_registered hreg]
      rfl

end CommandInvoker

/-! ## What a call can do -/

namespace Registries
variable {H C : Type} [PyCompare H]

theorem callHook_of_none {event : String} {r : Registries H C} (h : r.dispatcher event = none)
    (env : Env) (call : HookCall H) : r.callHook env event call = none := by
  rw [callHook, h, Option.map_none]

/-- A call that leaves the hooks of an event alone leaves the registries alone. -/
theorem callHook_of_state {env : Env} {event : String} {r : Registries H C} {d : Dispatcher H}
    (h : r.dispatcher event = some d) {call : HookCall H} {o : Outcome Unit}
    (hreply : EventDispatcher.applyCall d.type (env.hook event) d.plugins call =
      ⟨o, d.plugins, []⟩) : r.callHook env event call = some (o, r) := by
  rw [callHook, h, Option.map_some, hreply]
  simp only [setPlugins_self h, List.map_nil, List.append_nil]

/-- A call that queues a task and leaves the hooks of an event alone. -/
theorem callHook_of_queued {env : Env} {event : String} {r : Registries H C} {d : Dispatcher H}
    (h : r.dispatcher event = some d) {call : HookCall H} {o : Outcome Unit} {task : HookTask H}
    (hreply : EventDispatcher.applyCall d.type (env.hook event) d.plugins call =
      ⟨o, d.plugins, [task]⟩) : r.callHook env event call = some (o, r.queue (.hook task)) := by
  rw [callHook, h, Option.map_some, hreply]
  simp only [setPlugins_self h, List.map_cons, List.map_nil, queue]

/-- A call that queues nothing only changes the hooks of its event. -/
theorem callHook_of_new {env : Env} {event : String} {r : Registries H C} {d : Dispatcher H}
    (h : r.dispatcher event = some d) {call : HookCall H} {o : Outcome Unit} {state : Plugins H}
    (hreply : EventDispatcher.applyCall d.type (env.hook event) d.plugins call =
      ⟨o, state, []⟩) :
    r.callHook env event call = some (o, r.setPlugins event state) := by
  rw [callHook, h, Option.map_some, hreply]
  simp only [List.map_nil, List.append_nil, setPlugins]

/-- **What `add_hook` can do**: it fails, queues the call, or appends the handler to
one list of the plugin. -/
theorem callHook_add_cases {event : String} {r : Registries H C} {d : Dispatcher H}
    (h : r.dispatcher event = some d) (env : Env) (plugin : String) (handler : H)
    (priority : Int) :
    (∃ e, r.callHook env event (.add plugin handler priority) = some (.err e, r)) ∨
    (∃ name, d.type.name = some name ∧ env.heldEvent event = true ∧
      r.callHook env event (.add plugin handler priority) =
        some (.ok (), r.queue (.hook ⟨name, .add plugin handler priority⟩))) ∨
    (env.heldEvent event = false ∧ ∃ i r', priority = (i : Fin 5) ∧
      r.callHook env event (.add plugin handler priority) = some (.ok (), r') ∧
      Rehooked event plugin (Levels.push i handler (r.hooksOf event plugin)) r r') := by
  rcases EventDispatcher.addHook_cases d.type (env.hook event) plugin handler priority d.plugins
    with ⟨e, hs⟩ | ⟨name, hname, hheld, hs⟩ | ⟨i, rfl, -, hheld, hs⟩
  · exact .inl ⟨e, callHook_of_state h hs⟩
  · exact .inr (.inl ⟨name, hname, hheld, callHook_of_queued h hs⟩)
  · rcases EventDispatcher.storeHook_effect plugin handler i d.plugins with
      ⟨e, hstore⟩ | ⟨state, hstore, hhooks, hseen⟩
    · exact .inl ⟨e, callHook_of_state h (hs.trans hstore)⟩
    · rw [← hooksOf_eq_hooksIn h] at hhooks
      exact .inr (.inr ⟨hheld, i, _, rfl, callHook_of_new h (hs.trans hstore),
        rehooked_setPlugins h hhooks hseen⟩)

/-- **What `remove_hook` can do**: it raises or panics, queues the call, or filters one
list of the plugin, in which it found a handler. -/
theorem callHook_remove_cases {event : String} {r : Registries H C} {d : Dispatcher H}
    (h : r.dispatcher event = some d) (env : Env) (plugin : String) (handler : H)
    (priority : Int) :
    (∃ o, o ≠ .ok () ∧ r.callHook env event (.remove plugin handler priority) = some (o, r) ∧
      (d.type.name ≠ none → (env.heldEvent event = true → env.nextFrame ≠ .ok ()) ∧
        (env.heldEvent event = false → ∀ a ∈ r.hooksAt event plugin priority,
          PyCompare.maybeEquals a handler = false))) ∨
    (∃ name, d.type.name = some name ∧ env.heldEvent event = true ∧
      r.callHook env event (.remove plugin handler priority) =
        some (.ok (), r.queue (.hook ⟨name, .remove plugin handler priority⟩))) ∨
    (env.heldEvent event = false ∧ d.type.name ≠ none ∧ ∃ i r', priority = (i : Fin 5) ∧
      (∃ a ∈ r.hooksAt event plugin priority, PyCompare.maybeEquals a handler = true) ∧
      r.callHook env event (.remove plugin handler priority) = some (.ok (), r') ∧
      Rehooked event plugin
        (Levels.keepAt i (PyCompare.maybeDiffers · handler) (r.hooksOf event plugin)) r r') := by
  cases hname : d.type.name with
  | none =>
    obtain ⟨e, hs⟩ : ∃ e, EventDispatcher.applyCall d.type (env.hook event) d.plugins
        (.remove plugin handler priority) = ⟨.err e, d.plugins, []⟩ := by
      rw [EventDispatcher.applyCall, EventDispatcher.removeHook, hname]
      exact ⟨_, rfl⟩
    exact .inl ⟨.err e, by simp, callHook_of_state h hs, by simp⟩
  | some name =>
    cases hheld : env.heldEvent event with
    | true =>
      have hs : EventDispatcher.applyCall d.type (env.hook event) d.plugins
          (.remove plugin handler priority) = EventDispatcher.deferHook (env.hook event) name
            (.remove plugin handler priority) d.plugins := by
        rw [EventDispatcher.applyCall, EventDispatcher.removeHook, hname]
        exact if_pos hheld
      cases hframe : env.nextFrame with
      | error e =>
        refine .inl ⟨.err e, by simp, callHook_of_state h ?_, by simp⟩
        rw [hs, EventDispatcher.deferHook, Env.hook, hframe]
      | ok u =>
        refine .inr (.inl ⟨name, rfl, rfl, callHook_of_queued h ?_⟩)
        rw [hs, EventDispatcher.deferHook, Env.hook, hframe]
    | false =>
      have hs : EventDispatcher.applyCall d.type (env.hook event) d.plugins
          (.remove plugin handler priority) =
            EventDispatcher.dropHook plugin handler priority d.plugins := by
        rw [EventDispatcher.applyCall, EventDispatcher.removeHook, hname]
        exact if_neg (Bool.eq_false_iff.mp hheld)
      rcases EventDispatcher.dropHook_effect plugin handler priority d.plugins with
        ⟨o, ho, hdrop, hwhy⟩ | ⟨i, state, rfl, hany, hdrop, hhooks, hseen⟩
      · refine .inl ⟨o, ho, callHook_of_state h (hs.trans hdrop), fun _ => ⟨by simp, ?_⟩⟩
        intro _ a ha
        cases hi : priorityIndex priority with
        | none => simp [hooksAt, hi] at ha
        | some i =>
          rw [hooksAt, hi, Option.elim, hooksOf_eq_hooksIn h] at ha
          exact hwhy i (priorityIndex_eq_some.mp hi) a ha
      · rw [← hooksOf_eq_hooksIn h] at hhooks
        rw [← hooksOf_eq_hooksIn h, ← hooksAt_index] at hany
        exact .inr (.inr ⟨rfl, by simp, i, _, rfl, hany, callHook_of_new h (hs.trans hdrop),
          rehooked_setPlugins h hhooks hseen⟩)

/-- A call on the commands that queues nothing. -/
theorem callCommand_of_new {env : Env} {r : Registries H C} {commands : Commands String H C}
    (h : r.commands = some commands) {call : CommandCall String H C} {o : Outcome Unit}
    {state : Commands String H C}
    (hreply : CommandInvoker.applyCall env.command commands call = ⟨o, state, []⟩) :
    r.callCommand env call = some (o, r.setCommands state) := by
  rw [callCommand, h, Option.map_some, hreply]
  simp only [List.map_nil, List.append_nil, setCommands]

/-- A call that leaves the commands alone leaves the registries alone. -/
theorem callCommand_of_state {env : Env} {r : Registries H C} {commands : Commands String H C}
    (h : r.commands = some commands) {call : CommandCall String H C} {o : Outcome Unit}
    (hreply : CommandInvoker.applyCall env.command commands call = ⟨o, commands, []⟩) :
    r.callCommand env call = some (o, r) := by
  rw [callCommand_of_new h hreply, setCommands, ← h]

/-- A call on the commands while a dispatch holds them. -/
theorem callCommand_of_deferred {env : Env} {r : Registries H C} {commands : Commands String H C}
    (h : r.commands = some commands) {call : CommandCall String H C}
    (hreply : CommandInvoker.applyCall env.command commands call =
      CommandInvoker.deferCommand env.command call commands) :
    (∃ e, env.nextFrame = .error e ∧ r.callCommand env call = some (.err e, r)) ∨
    (env.nextFrame = .ok () ∧
      r.callCommand env call = some (.ok (), r.queue (.command call))) := by
  cases hframe : env.nextFrame with
  | error e =>
    refine .inl ⟨e, rfl, callCommand_of_state h ?_⟩
    rw [hreply, CommandInvoker.deferCommand, Env.command, hframe]
  | ok u =>
    refine .inr ⟨rfl, ?_⟩
    rw [callCommand, h, Option.map_some, hreply, CommandInvoker.deferCommand, Env.command, hframe]
    simp only [setCommands, ← h, queue, List.map_cons, List.map_nil]

/-- **What `add_command` can do.** -/
theorem callCommand_add_cases {r : Registries H C} {commands : Commands String H C}
    (h : r.commands = some commands) (env : Env) (command : Command String H C)
    (priority : Nat) :
    (CommandInvoker.isRegistered command commands = true ∧
      r.callCommand env (.add command priority) =
        some (.err CommandInvoker.alreadyRegistered, r)) ∨
    (CommandInvoker.isRegistered command commands = false ∧
      ((env.heldCommands = true ∧
        ((∃ e, env.nextFrame = .error e ∧
          r.callCommand env (.add command priority) = some (.err e, r)) ∨
        (env.nextFrame = .ok () ∧ r.callCommand env (.add command priority) =
          some (.ok (), r.queue (.command (.add command priority)))))) ∨
      (env.heldCommands = false ∧
        ((∃ i : Fin 5, priority = i ∧ r.callCommand env (.add command priority) =
          some (.ok (), r.setCommands (Levels.push i command commands))) ∨
        (5 ≤ priority ∧ r.callCommand env (.add command priority) = some (.panic, r)))))) := by
  cases hreg : CommandInvoker.isRegistered command commands with
  | true =>
    have hs := CommandInvoker.addCommand_of_registered hreg env.command priority
    exact .inl ⟨rfl, callCommand_of_state h hs⟩
  | false =>
    refine .inr ⟨rfl, ?_⟩
    rcases CommandInvoker.addCommand_of_new hreg env.command priority with
      ⟨hheld, hs⟩ | ⟨hheld, i, hi, hs⟩ | ⟨hheld, hp, hs⟩
    · exact .inl ⟨hheld, callCommand_of_deferred h hs⟩
    · exact .inr ⟨hheld, .inl ⟨i, hi, callCommand_of_new h hs⟩⟩
    · exact .inr ⟨hheld, .inr ⟨hp, callCommand_of_state h hs⟩⟩

/-- **What `remove_command` can do.** -/
theorem callCommand_remove_cases {r : Registries H C} {commands : Commands String H C}
    (h : r.commands = some commands) (env : Env) (command : Command String H C) :
    (CommandInvoker.isRegistered command commands = false ∧
      r.callCommand env (.remove command) = some (.err CommandInvoker.neverAdded, r)) ∨
    (CommandInvoker.isRegistered command commands = true ∧
      ((env.heldCommands = true ∧
        ((∃ e, env.nextFrame = .error e ∧ r.callCommand env (.remove command) = some (.err e, r)) ∨
        (env.nextFrame = .ok () ∧ r.callCommand env (.remove command) =
          some (.ok (), r.queue (.command (.remove command)))))) ∨
      (env.heldCommands = false ∧ r.callCommand env (.remove command) =
        some (.ok (), r.setCommands (Levels.keep (!command.isDropped ·) commands))))) := by
  cases hreg : CommandInvoker.isRegistered command commands with
  | false =>
    exact .inl ⟨rfl, callCommand_of_state h (CommandInvoker.removeCommand_of_unregistered hreg _)⟩
  | true =>
    refine .inr ⟨rfl, ?_⟩
    have hs := CommandInvoker.removeCommand_of_registered hreg env.command
    cases hheld : env.heldCommands with
    | true => exact .inl ⟨rfl, callCommand_of_deferred h (hs.trans (if_pos hheld))⟩
    | false =>
      exact .inr ⟨rfl, callCommand_of_new h (hs.trans (if_neg (Bool.eq_false_iff.mp hheld)))⟩

/-- A call on hooks that nobody holds queues nothing, and looks at nothing around it
but the cvar. -/
theorem callHook_free {env : Env} {event : String} (hheld : env.heldEvent event = false)
    (call : HookCall H) (r : Registries H C) :
    r.callHook env event call = (r.dispatcher event).map fun d =>
      let reply :=
        EventDispatcher.applyCall d.type ⟨false, env.zmqStatsEnable, .ok ()⟩ d.plugins call
      (reply.outcome, r.setPlugins event reply.state) := by
  unfold callHook
  refine congrArg (fun f => (r.dispatcher event).map f) (funext fun d => ?_)
  have henv : env.hook event = ⟨false, env.zmqStatsEnable, env.nextFrame⟩ := by
    rw [Env.hook, hheld]
  rw [henv, EventDispatcher.applyCall_free]
  simp only [EventDispatcher.queued_free, List.map_nil, List.append_nil, setPlugins]

/-- A call on commands that nobody holds queues nothing, and looks at nothing around
it. -/
theorem callCommand_free {env : Env} (hheld : env.heldCommands = false)
    (call : CommandCall String H C) (r : Registries H C) :
    r.callCommand env call = r.commands.map fun commands =>
      let reply := CommandInvoker.applyCall ⟨false, .ok none, .ok ()⟩ commands call
      (reply.outcome, r.setCommands reply.state) := by
  unfold callCommand
  refine congrArg (fun f => r.commands.map f) (funext fun commands => ?_)
  have henv : env.command = ⟨false, env.zmqStatsEnable, env.nextFrame⟩ := by
    rw [Env.command, hheld]
  rw [henv, CommandInvoker.applyCall_free]
  simp only [CommandInvoker.queued_free, List.map_nil, List.append_nil, setCommands]

/-- Outside of every dispatch nothing is queued. -/
theorem perform_idle_tasks (zmqStatsEnable : PyResult (Option String)) (r : Registries H C)
    (task : Task H C) : (r.perform (Env.idle zmqStatsEnable) task).tasks = r.tasks := by
  cases task with
  | hook task =>
    rw [perform, callHook_free rfl]
    cases r.dispatcher task.event <;> rfl
  | command call =>
    rw [perform, callCommand_free rfl]
    cases r.commands <;> rfl

/-- All waiting tasks run. -/
theorem drain_tasks (zmqStatsEnable : PyResult (Option String)) (r : Registries H C) :
    (r.drain zmqStatsEnable).tasks = [] := by
  have hfold : ∀ (tasks : List (Task H C)) (r : Registries H C),
      (tasks.foldl (perform (Env.idle zmqStatsEnable)) r).tasks = r.tasks := by
    intro tasks
    induction tasks with
    | nil => exact fun _ => rfl
    | cons task tasks ih =>
      intro r
      rw [List.foldl_cons, ih, perform_idle_tasks]
  exact hfold r.tasks { r with tasks := [] }

omit [PyCompare H] in
theorem commandsOf_keep {r : Registries H C} {commands : Commands String H C}
    (h : r.commands = some commands) (p : Command String H C → Bool) (q : String) :
    (r.setCommands (Levels.keep p commands)).commandsOf q = (r.commandsOf q).filter p := by
  rw [commandsOf, allCommands, commandsOf, allCommands, h, setCommands, Option.elim, Option.elim,
    Levels.flatten_keep, List.filter_comm]

end Registries

end ShinQlx
