import ShinQlx.CommandInvoker

/-! # The registries of the server

The dispatchers of `EVENT_DISPATCHERS`, each with its hooks, the commands of
`COMMANDS`, and the tasks on `next_frame_tasks`.  A call on one of the registries
finds it by the name of its event, and may find it held by a running dispatch
(`Env`).
-/
namespace ShinQlx

/-- An event dispatcher: its class attributes and its hooks. -/
structure Dispatcher (H : Type) where
  type : DispatcherType
  plugins : Plugins H

/-- A registry change that waits for the next frame. -/
inductive Task (H C : Type) where
  | hook (task : HookTask H)
  | command (call : CommandCall String H C)
  deriving DecidableEq, Repr

/-- `EVENT_DISPATCHERS` and `COMMANDS`, where they are set, and
`next_frame_tasks`.  The plugin of a command is known by its name. -/
structure Registries (H C : Type) where
  dispatchers : Option (List (String × Dispatcher H))
  commands : Option (Commands String H C)
  tasks : List (Task H C)

/-- What a call on a registry finds around it: which registries a dispatch holds,
the `zmq_stats_enable` cvar, and whether a task can be queued. -/
structure Env where
  heldEvent : String → Bool
  heldCommands : Bool
  zmqStatsEnable : PyResult (Option String)
  nextFrame : PyResult Unit

namespace Env

/-- As a call on the hooks of an event sees it. -/
def hook (env : Env) (event : String) : CallEnv :=
  ⟨env.heldEvent event, env.zmqStatsEnable, env.nextFrame⟩

/-- As a call on the commands sees it. -/
def command (env : Env) : CallEnv := ⟨env.heldCommands, env.zmqStatsEnable, env.nextFrame⟩

/-- Outside of every dispatch. -/
def idle (zmqStatsEnable : PyResult (Option String)) : Env :=
  ⟨fun _ => false, false, zmqStatsEnable, .ok ()⟩

end Env

/-- The lists of a plugin in a registry of hooks. -/
def hooksIn {H : Type} (plugins : Plugins H) (plugin : String) : Hooks H :=
  (Assoc.lookup plugin plugins).getD fun _ => []

namespace Registries
variable {H C : Type}

/-- The dispatcher of an event. -/
def dispatcher (event : String) (r : Registries H C) : Option (Dispatcher H) :=
  r.dispatchers.bind (Assoc.lookup event)

/-- The hooks that a plugin has registered for an event. -/
def hooksOf (r : Registries H C) (event plugin : String) : Hooks H :=
  (r.dispatcher event).elim (fun _ => []) fun d => hooksIn d.plugins plugin

/-- The handlers that a plugin has registered for an event at a priority. -/
def hooksAt (r : Registries H C) (event plugin : String) (priority : Int) : List H :=
  (priorityIndex priority).elim [] (r.hooksOf event plugin)

/-- The registered commands in the order in which they are tried. -/
def allCommands (r : Registries H C) : List (Command String H C) :=
  r.commands.elim [] Levels.flatten

/-- The registered commands of a plugin. -/
def commandsOf (r : Registries H C) (plugin : String) : List (Command String H C) :=
  r.allCommands.filter (·.plugin = plugin)

/-- The registries with other hooks for an event. -/
def setPlugins (event : String) (plugins : Plugins H) (r : Registries H C) : Registries H C :=
  { r with dispatchers := r.dispatchers.map (Assoc.modify event ({ · with plugins := plugins })) }

/-- The registries with other commands. -/
def setCommands (commands : Commands String H C) (r : Registries H C) : Registries H C :=
  { r with commands := some commands }

/-- The registries with a further task for the next frame. -/
def queue (task : Task H C) (r : Registries H C) : Registries H C :=
  { r with tasks := r.tasks ++ [task] }

/-- The plugins that ever hooked an event, in the order in which they first did. -/
def seen (r : Registries H C) (event : String) : List String :=
  (r.dispatcher event).elim [] fun d => d.plugins.map Prod.fst

/-- Every dispatcher is kept under its name, as `add_dispatcher` does. -/
def Named (r : Registries H C) : Prop :=
  ∀ event d, r.dispatcher event = some d → d.type.name = some event

theorem Named.of_types {r r' : Registries H C} (hr : r.Named)
    (h : ∀ event, (r'.dispatcher event).map (·.type) = (r.dispatcher event).map (·.type)) :
    r'.Named := by
  intro event d hd
  have htype := h event
  rw [hd, Option.map_some] at htype
  obtain ⟨d', hd', hsame⟩ := Option.map_eq_some_iff.mp htype.symm
  rw [← hsame]
  exact hr event d' hd'

theorem dispatcher_setPlugins {event : String} {r : Registries H C} {d : Dispatcher H}
    (h : r.dispatcher event = some d) (plugins : Plugins H) (event' : String) :
    (r.setPlugins event plugins).dispatcher event' =
      if event' = event then some { d with plugins := plugins } else r.dispatcher event' := by
  unfold dispatcher at *
  cases hd : r.dispatchers with
  | none => simp [hd] at h
  | some ds =>
    rw [hd, Option.bind_some] at h
    simp only [setPlugins, hd, Option.map_some, Option.bind_some, Assoc.lookup_modify, h]

theorem hooksOf_eq_hooksIn {event : String} {r : Registries H C} {d : Dispatcher H}
    (h : r.dispatcher event = some d) (plugin : String) :
    r.hooksOf event plugin = hooksIn d.plugins plugin := by
  rw [hooksOf, h, Option.elim]

theorem hooksOf_setPlugins {event : String} {r : Registries H C} {d : Dispatcher H}
    (h : r.dispatcher event = some d) (plugins : Plugins H) (event' plugin : String) :
    (r.setPlugins event plugins).hooksOf event' plugin =
      if event' = event then hooksIn plugins plugin else r.hooksOf event' plugin := by
  unfold hooksOf
  rw [dispatcher_setPlugins h]
  by_cases he : event' = event
  · simp [he]
  · simp [he]

/-- Registries that only differ in an update that changes nothing. -/
theorem setPlugins_self {event : String} {r : Registries H C} {d : Dispatcher H}
    (h : r.dispatcher event = some d) : r.setPlugins event d.plugins = r := by
  unfold dispatcher at h
  unfold setPlugins
  cases hd : r.dispatchers with
  | none => simp [hd] at h
  | some ds =>
    rw [hd, Option.bind_some] at h
    rw [Option.map_some, Assoc.modify_of_lookup h rfl, ← hd]

theorem hooksAt_index (r : Registries H C) (event plugin : String) (i : Fin 5) :
    r.hooksAt event plugin i = r.hooksOf event plugin i := by
  have hi : priorityIndex (i : Int) = some i := priorityIndex_eq_some.mpr rfl
  rw [hooksAt, hi, Option.elim]

/-! ### One plugin's hooks replaced -/

/-- `r'` is `r` with other hooks of a plugin for an event. -/
structure Rehooked (event plugin : String) (hooks : Hooks H) (r r' : Registries H C) : Prop where
  types : ∀ event', (r'.dispatcher event').map (·.type) = (r.dispatcher event').map (·.type)
  seen : ∀ event', (r'.seen event').filter (· ≠ plugin) = (r.seen event').filter (· ≠ plugin)
  hooks : ∀ event' q, r'.hooksOf event' q =
    if event' = event ∧ q = plugin then hooks else r.hooksOf event' q
  commands : r'.commands = r.commands
  tasks : r'.tasks = r.tasks

theorem rehooked_setPlugins {event plugin : String} {hooks : Hooks H} {r : Registries H C}
    {d : Dispatcher H} (h : r.dispatcher event = some d) {plugins : Plugins H}
    (hhooks : ∀ q, hooksIn plugins q = if q = plugin then hooks else hooksIn d.plugins q)
    (hseen : (plugins.map Prod.fst).filter (· ≠ plugin) =
      (d.plugins.map Prod.fst).filter (· ≠ plugin)) :
    Rehooked event plugin hooks r (r.setPlugins event plugins) := by
  refine ⟨fun event' => ?_, fun event' => ?_, fun event' q => ?_, rfl, rfl⟩
  · rw [dispatcher_setPlugins h]
    by_cases he : event' = event
    · rw [if_pos he, he, h, Option.map_some, Option.map_some]
    · rw [if_neg he]
  · unfold Registries.seen
    rw [dispatcher_setPlugins h]
    by_cases he : event' = event
    · rw [if_pos he, he, h, Option.elim, Option.elim, hseen]
    · rw [if_neg he]
  · rw [hooksOf_setPlugins h, hhooks, ← hooksOf_eq_hooksIn h]
    by_cases he : event' = event
    · subst he
      simp
    · simp [he]

/-- Other hooks at one priority, as `hooksAt` sees it. -/
theorem Rehooked.hooksAt {event plugin : String} {hooks : Hooks H} {r r' : Registries H C}
    (h : Rehooked event plugin hooks r r') {i : Fin 5}
    (hrest : ∀ j ≠ i, hooks j = r.hooksOf event plugin j) (event' q : String) (priority : Int) :
    r'.hooksAt event' q priority =
      if event' = event ∧ q = plugin ∧ priority = (i : Int) then hooks i
      else r.hooksAt event' q priority := by
  unfold Registries.hooksAt
  rw [h.hooks]
  by_cases hep : event' = event ∧ q = plugin
  · obtain ⟨rfl, rfl⟩ := hep
    by_cases hp : priority = (i : Int)
    · have hi : priorityIndex priority = some i := priorityIndex_eq_some.mpr hp
      rw [hi, if_pos ⟨rfl, rfl⟩, if_pos ⟨rfl, rfl, hp⟩, Option.elim]
    · cases hj : priorityIndex priority with
      | none => simp [hp]
      | some j =>
        have hji : j ≠ i := by
          rintro rfl
          exact hp (priorityIndex_eq_some.mp hj)
        simp [hp, hrest j hji]
  · rw [if_neg hep, if_neg (fun hs => hep ⟨hs.1, hs.2.1⟩)]

/-! ### Calls -/

variable [PyCompare H]

/-- A call on the hooks of an event; `none` if its dispatcher cannot be had. -/
def callHook (env : Env) (event : String) (call : HookCall H) (r : Registries H C) :
    Option (Outcome Unit × Registries H C) :=
  (r.dispatcher event).map fun d =>
    let reply := EventDispatcher.applyCall d.type (env.hook event) d.plugins call
    (reply.outcome,
      { r.setPlugins event reply.state with tasks := r.tasks ++ reply.queued.map .hook })

/-- A call on the commands; `none` if they cannot be had. -/
def callCommand (env : Env) (call : CommandCall String H C) (r : Registries H C) :
    Option (Outcome Unit × Registries H C) :=
  r.commands.map fun commands =>
    let reply := CommandInvoker.applyCall env.command commands call
    (reply.outcome,
      { r.setCommands reply.state with tasks := r.tasks ++ reply.queued.map .command })

/-- Makes the call of a task.  What it raises is logged; where it panics it has changed
nothing. -/
def perform (env : Env) (r : Registries H C) : Task H C → Registries H C
  | .hook task => ((r.callHook env task.event task.call).map Prod.snd).getD r
  | .command call => ((r.callCommand env call).map Prod.snd).getD r

/-- Runs the tasks that wait, outside of every dispatch, in the order in which they
were queued. -/
def drain (zmqStatsEnable : PyResult (Option String)) (r : Registries H C) : Registries H C :=
  r.tasks.foldl (perform (Env.idle zmqStatsEnable)) { r with tasks := [] }

end Registries

/-! ## Small registries -/

/-- A command that anybody may run. -/
def kick (names : List String) (plugin : String) : Command String PyFunction Unit :=
  ⟨plugin, names, ⟨0⟩, 0, [], [], true, 0, true, ""⟩

/-- Registries with dispatchers for the `unload` and `chat` events, the given hooks of
the chat, and the given commands. -/
def smallRegistries (chat : Plugins PyFunction) (commands : List (Command String PyFunction Unit)) :
    Registries PyFunction Unit where
  dispatchers := some
    [("unload", ⟨⟨some "unload", some false⟩, []⟩), ("chat", ⟨⟨some "chat", some false⟩, chat⟩)]
  commands := some fun i => if i.val = 2 then commands else []
  tasks := []

theorem smallRegistries_named (chat : Plugins PyFunction)
    (commands : List (Command String PyFunction Unit)) : (smallRegistries chat commands).Named := by
  intro event d hd
  simp only [smallRegistries, Registries.dispatcher, Option.bind_some, Assoc.lookup_cons,
    Assoc.lookup_nil] at hd
  split at hd
  · cases hd
    subst event
    rfl
  · split at hd
    · cases hd
      subst event
      rfl
    · cases hd

end ShinQlx
