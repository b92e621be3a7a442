import ShinQlx.PluginManager

/-! # What a load leaves registered

The constructor of a plugin registers while it runs, and nothing takes a registration
back when it fails later: a load that fails leaves the table of loaded plugins alone,
but the registrations that the constructor completed stay (`Registers`).  A load that
succeeds adds the same registrations, and the instance to the table.
-/
namespace ShinQlx

/-- A registration that a constructor completed. -/
inductive Completed (H C : Type) where
  | hook (event : String) (handler : H) (priority : Int)
  | command (command : Command String H C) (priority : Nat)
  deriving DecidableEq, Repr

namespace Completed
variable {H C : Type}

/-- The entry that a registration of a hook makes in the mirror. -/
def mirrored : Completed H C → Option (MirroredHook H)
  | .hook event handler priority => some ⟨event, handler, priority⟩
  | .command _ _ => none

/-- The command that a registration adds. -/
def added : Completed H C → Option (Command String H C)
  | .hook _ _ _ => none
  | .command cmd _ => some cmd

/-- The handler that a registration adds for an event at a priority. -/
def handlerAt (event : String) (i : Fin 5) : Completed H C → Option H
  | .hook event' handler priority =>
    if event' = event ∧ priority = (i : Int) then some handler else none
  | .command _ _ => none

/-- The command that a registration adds at a priority. -/
def commandAt (i : Fin 5) : Completed H C → Option (Command String H C)
  | .hook _ _ _ => none
  | .command cmd priority => if priority = i then some cmd else none

/-- The task that a registration leaves, if its registry is held. -/
def task (env : Env) (hasCommands : Bool) (plugin : String) : Completed H C → Option (Task H C)
  | .hook event handler priority =>
    if env.heldEvent event then some (.hook ⟨event, .add plugin handler priority⟩) else none
  | .command cmd priority =>
    if hasCommands && env.heldCommands then some (.command (.add cmd priority)) else none

theorem handlersAt_hook (event : String) (handler : H) (priority : Int) (event' : String)
    (i : Fin 5) : [(hook event handler priority : Completed H C)].filterMap (handlerAt event' i) =
      if event = event' ∧ priority = (i : Int) then [handler] else [] := by
  by_cases h : event = event' ∧ priority = (i : Int)
  · simp [handlerAt, h]
  · simp [handlerAt, if_neg h]

/-- Where no command is added, the commands stay as they are. -/
theorem commands_of_none {calls : List (Completed H C)}
    (h : ∀ i, calls.filterMap (commandAt i) = []) (held : Bool)
    (commands : Option (Commands String H C)) :
    commands = commands.map fun commands i => commands i ++
      if held then [] else calls.filterMap (commandAt i) := by
  cases commands with
  | none => rfl
  | some commands => simp [h]

end Completed

/-- `r'` is `r` with registrations of a plugin added at the end of its lists: those
whose registry was held wait as tasks. -/
structure Registers {H C : Type} (env : Env) (plugin : String) (calls : List (Completed H C))
    (r r' : Registries H C) : Prop where
  types : ∀ event, (r'.dispatcher event).map (·.type) = (r.dispatcher event).map (·.type)
  seen : ∀ event, (r'.seen event).filter (· ≠ plugin) = (r.seen event).filter (· ≠ plugin)
  hooks : ∀ event q i, r'.hooksOf event q i = r.hooksOf event q i ++
    if q = plugin ∧ env.heldEvent event = false then calls.filterMap (Completed.handlerAt event i)
    else []
  commands : r'.commands = r.commands.map fun commands i => commands i ++
    if env.heldCommands then [] else calls.filterMap (Completed.commandAt i)
  tasks : r'.tasks = r.tasks ++ calls.filterMap (Completed.task env r.commands.isSome plugin)

namespace Registers
variable {H C : Type} {env : Env} {plugin : String}

theorem nil (r : Registries H C) : Registers env plugin [] r r :=
  ⟨fun _ => rfl, fun _ => rfl, fun event q i => by simp,
    Completed.commands_of_none (fun _ => rfl) _ _, by simp⟩

theorem append {calls calls' : List (Completed H C)} {r r' r'' : Registries H C}
    (h : Registers env plugin calls r r') (h' : Registers env plugin calls' r' r'') :
    Registers env plugin (calls ++ calls') r r'' := by
  have hsome : r'.commands.isSome = r.commands.isSome := by
    rw [h.commands, Option.isSome_map]
  refine ⟨fun event => (h'.types event).trans (h.types event),
    fun event => (h'.seen event).trans (h.seen event), fun event q i => ?_, ?_, ?_⟩
  · rw [h'.hooks, h.hooks, List.append_assoc]
    by_cases hq : q = plugin ∧ env.heldEvent event = false
    · simp [hq]
    · simp [if_neg hq]
  · rw [h'.commands, h.commands, Option.map_map]
    refine congrArg (fun f => r.commands.map f) (funext fun commands => funext fun i => ?_)
    cases env.heldCommands <;> simp
  · rw [h'.tasks, h.tasks, hsome, List.append_assoc, List.filterMap_append]

end Registers

/-! ## What a constructor registers -/

namespace Plugin
variable {H C : Type} [PyCompare H]

/-- `add_hook` of a plugin fails and changes nothing, or it registers the hook and
remembers it. -/
theorem addHook_cases {s : PluginState H C} (hs : s.registries.Named) (plugin : String)
    (env : Env) (event : String) (handler : H) (priority : Int) :
    (∃ e, addHook plugin env event handler priority s = (.err e, s)) ∨
    ∃ r, addHook plugin env event handler priority s = (.ok (),
        ⟨r, { s.mirror with hooks := s.mirror.hooks ++ [⟨event, handler, priority⟩] }⟩) ∧
      Registers env plugin [.hook event handler priority] s.registries r := by
  cases hd : s.registries.dispatcher event with
  | none =>
    left
    rw [addHook, Registries.callHook_of_none hd]
    exact ⟨_, rfl⟩
  | some d =>
    rcases Registries.callHook_add_cases hd env plugin handler priority with
      ⟨e, hcall⟩ | ⟨name, hname, hheld, hcall⟩ | ⟨hheld, i, r, rfl, hcall, hnew⟩
    · refine .inl ⟨e, ?_⟩
      rw [addHook, hcall]
    · -- the registration waits as a task, under the name that the dispatcher is kept under
      cases Option.some.inj (hname.symm.trans (hs event d hd))
      refine .inr ⟨s.registries.queue (.hook ⟨event, .add plugin handler priority⟩), ?_, ?_⟩
      · rw [addHook, hcall]
      · refine ⟨fun _ => rfl, fun _ => rfl, fun event' q i => ?_, ?_, ?_⟩
        · show s.registries.hooksOf event' q i = _
          by_cases hq : q = plugin ∧ env.heldEvent event' = false
          · have hne : ¬ (event = event' ∧ priority = (i : Int)) := by
              rintro ⟨rfl, -⟩
              exact absurd (hheld.symm.trans hq.2) (by simp)
            rw [if_pos hq, Completed.handlersAt_hook, if_neg hne, List.append_nil]
          · rw [if_neg hq, List.append_nil]
        · exact Completed.commands_of_none (fun _ => rfl) _ _
        · simp [Registries.queue, Completed.task, hheld]
    · refine .inr ⟨r, ?_, hnew.types, hnew.seen, fun event' q j => ?_, ?_, ?_⟩
      · rw [addHook, hcall]
      · rw [hnew.hooks]
        by_cases heq : event' = event ∧ q = plugin
        · obtain ⟨rfl, rfl⟩ := heq
          rw [if_pos ⟨rfl, rfl⟩, if_pos ⟨rfl, hheld⟩]
          by_cases hji : j = i
          · subst hji
            simp [Completed.handlerAt]
          · have hne : ¬ (event' = event' ∧ (i : Int) = (j : Int)) := by
              rintro ⟨-, hij⟩
              exact hji (Fin.ext (by omega))
            rw [Levels.push_of_ne hji, Completed.handlersAt_hook, if_neg hne, List.append_nil]
        · rw [if_neg heq]
          by_cases hq : q = plugin
          · have hne : ¬ (event = event' ∧ (i : Int) = (j : Int)) := fun h => heq ⟨h.1.symm, hq⟩
            rw [Completed.handlersAt_hook, if_neg hne, ite_self, List.append_nil]
          · rw [if_neg (fun h => hq h.1), List.append_nil]
      · rw [hnew.commands]
        exact Completed.commands_of_none (fun _ => rfl) _ _
      · rw [hnew.tasks]
        simp [Completed.task, hheld]

/-- `add_command` of a plugin makes no command; or it remembers one that could not be
registered, or one that is. -/
theorem addCommand_cases (toLowercase : String → String) (s : PluginState H C) (plugin : String)
    (env : Env) (args : CommandArgs H C) (priority : Nat) :
    (∃ e, Command.pyNew toLowercase plugin args = .error e ∧
      addCommand toLowercase plugin env args priority s = (.err e, s)) ∨
    ∃ command, Command.pyNew toLowercase plugin args = .ok command ∧
      ∃ o r, addCommand toLowercase plugin env args priority s = (o,
          ⟨r, { s.mirror with commands := s.mirror.commands ++ [command] }⟩) ∧
        ((o ≠ .ok () ∧ r = s.registries) ∨
          (o = .ok () ∧ Registers env plugin [.command command priority] s.registries r)) := by
  cases hnew : Command.pyNew toLowercase plugin args with
  | error e =>
    refine .inl ⟨e, rfl, ?_⟩
    rw [addCommand, hnew]
  | ok command =>
    refine .inr ⟨command, rfl, ?_⟩
    have happly : ∀ {o r}, s.registries.callCommand env (.add command priority) = some (o, r) →
        addCommand toLowercase plugin env args priority s =
          (o, ⟨r, { s.mirror with commands := s.mirror.commands ++ [command] }⟩) := by
      intro o r hcall
      simp only [addCommand, hnew, hcall]
    cases hcmd : s.registries.commands with
    | none =>
      -- without `COMMANDS` the command is remembered and `add_command` returns
      refine ⟨.ok (), s.registries, ?_, .inr ⟨rfl, fun _ => rfl, fun _ => rfl, ?_, ?_, ?_⟩⟩
      · simp only [addCommand, hnew, Registries.callCommand, hcmd, Option.map_none]
      · intro event q i
        simp [Completed.handlerAt]
      · rw [hcmd, Option.map_none]
      · simp [Completed.task, hcmd]
    | some commands =>
      rcases Registries.callCommand_add_cases hcmd env command priority with
        ⟨-, hcall⟩ | ⟨-, ⟨hheld, ⟨e, -, hcall⟩ | ⟨-, hcall⟩⟩ |
          ⟨hheld, ⟨i, rfl, hcall⟩ | ⟨-, hcall⟩⟩⟩
      · exact ⟨_, _, happly hcall, .inl ⟨by simp, rfl⟩⟩
      · exact ⟨_, _, happly hcall, .inl ⟨by simp, rfl⟩⟩
      · refine ⟨_, _, happly hcall,
          .inr ⟨rfl, fun _ => rfl, fun _ => rfl, fun event q i => ?_, ?_, ?_⟩⟩
        · simp [Registries.hooksOf, Registries.queue, Registries.dispatcher, Completed.handlerAt]
        · simp [Registries.queue, hcmd, hheld]
        · simp [Registries.queue, Completed.task, hcmd, hheld]
      · refine ⟨_, _, happly hcall,
          .inr ⟨rfl, fun _ => rfl, fun _ => rfl, fun event q i => ?_, ?_, ?_⟩⟩
        · simp [Registries.hooksOf, Registries.setCommands, Registries.dispatcher,
            Completed.handlerAt]
        · rw [Registries.setCommands, hcmd, Option.map_some]
          refine congrArg some (funext fun j => ?_)
          by_cases hji : j = i
          · subst hji
            simp [hheld, Completed.commandAt]
          · have hne : ¬ (i : Nat) = j := fun h => hji (Fin.ext h.symm)
            rw [Levels.push_of_ne hji]
            simp [Completed.commandAt, hne]
        · simp [Registries.setCommands, Completed.task, hheld]
      · exact ⟨_, _, happly hcall, .inl ⟨by simp, rfl⟩⟩

end Plugin

namespace Constructor
variable {H C : Type} [PyCompare H]

/-- The registrations that a run of a constructor completes, in order. -/
def completed (toLowercase : String → String) (plugin : String) (env : Env) :
    Constructor H C → PluginState H C → List (Completed H C)
  | .done _, _ => []
  | .addHook event handler priority next, s =>
    let result := Plugin.addHook plugin env event handler priority s
    (if result.1 = .ok () then [.hook event handler priority] else []) ++
      completed toLowercase plugin env (next result.1) result.2
  | .addCommand args priority next, s =>
    let result := Plugin.addCommand toLowercase plugin env args priority s
    (match Command.pyNew toLowercase plugin args with
      | .ok command => if result.1 = .ok () then [.command command priority] else []
      | .error _ => []) ++
      completed toLowercase plugin env (next result.1) result.2

/-- What a run of a constructor adds to the registries and to the mirror. -/
theorem run_registers (toLowercase : String → String) (plugin : String) (env : Env)
    (c : Constructor H C) {s : PluginState H C} (hs : s.registries.Named) :
    Registers env plugin (c.completed toLowercase plugin env s) s.registries
        (c.run toLowercase plugin env s).2.registries ∧
      (c.run toLowercase plugin env s).2.mirror.hooks = s.mirror.hooks ++
        (c.completed toLowercase plugin env s).filterMap Completed.mirrored ∧
      ∃ commands, (c.run toLowercase plugin env s).2.mirror.commands =
          s.mirror.commands ++ commands ∧
        ((c.completed toLowercase plugin env s).filterMap Completed.added).Sublist commands := by
  induction c generalizing s with
  | done o =>
    exact ⟨Registers.nil _, by simp [run, completed], [], by simp [run], by simp [completed]⟩
  | addHook event handler priority next ih =>
    rcases Plugin.addHook_cases hs plugin env event handler priority with
      ⟨e, hcall⟩ | ⟨r, hcall, hreg⟩
    · have hrest := ih (.err e) hs
      rw [run, completed, hcall]
      simpa using hrest
    · obtain ⟨hregs, hhooks, commands, hcommands, hsub⟩ := ih (.ok ())
        (s := ⟨r, { s.mirror with hooks := s.mirror.hooks ++ [⟨event, handler, priority⟩] }⟩)
        (hs.of_types hreg.types)
      rw [run, completed, hcall]
      refine ⟨hreg.append hregs, ?_, commands, hcommands, hsub⟩
      rw [hhooks]
      simp [Completed.mirrored]
  | addCommand args priority next ih =>
    rcases Plugin.addCommand_cases toLowercase s plugin env args priority with
      ⟨e, hnew, hcall⟩ | ⟨command, hnew, o, r, hcall, ⟨ho, rfl⟩ | ⟨rfl, hreg⟩⟩
    · have hrest := ih (.err e) hs
      rw [run, completed, hcall, hnew]
      simpa using hrest
    · obtain ⟨hregs, hhooks, commands, hcommands, hsub⟩ := ih o
        (s := ⟨s.registries, { s.mirror with commands := s.mirror.commands ++ [command] }⟩) hs
      rw [run, completed, hcall, hnew]
      simp only [if_neg ho, List.nil_append]
      refine ⟨hregs, hhooks, command :: commands, ?_, hsub.cons _⟩
      rw [hcommands]
      simp
    · obtain ⟨hregs, hhooks, commands, hcommands, hsub⟩ := ih (.ok ())
        (s := ⟨r, { s.mirror with commands := s.mirror.commands ++ [command] }⟩)
        (hs.of_types hreg.types)
      rw [run, completed, hcall, hnew]
      refine ⟨hreg.append hregs, hhooks, command :: commands, ?_, hsub.cons_cons _⟩
      rw [hcommands]
      simp

end Constructor

/-! ## What a load leaves -/

namespace LoadEnv
variable {H C : Type}

/-- `load_plugin` gets so far as to look at the table of loaded plugins: it can write to the log,
there is a plugins path, and the file of the plugin is there. -/
def Looks (env : LoadEnv H C) : Prop :=
  env.logger = .ok () ∧ (∃ dir, env.pluginsPath = .ok dir) ∧ env.isFile = true

/-- Loading a plugin that is not loaded comes to calling a class: the plugins path names a
directory, the module of the plugin can be imported and noted, and what it has under the name of
the plugin is that class, a subclass of `Plugin`. -/
structure Calls (env : LoadEnv H C) (pluginClass : PluginClass H C) : Prop where
  looks : env.Looks
  pluginsDir : ∃ dir, env.pluginsPath = .ok (some dir)
  importModule : env.importModule = .ok ()
  setModule : env.setModule = .ok ()
  hasattr : env.hasattr = .ok true
  getattr : env.getattr = .ok pluginClass
  cast : pluginClass.cast = .ok ()
  isSubclass : pluginClass.isSubclass = true

theorem Calls.unique {env : LoadEnv H C} {c c' : PluginClass H C} (h : env.Calls c)
    (h' : env.Calls c') : c = c' := Except.ok.inj (h.getattr.symm.trans h'.getattr)

end LoadEnv

namespace PluginManager
variable {H C : Type} [PyCompare H]

/-- The constructor of a plugin class ran: its registrations stay however it ended, and
the instance is in the table if it returned. -/
structure Constructed (toLowercase : String → String) (plugin : String) (env : Env)
    (c : PluginClass H C) (s : PluginManager H C) (o : Outcome Unit) (s' : PluginManager H C) :
    Prop where
  outcome : o = (c.constructor.run toLowercase c.name env ⟨s.registries, ⟨[], []⟩⟩).1
  registers : Registers env c.name
    (c.constructor.completed toLowercase c.name env ⟨s.registries, ⟨[], []⟩⟩)
    s.registries s'.registries
  failed : o ≠ .ok () → s'.loaded = s.loaded
  returned : o = .ok () → ∃ mirror : Mirror H C,
    s'.loaded = s.loaded ++ [(plugin, ⟨c.name, mirror⟩)] ∧
    mirror.hooks = (c.constructor.completed toLowercase c.name env
      ⟨s.registries, ⟨[], []⟩⟩).filterMap Completed.mirrored ∧
    ((c.constructor.completed toLowercase c.name env
      ⟨s.registries, ⟨[], []⟩⟩).filterMap Completed.added).Sublist mirror.commands

/-- What becomes of loading a plugin that is not loaded: unless it comes to calling the class of the
plugin it raises and changes nothing, and otherwise the constructor of that class ran. -/
structure LoadResult (toLowercase : String → String) (plugin : String) (env : LoadEnv H C)
    (s : PluginManager H C) (o : Outcome Unit) (s' : PluginManager H C) : Prop where
  refused : (∀ pluginClass, ¬env.Calls pluginClass) → (∃ e, o = .err e) ∧ s' = s
  constructed : ∀ pluginClass, env.Calls pluginClass →
    Constructed toLowercase plugin env.env pluginClass s o s'

/-- What becomes of loading a plugin that is loaded: it raises and changes nothing if it does not
get to the table; and otherwise the plugin is unloaded, its module reloaded, and, if neither of
these ends the call, the plugin loaded again, however the unloading came out. -/
structure ReloadResult (toLowercase : String → String) (plugin : String) (env : LoadEnv H C)
    (envs : List (LoadEnv H C)) (s : PluginManager H C) : Prop where
  refused : ¬env.Looks → ∃ e, loadPlugin toLowercase (env :: envs) plugin s = some (.err e, s)
  panicked : env.Looks → (unloadPlugin env.unload plugin s).1 = .panic →
    loadPlugin toLowercase (env :: envs) plugin s =
      some (.panic, (unloadPlugin env.unload plugin s).2)
  failed : env.Looks → (unloadPlugin env.unload plugin s).1 ≠ .panic →
    ∀ e, env.reloadModule = .error e → loadPlugin toLowercase (env :: envs) plugin s =
      some (.err e, (unloadPlugin env.unload plugin s).2)
  loads : env.Looks → (unloadPlugin env.unload plugin s).1 ≠ .panic →
    env.reloadModule = .ok () → loadPlugin toLowercase (env :: envs) plugin s =
      loadPlugin toLowercase envs plugin (unloadPlugin env.unload plugin s).2

theorem instantiate_constructed (toLowercase : String → String) (env : Env) {plugin : String}
    (c : PluginClass H C) {s : PluginManager H C} (hs : s.registries.Named)
    (hnew : Assoc.lookup plugin s.loaded = none) :
    Constructed toLowercase plugin env c s (instantiate toLowercase env plugin c s).1
      (instantiate toLowercase env plugin c s).2 := by
  obtain ⟨hregs, hhooks, commands, hcommands, hsub⟩ :=
    c.constructor.run_registers toLowercase c.name env (s := ⟨s.registries, ⟨[], []⟩⟩) hs
  have hinsert : ∀ loadedPlugin : PluginInstance H C,
      Assoc.insert plugin loadedPlugin s.loaded = s.loaded ++ [(plugin, loadedPlugin)] := by
    intro loadedPlugin
    rw [Assoc.insert, hnew]
    rfl
  unfold instantiate
  cases hrun : c.constructor.run toLowercase c.name env ⟨s.registries, ⟨[], []⟩⟩ with
  | mk o t =>
    rw [hrun] at hregs hhooks hcommands
    cases o with
    | ok u =>
      refine ⟨by rw [hrun], hregs, by simp,
        fun _ => ⟨t.mirror, hinsert ⟨c.name, t.mirror⟩, hhooks, ?_⟩⟩
      rw [hcommands]
      exact hsub
    | err e => exact ⟨by rw [hrun], hregs, fun _ => rfl, by simp⟩
    | panic => exact ⟨by rw [hrun], hregs, fun _ => rfl, by simp⟩

/-- `try_load_plugin` raises and changes nothing, and no class is called, or it calls the class of
the plugin. -/
theorem tryLoadPlugin_cases (toLowercase : String → String) {env : LoadEnv H C} (h : env.Looks)
    {pluginsDir : Option String} (hdir : env.pluginsPath = .ok pluginsDir) (plugin : String)
    (s : PluginManager H C) :
    ((∀ pluginClass, ¬env.Calls pluginClass) ∧
      ∃ e, tryLoadPlugin toLowercase env pluginsDir plugin s = (.err e, s)) ∨
    ∃ pluginClass, env.Calls pluginClass ∧
      tryLoadPlugin toLowercase env pluginsDir plugin s =
        instantiate toLowercase env.env plugin pluginClass s := by
  unfold tryLoadPlugin
  cases pluginsDir with
  | none =>
    refine .inl ⟨fun c hc => ?_, _, rfl⟩
    obtain ⟨dir, hsome⟩ := hc.pluginsDir
    cases hdir.symm.trans hsome
  | some dir =>
    cases himport : env.importModule with
    | error e => exact .inl ⟨fun c hc => (by cases himport.symm.trans hc.importModule), e, rfl⟩
    | ok u =>
      cases hset : env.setModule with
      | error e => exact .inl ⟨fun c hc => (by cases hset.symm.trans hc.setModule), e, rfl⟩
      | ok u =>
        cases hhas : env.hasattr with
        | error e => exact .inl ⟨fun c hc => (by cases hhas.symm.trans hc.hasattr), e, rfl⟩
        | ok has =>
          cases has with
          | false => exact .inl ⟨fun c hc => (by cases hhas.symm.trans hc.hasattr), _, rfl⟩
          | true =>
            cases hget : env.getattr with
            | error e => exact .inl ⟨fun c hc => (by cases hget.symm.trans hc.getattr), e, rfl⟩
            | ok pluginClass =>
              have hsame : ∀ c, env.Calls c → c = pluginClass :=
                fun c hc => Except.ok.inj (hc.getattr.symm.trans hget)
              cases hcast : pluginClass.cast with
              | error e =>
                refine .inl ⟨fun c hc => ?_, e, by simp only [hcast]⟩
                obtain rfl := hsame c hc
                cases hcast.symm.trans hc.cast
              | ok u =>
                cases hsub : pluginClass.isSubclass with
                | false =>
                  refine .inl ⟨fun c hc => ?_, _, by simp only [hcast, hsub]; rfl⟩
                  obtain rfl := hsame c hc
                  cases hsub.symm.trans hc.isSubclass
                | true =>
                  exact .inr ⟨pluginClass, ⟨h, ⟨dir, hdir⟩, himport, hset, hhas, hget, hcast, hsub⟩,
                    by simp only [hcast, hsub]; rfl⟩

/-- A load that does not get to the table raises and changes nothing. -/
theorem loadPlugin_not_looks (toLowercase : String → String) (plugin : String)
    {env : LoadEnv H C} (h : ¬env.Looks) (s : PluginManager H C) :
    ∃ e, ∀ envs, loadPlugin toLowercase (env :: envs) plugin s = some (.err e, s) := by
  unfold loadPlugin
  unfold LoadEnv.Looks at h
  cases hlog : env.logger with
  | error e => exact ⟨e, fun _ => rfl⟩
  | ok u =>
    cases hpath : env.pluginsPath with
    | error msg => exact ⟨_, fun _ => rfl⟩
    | ok dir =>
      cases hfile : env.isFile with
      | false => exact ⟨_, fun _ => rfl⟩
      | true => exact absurd ⟨hlog, ⟨dir, hpath⟩, hfile⟩ h

/-- A load of a plugin that is not in the table. -/
theorem loadPlugin_not_loaded (toLowercase : String → String) {plugin : String}
    {env : LoadEnv H C} (h : env.Looks) {s : PluginManager H C}
    (hnew : Assoc.lookup plugin s.loaded = none) :
    ∃ dir, env.pluginsPath = .ok dir ∧ ∀ envs, loadPlugin toLowercase (env :: envs) plugin s =
      some (tryLoadPlugin toLowercase env dir plugin s) := by
  obtain ⟨hlog, ⟨dir, hpath⟩, hfile⟩ := h
  refine ⟨dir, hpath, fun envs => ?_⟩
  unfold loadPlugin
  simp only [hlog, hpath, hfile, hnew, Bool.not_true, Bool.false_eq_true, if_false,
    Option.isSome_none]

/-- **A load of a plugin that is not loaded** returns and is as `LoadResult` says. -/
theorem loadPlugin_result (toLowercase : String → String) {plugin : String} (env : LoadEnv H C)
    (envs : List (LoadEnv H C)) {s : PluginManager H C} (hs : s.registries.Named)
    (hnew : Assoc.lookup plugin s.loaded = none) :
    ∃ o s', loadPlugin toLowercase (env :: envs) plugin s = some (o, s') ∧
      LoadResult toLowercase plugin env s o s' := by
  by_cases hlooks : env.Looks
  · obtain ⟨dir, hdir, hload⟩ := loadPlugin_not_loaded toLowercase hlooks hnew
    refine ⟨(tryLoadPlugin toLowercase env dir plugin s).1,
      (tryLoadPlugin toLowercase env dir plugin s).2, hload envs, ?_⟩
    rcases tryLoadPlugin_cases toLowercase hlooks hdir plugin s with
      ⟨hnone, e, he⟩ | ⟨pluginClass, hcalls, he⟩
    · rw [he]
      exact ⟨fun _ => ⟨⟨e, rfl⟩, rfl⟩, fun c hc => absurd hc (hnone c)⟩
    · rw [he]
      refine ⟨fun hnone => absurd hcalls (hnone pluginClass), fun c hc => ?_⟩
      obtain rfl := hc.unique hcalls
      exact instantiate_constructed toLowercase env.env c hs hnew
  · obtain ⟨e, hload⟩ := loadPlugin_not_looks toLowercase plugin hlooks s
    exact ⟨_, _, hload envs, fun _ => ⟨⟨e, rfl⟩, rfl⟩, fun c hc => absurd hc.looks hlooks⟩

/-- A load of a plugin that is loaded first unloads it, then reloads the module. -/
theorem loadPlugin_unloads (toLowercase : String → String) {plugin : String} {env : LoadEnv H C}
    (h : env.Looks) (envs : List (LoadEnv H C)) {s s' : PluginManager H C} {o : Outcome Unit}
    {loadedPlugin : PluginInstance H C} (hloaded : Assoc.lookup plugin s.loaded = some loadedPlugin)
    (hunload : unloadPlugin env.unload plugin s = (o, s')) :
    (o = .panic → loadPlugin toLowercase (env :: envs) plugin s = some (.panic, s')) ∧
    (o ≠ .panic →
      (∀ e, env.reloadModule = .error e →
        loadPlugin toLowercase (env :: envs) plugin s = some (.err e, s')) ∧
      (env.reloadModule = .ok () → loadPlugin toLowercase (env :: envs) plugin s =
        loadPlugin toLowercase envs plugin s')) := by
  obtain ⟨hlog, ⟨dir, hpath⟩, hfile⟩ := h
  rw [loadPlugin]
  simp only [hlog, hpath, hfile, hloaded, hunload, Bool.not_true, Bool.false_eq_true, if_false,
    Option.isSome_some, if_true]
  cases o with
  | panic => exact ⟨fun _ => rfl, fun hpanic => absurd rfl hpanic⟩
  | ok u => exact ⟨nofun, fun _ => ⟨fun e he => by rw [he], fun hmodule => by rw [hmodule]⟩⟩
  | err e' => exact ⟨nofun, fun _ => ⟨fun e he => by rw [he], fun hmodule => by rw [hmodule]⟩⟩

/-- **A load of a plugin that is loaded** is as `ReloadResult` says. -/
theorem loadPlugin_reload (toLowercase : String → String) {plugin : String} (env : LoadEnv H C)
    (envs : List (LoadEnv H C)) {s : PluginManager H C} {loadedPlugin : PluginInstance H C}
    (hloaded : Assoc.lookup plugin s.loaded = some loadedPlugin) :
    ReloadResult toLowercase plugin env envs s := by
  have hload := fun hlooks : env.Looks =>
    loadPlugin_unloads toLowercase hlooks envs hloaded (Eq.refl (unloadPlugin env.unload plugin s))
  refine ⟨fun hlooks => ?_, fun hlooks hpanic => (hload hlooks).1 hpanic,
    fun hlooks hpanic e he => ((hload hlooks).2 hpanic).1 e he,
    fun hlooks hpanic hmodule => ((hload hlooks).2 hpanic).2 hmodule⟩
  obtain ⟨e, he⟩ := loadPlugin_not_looks toLowercase plugin hlooks s
  exact ⟨e, he envs⟩

end PluginManager
end ShinQlx
