import ShinQlx.PluginLoading

/-! # What an unload leaves registered

An unload asks the registries to remove what the lists of the plugin instance mention.
A removal is made at once, or, where a dispatch holds the registry, waits for the next
frame.  Either way it is one task, and the argument follows the tasks that are still
to be made: whatever of the plugin is registered has its removal among them
(`Unloading`).  So once all of them have run nothing of the plugin is left, and what
belongs to the other plugins is as before, in the same order (`Without`).

That takes lists that mention everything that is registered for the plugin, handlers
that equal themselves, and commands that are not those of another plugin
(`Unloadable`).  `lifecycle` is the contract of loading and unloading.
-/
namespace ShinQlx

/-- `r'` is `r` without the hooks and the commands of a plugin. -/
structure Without {H C : Type} (plugin : String) (r r' : Registries H C) : Prop where
  types : ∀ event, (r'.dispatcher event).map (·.type) = (r.dispatcher event).map (·.type)
  seen : ∀ event, (r'.seen event).filter (· ≠ plugin) = (r.seen event).filter (· ≠ plugin)
  hooks : ∀ event q, r'.hooksOf event q =
    if q = plugin then fun _ => [] else r.hooksOf event q
  commands : r'.commands = r.commands.map (Levels.keep (·.plugin ≠ plugin))

variable {H C : Type} [PyCompare H]

/-- The lists of a plugin mention everything that is registered for it, what is
registered for it equals itself and would not take a command of another plugin along,
and no task is waiting. -/
structure Unloadable (plugin : String) (m : Mirror H C) (r : Registries H C) : Prop where
  named : r.Named
  waiting : r.tasks = []
  hooks : ∀ event i, ∀ h ∈ r.hooksOf event plugin i, ⟨event, h, (i : Fin 5)⟩ ∈ m.hooks
  commands : ∀ c ∈ r.commandsOf plugin, c ∈ m.commands
  hookSame : ∀ event i, ∀ h ∈ r.hooksOf event plugin i,
    PyCompare.maybeEquals h h = true ∧ PyCompare.maybeDiffers h h = false
  commandSame : ∀ c ∈ r.commandsOf plugin,
    PyCompare.equals c.handler c.handler = true ∧ PyCompare.maybeDiffers c.handler c.handler = false
  others : ∀ c ∈ m.commands, ∀ x ∈ r.allCommands, x.plugin ≠ plugin → c.isDropped x = false

/-! ## The removals that are still to be made -/

/-- The removal of a hook, or of a command that takes no command of another plugin
along. -/
inductive Removal (plugin : String) (r : Registries H C) : Task H C → Prop where
  | hook (event : String) (handler : H) (priority : Int) :
    Removal plugin r (.hook ⟨event, .remove plugin handler priority⟩)
  | command (c : Command String H C)
    (others : ∀ x ∈ r.allCommands, x.plugin ≠ plugin → c.isDropped x = false) :
    Removal plugin r (.command (.remove c))

/-- In the course of an unload that began with `r₀`: only registrations of the plugin
are gone, and those that are left have their removal in `todo` or waiting. -/
structure Unloading (plugin : String) (r₀ : Registries H C) (todo : List (Task H C))
    (r : Registries H C) : Prop where
  types : ∀ event, (r.dispatcher event).map (·.type) = (r₀.dispatcher event).map (·.type)
  seen : ∀ event, (r.seen event).filter (· ≠ plugin) = (r₀.seen event).filter (· ≠ plugin)
  others : ∀ event, ∀ q ≠ plugin, r.hooksOf event q = r₀.hooksOf event q
  hooks : ∀ event i, ∀ h ∈ r.hooksOf event plugin i, h ∈ r₀.hooksOf event plugin i
  commands : ∃ p : Command String H C → Bool, r.commands = r₀.commands.map (Levels.keep p) ∧
    ∀ x ∈ r₀.allCommands, x.plugin ≠ plugin → p x = true
  hooksLeft : ∀ event (i : Fin 5), ∀ h ∈ r.hooksOf event plugin i,
    .hook ⟨event, .remove plugin h i⟩ ∈ todo ++ r.tasks
  commandsLeft : ∀ c ∈ r.commandsOf plugin, .command (.remove c) ∈ todo ++ r.tasks
  removals : ∀ t ∈ todo ++ r.tasks, Removal plugin r₀ t

namespace Unloading
variable {plugin : String} {r₀ r : Registries H C} {todo : List (Task H C)} {t : Task H C}

theorem mem_commandsOf (h : Unloading plugin r₀ todo r) {c : Command String H C}
    (hc : c ∈ r.commandsOf plugin) : c ∈ r₀.commandsOf plugin := by
  obtain ⟨p, hp, -⟩ := h.commands
  cases hcmd : r₀.commands with
  | none =>
    rw [hcmd, Option.map_none] at hp
    rw [Registries.commandsOf, Registries.allCommands, hp] at hc
    cases hc
  | some commands =>
    rw [hcmd, Option.map_some] at hp
    rw [Registries.commandsOf, Registries.allCommands, hp, Option.elim, Levels.flatten_keep,
      List.filter_comm] at hc
    rw [Registries.commandsOf, Registries.allCommands, hcmd, Option.elim]
    exact (List.mem_filter.mp hc).1

/-- A removal that changed nothing was not needed. -/
theorem skip (h : Unloading plugin r₀ (t :: todo) r)
    (hhook : ∀ event (i : Fin 5), ∀ a ∈ r.hooksOf event plugin i,
      t ≠ .hook ⟨event, .remove plugin a i⟩)
    (hcommand : ∀ c ∈ r.commandsOf plugin, t ≠ .command (.remove c)) :
    Unloading plugin r₀ todo r := by
  refine { h with hooksLeft := ?_, commandsLeft := ?_, removals := ?_ }
  · intro event i a ha
    exact (List.mem_cons.mp (h.hooksLeft event i a ha)).resolve_left (Ne.symm (hhook event i a ha))
  · intro c hc
    exact (List.mem_cons.mp (h.commandsLeft c hc)).resolve_left (Ne.symm (hcommand c hc))
  · exact fun t' ht' => h.removals t' (List.mem_cons_of_mem _ ht')

/-- A removal that is put off. -/
theorem queue (h : Unloading plugin r₀ (t :: todo) r) : Unloading plugin r₀ todo (r.queue t) := by
  have hmove : ∀ t', t' ∈ t :: todo ++ r.tasks ↔ t' ∈ todo ++ (r.queue t).tasks := by
    intro t'
    simp only [Registries.queue, List.cons_append, List.mem_cons, List.mem_append,
      List.not_mem_nil, or_false]
    rw [or_comm, or_assoc]
  exact
    { types := h.types
      seen := h.seen
      others := h.others
      hooks := h.hooks
      commands := h.commands
      hooksLeft := fun event i a ha => (hmove _).mp (h.hooksLeft event i a ha)
      commandsLeft := fun c hc => (hmove _).mp (h.commandsLeft c hc)
      removals := fun t' ht' => h.removals t' ((hmove _).mpr ht') }

/-- The removal of a hook. -/
theorem perform_hook {m : Mirror H C} (hm : Unloadable plugin m r₀) {event : String} {handler : H}
    {priority : Int}
    (h : Unloading plugin r₀ (.hook ⟨event, .remove plugin handler priority⟩ :: todo) r)
    {env : Env} (henv : env.nextFrame = .ok ()) :
    Unloading plugin r₀ todo
      (r.perform env (.hook ⟨event, .remove plugin handler priority⟩)) := by
  cases hd : r.dispatcher event with
  | none =>
    rw [Registries.perform, Registries.callHook_of_none hd]
    refine h.skip ?_ (by simp)
    rintro event' i a ha ⟨⟩
    rw [Registries.hooksOf, hd] at ha
    cases ha
  | some d =>
    have hname : d.type.name = some event := hm.named.of_types h.types event d hd
    rcases Registries.callHook_remove_cases hd env plugin handler priority with
      ⟨o, -, hcall, hwhy⟩ | ⟨name, hname', -, hcall⟩ | ⟨-, -, i, r', rfl, -, hcall, hnew⟩
    · -- it failed, so no handler of the list may equal the one to be removed
      rw [Registries.perform, hcall]
      obtain ⟨hheld, hfree⟩ := hwhy (by simp [hname])
      refine h.skip ?_ (by simp)
      rintro event' i a ha ⟨⟩
      cases hh : env.heldEvent event with
      | true => exact hheld hh henv
      | false =>
        rw [← Registries.hooksAt_index] at ha
        have hne := hfree hh handler ha
        rw [Registries.hooksAt_index] at ha
        exact absurd ((hm.hookSame event i handler (h.hooks event i handler ha)).1.symm.trans hne)
          (by simp)
    · cases Option.some.inj (hname.symm.trans hname')
      rw [Registries.perform, hcall]
      exact h.queue
    · rw [Registries.perform, hcall, Option.map_some, Option.getD_some]
      -- what is left is a handler of `r` other than the one that was removed
      have hleft : ∀ event' (j : Fin 5), ∀ a ∈ r'.hooksOf event' plugin j,
          a ∈ r.hooksOf event' plugin j ∧
            Task.hook (C := C) ⟨event, .remove plugin handler i⟩ ≠
              .hook ⟨event', .remove plugin a j⟩ := by
        intro event' j a ha
        rw [hnew.hooks] at ha
        by_cases he : event' = event
        · subst he
          rw [if_pos ⟨rfl, rfl⟩] at ha
          by_cases hji : j = i
          · subst hji
            rw [Levels.keepAt_self, List.mem_filter] at ha
            refine ⟨ha.1, ?_⟩
            rintro ⟨⟩
            have hsame := (hm.hookSame _ j handler (h.hooks _ j handler ha.1)).2
            exact absurd (ha.2.symm.trans hsame) (by simp)
          · rw [Levels.keepAt_of_ne hji] at ha
            refine ⟨ha, fun heq => hji (Fin.ext ?_)⟩
            injection heq with heq
            injection heq with _ heq
            injection heq with _ _ heq
            omega
        · rw [if_neg (fun hand => he hand.1)] at ha
          refine ⟨ha, fun heq => he ?_⟩
          injection heq with heq
          injection heq with heq _
          exact heq.symm
      have hcmd : r'.commandsOf plugin = r.commandsOf plugin := by
        rw [Registries.commandsOf, Registries.allCommands, hnew.commands]
        rfl
      refine
        { types := fun event' => (hnew.types event').trans (h.types event')
          seen := fun event' => (hnew.seen event').trans (h.seen event')
          others := fun event' q hq => ?_
          hooks := fun event' j a ha => h.hooks event' j a (hleft event' j a ha).1
          commands := by rw [hnew.commands]; exact h.commands
          hooksLeft := fun event' j a ha => ?_
          commandsLeft := fun c hc => ?_
          removals := fun t' ht' => ?_ }
      · rw [hnew.hooks, if_neg (fun hand => hq hand.2)]
        exact h.others event' q hq
      · obtain ⟨hold, hne⟩ := hleft event' j a ha
        rw [hnew.tasks]
        exact (List.mem_cons.mp (h.hooksLeft event' j a hold)).resolve_left (Ne.symm hne)
      · rw [hcmd] at hc
        rw [hnew.tasks]
        exact (List.mem_cons.mp (h.commandsLeft c hc)).resolve_left (by simp)
      · rw [hnew.tasks] at ht'
        exact h.removals t' (List.mem_cons_of_mem _ ht')

/-- The removal of a command. -/
theorem perform_command {m : Mirror H C} (hm : Unloadable plugin m r₀)
    {command : Command String H C}
    (h : Unloading plugin r₀ (.command (.remove command) :: todo) r) {env : Env}
    (henv : env.nextFrame = .ok ()) :
    Unloading plugin r₀ todo (r.perform env (.command (.remove command))) := by
  cases hcmd : r.commands with
  | none =>
    have hstay : r.perform env (.command (.remove command)) = r := by
      rw [Registries.perform, Registries.callCommand, hcmd]
      rfl
    rw [hstay]
    refine h.skip (by simp) fun c hc => ?_
    rw [Registries.commandsOf, Registries.allCommands, hcmd] at hc
    cases hc
  | some commands =>
    -- a command of the plugin that is left is found, and dropped
    have hsame : ∀ c ∈ r.commandsOf plugin, PyCompare.equals c.handler c.handler = true ∧
        PyCompare.maybeDiffers c.handler c.handler = false :=
      fun c hc => hm.commandSame c (h.mem_commandsOf hc)
    rcases Registries.callCommand_remove_cases hcmd env command with
      ⟨hreg, hcall⟩ | ⟨-, ⟨-, ⟨e, he, -⟩ | ⟨-, hcall⟩⟩ | ⟨-, hcall⟩⟩
    · -- it found no such command, and a command of the plugin would find itself
      rw [Registries.perform, hcall]
      refine h.skip (by simp) ?_
      rintro c hc ⟨⟩
      have hmem : command ∈ Levels.flatten commands := by
        rw [Registries.commandsOf, Registries.allCommands, hcmd] at hc
        exact (List.mem_filter.mp hc).1
      have hmatch : command.isMatch command = true := by
        simp [Command.isMatch, (hsame command hc).1]
      exact absurd (hmatch.symm.trans
        (CommandInvoker.isRegistered_eq_false_iff.mp hreg command hmem)) (by simp)
    · exact absurd (henv.symm.trans he) (by simp)
    · rw [Registries.perform, hcall]
      exact h.queue
    · rw [Registries.perform, hcall, Option.map_some, Option.getD_some]
      obtain ⟨p, hp, hkeeps⟩ := h.commands
      have hkept : ∀ q, (r.setCommands (Levels.keep (!command.isDropped ·) commands)).commandsOf q =
          (r.commandsOf q).filter (!command.isDropped ·) := Registries.commandsOf_keep hcmd _
      have hothers := h.removals _ (List.mem_append_left _ (List.mem_cons_self ..))
      refine { h with commands := ?_, commandsLeft := ?_, hooksLeft := ?_, removals := ?_ }
      · refine ⟨fun x => p x && !command.isDropped x, ?_, fun x hx hxp => ?_⟩
        · cases hcmd₀ : r₀.commands with
          | none =>
            rw [hcmd₀, Option.map_none, hcmd] at hp
            cases hp
          | some commands₀ =>
            rw [hcmd₀, Option.map_some, hcmd, Option.some.injEq] at hp
            rw [Registries.setCommands, Option.map_some, hp]
            refine congrArg some (funext fun j => ?_)
            simp only [Levels.keep_apply, List.filter_filter, Bool.and_comm]
        · cases hothers with
          | command _ hdrop => simp [hkeeps x hx hxp, hdrop x hx hxp]
      · intro event i a ha
        exact (List.mem_cons.mp (h.hooksLeft event i a ha)).resolve_left (by simp)
      · intro c hc
        rw [hkept, List.mem_filter] at hc
        refine (List.mem_cons.mp (h.commandsLeft c hc.1)).resolve_left ?_
        rintro ⟨⟩
        have hdrop : command.isDropped command = true := by
          simp [Command.isDropped, (hsame command hc.1).2]
        simp [hdrop] at hc
      · exact fun t' ht' => h.removals t' (List.mem_cons_of_mem _ ht')

/-- **One removal.** -/
theorem perform {m : Mirror H C} (hm : Unloadable plugin m r₀)
    (h : Unloading plugin r₀ (t :: todo) r) {env : Env} (henv : env.nextFrame = .ok ()) :
    Unloading plugin r₀ todo (r.perform env t) := by
  cases h.removals t (List.mem_append_left _ (List.mem_cons_self ..)) with
  | hook event handler priority => exact h.perform_hook hm henv
  | command c others => exact h.perform_command hm henv

/-- All removals, one after the other. -/
theorem foldl_perform {m : Mirror H C} (hm : Unloadable plugin m r₀)
    (h : Unloading plugin r₀ todo r) (env : Env) (henv : env.nextFrame = .ok ()) :
    Unloading plugin r₀ [] (todo.foldl (Registries.perform env) r) := by
  induction todo generalizing r with
  | nil => exact h
  | cons t todo ih => exact ih (h.perform hm henv)

/-- The tasks that wait become what is still to be made. -/
theorem take_tasks (h : Unloading plugin r₀ [] r) :
    Unloading plugin r₀ r.tasks { r with tasks := [] } := by
  have hmove : ∀ t', t' ∈ [] ++ r.tasks ↔ t' ∈ r.tasks ++ [] := by simp
  exact
    { types := h.types
      seen := h.seen
      others := h.others
      hooks := h.hooks
      commands := h.commands
      hooksLeft := fun event i a ha => (hmove _).mp (h.hooksLeft event i a ha)
      commandsLeft := fun c hc => (hmove _).mp (h.commandsLeft c hc)
      removals := fun t' ht' => h.removals t' ((hmove _).mpr ht') }

/-- With no removal left, the plugin is gone. -/
theorem without (h : Unloading plugin r₀ [] r) (htasks : r.tasks = []) :
    Without plugin r₀ r := by
  refine ⟨h.types, h.seen, fun event q => ?_, ?_⟩
  · by_cases hq : q = plugin
    · rw [if_pos hq, hq]
      funext i
      refine List.eq_nil_iff_forall_not_mem.mpr fun a ha => ?_
      have hleft := h.hooksLeft event i a ha
      rw [htasks] at hleft
      cases hleft
    · rw [if_neg hq]
      exact h.others event q hq
  · obtain ⟨p, hp, hkeeps⟩ := h.commands
    rw [hp]
    cases hcmd : r₀.commands with
    | none => rfl
    | some commands =>
      rw [hcmd, Option.map_some] at hp
      rw [Option.map_some, Option.map_some, Option.some.injEq, Levels.keep_eq_keep_iff]
      intro x hx
      have hx₀ : x ∈ r₀.allCommands := by rwa [Registries.allCommands, hcmd]
      by_cases hxp : x.plugin = plugin
      · have hgone : p x = false := by
          by_contra hpx
          rw [Bool.not_eq_false] at hpx
          have hleft := h.commandsLeft x (by
            rw [Registries.commandsOf, Registries.allCommands, hp, Option.elim, Levels.flatten_keep]
            simp [hx, hpx, hxp])
          rw [htasks] at hleft
          cases hleft
        simp [hgone, hxp]
      · simp [hkeeps x hx₀ hxp, hxp]

end Unloading

/-! ## The contract -/

namespace PluginManager
variable {plugin : String}

/-- The removal of what a list of hooks mentions, as tasks. -/
theorem removeHooks_eq {env : Env} {hooks : List (MirroredHook H)} {r r' : Registries H C}
    (h : removeHooks plugin env hooks r = (.ok (), r')) :
    r' = (hooks.map fun m => Task.hook ⟨m.event, .remove plugin m.handler m.priority⟩).foldl
      (Registries.perform env) r := by
  induction hooks generalizing r with
  | nil =>
    cases h
    rfl
  | cons m hooks ih =>
    rw [removeHooks] at h
    rw [List.map_cons, List.foldl_cons, Registries.perform]
    cases hcall : r.callHook env m.event (.remove plugin m.handler m.priority) with
    | none =>
      rw [hcall] at h
      exact ih h
    | some result =>
      obtain ⟨o, r₁⟩ := result
      rw [hcall] at h
      cases o with
      | ok u => exact ih h
      | err e => exact ih h
      | panic => cases h

/-- An unload that goes through leaves nothing of an `Unloadable` plugin. -/
theorem removed_without {m : Mirror H C} {r r' : Registries H C} (hm : Unloadable plugin m r)
    {env : Env} (henv : env.nextFrame = .ok ())
    (h : removeHooks plugin env m.hooks r = (.ok (), r'))
    (zmqStatsEnable : PyResult (Option String)) :
    Without plugin r ((removeCommands env m.commands r').drain zmqStatsEnable) := by
  let hooks : List (Task H C) :=
    m.hooks.map fun m => .hook ⟨m.event, .remove plugin m.handler m.priority⟩
  let commands : List (Task H C) := m.commands.map fun c => .command (.remove c)
  have hbegin : Unloading plugin r (hooks ++ commands) r := by
    refine
      { types := fun _ => rfl
        seen := fun _ => rfl
        others := fun _ _ _ => rfl
        hooks := fun _ _ _ ha => ha
        commands := ⟨fun _ => true, ?_, fun _ _ _ => rfl⟩
        hooksLeft := fun event i a ha => ?_
        commandsLeft := fun c hc => ?_
        removals := fun t ht => ?_ }
    · cases r.commands with
      | none => rfl
      | some commands => exact congrArg some (funext fun j => by simp)
    · have hmem := hm.hooks event i a ha
      exact List.mem_append_left _ (List.mem_append_left _ (List.mem_map.mpr ⟨_, hmem, rfl⟩))
    · have hmem := hm.commands c hc
      exact List.mem_append_left _ (List.mem_append_right _ (List.mem_map.mpr ⟨_, hmem, rfl⟩))
    · rw [hm.waiting, List.append_nil] at ht
      rcases List.mem_append.mp ht with ht | ht
      · obtain ⟨a, -, rfl⟩ := List.mem_map.mp ht
        exact .hook ..
      · obtain ⟨c, hc, rfl⟩ := List.mem_map.mp ht
        exact .command c (hm.others c hc)
  -- the two loops of the unload make one list of removals
  have hloops : removeCommands env m.commands r' =
      (hooks ++ commands).foldl (Registries.perform env) r := by
    rw [List.foldl_append, ← removeHooks_eq h, removeCommands, List.foldl_map]
    rfl
  have hunloaded := hbegin.foldl_perform hm env henv
  rw [← hloops] at hunloaded
  -- what they left waiting is made by the next frame
  have hdrained := hunloaded.take_tasks.foldl_perform hm (Env.idle zmqStatsEnable) rfl
  exact hdrained.without (Registries.drain_tasks zmqStatsEnable _)

/-- **An unload that returns** takes the plugin out of the table, and leaves nothing of
it if it is `Unloadable`. -/
theorem unloadPlugin_clean {env : UnloadEnv H C} {s s' : PluginManager H C}
    (h : unloadPlugin env plugin s = (.ok (), s')) :
    ∃ loadedPlugin, Assoc.lookup plugin (env.dispatch s).loaded = some loadedPlugin ∧
      s'.loaded = Assoc.erase plugin (env.dispatch s).loaded ∧
      (env.env.nextFrame = .ok () →
        Unloadable loadedPlugin.name loadedPlugin.mirror (env.dispatch s).registries →
        ∀ zmqStatsEnable, Without loadedPlugin.name (env.dispatch s).registries
          (s'.registries.drain zmqStatsEnable)) := by
  unfold unloadPlugin at h
  cases hlog : env.logger with
  | error e => simp [hlog] at h
  | ok u =>
    cases hloaded : Assoc.lookup plugin s.loaded with
    | none => simp [hlog, hloaded] at h
    | some m =>
      simp only [hlog, hloaded, Option.isNone_some] at h
      unfold tryUnloadPlugin at h
      cases hd : s.registries.dispatcher "unload" with
      | none => simp [hd] at h
      | some d =>
        cases hcast : env.castDispatcher with
        | error e => simp [hd, hcast] at h
        | ok u =>
          cases hplugin : Assoc.lookup plugin (env.dispatch s).loaded with
          | none => simp [hd, hcast, hplugin] at h
          | some loadedPlugin =>
            cases hhooks : env.hooks with
            | error e => simp [hd, hcast, hplugin, hhooks] at h
            | ok u =>
              simp only [hd, hcast, hplugin, hhooks] at h
              cases hremove : removeHooks loadedPlugin.name env.env loadedPlugin.mirror.hooks
                  (env.dispatch s).registries with
              | mk o r =>
                cases o with
                | err e => simp [hremove] at h
                | panic => simp [hremove] at h
                | ok u =>
                  cases hcommands : env.commands with
                  | error e => simp [hremove, hcommands] at h
                  | ok u =>
                    simp only [hremove, hcommands] at h
                    cases h
                    exact ⟨loadedPlugin, rfl, rfl,
                      fun henv hm zmq => removed_without hm henv hremove zmq⟩

/-- **The contract of loading and unloading a plugin.**  A load of a plugin that is not
loaded returns as `LoadResult` says, one of a loaded plugin unloads it first as `ReloadResult`
says, and an unload that returns leaves nothing of an `Unloadable` plugin. -/
theorem lifecycle (toLowercase : String → String) (plugin : String) :
    (∀ (env : LoadEnv H C) envs (s : PluginManager H C), s.registries.Named →
      Assoc.lookup plugin s.loaded = none →
      ∃ o s', loadPlugin toLowercase (env :: envs) plugin s = some (o, s') ∧
        LoadResult toLowercase plugin env s o s') ∧
    (∀ (env : LoadEnv H C) envs (s : PluginManager H C) loadedPlugin,
      Assoc.lookup plugin s.loaded = some loadedPlugin →
      ReloadResult toLowercase plugin env envs s) ∧
    (∀ (env : UnloadEnv H C) (s s' : PluginManager H C),
      unloadPlugin env plugin s = (.ok (), s') →
      ∃ loadedPlugin, Assoc.lookup plugin (env.dispatch s).loaded = some loadedPlugin ∧
        s'.loaded = Assoc.erase plugin (env.dispatch s).loaded ∧
        (env.env.nextFrame = .ok () →
          Unloadable loadedPlugin.name loadedPlugin.mirror (env.dispatch s).registries →
          ∀ zmqStatsEnable, Without loadedPlugin.name (env.dispatch s).registries
            (s'.registries.drain zmqStatsEnable))) :=
  ⟨fun env envs _ hs hnew => loadPlugin_result toLowercase env envs hs hnew,
    fun env envs _ _ hloaded => loadPlugin_reload toLowercase env envs hloaded,
    fun _ _ _ h => unloadPlugin_clean h⟩

/-- A plugin that was loaded outside of every dispatch, onto registries that held nothing
of it, is in the table with lists that mention everything that is registered for it. -/
theorem Constructed.mentions {toLowercase : String → String} {env : Env} {c : PluginClass H C}
    {s s' : PluginManager H C} (h : Constructed toLowercase plugin env c s (.ok ()) s')
    (hhooks : ∀ event i, s.registries.hooksOf event c.name i = [])
    (hcommands : s.registries.commandsOf c.name = []) :
    ∃ mirror : Mirror H C, s'.loaded = s.loaded ++ [(plugin, ⟨c.name, mirror⟩)] ∧
      (∀ event i, ∀ a ∈ s'.registries.hooksOf event c.name i,
        ⟨event, a, (i : Fin 5)⟩ ∈ mirror.hooks) ∧
      ∀ x ∈ s'.registries.commandsOf c.name, x ∈ mirror.commands := by
  obtain ⟨mirror, hloaded, hmirror, hsub⟩ := h.returned rfl
  refine ⟨mirror, hloaded, fun event i a ha => ?_, fun x hx => ?_⟩
  · rw [h.registers.hooks, hhooks, List.nil_append] at ha
    split at ha
    · obtain ⟨call, hcall, hat⟩ := List.mem_filterMap.mp ha
      rw [hmirror]
      refine List.mem_filterMap.mpr ⟨call, hcall, ?_⟩
      cases call with
      | command cmd priority => cases hat
      | hook event' handler priority =>
        simp only [Completed.handlerAt] at hat
        split at hat
        · rename_i hand
          obtain ⟨rfl, rfl⟩ := hand
          cases hat
          rfl
        · cases hat
    · cases ha
  · rw [Registries.commandsOf, List.mem_filter] at hx
    obtain ⟨hx, hplugin⟩ := hx
    rw [Registries.allCommands, h.registers.commands] at hx
    cases hcmd : s.registries.commands with
    | none =>
      rw [hcmd] at hx
      cases hx
    | some commands =>
      rw [hcmd, Option.map_some, Option.elim] at hx
      obtain ⟨i, hi⟩ := Levels.mem_flatten.mp hx
      rcases List.mem_append.mp hi with hold | hnew
      · have hmem : x ∈ s.registries.commandsOf c.name := by
          rw [Registries.commandsOf, Registries.allCommands, hcmd, Option.elim]
          exact List.mem_filter.mpr ⟨Levels.mem_flatten.mpr ⟨i, hold⟩, hplugin⟩
        rw [hcommands] at hmem
        cases hmem
      · split at hnew
        · cases hnew
        · obtain ⟨call, hcall, hat⟩ := List.mem_filterMap.mp hnew
          refine hsub.subset (List.mem_filterMap.mpr ⟨call, hcall, ?_⟩)
          cases call with
          | hook event handler priority => cases hat
          | command cmd priority =>
            simp only [Completed.commandAt] at hat
            split at hat
            · exact hat
            · cases hat

/-! ### A small server -/

/-- A server with the given hooks of the chat, commands and loaded plugins. -/
def server (chat : Plugins PyFunction) (commands : List (Command String PyFunction Unit))
    (loaded : List (String × PluginInstance PyFunction Unit)) : PluginManager PyFunction Unit :=
  ⟨smallRegistries chat commands, loaded⟩

/-- Unloading with handlers of the `unload` event that do nothing. -/
def quietUnload (env : Env) : UnloadEnv PyFunction Unit :=
  ⟨.ok (), .ok (), id, .ok (), .ok (), env⟩

/-- Loading a plugin that is there, with the given constructor. -/
def quietLoad (c : Constructor PyFunction Unit) : LoadEnv PyFunction Unit where
  logger := .ok ()
  pluginsPath := .ok (some "plugins")
  isFile := true
  importModule := .ok ()
  setModule := .ok ()
  hasattr := .ok true
  getattr := .ok ⟨.ok (), true, "fun", c⟩
  env := Env.idle (.ok none)
  unload := quietUnload (Env.idle (.ok none))
  reloadModule := .ok ()

/-- A constructor that hooks the chat and then ends. -/
def hookChat (handler : PyFunction) (o : Outcome Unit) : Constructor PyFunction Unit :=
  .addHook "chat" handler 2 fun _ => .done o

/-- A plugin with a hook of the chat and a command, next to another plugin. -/
def kicker : PluginManager PyFunction Unit :=
  server [("fun", fun i => if i.val = 2 then [⟨1⟩] else []),
      ("other", fun i => if i.val = 2 then [⟨1⟩] else [])]
    [kick ["kick"] "fun", kick ["k"] "other"]
    [("fun", ⟨"fun", ⟨[⟨"chat", ⟨1⟩, 2⟩], [kick ["kick"] "fun"]⟩⟩)]

theorem kicker_hooks {event : String} {i : Fin 5} {h : PyFunction}
    (hh : h ∈ kicker.registries.hooksOf event "fun" i) : event = "chat" ∧ i = 2 ∧ h = ⟨1⟩ := by
  by_cases hchat : event = "chat"
  · subst hchat
    refine ⟨rfl, ?_⟩
    revert h i
    decide
  · by_cases hunload : event = "unload"
    · subst hunload
      revert h i
      decide
    · have hnone : kicker.registries.dispatcher event = none := by
        simp [kicker, server, smallRegistries, Registries.dispatcher, Assoc.lookup_cons,
          Ne.symm hchat,
          Ne.symm hunload]
      rw [Registries.hooksOf, hnone] at hh
      cases hh

theorem kicker_unloadable : Unloadable "fun" ⟨[⟨"chat", ⟨1⟩, 2⟩], [kick ["kick"] "fun"]⟩
    kicker.registries where
  named := smallRegistries_named _ _
  waiting := rfl
  hooks := by
    intro event i h hh
    obtain ⟨rfl, rfl, rfl⟩ := kicker_hooks hh
    exact List.mem_cons_self
  commands := by decide
  hookSame := by
    intro event i h hh
    obtain ⟨rfl, rfl, rfl⟩ := kicker_hooks hh
    decide
  commandSame := by decide
  others := by decide

/-- A plugin that hooks the chat is loaded, a loaded one is reloaded, and one is
unloaded while all its registries are held. -/
theorem lifecycle_chat :
    (∃ o s',
      loadPlugin id [quietLoad (hookChat ⟨0⟩ (.ok ()))] "fun" (server [] [] []) = some (o, s') ∧
      LoadResult id "fun" (quietLoad (hookChat ⟨0⟩ (.ok ()))) (server [] [] []) o s') ∧
    ReloadResult id "fun" (quietLoad (hookChat ⟨0⟩ (.ok ()))) [] kicker ∧
    Without "fun" kicker.registries
      ((unloadPlugin (quietUnload ⟨fun _ => true, true, .ok none, .ok ()⟩) "fun"
        kicker).2.registries.drain (.ok none)) := by
  obtain ⟨hload, hreload, hunload⟩ := lifecycle (H := PyFunction) (C := Unit) id "fun"
  refine ⟨hload _ [] _ (smallRegistries_named _ _) rfl, hreload _ [] kicker _ rfl, ?_⟩
  obtain ⟨loadedPlugin, hplugin, -, hclean⟩ :=
    hunload (quietUnload ⟨fun _ => true, true, .ok none, .ok ()⟩) kicker _ rfl
  cases hplugin
  exact hclean rfl kicker_unloadable (.ok none)

/-- A constructor that raises behind an `add_hook` leaves the hook, and an unload of a
later instance of the plugin leaves it as well. -/
theorem lifecycle_broken :
    (loadPlugin id [quietLoad (hookChat ⟨0⟩ (.err (.raised "no")))] "fun" (server [] [] [])).map
        (fun result => (result.1, result.2.registries.hooksOf "chat" "fun" 2)) =
      some (.err (.raised "no"), [⟨0⟩]) ∧
    (server [] [] []).registries.hooksOf "chat" "fun" 2 = [] ∧
    ((loadPlugin id [quietLoad (hookChat ⟨0⟩ (.err (.raised "no")))] "fun" (server [] [] [])).bind
        fun result => (loadPlugin id [quietLoad (hookChat ⟨1⟩ (.ok ()))] "fun" result.2).map
          fun result => unloadPlugin (quietUnload (Env.idle (.ok none))) "fun" result.2).map
        (fun result =>
          (result.1, (result.2.registries.drain (.ok none)).hooksOf "chat" "fun" 2)) =
      some (.ok (), [⟨0⟩]) ∧
    ((unloadPlugin (quietUnload (Env.idle (.ok none))) "fun"
        (server [] [kick ["kick", "k"] "other", kick ["kick", "kick"] "fun"]
          [("fun", ⟨"fun", ⟨[], [kick ["kick", "kick"] "fun"]⟩⟩)])).2.registries.drain (.ok none)).commandsOf
        "other" = [] := by
  decide

end PluginManager
end ShinQlx
