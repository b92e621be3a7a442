import ShinQlx.Plugin

/-! # Loading and unloading plugins

A plugin is a class in a module of its own.  Loading it runs the constructor of the
class, which registers hooks and commands while it runs, and then puts the instance
into the table of loaded plugins.  Unloading it tells the `unload` event, takes away
what the lists of the instance mention, and drops the instance from the table.

A constructor is modelled by what the registries notice of it (`Constructor`): which
registrations it attempts, each depending on how the ones before came out, and how it
ends.
-/
namespace ShinQlx

/-- A run of the constructor of a plugin class: it attempts a registration and goes on
with what came of it, or it ends. -/
inductive Constructor (H C : Type) where
  | done (o : Outcome Unit)
  | addHook (event : String) (handler : H) (priority : Int) (next : Outcome Unit → Constructor H C)
  | addCommand (args : CommandArgs H C) (priority : Nat) (next : Outcome Unit → Constructor H C)

/-- What a module has under the name of the plugin, as far as loading it looks:
whether it is a type, whether the type is a subclass of `Plugin`, the name of the type,
which need not be the name it goes by in the module, and its constructor. -/
structure PluginClass (H C : Type) where
  cast : PyResult Unit
  isSubclass : Bool
  name : String
  constructor : Constructor H C

/-- An instance of a plugin class: its `name`, under which it registers, and its
lists. -/
structure PluginInstance (H C : Type) where
  name : String
  mirror : Mirror H C

/-- The table of loaded plugins and the registries. -/
structure PluginManager (H C : Type) where
  registries : Registries H C
  loaded : List (String × PluginInstance H C)

/-- What unloading a plugin finds around it: whether it can write to the log, whether
the dispatcher under `unload` is the one for that event, what its handlers do, whether
the attributes `hooks` and `commands` of the plugin can be read and iterated, and which
registries are held. -/
structure UnloadEnv (H C : Type) where
  logger : PyResult Unit
  castDispatcher : PyResult Unit
  dispatch : PluginManager H C → PluginManager H C
  hooks : PyResult Unit
  commands : PyResult Unit
  env : Env

/-- What loading a plugin finds around it: whether it can write to the log, the last
part of the plugins path, whether the file of the plugin exists, its module, whether
the module can be noted among the loaded ones, whether it has the name of the plugin,
what it has there, and which registries are held.  If the plugin is loaded already, it
is unloaded and its module reloaded. -/
structure LoadEnv (H C : Type) where
  logger : PyResult Unit
  pluginsPath : Except String (Option String)
  isFile : Bool
  importModule : PyResult Unit
  setModule : PyResult Unit
  hasattr : PyResult Bool
  getattr : PyResult (PluginClass H C)
  env : Env
  unload : UnloadEnv H C
  reloadModule : PyResult Unit

namespace Constructor
variable {H C : Type} [PyCompare H]

/-- Runs the constructor of a plugin class named `name`. -/
def run (toLowercase : String → String) (name : String) (env : Env) :
    Constructor H C → PluginState H C → Outcome Unit × PluginState H C
  | .done o, s => (o, s)
  | .addHook event handler priority next, s =>
    let result := Plugin.addHook name env event handler priority s
    run toLowercase name env (next result.1) result.2
  | .addCommand args priority next, s =>
    let result := Plugin.addCommand toLowercase name env args priority s
    run toLowercase name env (next result.1) result.2

end Constructor

namespace PluginManager
variable {H C : Type} [PyCompare H]

/-- Unhooks what the `hooks` list of a plugin mentions.  What a removal raises is
logged. -/
def removeHooks (name : String) (env : Env) :
    List (MirroredHook H) → Registries H C → Outcome Unit × Registries H C
  | [], r => (.ok (), r)
  | hook :: hooks, r =>
    match r.callHook env hook.event (.remove name hook.handler hook.priority) with
    | none => removeHooks name env hooks r
    | some (.panic, r') => (.panic, r')
    | some (_, r') => removeHooks name env hooks r'

/-- Removes what the `commands` list of a plugin mentions.  What a removal raises is
logged. -/
def removeCommands (env : Env) (commands : List (Command String H C)) (r : Registries H C) :
    Registries H C :=
  commands.foldl (fun r cmd => ((r.callCommand env (.remove cmd)).map Prod.snd).getD r) r

/-- The error of unloading a plugin that is not loaded. -/
def notLoaded (plugin : String) : PyErr :=
  .pluginUnloadError s!"Attempted to unload a plugin '{plugin}' that is not loaded."

/-- `try_unload_plugin`. -/
def tryUnloadPlugin (env : UnloadEnv H C) (plugin : String) (s : PluginManager H C) :
    Outcome Unit × PluginManager H C :=
  match s.registries.dispatcher "unload" with
  | none => (.err (.environmentError "could not get access to unload dispatcher"), s)
  | some _ =>
    match env.castDispatcher with
    | .error e => (.err e, s)
    | .ok () =>
      let s := env.dispatch s
      match Assoc.lookup plugin s.loaded with
      | none => (.err (notLoaded plugin), s)
      | some loadedPlugin =>
        let mirror := loadedPlugin.mirror
        match env.hooks with
        | .error e => (.err e, s)
        | .ok () =>
          match removeHooks loadedPlugin.name env.env mirror.hooks s.registries with
          | (.ok (), r) =>
            match env.commands with
            | .error e => (.err e, { s with registries := r })
            | .ok () =>
              (.ok (), ⟨removeCommands env.env mirror.commands r, Assoc.erase plugin s.loaded⟩)
          | (o, r) => (o, { s with registries := r })

/-- `unload_plugin`. -/
def unloadPlugin (env : UnloadEnv H C) (plugin : String) (s : PluginManager H C) :
    Outcome Unit × PluginManager H C :=
  match env.logger with
  | .error e => (.err e, s)
  | .ok () =>
    if (Assoc.lookup plugin s.loaded).isNone then (.err (notLoaded plugin), s)
    else tryUnloadPlugin env plugin s

/-- Calls the class of a plugin and puts the instance into the table. -/
def instantiate (toLowercase : String → String) (env : Env) (plugin : String)
    (c : PluginClass H C) (s : PluginManager H C) : Outcome Unit × PluginManager H C :=
  match c.constructor.run toLowercase c.name env ⟨s.registries, ⟨[], []⟩⟩ with
  | (.ok (), t) => (.ok (), ⟨t.registries, Assoc.insert plugin ⟨c.name, t.mirror⟩ s.loaded⟩)
  | (o, t) => (o, { s with registries := t.registries })

/-- `try_load_plugin`. -/
def tryLoadPlugin (toLowercase : String → String) (env : LoadEnv H C)
    (pluginsDir : Option String) (plugin : String) (s : PluginManager H C) :
    Outcome Unit × PluginManager H C :=
  match pluginsDir with
  | none =>
    (.err (.pluginLoadError "qlx_pluginsPath is not pointing to an existing directory"), s)
  | some _ =>
    match env.importModule, env.setModule, env.hasattr with
    | .error e, _, _ | .ok (), .error e, _ | .ok (), .ok (), .error e => (.err e, s)
    | .ok (), .ok (), .ok false =>
      (.err (.pluginLoadError
        "The plugin needs to have a class with the exact name as the file, minus the .py."), s)
    | .ok (), .ok (), .ok true =>
      match env.getattr with
      | .error e => (.err e, s)
      | .ok pluginClass =>
        match pluginClass.cast with
        | .error e => (.err e, s)
        | .ok () =>
          if !pluginClass.isSubclass then
            (.err (.pluginLoadError
              "Attempted to load a plugin that is not a subclass of 'shinqlx.Plugin'."), s)
          else instantiate toLowercase env.env plugin pluginClass s

/-- `load_plugin`.  A plugin that is loaded is reloaded, which ends in another
`load_plugin`: each takes its surroundings from `envs`, and `none` stands for more of
them than `envs` describes. -/
def loadPlugin (toLowercase : String → String) :
    List (LoadEnv H C) → String → PluginManager H C → Option (Outcome Unit × PluginManager H C)
  | [], _, _ => none
  | env :: envs, plugin, s =>
    match env.logger, env.pluginsPath with
    | .error e, _ => some (.err e, s)
    | .ok (), .error msg => some (.err (.pluginLoadError msg), s)
    | .ok (), .ok pluginsDir =>
      if !env.isFile then some (.err (.pluginLoadError "No such plugin exists."), s)
      else if (Assoc.lookup plugin s.loaded).isSome then
        -- `reload_plugin`, which ignores the exception of the unloading
        match unloadPlugin env.unload plugin s with
        | (.panic, s) => some (.panic, s)
        | (_, s) =>
          match env.reloadModule with
          | .error e => some (.err e, s)
          | .ok () => loadPlugin toLowercase envs plugin s
      else some (tryLoadPlugin toLowercase env pluginsDir plugin s)

end PluginManager
end ShinQlx
