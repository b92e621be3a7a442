import ShinQlx.RegistryCalls

/-! # Plugins and what they remember of their registrations

A plugin instance keeps its own lists of the hooks and commands it registered,
its `Mirror`; unloading the plugin goes by them.  `Plugin.add_hook` and
`remove_hook` change the registry first and the mirror after it succeeded.
`add_command` changes the mirror first; `remove_command` goes by the mirror, and
both compare handlers in yet another way than the registry does.
-/
namespace ShinQlx

/-- An entry of the `hooks` list of a plugin. -/
structure MirroredHook (H : Type) where
  event : String
  handler : H
  priority : Int
  deriving DecidableEq, Repr

/-- The `hooks` and `commands` lists of a plugin instance. -/
structure Mirror (H C : Type) where
  hooks : List (MirroredHook H)
  commands : List (Command String H C)

/-- A call of one of the registration methods of a plugin. -/
inductive PluginCall (H C : Type) where
  | addHook (event : String) (handler : H) (priority : Int)
  | removeHook (event : String) (handler : H) (priority : Int)
  | addCommand (args : CommandArgs H C) (priority : Nat)
  | removeCommand (name : List String) (handler : H)

/-- What a call of a plugin instance works on: the registries and its mirror. -/
structure PluginState (H C : Type) where
  registries : Registries H C
  mirror : Mirror H C

namespace Plugin
variable {H C : Type} [PyCompare H]

/-- `PluginMethods::add_hook`. -/
def addHook (plugin : String) (env : Env) (event : String) (handler : H) (priority : Int)
    (s : PluginState H C) : Outcome Unit × PluginState H C :=
  match s.registries.callHook env event (.add plugin handler priority) with
  | none => (.err (.environmentError "could not get access to event dispatcher"), s)
  | some (.ok (), r) =>
    (.ok (), ⟨r, { s.mirror with hooks := s.mirror.hooks ++ [⟨event, handler, priority⟩] }⟩)
  | some (o, r) => (o, { s with registries := r })

/-- `remove_hook` keeps an entry of the mirror. -/
def keepsHook (event : String) (handler : H) (priority : Int) (m : MirroredHook H) : Bool :=
  m.event ≠ event || PyCompare.differs m.handler handler || m.priority ≠ priority

/-- `PluginMethods::remove_hook`. -/
def removeHook (plugin : String) (env : Env) (event : String) (handler : H) (priority : Int)
    (s : PluginState H C) : Outcome Unit × PluginState H C :=
  match s.registries.callHook env event (.remove plugin handler priority) with
  | none => (.err (.environmentError "could not get access to event dispatchers"), s)
  | some (.ok (), r) =>
    (.ok (),
      ⟨r, { s.mirror with hooks := s.mirror.hooks.filter (keepsHook event handler priority) }⟩)
  | some (o, r) => (o, { s with registries := r })

/-- `PluginMethods::add_command`. -/
def addCommand (toLowercase : String → String) (plugin : String) (env : Env)
    (args : CommandArgs H C) (priority : Nat) (s : PluginState H C) :
    Outcome Unit × PluginState H C :=
  match Command.pyNew toLowercase plugin args with
  | .error e => (.err e, s)
  | .ok command =>
    let mirror := { s.mirror with commands := s.mirror.commands ++ [command] }
    match s.registries.callCommand env (.add command priority) with
    | none => (.ok (), { s with mirror := mirror })
    | some (o, r) => (o, ⟨r, mirror⟩)

/-- `remove_command` means a command of the mirror. -/
def findsCommand (name : List String) (handler : H) (c : Command String H C) : Bool :=
  c.name.length = name.length && c.name.all (name.contains ·) && PyCompare.equals c.handler handler

/-- `remove_command` keeps a command of the mirror. -/
def keepsCommand (name : List String) (handler : H) (c : Command String H C) : Bool :=
  c.name.length ≠ name.length || !c.name.all (name.contains ·) ||
    PyCompare.maybeDiffers c.handler handler

/-- `PluginMethods::remove_command`. -/
def removeCommand (toLowercase : String → String) (env : Env) (name : List String) (handler : H)
    (s : PluginState H C) : Outcome Unit × PluginState H C :=
  let names := name.map toLowercase
  let mirror :=
    { s.mirror with commands := s.mirror.commands.filter (keepsCommand names handler) }
  match s.mirror.commands.find? (findsCommand names handler) with
  | none => (.ok (), { s with mirror := mirror })
  | some command =>
    match s.registries.callCommand env (.remove command) with
    | none => (.err (.environmentError "could not get access to commands"), s)
    | some (.ok (), r) => (.ok (), ⟨r, mirror⟩)
    | some (o, r) => (o, { s with registries := r })

/-- A call of the plugin instance named `plugin`. -/
def apply (toLowercase : String → String) (plugin : String) (env : Env) (call : PluginCall H C)
    (s : PluginState H C) : Outcome Unit × PluginState H C :=
  match call with
  | .addHook event handler priority => addHook plugin env event handler priority s
  | .removeHook event handler priority => removeHook plugin env event handler priority s
  | .addCommand args priority => addCommand toLowercase plugin env args priority s
  | .removeCommand name handler => removeCommand toLowercase env name handler s

end Plugin

/-- The registries, and the mirror of every plugin instance, by the name of the
plugin. -/
structure Server (H C : Type) where
  registries : Registries H C
  mirrors : String → Mirror H C

namespace Server
variable {H C : Type} [PyCompare H]

/-- A call of the plugin instance named `c.1`, made outside of every dispatch. -/
def step (toLowercase : String → String) (s : Server H C)
    (c : String × PyResult (Option String) × PluginCall H C) : Outcome Unit × Server H C :=
  let result := Plugin.apply toLowercase c.1 (Env.idle c.2.1) c.2.2 ⟨s.registries, s.mirrors c.1⟩
  (result.1, ⟨result.2.registries, fun q => if q = c.1 then result.2.mirror else s.mirrors q⟩)

end Server
end ShinQlx
