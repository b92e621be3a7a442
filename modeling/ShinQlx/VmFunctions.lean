import ShinQlx.Run

/-! # Hooks into the game module

The game is a library that the engine loads and unloads.  When it is loaded, the functions that are
needed are searched in it, its three VM calls are replaced in its call table, and four of its
functions are detoured.  When the game is shut down, all of that is given up but the original of
`G_ShutdownGame`, which is called right after.

`hooks_follow_game` says that over any loads and unloads every address that is called, patched or
looked up is that of the function that is meant, in the module that is loaded.
-/
namespace ShinQlx

/-- A function of the game that is looked up. -/
inductive GameFunction where
  | gAddEvent
  | checkPrivileges
  | clientConnect
  | clientSpawn
  | gDamage
  | touchItem
  | launchItem
  | dropItem
  | gStartKamikaze
  | gFreeEntity
  | gInitGame
  | gShutdownGame
  | gRunFrame
  deriving DecidableEq, Repr

namespace GameFunction

/-- The functions that are searched by their patterns. -/
def searched : List GameFunction :=
  [gAddEvent, checkPrivileges, clientConnect, clientSpawn, gDamage, touchItem, launchItem, dropItem,
    gStartKamikaze, gFreeEntity]

/-- The functions of the call table. -/
def vmCalls : List GameFunction := [gInitGame, gRunFrame, gShutdownGame]

/-- The functions that are detoured, in order. -/
def detoured : List GameFunction := [clientConnect, gStartKamikaze, clientSpawn, gDamage]

end GameFunction

/-- An address: a function of the module as it was loaded that time, or a replacement. -/
inductive Address where
  | game (module : Nat) (f : GameFunction)
  | shinqlx (f : GameFunction)
  deriving DecidableEq, Repr

/-- The module in memory: its call table, and which functions begin with a jump. -/
structure LoadedModule where
  number : Nat
  table : GameFunction → Address
  jumps : GameFunction → Bool

/-- `VmFunctions`: the originals and the detours, as far as they are set. -/
structure VmFunctions where
  orig : GameFunction → Option Address
  detour : GameFunction → Option Address

/-- What a load finds: whether the memory map can be read, which functions are found, and of which
ones a detour can be made and enabled. -/
structure ModuleLoad where
  maps : Bool
  found : GameFunction → Bool
  created : GameFunction → Bool
  enabled : GameFunction → Bool

/-- The arguments of `G_Damage`, with the ids of the entities. -/
structure DamageArgs where
  target : Option Int
  attacker : Option Int
  damage : Int32
  dflags : Int32
  meansOfDeath : Int32
  deriving DecidableEq

/-- The entity that `G_StartKamikaze` is about: its client and the owner of its activator, and
whether it has a client afterwards. -/
structure KamikazeEntity where
  clientNum : Option Int
  ownerNum : Option Int
  clientAfter : Bool
  deriving DecidableEq

/-- A dispatcher that is called. -/
inductive HookEvent where
  | newGame (restart : Bool)
  | frame
  | clientConnect (clientNum : Int) (isBot : Bool)
  | clientSpawn (entityId : Int)
  | kamikazeUse (clientId : Int)
  | kamikazeExplode (clientId : Int) (used : Bool)
  | damage (targetId : Int) (attackerId : Option Int) (args : DamageArgs)
  deriving DecidableEq

/-- What is done: an address is called, patched or looked up, or something is done beside. -/
inductive HookDeed where
  | call (a : Address)
  | patch (a : Address)
  | lookUp (a : Address)
  | setTag
  | initializeCvars
  | removeKamikazeFlag
  | event (e : HookEvent)
  deriving DecidableEq

/-- The address that something is done to. -/
def HookDeed.address : HookDeed → Option Address
  | .call a | .patch a | .lookUp a => some a
  | _ => none

/-- A call of the engine or of the game.  A client that connects may be refused. -/
inductive GameCall where
  | gInitGame (restart : Int32)
  | gRunFrame
  | gShutdownGame
  | clientConnect (clientNum : Int) (firstTime isBot : Bool) (refusal : Option String)
  | clientSpawn (entityId : Option Int)
  | gStartKamikaze (entity : Option KamikazeEntity)
  | gDamage (args : DamageArgs)

namespace GameCall

/-- The function that is called. -/
def function : GameCall → GameFunction
  | .gInitGame _ => .gInitGame
  | .gRunFrame => .gRunFrame
  | .gShutdownGame => .gShutdownGame
  | .clientConnect _ _ _ _ => .clientConnect
  | .clientSpawn _ => .clientSpawn
  | .gStartKamikaze _ => .gStartKamikaze
  | .gDamage _ => .gDamage

end GameCall

/-! ## The replacements, over what the original does -/

/-- `shinqlx_g_initgame`. -/
def shinqlxGInitgame (restart : Int32) (orig : List HookDeed) : List HookDeed :=
  orig ++ [.setTag, .initializeCvars] ++ if restart ≠ 0 then [.event (.newGame true)] else []

/-- `shinqlx_g_runframe`. -/
def shinqlxGRunframe (orig : List HookDeed) : List HookDeed := .event .frame :: orig

/-- `shinqlx_client_connect`. -/
def shinqlxClientConnect (clientNum : Int) (firstTime isBot : Bool) (refusal : Option String)
    (orig : List HookDeed) : List HookDeed :=
  if firstTime then
    .event (.clientConnect clientNum isBot) :: if refusal.isSome && !isBot then [] else orig
  else orig

/-- `shinqlx_clientspawn`. -/
def shinqlxClientspawn (entityId : Option Int) (orig : List HookDeed) : List HookDeed :=
  match entityId with
  | none => []
  | some entityId => orig ++ [.event (.clientSpawn entityId)]

/-- `shinqlx_g_startkamikaze`. -/
def shinqlxGStartkamikaze (entity : Option KamikazeEntity) (orig : List HookDeed) :
    List HookDeed :=
  match entity with
  | none => []
  | some entity =>
    let clientId := entity.clientNum.getD (entity.ownerNum.getD (-1))
    (if entity.clientNum.isSome then [.removeKamikazeFlag, .event (.kamikazeUse clientId)] else [])
      ++ orig ++
      if clientId = -1 then [] else [.event (.kamikazeExplode clientId entity.clientAfter)]

/-- `shinqlx_g_damage`. -/
def shinqlxGDamage (args : DamageArgs) (orig : List HookDeed) : List HookDeed :=
  orig ++
    match args.target with
    | none => []
    | some targetId => [.event (.damage targetId args.attacker args)]

/-- A replacement, over what is given up and what the original does. -/
def GameCall.replaced (unhook orig : List HookDeed) : GameCall → List HookDeed
  | .gInitGame restart => shinqlxGInitgame restart orig
  | .gRunFrame => shinqlxGRunframe orig
  | .gShutdownGame => unhook ++ orig
  | .clientConnect clientNum firstTime isBot refusal =>
    shinqlxClientConnect clientNum firstTime isBot refusal orig
  | .clientSpawn entityId => shinqlxClientspawn entityId orig
  | .gStartKamikaze entity => shinqlxGStartkamikaze entity orig
  | .gDamage args => shinqlxGDamage args orig

namespace VmFunctions
open GameFunction

/-- Nothing is set. -/
def unset : VmFunctions := ⟨fun _ => none, fun _ => none⟩

/-- `try_initialize_from`, and whether it succeeds. -/
def tryInitializeFrom (env : ModuleLoad) (m : LoadedModule) (v : VmFunctions) : Bool × VmFunctions :=
  if env.maps then
    let orig := fun f => if f ∈ searched ∧ env.found f then some (.game m.number f) else v.orig f
    if searched.all env.found then
      (true, { v with orig := fun f => if f ∈ vmCalls then some (m.table f) else orig f })
    else (false, { v with orig := orig })
  else (false, v)

/-- The detours are made, one after the other, until one cannot be made or enabled.  An old one is
disabled. -/
def hookDetours (env : ModuleLoad) : List GameFunction → LoadedModule × VmFunctions →
    (Bool × List HookDeed) × LoadedModule × VmFunctions
  | [], s => ((true, []), s)
  | f :: fs, (m, v) =>
    match v.orig f with
    | none => ((false, []), m, v)
    | some a =>
      if env.created f && env.enabled f then
        let ((hooked, deeds), s) := hookDetours env fs
          ({ m with jumps := Function.update m.jumps f true },
            { v with detour := Function.update v.detour f (some a) })
        ((hooked, .patch a :: ((v.detour f).toList.map .patch ++ deeds)), s)
      else ((false, []), m, v)

/-- `hook`, and whether it succeeds. -/
def hook (env : ModuleLoad) (m : LoadedModule) (v : VmFunctions) :
    (Bool × List HookDeed) × LoadedModule × VmFunctions :=
  let table := fun f => if f ∈ vmCalls then .shinqlx f else m.table f
  hookDetours env detoured ({ m with table := table }, v)

/-- `unhook`: the detours are disabled, and the original of `G_ShutdownGame` is kept. -/
def unhook (v : VmFunctions) : List HookDeed × VmFunctions :=
  (detoured.flatMap fun f => (v.detour f).toList.map .patch,
    { orig := fun f => if f = gShutdownGame then v.orig f else none, detour := fun _ => none })

/-- The address of an original, if it is known; a detoured function is reached through its detour. -/
def known (v : VmFunctions) (f : GameFunction) : Option Address :=
  if f ∈ detoured then v.detour f else v.orig f

end VmFunctions

/-- The call of an original, if its address is known. -/
def callOrig (known : GameFunction → Option Address) (f : GameFunction) : List HookDeed :=
  (known f).toList.map .call

/-- What the rest of the code needs of the module: a function, or the data that it finds by the
address of a function. -/
inductive ModuleUse where
  | gameAddEvent
  | freeEntity
  | tryLaunchItem
  | touchItem
  | switchTouchItem
  | clientSpawn
  | registerDamage
  | getEntitiesList
  | currentLevel
  | getItemList
  deriving DecidableEq

/-- What is done with the addresses that are known. -/
def ModuleUse.deeds (known : GameFunction → Option Address) : ModuleUse → List HookDeed
  | .gameAddEvent => callOrig known .gAddEvent
  | .freeEntity => callOrig known .gFreeEntity
  | .tryLaunchItem => callOrig known .launchItem
  | .touchItem => callOrig known .touchItem
  | .switchTouchItem =>
    match known .touchItem, known .gFreeEntity with
    | some touch, some free => [.lookUp touch, .lookUp free]
    | _, _ => []
  | .clientSpawn => callOrig known .clientSpawn
  | .registerDamage => callOrig known .gDamage
  | .getEntitiesList => (known .gRunFrame).toList.map .lookUp
  | .currentLevel => (known .gInitGame).toList.map .lookUp
  | .getItemList => (known .launchItem).toList.map .lookUp

/-- What happens to the module: it is loaded, unloaded, called or used. -/
inductive ModuleEvent where
  | load (env : ModuleLoad)
  | unload
  | gameCall (call : GameCall)
  | use (u : ModuleUse)

/-- The process: how often the module was loaded, the module, and what is known about it.  It exits
when a module cannot be hooked. -/
structure GameProcess where
  loads : Nat
  loaded : Option LoadedModule
  vm : VmFunctions
  exited : Bool

namespace GameProcess
open GameFunction

/-- Before the first load. -/
def start : GameProcess := ⟨0, none, .unset, false⟩

/-- `shinqlx_sys_setmoduleoffset`, for a module that was just loaded. -/
def sysSetmoduleoffset (env : ModuleLoad) (s : GameProcess) : List HookDeed × GameProcess :=
  let m : LoadedModule := ⟨s.loads, .game s.loads, fun _ => false⟩
  match s.vm.tryInitializeFrom env m with
  | (false, v) => ([], ⟨s.loads + 1, some m, v, true⟩)
  | (true, v) =>
    match v.hook env m with
    | ((hooked, deeds), m, v) => (deeds, ⟨s.loads + 1, some m, v, !hooked⟩)

/-- A call of a function of the module, through its table or at its code. -/
def gameCall (call : GameCall) (s : GameProcess) : List HookDeed × GameProcess :=
  match s.loaded with
  | none => ([], s)
  | some m =>
    if call.function ∈ vmCalls ∧ m.table call.function ≠ .shinqlx call.function then
      ([.call (m.table call.function)], s)
    else if call.function ∉ vmCalls ∧ m.jumps call.function = false then
      ([.call (.game m.number call.function)], s)
    else if call.function = gShutdownGame then
      let (deeds, v) := s.vm.unhook
      let jumps := fun f => m.jumps f && s.vm.detour f ≠ some (.game m.number f)
      (call.replaced deeds (callOrig v.known gShutdownGame),
        { s with loaded := some { m with jumps := jumps }, vm := v })
    else (call.replaced [] (callOrig s.vm.known call.function), s)

/-- One event. -/
def step (s : GameProcess) (e : ModuleEvent) : List HookDeed × GameProcess :=
  if s.exited then ([], s)
  else
    match e with
    | .load env => sysSetmoduleoffset env s
    | .unload => ([], { s with loaded := none })
    | .gameCall call => gameCall call s
    | .use u => (u.deeds s.vm.known, s)

end GameProcess

/-! ## The life of the game -/

/-- How often the game was loaded, the game that is loaded with whether it is hooked, and whether
the process has exited. -/
structure GameLife where
  loads : Nat
  game : Option (Nat × Bool)
  exited : Bool

namespace GameLife
open GameFunction

/-- Before the first load. -/
def start : GameLife := ⟨0, none, false⟩

/-- What can be reached: all of a game that is hooked, and the end of one that is not. -/
def reach (l : GameLife) (f : GameFunction) : Option Address :=
  match l.game with
  | none => none
  | some (n, hooked) => if hooked ∨ f = gShutdownGame then some (.game n f) else none

/-- The functions that a load gets to detour. -/
def hookable (env : ModuleLoad) : List GameFunction :=
  if env.maps && searched.all env.found then
    detoured.takeWhile fun f => env.created f && env.enabled f
  else []

/-- A call of the game: once it is shut down, the functions that were detoured are as they were, and
the calls of the table do what is beside the original. -/
def gameCall (call : GameCall) (l : GameLife) : List HookDeed × GameLife :=
  match l.game with
  | none => ([], l)
  | some (n, hooked) =>
    if call.function ∈ detoured ∧ hooked = false then ([.call (.game n call.function)], l)
    else if call.function = gShutdownGame then
      (call.replaced (if hooked then detoured.map fun f => .patch (.game n f) else [])
          (callOrig l.reach call.function),
        { l with game := some (n, false) })
    else (call.replaced [] (callOrig l.reach call.function), l)

/-- One event. -/
def step (l : GameLife) (e : ModuleEvent) : List HookDeed × GameLife :=
  if l.exited then ([], l)
  else
    match e with
    | .load env =>
      ((hookable env).map fun f => .patch (.game l.loads f),
        ⟨l.loads + 1, some (l.loads, true), hookable env ≠ detoured⟩)
    | .unload => ([], { l with game := none })
    | .gameCall call => gameCall call l
    | .use u => (u.deeds l.reach, l)

/-- The number of the game, while it is hooked. -/
def held (l : GameLife) : Option Nat :=
  match l.game with
  | some (n, true) => some n
  | _ => none

/-- The engine shuts a game down before it unloads it or loads another one. -/
def Allows (l : GameLife) : ModuleEvent → Prop
  | .load _ | .unload => l.held = none
  | _ => True

instance (l : GameLife) (e : ModuleEvent) : Decidable (l.Allows e) :=
  match e with
  | .load _ | .unload => inferInstanceAs (Decidable (l.held = none))
  | .gameCall _ | .use _ => inferInstanceAs (Decidable True)

end GameLife

/-! ## Both agree -/

namespace VmFunctions
open GameFunction
variable {env : ModuleLoad}

/-- The originals are all set by a load that finds them. -/
theorem tryInitializeFrom_eq (env : ModuleLoad) (n : Nat) (v : VmFunctions) :
    ∃ w, v.tryInitializeFrom env ⟨n, .game n, fun _ => false⟩ =
        (env.maps && searched.all env.found, w) ∧ w.detour = v.detour ∧
      ((env.maps && searched.all env.found) = true → w.orig = fun f => some (.game n f)) := by
  rw [tryInitializeFrom]
  cases env.maps with
  | false => exact ⟨v, rfl, rfl, nofun⟩
  | true =>
    cases hfound : searched.all env.found with
    | false => exact ⟨_, rfl, rfl, nofun⟩
    | true =>
      refine ⟨_, rfl, rfl, fun _ => funext fun f => ?_⟩
      dsimp only
      split
      · rfl
      · rename_i hcall
        have hsearched : f ∈ searched := by
          cases f <;> first | exact absurd (by decide) hcall | decide
        rw [if_pos ⟨hsearched, List.all_eq_true.mp hfound f hsearched⟩]

/-- The detours of a module that has none yet. -/
theorem hookDetours_eq (env : ModuleLoad) (fs : List GameFunction) (hfs : fs.Nodup) (m : LoadedModule)
    (v : VmFunctions) (horig : ∀ f ∈ fs, v.orig f = some (.game m.number f))
    (hnew : ∀ f ∈ fs, v.detour f = none) :
    let hooked := fs.takeWhile fun f => env.created f && env.enabled f
    hookDetours env fs (m, v) =
      ((decide (hooked = fs), hooked.map fun f => .patch (.game m.number f)),
        { m with jumps := fun f => m.jumps f || f ∈ hooked },
        { v with detour := fun f => if f ∈ hooked then some (.game m.number f) else v.detour f }) := by
  induction fs generalizing m v with
  | nil => simp [hookDetours]
  | cons f fs ih =>
    obtain ⟨hf, hfs⟩ := List.nodup_cons.mp hfs
    rw [hookDetours, horig f List.mem_cons_self]
    dsimp only
    cases hok : env.created f && env.enabled f with
    | false => simp [hok]
    | true =>
      have hrest := ih hfs { m with jumps := Function.update m.jumps f true }
        { v with detour := Function.update v.detour f (some (.game m.number f)) }
        (fun g hg => horig g (List.mem_cons_of_mem _ hg)) (fun g hg => by
          have hne : g ≠ f := fun heq => hf (heq ▸ hg)
          exact (Function.update_of_ne hne ..).trans (hnew g (List.mem_cons_of_mem _ hg)))
      dsimp only at hrest
      rw [if_pos rfl, hrest, hnew f List.mem_cons_self]
      simp only [List.takeWhile_cons, hok, if_true, Option.toList_none, List.map_nil,
        List.nil_append, List.map_cons, List.cons.injEq, true_and, List.mem_cons]
      congr 2
      · congr 1
        funext g
        rcases eq_or_ne g f with rfl | hne
        · simp
        · simp [hne]
      · congr 1
        funext g
        rcases eq_or_ne g f with rfl | hne
        · simp
        · simp [hne]

end VmFunctions

open GameFunction

/-- The process is where the life of the game is.  Of a process that has exited only the module
matters. -/
structure Agree (s : GameProcess) (l : GameLife) : Prop where
  loads : s.loads = l.loads
  exited : s.exited = l.exited
  number : s.loaded.map LoadedModule.number = l.game.map Prod.fst
  table : s.exited = false → ∀ m, s.loaded = some m → ∀ f ∈ vmCalls, m.table f = .shinqlx f
  jumps : s.exited = false → ∀ m, s.loaded = some m → ∀ f ∈ detoured, m.jumps f = l.held.isSome
  detour : s.exited = false → ∀ f,
    s.vm.detour f = if f ∈ detoured then l.held.map (Address.game · f) else none
  orig : s.exited = false → ∀ f, f ≠ gShutdownGame → s.vm.orig f = l.held.map (Address.game · f)
  last : s.exited = false → ∀ n, l.game.map Prod.fst = some n →
    s.vm.orig gShutdownGame = some (.game n gShutdownGame)

theorem GameLife.reach_of_ne (l : GameLife) {f : GameFunction} (hf : f ≠ gShutdownGame) :
    l.reach f = l.held.map (Address.game · f) := by
  rw [GameLife.reach, GameLife.held]
  cases l.game with
  | none => rfl
  | some game =>
    obtain ⟨n, hooked⟩ := game
    cases hooked <;> simp [hf]

theorem GameLife.reach_shutdown (l : GameLife) :
    l.reach gShutdownGame = l.game.map (Address.game ·.1 gShutdownGame) := by
  rw [GameLife.reach]
  cases l.game with
  | none => rfl
  | some game => simp

namespace Agree
variable {s : GameProcess} {l : GameLife}

theorem start : Agree .start .start where
  loads := rfl
  exited := rfl
  number := rfl
  table := nofun
  jumps := nofun
  detour := fun _ f => by simp [GameProcess.start, VmFunctions.unset, GameLife.held, GameLife.start]
  orig := fun _ _ _ => rfl
  last := nofun

theorem known_of_ne (h : Agree s l) (hlive : s.exited = false) {f : GameFunction}
    (hf : f ≠ gShutdownGame) : s.vm.known f = l.reach f := by
  rw [VmFunctions.known, l.reach_of_ne hf]
  split
  · rename_i hmem
    rw [h.detour hlive, if_pos hmem]
  · exact h.orig hlive f hf

end Agree

/-- No use is made of the end of a game. -/
theorem ModuleUse.deeds_congr {known known' : GameFunction → Option Address}
    (h : ∀ f, f ≠ gShutdownGame → known f = known' f) (u : ModuleUse) :
    u.deeds known = u.deeds known' := by
  cases u <;> simp [ModuleUse.deeds, callOrig, h]

namespace Agree
variable {s : GameProcess} {l : GameLife}

/-- A load, when no game is hooked. -/
theorem load (h : Agree s l) (hlive : s.exited = false) (hheld : l.held = none)
    (env : ModuleLoad) :
    (s.sysSetmoduleoffset env).1 =
        (GameLife.hookable env).map (fun f => .patch (.game l.loads f)) ∧
      Agree (s.sysSetmoduleoffset env).2
        ⟨l.loads + 1, some (l.loads, true), GameLife.hookable env ≠ detoured⟩ := by
  obtain ⟨w, htry, hdetour, horig⟩ := VmFunctions.tryInitializeFrom_eq env s.loads s.vm
  rw [GameProcess.sysSetmoduleoffset, htry, GameLife.hookable, ← h.loads]
  cases hfound : env.maps && searched.all env.found with
  | false =>
    refine ⟨rfl, rfl, ?_, rfl, nofun, nofun, nofun, nofun, nofun⟩
    simp [detoured]
  | true =>
    have hall := horig hfound
    have hnew : ∀ f ∈ detoured, w.detour f = none := by
      intro f hf
      rw [hdetour, h.detour hlive, if_pos hf, hheld]
      rfl
    have hhook := VmFunctions.hookDetours_eq env detoured (by decide)
      { number := s.loads
        table := fun f => if f ∈ vmCalls then .shinqlx f else .game s.loads f
        jumps := fun _ => false } w (fun f _ => congrFun hall f) hnew
    dsimp only at hhook
    simp only [if_true, VmFunctions.hook, hhook]
    have hhooked : (!decide ((detoured.takeWhile fun f => env.created f && env.enabled f) =
        detoured)) = false → (detoured.takeWhile fun f => env.created f && env.enabled f) =
        detoured := by simp
    refine ⟨trivial, rfl, ?_, rfl, ?_, ?_, ?_, ?_, ?_⟩
    · exact decide_not.symm
    · rintro - m hm f hf
      cases hm
      exact if_pos hf
    · intro hexited m hm f hf
      cases hm
      simpa [GameLife.held, hhooked hexited] using hf
    · intro hexited f
      dsimp only
      rw [hhooked hexited]
      split
      · rfl
      · rename_i hf
        rw [hdetour, h.detour hlive, if_neg hf]
    · intro _ f _
      exact congrFun hall f
    · intro _ n hn
      cases hn
      exact congrFun hall gShutdownGame

theorem function_notMem_vmCalls (call : GameCall) :
    call.function ∉ vmCalls ↔ call.function ∈ detoured := by
  cases call <;> simp [GameCall.function, vmCalls, detoured]

/-- What is given up when the game is shut down. -/
theorem unhook_deeds (h : Agree s l) (hlive : s.exited = false) {n : Nat} {hooked : Bool}
    (hgame : l.game = some (n, hooked)) :
    s.vm.unhook.1 = if hooked then detoured.map fun f => .patch (.game n f) else [] := by
  have hheld : l.held = if hooked then some n else none := by
    rw [GameLife.held, hgame]
    cases hooked <;> rfl
  cases hooked <;> simp [VmFunctions.unhook, h.detour hlive, hheld, detoured]

/-- The game is shut down. -/
theorem shutdown (h : Agree s l) (hlive : s.exited = false) {m : LoadedModule}
    (hm : s.loaded = some m) {n : Nat} {hooked : Bool} (hgame : l.game = some (n, hooked)) :
    Agree
      { s with
        loaded := some { m with
          jumps := fun f => m.jumps f && s.vm.detour f ≠ some (.game m.number f) }
        vm := s.vm.unhook.2 }
      { l with game := some (n, false) } := by
  have hnumber : m.number = n := by simpa [hm, hgame] using h.number
  refine ⟨h.loads, h.exited, by rw [← hnumber]; rfl, ?_, ?_, fun _ f => ?_, fun _ f hf => ?_, ?_⟩
  · rintro - m' hm' f hf
    cases hm'
    exact h.table hlive m hm f hf
  · rintro - m' hm' f hf
    cases hm'
    show (m.jumps f && decide (s.vm.detour f ≠ some (.game m.number f))) = false
    rw [h.jumps hlive m hm f hf, h.detour hlive, if_pos hf, GameLife.held, hgame]
    cases hooked <;> simp [hnumber]
  · show none = _
    simp [GameLife.held]
  · exact if_neg hf
  · intro _ k hk
    cases hk
    show (if gShutdownGame = gShutdownGame then s.vm.orig gShutdownGame else none) = _
    rw [if_pos rfl]
    exact h.last hlive n (by rw [hgame]; rfl)

/-- A call of the game. -/
theorem gameCall (h : Agree s l) (hlive : s.exited = false) (call : GameCall) :
    (s.gameCall call).1 = (l.gameCall call).1 ∧
      Agree (s.gameCall call).2 (l.gameCall call).2 := by
  rw [GameProcess.gameCall, GameLife.gameCall]
  cases hgame : l.game with
  | none =>
    have hloaded : s.loaded = none := by simpa [hgame] using h.number
    rw [hloaded]
    exact ⟨rfl, h⟩
  | some game =>
    obtain ⟨n, hooked⟩ := game
    obtain ⟨m, hm, hnumber⟩ : ∃ m, s.loaded = some m ∧ m.number = n := by
      simpa [hgame] using h.number
    have htable : ¬ (call.function ∈ vmCalls ∧ m.table call.function ≠ .shinqlx call.function) :=
      fun hcall => hcall.2 (h.table hlive m hm _ hcall.1)
    have hjumps : (call.function ∉ vmCalls ∧ m.jumps call.function = false) ↔
        call.function ∈ detoured ∧ hooked = false := by
      rw [function_notMem_vmCalls]
      refine and_congr_right fun hmem => ?_
      rw [h.jumps hlive m hm _ hmem, GameLife.held, hgame]
      cases hooked <;> simp
    rw [hm]
    dsimp only
    rw [if_neg htable]
    by_cases hplain : call.function ∈ detoured ∧ hooked = false
    · rw [if_pos (hjumps.mpr hplain), if_pos hplain, hnumber]
      exact ⟨rfl, h⟩
    · rw [if_neg (hplain ∘ hjumps.mp), if_neg hplain]
      by_cases hend : call.function = gShutdownGame
      · have hknown : s.vm.unhook.2.known gShutdownGame = l.reach gShutdownGame := by
          rw [l.reach_shutdown, hgame]
          exact h.last hlive n (by rw [hgame]; rfl)
        rw [if_pos hend, if_pos hend, ← h.unhook_deeds hlive hgame, hend, callOrig, callOrig,
          ← hknown]
        exact ⟨rfl, h.shutdown hlive hm hgame⟩
      · rw [if_neg hend, if_neg hend, callOrig, callOrig, h.known_of_ne hlive hend]
        exact ⟨rfl, h⟩

/-- **One event**: what is done agrees, and agreement is kept. -/
theorem step (h : Agree s l) (e : ModuleEvent) (hallows : l.Allows e) :
    (s.step e).1 = (l.step e).1 ∧ Agree (s.step e).2 (l.step e).2 := by
  unfold GameProcess.step GameLife.step
  rw [← h.exited]
  cases hexited : s.exited with
  | true => exact ⟨rfl, h⟩
  | false =>
    cases e with
    | load env => exact h.load hexited hallows env
    | unload =>
      refine ⟨rfl, h.loads, rfl, rfl, nofun, nofun, fun _ f => ?_, fun _ f hf => ?_, nofun⟩
      · have hheld : l.held = none := hallows
        exact (h.detour hexited f).trans (by rw [hheld]; rfl)
      · have hheld : l.held = none := hallows
        exact (h.orig hexited f hf).trans (by rw [hheld]; rfl)
    | gameCall call => exact h.gameCall hexited call
    | use u =>
      exact ⟨u.deeds_congr fun f hf => h.known_of_ne hexited hf, h⟩

end Agree

/-! ## The addresses -/

/-- A replacement does nothing to other addresses. -/
theorem GameCall.address_replaced {call : GameCall} {unhook orig : List HookDeed} {d : HookDeed}
    {a : Address} (hd : d ∈ call.replaced unhook orig) (ha : d.address = some a) :
    d ∈ unhook ++ orig := by
  cases call with
  | gInitGame restart =>
    simp only [GameCall.replaced, shinqlxGInitgame] at hd
    grind [HookDeed.address]
  | gRunFrame =>
    simp only [GameCall.replaced, shinqlxGRunframe] at hd
    grind [HookDeed.address]
  | gShutdownGame => exact hd
  | clientConnect clientNum firstTime isBot refusal =>
    simp only [GameCall.replaced, shinqlxClientConnect] at hd
    grind [HookDeed.address]
  | clientSpawn entityId =>
    simp only [GameCall.replaced, shinqlxClientspawn] at hd
    grind [HookDeed.address]
  | gStartKamikaze entity =>
    simp only [GameCall.replaced, shinqlxGStartkamikaze] at hd
    grind [HookDeed.address]
  | gDamage args =>
    simp only [GameCall.replaced, shinqlxGDamage] at hd
    grind [HookDeed.address]

namespace GameLife

theorem address_of_callOrig {known : GameFunction → Option Address} {f : GameFunction}
    {d : HookDeed} (hd : d ∈ callOrig known f) : d.address = known f := by
  cases hf : known f with
  | none => simp [callOrig, hf] at hd
  | some a =>
    obtain rfl : d = .call a := by simpa [callOrig, hf] using hd
    rfl

/-- What is reached is in the game that is loaded. -/
theorem reach_eq_some {l : GameLife} {f : GameFunction} {a : Address} (h : l.reach f = some a) :
    ∃ n, l.game.map Prod.fst = some n ∧ a = .game n f := by
  rw [reach] at h
  split at h
  · cases h
  · rename_i n hooked hgame
    split at h
    · exact ⟨n, by rw [hgame]; rfl, (Option.some.inj h).symm⟩
    · cases h

theorem address_of_use {known : GameFunction → Option Address} {u : ModuleUse} {d : HookDeed}
    (hd : d ∈ u.deeds known) : ∃ f, d.address = known f := by
  cases u with
  | gameAddEvent | freeEntity | tryLaunchItem | touchItem | clientSpawn | registerDamage =>
    exact ⟨_, address_of_callOrig hd⟩
  | switchTouchItem =>
    simp only [ModuleUse.deeds] at hd
    split at hd
    · rename_i touch free htouch hfree
      rcases List.mem_pair.mp hd with rfl | rfl
      · exact ⟨.touchItem, htouch.symm⟩
      · exact ⟨.gFreeEntity, hfree.symm⟩
    · cases hd
  | getEntitiesList | currentLevel | getItemList =>
    obtain ⟨a, ha, rfl⟩ := List.mem_map.mp hd
    exact ⟨_, (Option.mem_toList.mp ha).symm⟩

/-- Every address is that of a function in the game that is loaded. -/
theorem address_of_step {l : GameLife} {e : ModuleEvent} {d : HookDeed} {a : Address}
    (hd : d ∈ (l.step e).1) (ha : d.address = some a) :
    ∃ n f, (l.step e).2.game.map Prod.fst = some n ∧ a = .game n f := by
  unfold step at hd ⊢
  split at hd
  · cases hd
  · rename_i hlive
    rw [if_neg hlive]
    cases e with
    | load env =>
      obtain ⟨f, -, rfl⟩ := List.mem_map.mp hd
      cases ha
      exact ⟨l.loads, f, rfl, rfl⟩
    | unload => cases hd
    | use u =>
      obtain ⟨f, hf⟩ := address_of_use hd
      obtain ⟨n, hn, rfl⟩ := reach_eq_some (hf.symm.trans ha)
      exact ⟨n, f, hn, rfl⟩
    | gameCall call =>
      simp only [gameCall] at hd ⊢
      cases hgame : l.game with
      | none => simp [hgame] at hd
      | some game =>
        obtain ⟨n, hooked⟩ := game
        have horig : ∀ d ∈ callOrig l.reach call.function, d.address = some a →
            ∃ f, a = .game n f := by
          intro d hd ha
          obtain ⟨k, hk, rfl⟩ := reach_eq_some ((address_of_callOrig hd).symm.trans ha)
          rw [hgame] at hk
          cases hk
          exact ⟨_, rfl⟩
        rw [hgame] at hd
        dsimp only at hd ⊢
        split at hd
        · rename_i hplain
          rw [if_pos hplain]
          obtain rfl := List.mem_singleton.mp hd
          cases ha
          exact ⟨n, _, by rw [hgame]; rfl, rfl⟩
        · rename_i hplain
          rw [if_neg hplain]
          split at hd
          · rename_i hend
            rw [if_pos hend]
            rcases List.mem_append.mp (GameCall.address_replaced hd ha) with hd | hd
            · split at hd
              · obtain ⟨f, -, rfl⟩ := List.mem_map.mp hd
                cases ha
                exact ⟨n, f, rfl, rfl⟩
              · cases hd
            · obtain ⟨f, rfl⟩ := horig d hd ha
              exact ⟨n, f, rfl, rfl⟩
          · rename_i hend
            rw [if_neg hend]
            obtain ⟨f, rfl⟩ := horig d (GameCall.address_replaced hd ha) ha
            exact ⟨n, f, by rw [hgame]; rfl, rfl⟩

end GameLife

/-- What a step does is done to the module that is loaded. -/
def GameProcess.InModule (st : Run.Step GameProcess ModuleEvent (List HookDeed)) : Prop :=
  ∀ d ∈ st.result, ∀ a, d.address = some a →
    ∃ m f, st.after.loaded = some m ∧ a = .game m.number f

namespace GameProcess

/-- **The hooks follow the game.**  If the engine shuts every game down before it unloads it or
loads another one, then over any loads, calls and uses all is done as in the life of the game: a
game that is hooked is reached in full, through the replacements, and of one that was shut down only
the end.  Every address is one of a function in the module that is loaded. -/
theorem hooks_follow_game (events : List ModuleEvent)
    (h : ∀ st ∈ Run.steps GameLife.step .start events, st.before.Allows st.call) :
    (Run.steps step start events).map Run.Step.result =
        (Run.steps GameLife.step .start events).map Run.Step.result ∧
      ∀ st ∈ Run.steps step start events, InModule st := by
  refine Run.simulation_of_good Agree (fun s l e hs hallows => hs.step e hallows) ?_ Agree.start
    events h
  intro s l e hs hallows d hd a ha
  obtain ⟨hresult, hafter⟩ := hs.step e hallows
  have hd : d ∈ (s.step e).1 := hd
  rw [hresult] at hd
  obtain ⟨n, f, hn, rfl⟩ := GameLife.address_of_step hd ha
  obtain ⟨m, hm, hnumber⟩ := Option.map_eq_some_iff.mp (hafter.number.trans hn)
  exact ⟨m, f, hm, by rw [hnumber]⟩

/-- A load that finds everything. -/
def completeLoad : ModuleLoad := ⟨true, fun _ => true, fun _ => true, fun _ => true⟩

/-- A map is changed, and a player spawns before and after. -/
def mapChange : List ModuleEvent :=
  [.load completeLoad, .gameCall (.gInitGame 0), .gameCall (.clientSpawn (some 3)),
    .gameCall .gShutdownGame, .gameCall .gRunFrame, .unload, .use .freeEntity,
    .load completeLoad, .gameCall (.clientSpawn (some 3))]

theorem hooks_follow_game_mapChange :
    ((Run.steps step start mapChange).map Run.Step.result =
        (Run.steps GameLife.step .start mapChange).map Run.Step.result ∧
      ∀ st ∈ Run.steps step start mapChange, InModule st) ∧
    ((Run.steps step start mapChange).map Run.Step.result).drop 2 =
      [[.call (.game 0 .clientSpawn), .event (.clientSpawn 3)],
        [.patch (.game 0 .clientConnect), .patch (.game 0 .gStartKamikaze),
          .patch (.game 0 .clientSpawn), .patch (.game 0 .gDamage),
          .call (.game 0 .gShutdownGame)],
        [.event .frame], [], [],
        [.patch (.game 1 .clientConnect), .patch (.game 1 .gStartKamikaze),
          .patch (.game 1 .clientSpawn), .patch (.game 1 .gDamage)],
        [.call (.game 1 .clientSpawn), .event (.clientSpawn 3)]] := by
  exact ⟨hooks_follow_game mapChange (by decide +kernel), by decide +kernel⟩

end GameProcess
end ShinQlx
