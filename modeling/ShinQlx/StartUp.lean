import ShinQlx.Cvars
import ShinQlx.PluginUnloading
import ShinQlx.RedisConnections
import ShinQlx.Restart

/-! # Starting up

With the first game the cvars get their defaults, the database class is chosen, and the preset
plugins are loaded one after the other.  A plugin that cannot be loaded does not keep the others
from being loaded, and what its constructor registered stays.

`lateInit_started` says what the server is left with, whatever the admin has configured and
whatever the plugins do.
-/
namespace ShinQlx

/-- The cvars of `initialize_cvars` with their defaults, in order. -/
def defaultCvars : List (String × String) :=
  [("qlx_owner", "-1"), ("qlx_plugins", ", ".intercalate defaultPlugins),
    ("qlx_pluginsPath", "shinqlx-plugins"), ("qlx_database", "Redis"), ("qlx_commandPrefix", "!"),
    ("qlx_logs", "2"), ("qlx_logsSize", "3000000"), ("qlx_redisAddress", "127.0.0.1"),
    ("qlx_redisDatabase", "0"), ("qlx_redisUnixSocket", "0"), ("qlx_redisPassword", "")]

/-- What the server has: the cvars, whether `Plugin.database` is `Redis`, and the plugins. -/
structure StartedServer (S H C : Type) where
  cvars : S
  redis : Bool
  manager : PluginManager H C

/-- What `late_init` finds: the engine, whether the database class can be set, how the steps before
and after the preset plugins come out, whether there is a plugins path, and what the load of each
plugin finds, with the loads that it may end in. -/
structure StartUpEnv (S H C : Type) where
  engine : Option (CvarEngine S)
  setDatabase : PyResult Unit
  prepared : PyResult Unit
  pluginsPath : Except String Unit
  load : String → LoadEnv H C
  reloads : String → List (LoadEnv H C)
  finished : PyResult Unit

/-- The plugins that were tried to load, and what came of each. -/
abbrev LoadAttempts := List (String × Outcome Unit)

namespace StartUp
variable {S H C : Type}

/-- `initialize_cvars`, from some of the cvars on. -/
def initializeCvars (engine : Option (CvarEngine S)) :
    List (String × String) → S → PyResult Unit × S
  | [], s => (.ok (), s)
  | (cvar, value) :: cvars, s =>
    match Cvars.setCvarOnce engine cvar value s with
    | (.error e, s) => (.error e, s)
    | (.ok _, s) => initializeCvars engine cvars s

variable [PyCompare H]

/-- The loop of `load_preset_plugins`: that a plugin cannot be loaded is ignored, but a panic ends
it. -/
def loadPlugins (toLowercase : String → String) (env : StartUpEnv S H C) :
    List String → PluginManager H C → Option (LoadAttempts × PluginManager H C)
  | [], s => some ([], s)
  | plugin :: plugins, s =>
    match PluginManager.loadPlugin toLowercase (env.load plugin :: env.reloads plugin) plugin s with
    | none => none
    | some (.panic, s) => some ([(plugin, .panic)], s)
    | some (o, s) =>
      match loadPlugins toLowercase env plugins s with
      | none => none
      | some (attempts, s) => some ((plugin, o) :: attempts, s)

/-- `load_preset_plugins`. -/
def loadPresetPlugins (toLowercase : String → String) (env : StartUpEnv S H C)
    (s : StartedServer S H C) : Option (Outcome Unit × LoadAttempts × StartedServer S H C) :=
  match env.pluginsPath, env.engine with
  | .error msg, _ => some (.err (.pluginLoadError msg), [], s)
  | .ok (), none => some (.err (.pluginLoadError "no main engine found"), [], s)
  | .ok (), some engine =>
    match engine.findCvar "qlx_plugins" s.cvars with
    | none => some (.ok (), [], s)
    | some value =>
      match loadPlugins toLowercase env (presetPlugins value) s.manager with
      | none => none
      | some (attempts, manager) =>
        some (if .panic ∈ attempts.map Prod.snd then .panic else .ok (), attempts,
          { s with manager := manager })

/-- `late_init`. -/
def lateInit (toLowercase : String → String) (env : StartUpEnv S H C) (s : StartedServer S H C) :
    Option (Outcome Unit × LoadAttempts × StartedServer S H C) :=
  match initializeCvars env.engine defaultCvars s.cvars with
  | (.error e, cvars) => some (.err e, [], { s with cvars := cvars })
  | (.ok (), cvars) =>
    match env.engine with
    | none => some (.err (.environmentError "no main engine found"), [], { s with cvars := cvars })
    | some engine =>
      let isRedis := (engine.findCvar "qlx_database" cvars).any (toLowercase · = "redis")
      match if isRedis then env.setDatabase else .ok () with
      | .error e => some (.err e, [], { s with cvars := cvars })
      | .ok () =>
        let s := { s with cvars := cvars, redis := isRedis || s.redis }
        match env.prepared with
        | .error e => some (.err e, [], s)
        | .ok () =>
          match loadPresetPlugins toLowercase env s with
          | none => none
          | some (.ok (), attempts, s) => some (.ofResult env.finished, attempts, s)
          | some (o, attempts, s) => some (o, attempts, s)

/-! ## The cvars -/

/-- **The defaults**: a cvar that exists is left alone, one that does not gets its default, and no
other is changed. -/
theorem initializeCvars_eq {engine : CvarEngine S} (h : engine.Lawful)
    (cvars : List (String × String)) (s : S) (hnames : (cvars.map (·.1.toLower)).Nodup)
    (hnul : ∀ p ∈ cvars, NulFree p.1 ∧ NulFree p.2) :
    ∃ s', initializeCvars (some engine) cvars s = (.ok (), s') ∧
      (∀ p ∈ cvars, engine.findCvar p.1 s' = some ((engine.findCvar p.1 s).getD p.2)) ∧
      ∀ other, other.toLower ∉ cvars.map (·.1.toLower) →
        engine.findCvar other s' = engine.findCvar other s := by
  induction cvars generalizing s with
  | nil => exact ⟨s, rfl, nofun, fun _ _ => rfl⟩
  | cons p cvars ih =>
    obtain ⟨cvar, value⟩ := p
    obtain ⟨hnew, hnames⟩ := List.nodup_cons.mp hnames
    obtain ⟨⟨hcvarNul, hvalueNul⟩, hnul⟩ := List.forall_mem_cons.mp hnul
    have hset : ∃ b s₁, Cvars.setCvarOnce (some engine) cvar value s = (.ok b, s₁) ∧
        engine.findCvar cvar s₁ = some ((engine.findCvar cvar s).getD value) ∧
        ∀ other, other.toLower ≠ cvar.toLower →
          engine.findCvar other s₁ = engine.findCvar other s := by
      unfold Cvars.setCvarOnce
      cases hfind : engine.findCvar cvar s with
      | some there => exact ⟨false, s, by simp [hfind], hfind, fun _ _ => rfl⟩
      | none =>
        exact ⟨true, _, by simp [hfind], h.created cvar value s hcvarNul hvalueNul hfind,
          fun other hne => h.others cvar other value s hne⟩
    obtain ⟨b, s₁, hone, hcvar, hothers⟩ := hset
    obtain ⟨s', hrest, hlater, hlast⟩ := ih s₁ hnames hnul
    refine ⟨s', ?_, ?_, ?_⟩
    · rw [initializeCvars, hone]
      exact hrest
    · intro q hq
      rcases List.mem_cons.mp hq with rfl | hq
      · rw [hlast cvar hnew, hcvar]
      · have hne : q.1.toLower ≠ cvar.toLower :=
          fun heq => hnew (List.mem_map.mpr ⟨q, hq, heq⟩)
        rw [hlater q hq, hothers q.1 hne]
    · intro other hother
      rw [List.map_cons, List.mem_cons, not_or] at hother
      rw [hlast other hother.2, hothers other hother.1]

theorem defaultCvars_names : (defaultCvars.map (·.1.toLower)).Nodup := by decide +kernel

theorem defaultCvars_nulFree : ∀ p ∈ defaultCvars, NulFree p.1 ∧ NulFree p.2 := by decide +kernel

/-! ## The preset plugins -/

theorem nodup_eraseDups {α : Type} [DecidableEq α] (l : List α) : l.eraseDups.Nodup := by
  induction hn : l.length using Nat.strong_induction_on generalizing l with
  | h n ih =>
    cases l with
    | nil => exact List.nodup_nil
    | cons a l =>
      rw [List.eraseDups_cons]
      have hle : (l.filter fun b => !b == a).length ≤ l.length := List.length_filter_le ..
      refine List.nodup_cons.mpr ⟨?_, ih _ ?_ _ rfl⟩
      · simp
      · rw [← hn, List.length_cons]
        omega

/-- No plugin is asked for twice. -/
theorem nodup_presetPlugins (qlxPlugins : String) : (presetPlugins qlxPlugins).Nodup :=
  nodup_eraseDups _

/-- The plugins that are asked for: those between the commas, and for `DEFAULT` the default ones. -/
theorem mem_presetPlugins {qlxPlugins plugin : String} :
    plugin ∈ presetPlugins qlxPlugins ↔
      (plugin ∈ (Text.split ',' qlxPlugins).map Text.trim ∧ plugin ≠ "DEFAULT") ∨
        ("DEFAULT" ∈ (Text.split ',' qlxPlugins).map Text.trim ∧ plugin ∈ defaultPlugins) := by
  have hdefault : "DEFAULT" ∉ defaultPlugins := by decide
  unfold presetPlugins
  rw [List.mem_eraseDups]
  split
  · grind
  · grind

/-- The value that `qlx_plugins` has by default asks for the default plugins. -/
theorem presetPlugins_default :
    presetPlugins (", ".intercalate defaultPlugins) = defaultPlugins := by decide +kernel

/-! ## The loads -/

/-- Loads one after the other, each as `LoadResult` says, of plugins that are not loaded. -/
inductive LoadChain (toLowercase : String → String) (env : StartUpEnv S H C) :
    PluginManager H C → LoadAttempts → PluginManager H C → Prop where
  | nil (s : PluginManager H C) : LoadChain toLowercase env s [] s
  | cons {s s' s'' : PluginManager H C} {plugin : String} {o : Outcome Unit}
      {attempts : LoadAttempts} (hnew : Assoc.lookup plugin s.loaded = none)
      (hload : PluginManager.LoadResult toLowercase plugin (env.load plugin) s o s')
      (hrest : LoadChain toLowercase env s' attempts s'') :
      LoadChain toLowercase env s ((plugin, o) :: attempts) s''

/-- The plugins are tried in order until one panics. -/
structure Tried (plugins : List String) (attempts : LoadAttempts) : Prop where
  inOrder : attempts.map Prod.fst <+: plugins
  goesOn : ∀ attempt ∈ attempts.dropLast, attempt.2 ≠ .panic
  complete : .panic ∉ attempts.map Prod.snd → attempts.map Prod.fst = plugins

/-- The plugins that were loaded. -/
def succeeded (attempts : LoadAttempts) : List String :=
  (attempts.filter (·.2 = .ok ())).map Prod.fst

section
variable {toLowercase : String → String} {env : StartUpEnv S H C} {s s' : PluginManager H C}

/-- A load adds its plugin to the table if it succeeds. -/
theorem loaded_of_result {plugin : String} {load : LoadEnv H C} {o : Outcome Unit}
    (h : PluginManager.LoadResult toLowercase plugin load s o s') :
    s'.loaded.map Prod.fst = s.loaded.map Prod.fst ++ succeeded [(plugin, o)] := by
  by_cases hcalls : ∃ pluginClass, load.Calls pluginClass
  · obtain ⟨pluginClass, hcalls⟩ := hcalls
    have hconstructed := h.constructed pluginClass hcalls
    by_cases ho : o = .ok ()
    · subst ho
      obtain ⟨mirror, hloaded, -⟩ := hconstructed.returned rfl
      rw [hloaded, List.map_append]
      rfl
    · simp [hconstructed.failed ho, succeeded, ho]
  · obtain ⟨⟨e, rfl⟩, rfl⟩ := h.refused (not_exists.mp hcalls)
    simp [succeeded]

theorem named_of_result {plugin : String} {load : LoadEnv H C} {o : Outcome Unit}
    (h : PluginManager.LoadResult toLowercase plugin load s o s') (hs : s.registries.Named) :
    s'.registries.Named := by
  by_cases hcalls : ∃ pluginClass, load.Calls pluginClass
  · obtain ⟨pluginClass, hcalls⟩ := hcalls
    exact hs.of_types (h.constructed pluginClass hcalls).registers.types
  · obtain ⟨-, rfl⟩ := h.refused (not_exists.mp hcalls)
    exact hs

theorem LoadChain.loaded {attempts : LoadAttempts} (h : LoadChain toLowercase env s attempts s') :
    s'.loaded.map Prod.fst = s.loaded.map Prod.fst ++ succeeded attempts := by
  induction h with
  | nil s => simp [succeeded]
  | @cons s s₁ s₂ plugin o attempts hnew hload hrest ih =>
    rw [ih, loaded_of_result hload, List.append_assoc, succeeded, succeeded, succeeded,
      ← List.map_append, ← List.filter_append, List.singleton_append]

/-- **The loop**: every plugin is tried, until one panics. -/
theorem loadPlugins_chain (toLowercase : String → String) (env : StartUpEnv S H C)
    (plugins : List String) (s : PluginManager H C) (hs : s.registries.Named)
    (hnodup : plugins.Nodup) (hnew : ∀ plugin ∈ plugins, Assoc.lookup plugin s.loaded = none) :
    ∃ attempts s', loadPlugins toLowercase env plugins s = some (attempts, s') ∧
      Tried plugins attempts ∧ LoadChain toLowercase env s attempts s' := by
  induction plugins generalizing s with
  | nil => exact ⟨[], s, rfl, ⟨List.prefix_rfl, nofun, fun _ => rfl⟩, .nil s⟩
  | cons plugin plugins ih =>
    obtain ⟨hfirst, hnodup⟩ := List.nodup_cons.mp hnodup
    have hfresh := hnew plugin List.mem_cons_self
    obtain ⟨o, s₁, hload, hresult⟩ := PluginManager.loadPlugin_result toLowercase
      (env.load plugin) (env.reloads plugin) hs hfresh
    rw [loadPlugins, hload]
    by_cases hpanic : o = .panic
    · subst hpanic
      refine ⟨[(plugin, .panic)], s₁, rfl, ⟨?_, nofun, ?_⟩, .cons hfresh hresult (.nil s₁)⟩
      · exact List.prefix_cons_inj plugin |>.mpr List.nil_prefix
      · simp
    · have hnew₁ : ∀ plugin ∈ plugins, Assoc.lookup plugin s₁.loaded = none := by
        intro other hother
        rw [Assoc.lookup_eq_none_iff, loaded_of_result hresult, List.mem_append, not_or]
        refine ⟨Assoc.lookup_eq_none_iff.mp (hnew other (List.mem_cons_of_mem plugin hother)), ?_⟩
        intro hmem
        obtain ⟨attempt, hattempt, rfl⟩ := List.mem_map.mp hmem
        obtain rfl := List.mem_singleton.mp (List.mem_of_mem_filter hattempt)
        exact hfirst hother
      obtain ⟨attempts, s₂, hrest, htried, hchain⟩ :=
        ih s₁ (named_of_result hresult hs) hnodup hnew₁
      refine ⟨(plugin, o) :: attempts, s₂, ?_, ⟨?_, ?_, ?_⟩, .cons hfresh hresult hchain⟩
      · cases o with
        | panic => exact absurd rfl hpanic
        | ok u => simp only [hrest]
        | err e => simp only [hrest]
      · exact List.prefix_cons_inj plugin |>.mpr htried.inOrder
      · intro attempt hattempt
        cases attempts with
        | nil => cases hattempt
        | cons next attempts =>
          rw [List.dropLast_cons_cons] at hattempt
          rcases List.mem_cons.mp hattempt with rfl | hattempt
          · exact hpanic
          · exact htried.goesOn attempt hattempt
      · intro hnone
        rw [List.map_cons, List.mem_cons, not_or] at hnone
        rw [List.map_cons, htried.complete hnone.2]

end

/-! ## What the server is left with -/

section
variable (toLowercase : String → String) (engine : CvarEngine S) (env : StartUpEnv S H C)
  (s : StartedServer S H C)

/-- What a cvar is after the start: what the admin has set, or the default. -/
def effective (cvar default : String) : String := (engine.findCvar cvar s.cvars).getD default

/-- What the admin has between the commas of `qlx_plugins`. -/
def askedFor : List String :=
  (Text.split ',' (effective engine s "qlx_plugins" (", ".intercalate defaultPlugins))).map
    Text.trim

/-- The plugins that the admin asks for. -/
def wanted : List String :=
  presetPlugins (effective engine s "qlx_plugins" (", ".intercalate defaultPlugins))

/-- Redis is the database. -/
def UsesRedis : Prop := toLowercase (effective engine s "qlx_database" "Redis") = "redis"

/-- The start gets to the plugins. -/
structure Reaches : Prop where
  setDatabase : UsesRedis toLowercase engine s → env.setDatabase = .ok ()
  prepared : env.prepared = .ok ()
  pluginsPath : env.pluginsPath = .ok ()

/-- The server after the start: its cvars, with which the database can be reached unless the admin
has set a number that is none; the database class; the plugins that were tried, with all that they
registered; and how it ended. -/
structure StartedUp (o : Outcome Unit) (attempts : LoadAttempts) (s' : StartedServer S H C) :
    Prop where
  configured : ∀ p ∈ defaultCvars, engine.findCvar p.1 s'.cvars = some (effective engine s p.1 p.2)
  others : ∀ other, other.toLower ∉ defaultCvars.map (·.1.toLower) →
    engine.findCvar other s'.cvars = engine.findCvar other s.cvars
  settings : (∃ settings, Redis.defaultSettings (some (engine.findCvar · s'.cvars)) = .ok settings) ↔
    (Text.parseInt 64 (effective engine s "qlx_redisDatabase" "0")).isSome
  redis : s'.redis = true ↔
    (UsesRedis toLowercase engine s ∧ env.setDatabase = .ok ()) ∨ s.redis = true
  asked : ∀ plugin, plugin ∈ wanted engine s ↔
    (plugin ∈ askedFor engine s ∧ plugin ≠ "DEFAULT") ∨
      ("DEFAULT" ∈ askedFor engine s ∧ plugin ∈ defaultPlugins)
  default : engine.findCvar "qlx_plugins" s.cvars = none → wanted engine s = defaultPlugins
  tried : Reaches toLowercase engine env s → Tried (wanted engine s) attempts
  unreached : ¬Reaches toLowercase engine env s → attempts = []
  once : (attempts.map Prod.fst).Nodup
  chain : LoadChain toLowercase env s.manager attempts s'.manager
  loaded : s'.manager.loaded.map Prod.fst = s.manager.loaded.map Prod.fst ++ succeeded attempts
  outcome : o = .ok () ↔ Reaches toLowercase engine env s ∧ .panic ∉ attempts.map Prod.snd ∧
    env.finished = .ok ()

end

theorem settings_iff (findCvar : String → Option String) {host database unixSocket password : String}
    (hhost : findCvar "qlx_redisAddress" = some host)
    (hdatabase : findCvar "qlx_redisDatabase" = some database)
    (hsocket : findCvar "qlx_redisUnixSocket" = some unixSocket)
    (hpassword : findCvar "qlx_redisPassword" = some password) :
    (∃ settings, Redis.defaultSettings (some findCvar) = .ok settings) ↔
      (Text.parseInt 64 database).isSome := by
  rw [Redis.defaultSettings]
  simp only [hhost, hdatabase, hsocket, hpassword, Option.bind_some]
  cases Text.parseInt 64 database <;> simp

variable {toLowercase : String → String} {engine : CvarEngine S} {env : StartUpEnv S H C}
  {s : StartedServer S H C}

/-- **The start of the server.**  If none of the plugins that are asked for is loaded, each is tried
once and in order, whatever becomes of the others, until one panics: none is reloaded, and those
that can be loaded are.  A plugin that fails leaves what it has registered.  The admin's cvars are
kept and the others have their defaults. -/
theorem lateInit_started (h : engine.Lawful) (henv : env.engine = some engine)
    (hs : s.manager.registries.Named)
    (hnew : ∀ plugin ∈ wanted engine s, Assoc.lookup plugin s.manager.loaded = none) :
    ∃ o attempts s', lateInit toLowercase env s = some (o, attempts, s') ∧
      StartedUp toLowercase engine env s o attempts s' := by
  obtain ⟨cvars, hinit, hconfigured, hothers⟩ :=
    initializeCvars_eq h defaultCvars s.cvars defaultCvars_names defaultCvars_nulFree
  have hcvar : ∀ cvar default, (cvar, default) ∈ defaultCvars →
      engine.findCvar cvar cvars = some (effective engine s cvar default) :=
    fun cvar default hmem => hconfigured (cvar, default) hmem
  have hdatabase := hcvar "qlx_database" "Redis" (by simp [defaultCvars])
  have hplugins := hcvar "qlx_plugins" (", ".intercalate defaultPlugins) (by simp [defaultCvars])
  have hsettings := settings_iff (engine.findCvar · cvars)
    (hcvar "qlx_redisAddress" "127.0.0.1" (by simp [defaultCvars]))
    (hcvar "qlx_redisDatabase" "0" (by simp [defaultCvars]))
    (hcvar "qlx_redisUnixSocket" "0" (by simp [defaultCvars]))
    (hcvar "qlx_redisPassword" "" (by simp [defaultCvars]))
  have hwanted : engine.findCvar "qlx_plugins" s.cvars = none → wanted engine s = defaultPlugins := by
    intro hnone
    rw [wanted, effective, hnone]
    exact presetPlugins_default
  -- without plugins, only the cvars and the database class have changed
  have hends : ∀ (o : Outcome Unit) (redis : Bool), o ≠ .ok () →
      ¬Reaches toLowercase engine env s →
      (redis = true ↔
        (UsesRedis toLowercase engine s ∧ env.setDatabase = .ok ()) ∨ s.redis = true) →
      StartedUp toLowercase engine env s o [] { s with cvars := cvars, redis := redis } := by
    intro o redis ho hreaches hredis
    exact ⟨hconfigured, hothers, hsettings, hredis, fun _ => mem_presetPlugins, hwanted,
      fun hr => absurd hr hreaches, fun _ => rfl, .nil, .nil s.manager, by simp [succeeded],
      by simp [ho, hreaches]⟩
  have hany : ((engine.findCvar "qlx_database" cvars).any (toLowercase · = "redis")) = true ↔
      UsesRedis toLowercase engine s := by
    rw [hdatabase]
    exact decide_eq_true_iff
  unfold lateInit
  rw [henv, hinit]
  dsimp only
  generalize hredis : (engine.findCvar "qlx_database" cvars).any (toLowercase · = "redis") = redis
    at hany
  cases hset : (if redis then env.setDatabase else .ok ()) with
  | error e =>
    have hfails : redis = true ∧ env.setDatabase = .error e := by
      cases redis with
      | true => exact ⟨rfl, hset⟩
      | false => cases hset
    refine ⟨.err e, [], _, rfl, hends (.err e) s.redis nofun ?_ ?_⟩
    · intro hr
      have hok := hr.setDatabase (hany.mp hfails.1)
      rw [hfails.2] at hok
      cases hok
    · simp [hfails.2]
  | ok u =>
    have hdb : UsesRedis toLowercase engine s → env.setDatabase = .ok () := by
      intro huses
      rw [if_pos (hany.mpr huses)] at hset
      exact hset
    have hredis' : (redis || s.redis) = true ↔
        (UsesRedis toLowercase engine s ∧ env.setDatabase = .ok ()) ∨ s.redis = true := by
      rw [Bool.or_eq_true, hany]
      exact or_congr_left ⟨fun huses => ⟨huses, hdb huses⟩, And.left⟩
    dsimp only
    cases hprepared : env.prepared with
    | error e =>
      refine ⟨.err e, [], _, rfl, hends (.err e) _ nofun (fun hr => ?_) hredis'⟩
      have hok := hr.prepared
      rw [hprepared] at hok
      cases hok
    | ok u =>
      dsimp only
      unfold loadPresetPlugins
      cases hpath : env.pluginsPath with
      | error msg =>
        refine ⟨_, [], _, rfl, hends (.err (.pluginLoadError msg)) _ nofun (fun hr => ?_) hredis'⟩
        have hok := hr.pluginsPath
        rw [hpath] at hok
        cases hok
      | ok u =>
        have hreaches : Reaches toLowercase engine env s := ⟨hdb, hprepared, hpath⟩
        obtain ⟨attempts, manager, hloop, htried, hchain⟩ :=
          loadPlugins_chain toLowercase env (wanted engine s) s.manager hs
            (nodup_presetPlugins _) hnew
        rw [wanted] at hloop
        simp only [henv, hplugins, hloop]
        have hstarted : ∀ o : Outcome Unit,
            (o = .ok () ↔ .panic ∉ attempts.map Prod.snd ∧ env.finished = .ok ()) →
            StartedUp toLowercase engine env s o attempts
              { cvars := cvars, redis := redis || s.redis, manager := manager } := by
          intro o ho
          exact ⟨hconfigured, hothers, hsettings, hredis', fun _ => mem_presetPlugins, hwanted,
            fun _ => htried, fun hnot => absurd hreaches hnot,
            (nodup_presetPlugins _).sublist htried.inOrder.sublist, hchain, hchain.loaded, by simp [ho, hreaches]⟩
        by_cases hpanic : .panic ∈ attempts.map Prod.snd
        · rw [if_pos hpanic]
          exact ⟨_, attempts, _, rfl, hstarted .panic (by simp [hpanic])⟩
        · rw [if_neg hpanic]
          refine ⟨_, attempts, _, rfl, hstarted (.ofResult env.finished) ?_⟩
          cases env.finished <;> simp [Outcome.ofResult, hpanic]

/-- The admin asks for two plugins, one of them twice, and for the default ones. -/
def configuredServer : StartedServer (List (String × String)) PyFunction Unit :=
  ⟨[("qlx_plugins", "essentials, broken,DEFAULT, essentials")], false, ⟨smallRegistries [] [], []⟩⟩

/-- There are three plugins, and the constructor of one hooks the chat and fails. -/
def threePlugins : StartUpEnv (List (String × String)) PyFunction Unit where
  engine := some Cvars.table
  setDatabase := .ok ()
  prepared := .ok ()
  pluginsPath := .ok ()
  load plugin :=
    let constructor :=
      if plugin = "broken" then PluginManager.hookChat ⟨7⟩ (.err (.valueError "broken")) else .done (.ok ())
    { PluginManager.quietLoad constructor with
      isFile := plugin ∈ ["essentials", "broken", "motd"]
      getattr := .ok ⟨.ok (), true, plugin, constructor⟩ }
  reloads _ := []
  finished := .ok ()

theorem lateInit_started_broken :
    (∃ o attempts s', lateInit String.toLower threePlugins configuredServer = some (o, attempts, s') ∧
      StartedUp String.toLower Cvars.table threePlugins configuredServer o attempts s') ∧
    (lateInit String.toLower threePlugins configuredServer).map (fun r =>
        (r.1, r.2.1.map Prod.fst, r.2.2.manager.loaded.map Prod.fst,
          r.2.2.manager.registries.hooksOf "chat" "broken" 2)) =
      some (.ok (), ["essentials", "broken", "plugin_manager", "motd", "permission", "ban",
        "silence", "clan", "names", "log", "workshop"], ["essentials", "motd"], [⟨7⟩]) := by
  exact ⟨lateInit_started Cvars.table_lawful rfl (smallRegistries_named [] []) fun _ _ => rfl,
    by decide +kernel⟩

end StartUp
end ShinQlx
