import ShinQlx.Python
import ShinQlx.Run
import ShinQlx.Text

/-! # Starting Python, and starting it again

Python is initialised when the server starts.  The rest waits for the first game: the
first `new_game` event runs `late_init`, which loads the preset plugins, and clears the
flag `IS_FIRST_GAME` if that succeeds.  The command `pyrestart` reloads the module and then
triggers the event itself, so that `late_init` runs again.  What the reload leaves of the table
of loaded plugins, the dispatchers and the commands is up to `importlib`.

It does so only if the flag is still set, and nothing sets it again: a run meets what
`pyrestart` is for (`Restarted`) exactly if whatever initialises Python finds
`IS_FIRST_GAME` set (`restarted_iff`).
-/
namespace ShinQlx

/-- Why Python could not be initialised. -/
inductive PythonInitializationError where
  | mainScriptError
  | alreadyInitialized
  | notInitializedError
  deriving DecidableEq

/-- What `late_init` finds: how the steps before and after the preset plugins come out,
whether there is a plugins path, the value of `qlx_plugins`, and what `load_plugin` makes
of the tables, whether or not it succeeds. -/
structure LateInitEnv (M : Type) where
  beforePresets : PyResult Unit
  pluginsPath : Except String Unit
  qlxPlugins : Option String
  loadPlugin : String → M → M
  afterPresets : PyResult Unit

/-- What a `new_game` event finds. -/
structure NewGameEnv (M : Type) where
  lateInit : LateInitEnv M
  zmqStatsEnable : Option String
  warning : PyResult Unit
  setMapSubtitles : PyResult Unit
  mapCvars : PyResult Unit
  dispatchMap : PyResult Unit
  dispatchNewGame : PyResult Unit

/-- How `importlib.reload` comes out, and the tables that it leaves: it fails, or the
`initialize` of the module is called. -/
inductive ModuleReload (M : Type) where
  | failed (left : M)
  | reloaded (left : M) (initialized : PyResult Unit)

/-- The tables that a reload leaves. -/
def ModuleReload.left {M : Type} : ModuleReload M → M
  | .failed left => left
  | .reloaded left _ => left

/-- A reload that is in order. -/
def ModuleReload.Succeeds {M : Type} (reload : ModuleReload M) : Prop :=
  reload = .reloaded reload.left (.ok ())

/-- `DEFAULT_PLUGINS`. -/
def defaultPlugins : List String :=
  ["plugin_manager", "essentials", "motd", "permission", "ban", "silence", "clan", "names",
    "log", "workshop"]

/-- The plugins that a value of `qlx_plugins` asks for. -/
def presetPlugins (qlxPlugins : String) : List String :=
  let plugins := (Text.split ',' qlxPlugins).map Text.trim
  let plugins :=
    if "DEFAULT" ∈ plugins then (plugins ++ defaultPlugins).filter (· ≠ "DEFAULT") else plugins
  plugins.eraseDups

/-- The flags of the process, which outlive the module, and the tables of the module.
`lateInits` counts the calls of `late_init`, and `lateInited` tells whether one has
succeeded since Python was last initialised. -/
structure PyServer (M : Type) where
  pyshinqlxInitialized : Bool
  isFirstGame : Bool
  zmqWarningIssued : Bool
  customCommandHandler : Bool
  tables : M
  lateInits : Nat
  lateInited : Bool

namespace PyServer
variable {M : Type}

/-- The server before Python is initialised. -/
def start (empty : M) : PyServer M := ⟨false, true, false, false, empty, 0, false⟩

/-- `load_preset_plugins`; that a plugin cannot be loaded is ignored. -/
def loadPresetPlugins (env : LateInitEnv M) (tables : M) : PyResult Unit × M :=
  match env.pluginsPath with
  | .error msg => (.error (.pluginLoadError msg), tables)
  | .ok () =>
    match env.qlxPlugins with
    | none => (.ok (), tables)
    | some value =>
      (.ok (), (presetPlugins value).foldl (fun m name => env.loadPlugin name m) tables)

/-- `late_init`. -/
def lateInit (env : LateInitEnv M) (tables : M) : PyResult Unit × M :=
  match env.beforePresets with
  | .error e => (.error e, tables)
  | .ok () =>
    match loadPresetPlugins env tables with
    | (.error e, tables) => (.error e, tables)
    | (.ok (), tables) => (env.afterPresets, tables)

/-- The warning that ZMQ stats are not enabled, issued once. -/
def warnZmq (env : NewGameEnv M) (s : PyServer M) : PyResult Unit × PyServer M :=
  if !(env.zmqStatsEnable.any (· ≠ "0")) && !s.zmqWarningIssued then
    match env.warning with
    | .error e => (.error e, s)
    | .ok () => (.ok (), { s with zmqWarningIssued := true })
  else (.ok (), s)

/-- The part of `try_handle_new_game` that only the first game runs. -/
def firstGame (env : NewGameEnv M) (s : PyServer M) : PyResult Unit × PyServer M :=
  let (result, tables) := lateInit env.lateInit s.tables
  let s := { s with tables := tables, lateInits := s.lateInits + 1 }
  match result with
  | .error e => (.error e, s)
  | .ok () => { s with isFirstGame := false, lateInited := true }.warnZmq env

/-- `try_handle_new_game`. -/
def tryHandleNewGame (isRestart : Bool) (env : NewGameEnv M) (s : PyServer M) :
    PyResult Unit × PyServer M :=
  let (result, s) := if s.isFirstGame then s.firstGame env else (.ok (), s)
  (do
    result
    env.setMapSubtitles
    if !isRestart then
      env.mapCvars
      env.dispatchMap
    env.dispatchNewGame, s)

/-- `handle_new_game`. -/
def handleNewGame (isRestart : Bool) (env : NewGameEnv M) (s : PyServer M) :
    Option Bool × PyServer M :=
  match s.tryHandleNewGame isRestart env with
  | (.error _, s) => (some true, s)
  | (.ok (), s) => (none, s)

/-- `new_game_dispatcher`. -/
def newGameDispatcher (isRestart : Bool) (env : NewGameEnv M) (s : PyServer M) : PyServer M :=
  if s.pyshinqlxInitialized then (s.handleNewGame isRestart env).2 else s

/-- `pyshinqlx_initialize`; `imported` is how the import of the module and the call of its
`initialize` come out. -/
def pyshinqlxInitialize (imported : PyResult Unit) (s : PyServer M) :
    Except PythonInitializationError Unit × PyServer M :=
  if s.pyshinqlxInitialized then (.error .alreadyInitialized, s)
  else
    match imported with
    | .error _ => (.error .mainScriptError, s)
    | .ok () => (.ok (), { s with pyshinqlxInitialized := true, lateInited := false })

/-- `pyshinqlx_reload`. -/
def pyshinqlxReload (reload : ModuleReload M) (s : PyServer M) :
    Except PythonInitializationError Unit × PyServer M :=
  if !s.pyshinqlxInitialized then (.error .notInitializedError, s)
  else
    let s := { s with customCommandHandler := false, tables := reload.left }
    match reload with
    | .failed _ => (.error .mainScriptError, { s with pyshinqlxInitialized := false })
    | .reloaded _ (.error _) => (.error .mainScriptError, { s with pyshinqlxInitialized := false })
    | .reloaded _ (.ok ()) => (.ok (), { s with pyshinqlxInitialized := true, lateInited := false })

/-- `cmd_restart_python`, and whether it has initialised Python. -/
def cmdRestartPython (imported : PyResult Unit) (reload : ModuleReload M) (env : NewGameEnv M)
    (s : PyServer M) : Bool × PyServer M :=
  match if s.pyshinqlxInitialized then s.pyshinqlxReload reload
    else s.pyshinqlxInitialize imported with
  | (.ok (), s) => (true, s.newGameDispatcher false env)
  | (.error _, s) => (false, s)

/-- What happens to the server: Python is initialised, a game starts, plugins are loaded
or unloaded or register something, and `pyrestart` is called. -/
inductive Call (M : Type) where
  | pyshinqlxInitialize (imported : PyResult Unit)
  | newGame (isRestart : Bool) (env : NewGameEnv M)
  | plugins (change : M → M)
  | pyrestart (imported : PyResult Unit) (reload : ModuleReload M) (env : NewGameEnv M)

/-- One call, and whether it has initialised Python. -/
def step (s : PyServer M) : Call M → Bool × PyServer M
  | .pyshinqlxInitialize imported =>
    match s.pyshinqlxInitialize imported with
    | (.ok (), s) => (true, s)
    | (.error _, s) => (false, s)
  | .newGame isRestart env => (false, s.newGameDispatcher isRestart env)
  | .plugins change => (false, { s with tables := change s.tables })
  | .pyrestart imported reload env => s.cmdRestartPython imported reload env

/-- Any game that starts now runs `late_init`. -/
def LateInitDue (s : PyServer M) : Prop :=
  ∀ isRestart env, (s.newGameDispatcher isRestart env).lateInits = s.lateInits + 1

/-- The tables that `pyrestart` finds once Python is initialised again: those that the reload
leaves, or the ones that were there if nothing is reloaded. -/
def tablesLeft (s : PyServer M) (reload : ModuleReload M) : M :=
  if s.pyshinqlxInitialized then reload.left else s.tables

/-- What is expected of a step: once Python is initialised the next game runs `late_init`;
a game runs it if and only if none has succeeded since; and when `pyrestart` has
initialised Python, it has run `late_init` on the tables that the reload has left. -/
def Restarted (st : Run.Step (PyServer M) (Call M) Bool) : Prop :=
  match st.call with
  | .pyshinqlxInitialize _ => st.result = true → st.after.LateInitDue
  | .newGame _ _ => st.before.pyshinqlxInitialized = true →
      (st.after.lateInits = st.before.lateInits + 1 ↔ st.before.lateInited = false)
  | .plugins _ => True
  | .pyrestart _ reload env => st.result = true →
      st.after.lateInits = st.before.lateInits + 1 ∧
      st.after.tables = (lateInit env.lateInit (st.before.tablesLeft reload)).2

/-- A call that initialises Python finds `IS_FIRST_GAME` set. -/
def FindsFirstGame (s : PyServer M) : Call M → Prop
  | .pyshinqlxInitialize imported =>
    s.pyshinqlxInitialized = false → imported = .ok () → s.isFirstGame = true
  | .newGame _ _ => True
  | .plugins _ => True
  | .pyrestart imported reload _ =>
    (if s.pyshinqlxInitialized then reload.Succeeds else imported = .ok ()) →
      s.isFirstGame = true

/-! ## One step -/

/-- **The flag of the first game**: while Python is initialised, it is set exactly if no
`late_init` has succeeded since. -/
def Flagged (s : PyServer M) : Prop :=
  s.pyshinqlxInitialized = true → s.isFirstGame = !s.lateInited

theorem warnZmq_frame (env : NewGameEnv M) (s : PyServer M) :
    ∃ issued, (s.warnZmq env).2 = { s with zmqWarningIssued := issued } := by
  unfold warnZmq
  split
  · split
    · exact ⟨s.zmqWarningIssued, rfl⟩
    · exact ⟨true, rfl⟩
  · exact ⟨s.zmqWarningIssued, rfl⟩

/-- The first game runs `late_init`, and clears the flag if it succeeds. -/
theorem firstGame_frame (env : NewGameEnv M) (s : PyServer M) :
    ∃ done issued : Bool, (s.firstGame env).2 =
      { s with
        tables := (lateInit env.lateInit s.tables).2
        lateInits := s.lateInits + 1
        isFirstGame := if done then false else s.isFirstGame
        lateInited := if done then true else s.lateInited
        zmqWarningIssued := issued } := by
  unfold firstGame
  rcases hlate : lateInit env.lateInit s.tables with ⟨_ | u, tables⟩
  · exact ⟨false, s.zmqWarningIssued, rfl⟩
  · obtain ⟨issued, hwarn⟩ := warnZmq_frame env
      { s with
        tables := tables
        lateInits := s.lateInits + 1
        isFirstGame := false
        lateInited := true }
    exact ⟨true, issued, hwarn⟩

theorem newGameDispatcher_eq (isRestart : Bool) (env : NewGameEnv M) (s : PyServer M) :
    s.newGameDispatcher isRestart env =
      if s.pyshinqlxInitialized && s.isFirstGame then (s.firstGame env).2 else s := by
  have hgame : (s.handleNewGame isRestart env).2 =
      if s.isFirstGame then (s.firstGame env).2 else s := by
    unfold handleNewGame
    have hsnd : (s.tryHandleNewGame isRestart env).2 =
        if s.isFirstGame then (s.firstGame env).2 else s := by
      unfold tryHandleNewGame
      cases s.isFirstGame <;> rfl
    rw [← hsnd]
    split <;> rename_i heq <;> rw [heq]
  rw [newGameDispatcher, hgame]
  cases s.pyshinqlxInitialized <;> rfl

theorem Flagged.newGame {s : PyServer M} (h : s.Flagged) (isRestart : Bool)
    (env : NewGameEnv M) : (s.newGameDispatcher isRestart env).Flagged := by
  rw [newGameDispatcher_eq]
  split
  · obtain ⟨done, issued, hframe⟩ := firstGame_frame env s
    rw [hframe]
    intro hinit
    cases done with
    | true => rfl
    | false => exact h hinit
  · exact h

theorem lateInits_newGame (isRestart : Bool) (env : NewGameEnv M) (s : PyServer M) :
    (s.newGameDispatcher isRestart env).lateInits =
      if s.pyshinqlxInitialized && s.isFirstGame then s.lateInits + 1 else s.lateInits := by
  rw [newGameDispatcher_eq]
  split
  · obtain ⟨done, issued, hframe⟩ := firstGame_frame env s
    rw [hframe]
  · rfl

theorem lateInitDue_iff {s : PyServer M} (hinit : s.pyshinqlxInitialized = true) :
    s.LateInitDue ↔ s.isFirstGame = true := by
  have hruns (isRestart : Bool) (env : NewGameEnv M) :
      (s.newGameDispatcher isRestart env).lateInits = s.lateInits + 1 ↔ s.isFirstGame = true := by
    rw [lateInits_newGame, hinit, Bool.true_and]
    cases s.isFirstGame <;> simp
  have env : NewGameEnv M :=
    ⟨⟨.ok (), .ok (), none, fun _ tables => tables, .ok ()⟩, none, .ok (), .ok (), .ok (), .ok (),
      .ok ()⟩
  exact ⟨fun hdue => (hruns false env).mp (hdue false env),
    fun hflag isRestart env => (hruns isRestart env).mpr hflag⟩

theorem Flagged.initialised {s : PyServer M} (hflag : s.isFirstGame = true)
    (hinited : s.lateInited = false) : s.Flagged := by
  intro _
  rw [hflag, hinited]
  rfl

/-! ## Each call -/

/-- `pyshinqlx_initialize` succeeds exactly if Python is not initialised and the module
can be imported. -/
theorem pyshinqlxInitialize_cases (imported : PyResult Unit) (s : PyServer M) :
    (s.pyshinqlxInitialized = false ∧ imported = .ok () ∧ s.pyshinqlxInitialize imported =
      (.ok (), { s with pyshinqlxInitialized := true, lateInited := false })) ∨
    (¬(s.pyshinqlxInitialized = false ∧ imported = .ok ()) ∧
      ∃ e, s.pyshinqlxInitialize imported = (.error e, s)) := by
  unfold pyshinqlxInitialize
  cases s.pyshinqlxInitialized with
  | true => exact .inr ⟨by simp, _, rfl⟩
  | false =>
    cases imported with
    | error e => exact .inr ⟨by simp, _, rfl⟩
    | ok u => exact .inl ⟨rfl, rfl, rfl⟩

/-- `pyshinqlx_reload` of an initialised module succeeds exactly if the module can be
reloaded and initialised; else Python is not initialised any more. -/
theorem pyshinqlxReload_cases {s : PyServer M} (hinit : s.pyshinqlxInitialized = true)
    (reload : ModuleReload M) :
    (reload.Succeeds ∧ s.pyshinqlxReload reload =
      (.ok (), { s with
        customCommandHandler := false
        tables := reload.left
        pyshinqlxInitialized := true
        lateInited := false })) ∨
    (¬reload.Succeeds ∧ ∃ e s', s.pyshinqlxReload reload = (.error e, s') ∧
      s'.pyshinqlxInitialized = false) := by
  unfold pyshinqlxReload ModuleReload.Succeeds
  rw [hinit]
  match reload with
  | .failed left => exact .inr ⟨by simp, _, _, rfl, rfl⟩
  | .reloaded left (.error e) => exact .inr ⟨by simp, _, _, rfl, rfl⟩
  | .reloaded left (.ok ()) => exact .inl ⟨rfl, rfl⟩

/-- What `cmd_restart_python` does: it initialises Python on some tables and starts a
game, or does nothing, or leaves Python uninitialised. -/
theorem cmdRestartPython_cases (imported : PyResult Unit) (reload : ModuleReload M)
    (env : NewGameEnv M) (s : PyServer M) :
    (∃ s' : PyServer M,
      (if s.pyshinqlxInitialized then reload.Succeeds else imported = .ok ()) ∧
      s.cmdRestartPython imported reload env = (true, s'.newGameDispatcher false env) ∧
      s'.pyshinqlxInitialized = true ∧ s'.lateInited = false ∧ s'.isFirstGame = s.isFirstGame ∧
      s'.lateInits = s.lateInits ∧ s'.tables = s.tablesLeft reload) ∨
    (∃ s' : PyServer M,
      ¬(if s.pyshinqlxInitialized then reload.Succeeds else imported = .ok ()) ∧
      s.cmdRestartPython imported reload env = (false, s') ∧
      s'.pyshinqlxInitialized = false) := by
  unfold tablesLeft
  cases hinit : s.pyshinqlxInitialized with
  | true =>
    rcases pyshinqlxReload_cases hinit reload with ⟨hreload, heq⟩ | ⟨hreload, e, s', heq, hs'⟩
    · let s' : PyServer M :=
        { s with
          customCommandHandler := false
          tables := reload.left
          pyshinqlxInitialized := true
          lateInited := false }
      refine .inl ⟨s', by simpa using hreload, ?_, rfl, rfl, rfl, rfl, rfl⟩
      rw [cmdRestartPython, hinit, if_pos rfl, heq]
    · refine .inr ⟨s', by simpa using hreload, ?_, hs'⟩
      rw [cmdRestartPython, hinit, if_pos rfl, heq]
  | false =>
    rcases pyshinqlxInitialize_cases imported s with ⟨-, himported, heq⟩ | ⟨hnot, e, heq⟩
    · let s' : PyServer M := { s with pyshinqlxInitialized := true, lateInited := false }
      refine .inl ⟨s', by simpa using himported, ?_, rfl, rfl, rfl, rfl, rfl⟩
      rw [cmdRestartPython, hinit, if_neg (by simp), heq]
    · refine .inr ⟨s, by simpa [hinit] using hnot, ?_, hinit⟩
      rw [cmdRestartPython, hinit, if_neg (by simp), heq]

/-- The tables after a game that runs `late_init`. -/
theorem tables_newGame {s : PyServer M} (hinit : s.pyshinqlxInitialized = true)
    (hflag : s.isFirstGame = true) (isRestart : Bool) (env : NewGameEnv M) :
    (s.newGameDispatcher isRestart env).tables = (lateInit env.lateInit s.tables).2 := by
  obtain ⟨done, issued, hframe⟩ := firstGame_frame env s
  rw [newGameDispatcher_eq, hinit, hflag, Bool.and_self, if_pos rfl, hframe]

/-- **One step** does what is expected of it exactly if a call that initialises Python
finds `IS_FIRST_GAME` set. -/
theorem restarted_take_iff {s : PyServer M} (hs : s.Flagged) (call : Call M) :
    Restarted (Run.take step s call) ↔ s.FindsFirstGame call := by
  cases call with
  | pyshinqlxInitialize imported =>
    rcases pyshinqlxInitialize_cases imported s with ⟨hnot, rfl, heq⟩ | ⟨hnot, e, heq⟩
    · have htake : Run.take step s (.pyshinqlxInitialize (.ok ())) =
          ⟨s, .pyshinqlxInitialize (.ok ()), true,
            { s with pyshinqlxInitialized := true, lateInited := false }⟩ := by
        simp only [Run.take, step, heq]
      rw [htake]
      show (true = true → LateInitDue _) ↔ (_ → _ → s.isFirstGame = true)
      rw [lateInitDue_iff rfl]
      exact ⟨fun h _ _ => h rfl, fun h _ => h hnot rfl⟩
    · have htake : Run.take step s (.pyshinqlxInitialize imported) =
          ⟨s, .pyshinqlxInitialize imported, false, s⟩ := by
        simp only [Run.take, step, heq]
      rw [htake]
      constructor
      · exact fun _ hinit himported => absurd ⟨hinit, himported⟩ hnot
      · rintro - ⟨⟩
  | newGame isRestart env =>
    show (s.pyshinqlxInitialized = true →
      ((s.newGameDispatcher isRestart env).lateInits = s.lateInits + 1 ↔ s.lateInited = false)) ↔
        True
    rw [iff_true]
    intro hinit
    rw [lateInits_newGame, hinit, Bool.true_and, hs hinit]
    cases s.lateInited <;> simp
  | plugins change => exact Iff.rfl
  | pyrestart imported reload env =>
    rcases cmdRestartPython_cases imported reload env s with
      ⟨s', hsucceeds, heq, hinit, -, hflag, hinits, htables⟩ | ⟨s', hfails, heq, -⟩
    · have htake : Run.take step s (.pyrestart imported reload env) =
          ⟨s, .pyrestart imported reload env, true, s'.newGameDispatcher false env⟩ := by
        simp only [Run.take, step, heq]
      rw [htake]
      show (true = true → (s'.newGameDispatcher false env).lateInits = s.lateInits + 1 ∧
        (s'.newGameDispatcher false env).tables =
          (lateInit env.lateInit (s.tablesLeft reload)).2) ↔ (_ → s.isFirstGame = true)
      rw [lateInits_newGame, hinit, Bool.true_and, hflag, hinits]
      constructor
      · intro h _
        have hran := (h rfl).1
        by_contra hclear
        rw [if_neg hclear] at hran
        omega
      · intro h _
        have hset := h hsucceeds
        refine ⟨by rw [if_pos hset], ?_⟩
        rw [tables_newGame hinit (hflag.trans hset), htables]
    · have htake : Run.take step s (.pyrestart imported reload env) =
          ⟨s, .pyrestart imported reload env, false, s'⟩ := by
        simp only [Run.take, step, heq]
      rw [htake]
      constructor
      · exact fun _ hsucceeds => absurd hsucceeds hfails
      · rintro - ⟨⟩

/-- The flag stays right along steps that meet the condition. -/
theorem flagged_step {s : PyServer M} (hs : s.Flagged) (call : Call M)
    (hgood : s.FindsFirstGame call) : (step s call).2.Flagged := by
  cases call with
  | pyshinqlxInitialize imported =>
    rcases pyshinqlxInitialize_cases imported s with ⟨hnot, rfl, heq⟩ | ⟨-, e, heq⟩
    · simp only [step, heq]
      exact Flagged.initialised (hgood hnot rfl) rfl
    · simp only [step, heq]
      exact hs
  | newGame isRestart env => exact hs.newGame isRestart env
  | plugins change => exact hs
  | pyrestart imported reload env =>
    rcases cmdRestartPython_cases imported reload env s with
      ⟨s', hsucceeds, heq, -, hinited, hflag, -⟩ | ⟨s', -, heq, hs'⟩
    · simp only [step, heq]
      exact (Flagged.initialised (hflag.trans (hgood hsucceeds)) hinited).newGame false env
    · simp only [step, heq]
      intro hinit
      rw [hs'] at hinit
      cases hinit

/-- **A restart initialises Python again.**  Along a run from the start of the server,
each time Python is initialised the next game runs `late_init`, games run it until it has
succeeded once and then no more, and `pyrestart` runs it itself, on the tables that the
reload has left, if and only if Python is only ever initialised while `IS_FIRST_GAME` is
set. -/
theorem restarted_iff (empty : M) (calls : List (Call M)) :
    (∀ st ∈ Run.steps step (start empty) calls, Restarted st) ↔
      ∀ st ∈ Run.steps step (start empty) calls, st.before.FindsFirstGame st.call := by
  refine Run.forall_steps_iff Flagged (fun s call hs => restarted_take_iff hs call)
    (fun s call hs hgood => flagged_step hs call hgood) ?_ calls
  rintro ⟨⟩

/-- Everything goes well; `qlx_plugins` asks for one plugin. -/
def goodGame : NewGameEnv (List String) :=
  ⟨⟨.ok (), .ok (), some "essentials", fun name loaded => loaded ++ [name], .ok ()⟩,
    some "1", .ok (), .ok (), .ok (), .ok (), .ok ()⟩

/-- The server starts, a game starts, and Python is restarted; the reload leaves some plugins. -/
def restartInGame (left : List String) : List (Call (List String)) :=
  [.pyshinqlxInitialize (.ok ()), .newGame false goodGame,
    .pyrestart (.ok ()) (.reloaded left (.ok ())) goodGame]

theorem restartInGame_not_restarted (left : List String) :
    ¬∀ st ∈ Run.steps step (start []) (restartInGame left), Restarted st := by
  intro h
  simp only [restartInGame, Run.steps_cons, List.forall_mem_cons] at h
  obtain ⟨-, -, hrestart, -⟩ := h
  have hran : 1 = 1 + 1 := (hrestart rfl).1
  omega

/-- The restart does not run `late_init` again, whether the reload leaves the plugin that was
loaded or none. -/
theorem restartInGame_broken :
    ((¬∀ st ∈ Run.steps step (start []) (restartInGame ["essentials"]), Restarted st) ∧
      (Run.final step (start []) (restartInGame ["essentials"])).lateInits = 1) ∧
    (¬∀ st ∈ Run.steps step (start []) (restartInGame []), Restarted st) ∧
      (Run.final step (start []) (restartInGame [])).lateInits = 1 ∧
      (Run.final step (start []) ((restartInGame []).take 2)).tables = ["essentials"] ∧
      (Run.final step (start []) (restartInGame [])).tables = [] :=
  ⟨⟨restartInGame_not_restarted _, by decide⟩, restartInGame_not_restarted _, by decide,
    by decide, by decide⟩

end PyServer
end ShinQlx
