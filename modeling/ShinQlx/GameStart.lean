import Mathlib.Logic.Function.Iterate
import ShinQlx.ByteText
import ShinQlx.Restart

/-! # A new game

Whenever the game is initialised, the tag of the server is added to its tags; and a new game, which
is noticed when the server has spawned, when the game restarts and after `pyrestart`, keeps the
title and the authors of the map, adds a notice to the authors and dispatches its events.

`game_started` says what becomes of the tags and of the authors over any run: the tag is there from
the second initialisation on at the latest, and all others are as they were; the authors end with
as many notices as new games were noticed since the map has set them.
-/
namespace ShinQlx

/-- `CS_MESSAGE`, `CS_AUTHOR` and `CS_AUTHOR2`. -/
def csMessage : Nat := 3

def csAuthor : Nat := 678

def csAuthor2 : Nat := 679

/-- What a new game finds: for `late_init`, the version of the plugins, what the handlers of
`set_configstring` make of a value, the cvars, and how its events are dispatched. -/
structure GameStartEnv (M : Type) where
  lateInit : LateInitEnv M
  zmqStatsEnable : Option String
  warning : PyResult Unit
  pluginsVersion : Option String
  hook : Nat → String → Option String
  mapname : Option String
  factory : Option String
  dispatchMap : PyResult Unit
  dispatchNewGame : PyResult Unit

/-- The events of a new game. -/
inductive GameStartEvent where
  | map (mapname factory : String)
  | newGame
  deriving DecidableEq

/-- The server: its tags, its configstrings, what is kept of those of the map, and Python. -/
structure GameServer (M : Type) where
  tags : Option String
  configstrings : Nat → String
  mapTitle : Option String
  mapSubtitle1 : Option String
  mapSubtitle2 : Option String
  python : PyServer M

/-- What the engine or anything else does to the tags and to the configstrings. -/
structure ServerChange where
  tags : Option String → Option String
  configstrings : (Nat → String) → Nat → String

/-- What happens: the engine initialises the game, the server has spawned, Python is started or
restarted, plugins change, or anything else changes the server. -/
inductive GameServerCall (M : Type) where
  | initGame (restart : Bool) (original : ServerChange) (env : GameStartEnv M)
  | spawned (env : GameStartEnv M)
  | pyshinqlxInitialize (imported : PyResult Unit)
  | pyrestart (imported : PyResult Unit) (reload : ModuleReload M) (env : GameStartEnv M)
  | plugins (change : M → M)
  | server (change : ServerChange)

namespace GameServer
variable {M : Type} (version : String)

/-- `set_tag`: the tags without the one of the server, with it. -/
def setTag (tags : String) : Option String :=
  if (Text.split ',' tags).all (· ≠ "shinqlx") then
    let tags := if 2 < tags.utf8ByteSize then "," ++ tags else tags
    some ("shinqlx" ++ tags)
  else none

/-- What is read of a text in a buffer of 1024 bytes. -/
def readText (text : String) : String := String.ofList (ByteText.truncate 1023 text.toList)

/-- `get_configstring`. -/
def getConfigstring (index : Nat) (s : GameServer M) : String := readText (s.configstrings index)

/-- `set_configstring` of the engine; a text with a NUL is not set. -/
def setConfigstring (index : Nat) (value : String) (s : GameServer M) : GameServer M :=
  if '\x00' ∈ value.toList then s
  else { s with configstrings := fun i => if i = index then value else s.configstrings i }

/-- `shinqlx_set_configstring`. -/
def shinqlxSetConfigstring (env : GameStartEnv M) (index : Nat) (value : String)
    (s : GameServer M) : GameServer M :=
  match env.hook index value with
  | none => s
  | some value => setConfigstring index value s

/-- A text with a notice behind it. -/
def addNotice (text notice : String) : String :=
  (if text = "" then text else text ++ " - ") ++ notice

/-- The notice with the versions. -/
def versionNotice (env : GameStartEnv M) : String :=
  "Running shinqlx ^6v" ++ version ++ "^7 with plugins ^6" ++
    env.pluginsVersion.getD "NOT_SET" ++ "^7."

/-- The notice with the place of the source. -/
def sourceNotice : String :=
  "Check ^6https://github.com/mgaertne/shinqlx^7 for more details."

/-- `set_map_subtitles`. -/
def setMapSubtitles (env : GameStartEnv M) (s : GameServer M) : GameServer M :=
  let s := { s with mapTitle := some (getConfigstring csMessage s) }
  let mapSubtitle1 := getConfigstring csAuthor s
  let s := { s with mapSubtitle1 := some mapSubtitle1 }
  let s := shinqlxSetConfigstring env csAuthor
    (addNotice mapSubtitle1 (versionNotice version env)) s
  let mapSubtitle2 := getConfigstring csAuthor2 s
  let s := { s with mapSubtitle2 := some mapSubtitle2 }
  shinqlxSetConfigstring env csAuthor2 (addNotice mapSubtitle2 sourceNotice) s

/-- What the part for the first game finds. -/
def newGameEnv (env : GameStartEnv M) : NewGameEnv M where
  lateInit := env.lateInit
  zmqStatsEnable := env.zmqStatsEnable
  warning := env.warning
  setMapSubtitles := .ok ()
  mapCvars := .ok ()
  dispatchMap := env.dispatchMap
  dispatchNewGame := env.dispatchNewGame

/-- `try_handle_new_game`, and the events it dispatches. -/
def tryHandleNewGame (isRestart : Bool) (env : GameStartEnv M) (s : GameServer M) :
    PyResult Unit × List GameStartEvent × GameServer M :=
  let (result, python) :=
    if s.python.isFirstGame then s.python.firstGame (newGameEnv env) else (.ok (), s.python)
  let s := { s with python := python }
  match result with
  | .error e => (.error e, [], s)
  | .ok () =>
    let s := setMapSubtitles version env s
    if isRestart then (env.dispatchNewGame, [.newGame], s)
    else
      let map := GameStartEvent.map (env.mapname.getD "") (env.factory.getD "")
      match env.dispatchMap with
      | .error e => (.error e, [map], s)
      | .ok () => (env.dispatchNewGame, [map, .newGame], s)

/-- `new_game_dispatcher` and `handle_new_game`, which logs an exception. -/
def newGameDispatcher (isRestart : Bool) (env : GameStartEnv M) (s : GameServer M) :
    List GameStartEvent × GameServer M :=
  if s.python.pyshinqlxInitialized then (tryHandleNewGame version isRestart env s).2 else ([], s)

/-- Tags and configstrings change. -/
def change (w : ServerChange) (s : GameServer M) : GameServer M :=
  { s with tags := w.tags s.tags, configstrings := w.configstrings s.configstrings }

/-- `set_tag` of the engine. -/
def tag (s : GameServer M) : GameServer M :=
  { s with tags := s.tags.map fun tags => (setTag tags).getD tags }

/-- `shinqlx_g_initgame`. -/
def shinqlxGInitgame (restart : Bool) (original : ServerChange) (env : GameStartEnv M)
    (s : GameServer M) : List GameStartEvent × GameServer M :=
  let s := tag (change original s)
  if restart then newGameDispatcher version true env s else ([], s)

/-- `cmd_restart_python`. -/
def cmdRestartPython (imported : PyResult Unit) (reload : ModuleReload M)
    (env : GameStartEnv M) (s : GameServer M) : List GameStartEvent × GameServer M :=
  match if s.python.pyshinqlxInitialized then s.python.pyshinqlxReload reload
    else s.python.pyshinqlxInitialize imported with
  | (.ok (), python) => newGameDispatcher version false env { s with python := python }
  | (.error _, python) => ([], { s with python := python })

/-- What a call does; the result is the events. -/
def step (s : GameServer M) : GameServerCall M → List GameStartEvent × GameServer M
  | .initGame restart original env => shinqlxGInitgame version restart original env s
  | .spawned env => newGameDispatcher version false env s
  | .pyshinqlxInitialize imported =>
    ([], { s with python := (s.python.pyshinqlxInitialize imported).2 })
  | .pyrestart imported reload env => cmdRestartPython version imported reload env s
  | .plugins change => ([], { s with python := { s.python with tables := change s.python.tables } })
  | .server w => ([], change w s)

/-! ## What a new game does -/

/-- A new game gets to the title and the authors of the map. -/
def announces (env : GameStartEnv M) (python : PyServer M) : Bool :=
  python.pyshinqlxInitialized &&
    (!python.isFirstGame || (python.firstGame (newGameEnv env)).1.isOk)

/-- The events of a new game that gets to them. -/
def gameEvents (isRestart : Bool) (env : GameStartEnv M) : List GameStartEvent :=
  let map := GameStartEvent.map (env.mapname.getD "") (env.factory.getD "")
  if isRestart then [.newGame]
  else if env.dispatchMap.isOk then [map, .newGame]
  else [map]

section newGame
variable {version} {env : GameStartEnv M} {s : GameServer M}

theorem tryHandleNewGame_eq {result : PyResult Unit} {python : PyServer M}
    (h : (if s.python.isFirstGame then s.python.firstGame (newGameEnv env)
      else (.ok (), s.python)) = (result, python)) (isRestart : Bool) :
    (tryHandleNewGame version isRestart env s).2 =
      if result.isOk then
        (gameEvents isRestart env, setMapSubtitles version env { s with python := python })
      else ([], { s with python := python }) := by
  unfold tryHandleNewGame gameEvents
  rw [h]
  cases result with
  | error e => rfl
  | ok u =>
    cases isRestart with
    | true => rfl
    | false => cases env.dispatchMap <;> rfl

/-- **A new game.** -/
theorem newGameDispatcher_eq (isRestart : Bool) :
    newGameDispatcher version isRestart env s =
      let noticed := { s with python := s.python.newGameDispatcher isRestart (newGameEnv env) }
      if announces env s.python then
        (gameEvents isRestart env, setMapSubtitles version env noticed)
      else ([], noticed) := by
  rw [PyServer.newGameDispatcher_eq, newGameDispatcher, announces]
  cases hinit : s.python.pyshinqlxInitialized with
  | false => rfl
  | true =>
    show (tryHandleNewGame version isRestart env s).2 = _
    cases hfirst : s.python.isFirstGame with
    | false =>
      have hstate : (if s.python.isFirstGame then s.python.firstGame (newGameEnv env)
          else (.ok (), s.python)) = (.ok (), s.python) := by rw [hfirst]; rfl
      rw [tryHandleNewGame_eq hstate]
      rfl
    | true =>
      have hstate : (if s.python.isFirstGame then s.python.firstGame (newGameEnv env)
          else (.ok (), s.python)) = s.python.firstGame (newGameEnv env) := by rw [hfirst]; rfl
      rw [tryHandleNewGame_eq hstate]
      rfl

end newGame

section subtitles
variable {version} {env : GameStartEnv M} {s : GameServer M}

/-- What a configstring becomes that is set through the hook. -/
def hooked (env : GameStartEnv M) (index : Nat) (value old : String) : String :=
  match env.hook index value with
  | none => old
  | some value => if '\x00' ∈ value.toList then old else value

theorem shinqlxSetConfigstring_eq (index : Nat) (value : String) :
    shinqlxSetConfigstring env index value s =
      { s with
        configstrings := Function.update s.configstrings index
          (hooked env index value (s.configstrings index)) } := by
  unfold shinqlxSetConfigstring hooked setConfigstring
  cases env.hook index value with
  | none => simp
  | some value =>
    dsimp only
    split
    · simp
    · congr 1
      funext i
      rw [Function.update_apply]

/-- What a new game makes of the authors. -/
def noticed (version : String) (env : GameStartEnv M) (configstrings : Nat → String) :
    Nat → String :=
  Function.update
    (Function.update configstrings csAuthor
      (hooked env csAuthor (addNotice (readText (configstrings csAuthor)) (versionNotice version env))
        (configstrings csAuthor)))
    csAuthor2
    (hooked env csAuthor2 (addNotice (readText (configstrings csAuthor2)) sourceNotice)
      (configstrings csAuthor2))

theorem setMapSubtitles_eq : setMapSubtitles version env s =
    { s with
      configstrings := noticed version env s.configstrings
      mapTitle := some (getConfigstring csMessage s)
      mapSubtitle1 := some (getConfigstring csAuthor s)
      mapSubtitle2 := some (getConfigstring csAuthor2 s) } := by
  have hne : csAuthor2 ≠ csAuthor := by decide
  simp only [setMapSubtitles, shinqlxSetConfigstring_eq, getConfigstring, Function.update_of_ne hne,
    noticed]

theorem python_newGameDispatcher (isRestart : Bool) :
    (newGameDispatcher version isRestart env s).2.python =
      s.python.newGameDispatcher isRestart (newGameEnv env) := by
  rw [newGameDispatcher_eq]
  dsimp only
  split
  · show (setMapSubtitles version env _).python = _
    rw [setMapSubtitles_eq]
  · rfl

end subtitles

/-! ## Python, as before -/

/-- A call as calls about Python alone. -/
def pythonCalls : GameServerCall M → List (PyServer.Call M)
  | .initGame restart _ env => if restart then [.newGame true (newGameEnv env)] else []
  | .spawned env => [.newGame false (newGameEnv env)]
  | .pyshinqlxInitialize imported => [.pyshinqlxInitialize imported]
  | .pyrestart imported reload env => [.pyrestart imported reload (newGameEnv env)]
  | .plugins change => [.plugins change]
  | .server _ => []

/-- **Python** does not see the rest of the server. -/
theorem python_step (s : GameServer M) (call : GameServerCall M) :
    (step version s call).2.python =
      Run.final PyServer.step s.python (pythonCalls call) := by
  cases call with
  | initGame restart original env =>
    cases restart with
    | false => rfl
    | true => exact python_newGameDispatcher true
  | spawned env => exact python_newGameDispatcher false
  | pyshinqlxInitialize imported =>
    show (s.python.pyshinqlxInitialize imported).2 =
      (PyServer.step s.python (.pyshinqlxInitialize imported)).2
    simp only [PyServer.step]
    rcases s.python.pyshinqlxInitialize imported with ⟨_ | _, python⟩ <;> rfl
  | pyrestart imported reload env =>
    show (cmdRestartPython version imported reload env s).2.python =
      (s.python.cmdRestartPython imported reload (newGameEnv env)).2
    unfold cmdRestartPython PyServer.cmdRestartPython
    rcases (if s.python.pyshinqlxInitialized then s.python.pyshinqlxReload reload
      else s.python.pyshinqlxInitialize imported) with ⟨_ | _, python⟩
    · rfl
    · exact python_newGameDispatcher false
  | plugins change => rfl
  | server w => rfl

theorem python_final (s : GameServer M) (calls : List (GameServerCall M)) :
    (Run.final (step version) s calls).python =
      Run.final PyServer.step s.python (calls.flatMap pythonCalls) := by
  induction calls generalizing s with
  | nil => rfl
  | cons call calls ih =>
    rw [Run.final_cons, ih, python_step, List.flatMap_cons, Run.final_append]

/-! ## The tags -/

/-- What an initialisation makes of the tags. -/
def tagged (tags : String) : String := (setTag tags).getD tags

/-- The tags after some initialisations: the one of the server is added in front of the others,
unless it is there.  Tags of one or two bytes get no comma, so that it is merged with the first of
them, if that is not empty, and added at the next initialisation. -/
structure Tagged (inits : Nat) (old new : String) : Prop where
  same : inits = 0 → new = old
  there : "shinqlx" ∈ Text.split ',' old → new = old
  long : 0 < inits → "shinqlx" ∉ Text.split ',' old → 2 < old.utf8ByteSize →
    Text.split ',' new = "shinqlx" :: Text.split ',' old
  short : ∀ first rest, 0 < inits → old.utf8ByteSize ≤ 2 → Text.split ',' old = first :: rest →
    Text.split ',' new =
      if inits = 1 ∨ first = "" then ("shinqlx" ++ first) :: rest
      else "shinqlx" :: ("shinqlx" ++ first) :: rest
  shown : 2 ≤ inits → "shinqlx" ∈ Text.split ',' new

theorem tagged_of_mem {tags : String} (h : "shinqlx" ∈ Text.split ',' tags) : tagged tags = tags := by
  have hall : ¬(Text.split ',' tags).all (· ≠ "shinqlx") = true := by
    intro hall
    simpa using List.all_eq_true.mp hall _ h
  rw [tagged, setTag, if_neg hall]
  rfl

theorem tagged_of_notMem {tags : String} (h : "shinqlx" ∉ Text.split ',' tags) :
    tagged tags = "shinqlx" ++ if 2 < tags.utf8ByteSize then "," ++ tags else tags := by
  have hall : (Text.split ',' tags).all (· ≠ "shinqlx") = true := by
    rw [List.all_eq_true]
    intro tag htag
    have hne : tag ≠ "shinqlx" := fun heq => h (heq ▸ htag)
    simpa using hne
  rw [tagged, setTag, if_pos hall]
  rfl

theorem split_tagged_long {tags : String} (h : "shinqlx" ∉ Text.split ',' tags)
    (hlong : 2 < tags.utf8ByteSize) :
    Text.split ',' (tagged tags) = "shinqlx" :: Text.split ',' tags := by
  rw [tagged_of_notMem h, if_pos hlong, ← String.append_assoc,
    Text.split_append (by rfl : ",".toList = [','])]
  rfl

theorem notMem_split_of_short {tags : String} (h : tags.utf8ByteSize ≤ 2) :
    "shinqlx" ∉ Text.split ',' tags := by
  intro hmem
  obtain ⟨piece, hpiece, heq⟩ := List.mem_map.mp hmem
  have hlength : piece.length = 7 := by
    rw [← String.toList_ofList (l := piece), heq]
    rfl
  have hle := (Text.sublist_of_mem_splitOn hpiece).length_le
  have hbytes := Text.length_le_utf8ByteSize tags
  omega

theorem split_tagged_short {tags first : String} {rest : List String}
    (hshort : tags.utf8ByteSize ≤ 2) (hsplit : Text.split ',' tags = first :: rest) :
    Text.split ',' (tagged tags) = ("shinqlx" ++ first) :: rest := by
  obtain ⟨piece, pieces, hpieces⟩ :=
    List.exists_cons_of_ne_nil (List.splitOn_ne_nil ',' tags.toList)
  rw [Text.split, hpieces, List.map_cons] at hsplit
  obtain ⟨rfl, rfl⟩ := List.cons.inj hsplit
  rw [tagged_of_notMem (notMem_split_of_short hshort), if_neg (by omega), Text.split,
    String.toList_append, Text.splitOn_append_of_notMem (by decide) hpieces, List.map_cons,
    String.ofList_append, String.ofList_toList]

/-- The tags after some initialisations. -/
theorem tagged_iterate (inits : Nat) (tags : String) : Tagged inits tags (tagged^[inits] tags) := by
  have hfixed : ∀ {tags : String} (n : Nat), "shinqlx" ∈ Text.split ',' tags →
      tagged^[n] tags = tags := fun n h => Function.iterate_fixed (tagged_of_mem h) n
  have hlong : ∀ {tags : String} (n : Nat), "shinqlx" ∉ Text.split ',' tags →
      2 < tags.utf8ByteSize → tagged^[n + 1] tags = tagged tags := by
    intro tags n hnot h
    rw [Function.iterate_succ_apply, hfixed n]
    rw [split_tagged_long hnot h]
    exact List.mem_cons_self
  -- tags that have got no comma are long enough for the next one
  have hshort : ∀ {tags first : String} {rest : List String} (n : Nat), tags.utf8ByteSize ≤ 2 →
      Text.split ',' tags = first :: rest → Text.split ',' (tagged^[n + 1] tags) =
        if n + 1 = 1 ∨ first = "" then ("shinqlx" ++ first) :: rest
        else "shinqlx" :: ("shinqlx" ++ first) :: rest := by
    intro tags first rest n h hsplit
    have honce := split_tagged_short h hsplit
    rw [Function.iterate_succ_apply]
    by_cases hfirst : first = ""
    · rw [if_pos (.inr hfirst), hfixed n, honce]
      rw [honce, hfirst]
      exact List.mem_cons_self
    · cases n with
      | zero => rw [if_pos (.inl rfl)]; exact honce
      | succ n =>
        have hnot : "shinqlx" ∉ Text.split ',' (tagged tags) := by
          rw [honce]
          intro hmem
          rcases List.mem_cons.mp hmem with heq | hrest
          · have hlist := congrArg String.toList heq
            rw [String.toList_append, List.self_eq_append_right] at hlist
            exact hfirst (String.toList_eq_nil_iff.mp hlist)
          · exact notMem_split_of_short h (hsplit ▸ List.mem_cons_of_mem first hrest)
        have hsize : 2 < (tagged tags).utf8ByteSize := by
          rw [tagged_of_notMem (notMem_split_of_short h), String.utf8ByteSize_append]
          exact Nat.lt_add_right _ (by decide)
        rw [hlong n hnot hsize, split_tagged_long hnot hsize, honce, if_neg (by simp [hfirst])]
  constructor
  · rintro rfl
    rfl
  · exact fun hmem => hfixed inits hmem
  · intro hpos hnot h
    obtain ⟨n, rfl⟩ := Nat.exists_eq_add_of_lt hpos
    rw [Nat.zero_add, hlong n hnot h, split_tagged_long hnot h]
  · intro first rest hpos h hsplit
    obtain ⟨n, rfl⟩ := Nat.exists_eq_add_of_lt hpos
    rw [Nat.zero_add]
    exact hshort n h hsplit
  · intro htwo
    obtain ⟨n, rfl⟩ := Nat.exists_eq_add_of_le' htwo
    by_cases hmem : "shinqlx" ∈ Text.split ',' tags
    · rw [hfixed _ hmem]
      exact hmem
    · by_cases hsize : 2 < tags.utf8ByteSize
      · rw [hlong (n + 1) hmem hsize, split_tagged_long hmem hsize]
        exact List.mem_cons_self
      · obtain ⟨first, rest, hsplit⟩ := List.exists_cons_of_ne_nil
          (show Text.split ',' tags ≠ [] by simp [Text.split])
        rw [hshort (n + 1) (by omega) hsplit]
        split
        · rename_i hor
          obtain rfl : first = "" := hor.resolve_left (by omega)
          exact List.mem_cons_self
        · exact List.mem_cons_self

example : tagged "ca" = "shinqlxca" ∧ tagged "shinqlxca" = "shinqlx,shinqlxca" ∧
    tagged "duel,new" = "shinqlx,duel,new" := by decide +kernel

/-! ## One call -/

/-- The new game that a call leads to, if it gets to the title and the authors of the map. -/
def announced (python : PyServer M) : GameServerCall M → Option (GameStartEnv M)
  | .initGame restart _ env => if restart && announces env python then some env else none
  | .spawned env => if announces env python then some env else none
  | .pyrestart imported reload env =>
    match if python.pyshinqlxInitialized then python.pyshinqlxReload reload
      else python.pyshinqlxInitialize imported with
    | (.ok (), python) => if announces env python then some env else none
    | (.error _, _) => none
  | _ => none

/-- The new game is a restart. -/
def isRestart : GameServerCall M → Bool
  | .initGame _ _ _ => true
  | _ => false

/-- The game is initialised. -/
def isInit : GameServerCall M → Bool
  | .initGame _ _ _ => true
  | _ => false

/-- The configstrings before a new game is noticed. -/
def changed (configstrings : Nat → String) : GameServerCall M → Nat → String
  | .initGame _ original _ => original.configstrings configstrings
  | .server w => w.configstrings configstrings
  | _ => configstrings

/-- The tags after a call. -/
def tagsAfter (tags : Option String) : GameServerCall M → Option String
  | .initGame _ original _ => (original.tags tags).map tagged
  | .server w => w.tags tags
  | _ => tags

/-- What a call can do, beside what it does to Python. -/
structure Stepped (version : String) (s : GameServer M) (call : GameServerCall M)
    (events : List GameStartEvent) (s' : GameServer M) : Prop where
  events : events = (announced s.python call).elim [] (gameEvents (isRestart call))
  tags : s'.tags = tagsAfter s.tags call
  configstrings : s'.configstrings = (announced s.python call).elim
    (changed s.configstrings call) fun env => noticed version env (changed s.configstrings call)
  mapTitle : s'.mapTitle = (announced s.python call).elim s.mapTitle fun _ =>
    some (readText (changed s.configstrings call csMessage))
  mapSubtitle1 : s'.mapSubtitle1 = (announced s.python call).elim s.mapSubtitle1 fun _ =>
    some (readText (changed s.configstrings call csAuthor))
  mapSubtitle2 : s'.mapSubtitle2 = (announced s.python call).elim s.mapSubtitle2 fun _ =>
    some (readText (changed s.configstrings call csAuthor2))

section stepped
variable {version} {s s' : GameServer M} {call : GameServerCall M}

/-- A call that comes to no new game. -/
theorem Stepped.quiet (hannounced : announced s.python call = none)
    (htags : s'.tags = tagsAfter s.tags call)
    (hconfigstrings : s'.configstrings = changed s.configstrings call)
    (htitle : s'.mapTitle = s.mapTitle) (hsubtitle1 : s'.mapSubtitle1 = s.mapSubtitle1)
    (hsubtitle2 : s'.mapSubtitle2 = s.mapSubtitle2) :
    Stepped version s call [] s' := by
  refine ⟨?_, htags, ?_, ?_, ?_, ?_⟩ <;> rw [hannounced]
  · rfl
  · exact hconfigstrings
  · exact htitle
  · exact hsubtitle1
  · exact hsubtitle2

/-- A call that comes to a new game. -/
theorem Stepped.newGame (env : GameStartEnv M) (s' : GameServer M)
    (hannounced : announced s.python call =
      if announces env s'.python then some env else none)
    (htags : s'.tags = tagsAfter s.tags call)
    (hconfigstrings : s'.configstrings = changed s.configstrings call)
    (htitle : s'.mapTitle = s.mapTitle) (hsubtitle1 : s'.mapSubtitle1 = s.mapSubtitle1)
    (hsubtitle2 : s'.mapSubtitle2 = s.mapSubtitle2) :
    Stepped version s call (newGameDispatcher version (isRestart call) env s').1
      (newGameDispatcher version (isRestart call) env s').2 := by
  rw [newGameDispatcher_eq]
  cases hannounces : announces env s'.python with
  | false =>
    rw [hannounces] at hannounced
    exact .quiet hannounced htags hconfigstrings htitle hsubtitle1 hsubtitle2
  | true =>
    rw [hannounces] at hannounced
    simp only [if_true, setMapSubtitles_eq, getConfigstring, hconfigstrings]
    refine ⟨?_, htags, ?_, ?_, ?_, ?_⟩ <;> rw [hannounced] <;> rfl

theorem stepped (version : String) (s : GameServer M) (call : GameServerCall M) :
    Stepped version s call (step version s call).1 (step version s call).2 := by
  cases call with
  | initGame restart original env =>
    cases restart with
    | false => exact .quiet rfl rfl rfl rfl rfl rfl
    | true => exact .newGame env (tag (change original s)) rfl rfl rfl rfl rfl rfl
  | spawned env => exact .newGame env s rfl rfl rfl rfl rfl rfl
  | pyshinqlxInitialize imported => exact .quiet rfl rfl rfl rfl rfl rfl
  | pyrestart imported reload env =>
    show Stepped version s (.pyrestart imported reload env)
      (cmdRestartPython version imported reload env s).1
      (cmdRestartPython version imported reload env s).2
    have hannounced : announced s.python (.pyrestart imported reload env) =
        match if s.python.pyshinqlxInitialized then s.python.pyshinqlxReload reload
          else s.python.pyshinqlxInitialize imported with
        | (.ok (), python) => if announces env python then some env else none
        | (.error _, _) => none := rfl
    unfold cmdRestartPython
    rcases hpython : (if s.python.pyshinqlxInitialized then s.python.pyshinqlxReload reload
      else s.python.pyshinqlxInitialize imported) with ⟨_ | _, python⟩
    · rw [hpython] at hannounced
      exact .quiet hannounced rfl rfl rfl rfl rfl
    · rw [hpython] at hannounced
      exact .newGame env { s with python := python } hannounced rfl rfl rfl rfl rfl
  | plugins change => exact .quiet rfl rfl rfl rfl rfl rfl
  | server w => exact .quiet rfl rfl rfl rfl rfl rfl

end stepped

/-! ## A run -/

/-- The lines below the title of a map. -/
inductive Line where
  | author
  | author2

namespace Line

/-- The configstring. -/
def index : Line → Nat
  | .author => csAuthor
  | .author2 => csAuthor2

/-- What is added to it. -/
def notice (version : String) (env : GameStartEnv M) : Line → String
  | .author => versionNotice version env
  | .author2 => sourceNotice

/-- What is kept of it. -/
def kept (s : GameServer M) : Line → Option String
  | .author => s.mapSubtitle1
  | .author2 => s.mapSubtitle2

end Line

/-- A text that is set and read as it is. -/
def Fits (text : String) : Prop := ByteText.size text.toList ≤ 1023 ∧ '\x00' ∉ text.toList

/-- Nothing but a new game sets a configstring, and no handler changes what is set. -/
def Undisturbed (index : Nat) : GameServerCall M → Prop
  | .initGame _ original env =>
    (∀ cs, original.configstrings cs index = cs index) ∧ ∀ i value, env.hook i value = some value
  | .spawned env => ∀ i value, env.hook i value = some value
  | .pyrestart _ _ env => ∀ i value, env.hook i value = some value
  | .server w => ∀ cs, w.configstrings cs index = cs index
  | _ => True

/-- Nothing but an initialisation changes the tags. -/
def KeepsTags : GameServerCall M → Prop
  | .initGame _ original _ => ∀ tags, original.tags tags = tags
  | .server w => ∀ tags, w.tags tags = tags
  | _ => True

/-- The notices that a run adds to a line. -/
def notices (version : String) (line : Line) (s : GameServer M)
    (calls : List (GameServerCall M)) : List String :=
  (Run.steps (step version) s calls).filterMap fun st =>
    (announced st.before.python st.call).map fun env => line.notice version env

/-- What becomes of the tags and the authors in a run, and the events of each call.  Python is as
it is without them. -/
structure GameStarted (version : String) (start : GameServer M)
    (calls : List (GameServerCall M)) : Prop where
  python : (Run.final (step version) start calls).python =
    Run.final PyServer.step start.python (calls.flatMap pythonCalls)
  events : ∀ st ∈ Run.steps (step version) start calls,
    st.result = (announced st.before.python st.call).elim [] (gameEvents (isRestart st.call))
  tags : ∀ before after, calls = before ++ after → (∀ call ∈ after, KeepsTags call) →
    match (Run.final (step version) start before).tags with
    | none => (Run.final (step version) start calls).tags = none
    | some old => ∃ new, (Run.final (step version) start calls).tags = some new ∧
      Tagged (after.countP isInit) old new
  lines : ∀ (line : Line) before after, calls = before ++ after →
    (∀ call ∈ after, Undisturbed line.index call) →
    let s := Run.final (step version) start before
    let added := notices version line s after
    let text := added.foldl addNotice (s.configstrings line.index)
    Fits text →
    (Run.final (step version) start calls).configstrings line.index = text ∧
      line.kept (Run.final (step version) start calls) =
        if added = [] then line.kept s
        else some (added.dropLast.foldl addNotice (s.configstrings line.index))

section run
variable {version} {s : GameServer M} {call : GameServerCall M}

theorem readText_of_fits {text : String} (h : Fits text) : readText text = text := by
  have htruncate := ByteText.truncate_append h.1 []
  rw [List.append_nil] at htruncate
  rw [readText, htruncate]
  simp [ByteText.truncate]

/-- The start of a text that fits does. -/
theorem fits_of_addNotice {text notice : String} (h : Fits (addNotice text notice)) : Fits text := by
  have hstart : ∃ rest, (addNotice text notice).toList = text.toList ++ rest := by
    unfold addNotice
    split
    · exact ⟨notice.toList, String.toList_append⟩
    · exact ⟨" - ".toList ++ notice.toList, by simp [String.toList_append]⟩
  obtain ⟨rest, hrest⟩ := hstart
  obtain ⟨hsize, hnul⟩ := h
  rw [hrest] at hsize hnul
  rw [ByteText.size, List.map_append, List.sum_append] at hsize
  refine ⟨?_, fun hmem => hnul (List.mem_append_left rest hmem)⟩
  rw [ByteText.size]
  omega

theorem fits_of_foldl {text : String} {notices : List String}
    (h : Fits (notices.foldl addNotice text)) : Fits text := by
  induction notices generalizing text with
  | nil => exact h
  | cons notice notices ih => exact fits_of_addNotice (ih h)

theorem tagsAfter_of_keepsTags (h : KeepsTags call) (tags : Option String) :
    tagsAfter tags call = tags.map (tagged^[if isInit call then 1 else 0]) := by
  cases call with
  | initGame restart original env => exact congrArg (Option.map tagged) (h tags)
  | server w => exact (h tags).trans Option.map_id'.symm
  | spawned | pyshinqlxInitialize | pyrestart | plugins => exact Option.map_id'.symm

/-- The tags after a run. -/
theorem tags_final (s : GameServer M) (calls : List (GameServerCall M))
    (h : ∀ call ∈ calls, KeepsTags call) :
    (Run.final (step version) s calls).tags =
      s.tags.map (tagged^[calls.countP isInit]) := by
  induction calls generalizing s with
  | nil => exact Option.map_id'.symm
  | cons call calls ih =>
    obtain ⟨hcall, hcalls⟩ := List.forall_mem_cons.mp h
    rw [Run.final_cons, ih _ hcalls, (stepped version s call).tags,
      tagsAfter_of_keepsTags hcall, Option.map_map, ← Function.iterate_add, List.countP_cons]

theorem hook_of_announced {index : Nat} {env : GameStartEnv M} (h : Undisturbed index call)
    (hannounced : announced s.python call = some env) (i : Nat) (value : String) :
    env.hook i value = some value := by
  cases call with
  | initGame restart original env' =>
    obtain ⟨-, ⟨⟩⟩ := Option.ite_none_right_eq_some.mp hannounced
    exact h.2 i value
  | spawned env' =>
    obtain ⟨-, ⟨⟩⟩ := Option.ite_none_right_eq_some.mp hannounced
    exact h i value
  | pyrestart imported reload env' =>
    simp only [announced] at hannounced
    split at hannounced
    · obtain ⟨-, ⟨⟩⟩ := Option.ite_none_right_eq_some.mp hannounced
      exact h i value
    · cases hannounced
  | pyshinqlxInitialize | plugins | server => cases hannounced

/-- What a new game makes of a line. -/
theorem noticed_line (line : Line) {env : GameStartEnv M} (hhook : ∀ i value, env.hook i value =
      some value) (cs : Nat → String)
    (hfits : Fits (addNotice (cs line.index) (line.notice version env))) :
    noticed version env cs line.index = addNotice (cs line.index) (line.notice version env) := by
  have hnoticed : noticed version env cs line.index =
      hooked env line.index (addNotice (readText (cs line.index)) (line.notice version env))
        (cs line.index) := by
    have hne : csAuthor ≠ csAuthor2 := by decide
    cases line with
    | author => exact (Function.update_of_ne hne _ _).trans (Function.update_self ..)
    | author2 => exact Function.update_self ..
  rw [hnoticed, readText_of_fits (fits_of_addNotice hfits), hooked, hhook]
  exact if_neg hfits.2

/-- What one call makes of a line. -/
theorem line_step (version : String) (line : Line) (h : Undisturbed line.index call)
    (hfits : ∀ env, announced s.python call = some env →
      Fits (addNotice (s.configstrings line.index) (line.notice version env))) :
    (step version s call).2.configstrings line.index =
        (announced s.python call).elim (s.configstrings line.index) (fun env =>
          addNotice (s.configstrings line.index) (line.notice version env)) ∧
      line.kept (step version s call).2 =
        (announced s.python call).elim (line.kept s) fun _ =>
          some (s.configstrings line.index) := by
  have hbase : changed s.configstrings call line.index = s.configstrings line.index := by
    cases call with
    | initGame restart original env => exact h.1 _
    | server w => exact h _
    | spawned | pyshinqlxInitialize | pyrestart | plugins => rfl
  have hstep := stepped version s call
  have hkept : line.kept (step version s call).2 =
      (announced s.python call).elim (line.kept s) fun _ =>
        some (readText (changed s.configstrings call line.index)) := by
    cases line with
    | author => exact hstep.mapSubtitle1
    | author2 => exact hstep.mapSubtitle2
  rw [hkept, hstep.configstrings, hbase]
  cases hannounced : announced s.python call with
  | none => exact ⟨hbase, rfl⟩
  | some env =>
    have hfit := hfits env hannounced
    refine ⟨?_, congrArg some (readText_of_fits (fits_of_addNotice hfit))⟩
    rw [Option.elim_some, Option.elim_some, noticed_line line (hook_of_announced h hannounced)]
    · rw [hbase]
    · rw [hbase]
      exact hfit

/-- **The lines after a run.** -/
theorem lines_final (line : Line) (s : GameServer M) (calls : List (GameServerCall M))
    (h : ∀ call ∈ calls, Undisturbed line.index call)
    (hfits : Fits ((notices version line s calls).foldl addNotice
      (s.configstrings line.index))) :
    (Run.final (step version) s calls).configstrings line.index =
        (notices version line s calls).foldl addNotice (s.configstrings line.index) ∧
      line.kept (Run.final (step version) s calls) =
        if notices version line s calls = [] then line.kept s
        else some ((notices version line s calls).dropLast.foldl addNotice
          (s.configstrings line.index)) := by
  induction calls generalizing s with
  | nil => exact ⟨rfl, rfl⟩
  | cons call calls ih =>
    obtain ⟨hcall, hcalls⟩ := List.forall_mem_cons.mp h
    have hnotices : notices version line s (call :: calls) =
        ((announced s.python call).map fun env => line.notice version env).toList ++
          notices version line (step version s call).2 calls := by
      rw [notices, Run.steps_cons, List.filterMap_cons]
      dsimp only [Run.take]
      cases announced s.python call <;> rfl
    rw [hnotices] at hfits ⊢
    rw [Run.final_cons]
    cases hannounced : announced s.python call with
    | none =>
      obtain ⟨htext, hkept⟩ := line_step version line hcall (by
        intro env henv
        cases hannounced.symm.trans henv)
      rw [hannounced] at htext hkept hfits
      have hrest := ih (step version s call).2 hcalls (by rw [htext]; exact hfits)
      rw [htext, hkept] at hrest
      exact hrest
    | some env =>
      rw [hannounced] at hfits
      have hfit : Fits (addNotice (s.configstrings line.index) (line.notice version env)) :=
        fits_of_foldl hfits
      obtain ⟨htext, hkept⟩ := line_step version line hcall (by
        intro env' henv'
        obtain rfl := Option.some.inj (hannounced.symm.trans henv')
        exact hfit)
      rw [hannounced] at htext hkept
      have hrest := ih (step version s call).2 hcalls (by rw [htext]; exact hfits)
      rw [htext, hkept] at hrest
      refine ⟨hrest.1, hrest.2.trans ?_⟩
      cases notices version line (step version s call).2 calls <;> rfl

end run

/-- **A new game.**  After any run, Python is as if there were nothing but Python; each call has
dispatched the events of a new game exactly if one got to the title of the map; as long as nothing
else sets the tags, the one of the server is added in front of the others, at once or with tags of
one or two bytes at the second initialisation; and as long as nothing else sets the authors of the
map, they get a notice with each new game, `pyrestart` included, and what is kept of them has all
of these but the last. -/
theorem game_started (version : String) (start : GameServer M)
    (calls : List (GameServerCall M)) : GameStarted version start calls := by
  refine ⟨python_final version start calls, ?_, ?_, ?_⟩
  · exact Run.forall_steps (fun _ => True) (fun _ _ _ => trivial)
      (fun s call _ => (stepped version s call).events) trivial calls
  · rintro before after rfl h
    rw [Run.final_append, tags_final _ after h]
    cases (Run.final (step version) start before).tags with
    | none => rfl
    | some old => exact ⟨_, rfl, tagged_iterate _ old⟩
  · rintro line before after rfl h
    dsimp only
    intro hfits
    rw [Run.final_append]
    exact lines_final line _ after h hfits

end GameServer
end ShinQlx
