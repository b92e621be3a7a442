import ShinQlx.ClientCommand
import ShinQlx.ClientId
import ShinQlx.Cvars
import ShinQlx.InfoString
import ShinQlx.Run
import ShinQlx.SetConfigstring

/-! # The game as plugins see it

A `Game` has no data of its own: what is read of it is looked up in the server info, an info string
that the engine publishes and that is empty while a map is loaded.  What is set goes to a cvar or
to the console, and is read once the engine has published it.  A game that was found gone while it
was read is not valid any more.

`game_refined` says that this is the same as reading a table, whatever the searches choose, and that
what is set is read back as soon as it is published.
-/
namespace ShinQlx

/-- `CS_SCORES1` and `CS_SCORES2`. -/
def csScores1 : Nat := 6

def csScores2 : Nat := 7

/-- `GameTypes`. -/
inductive GameTypes where
  | freeForAll
  | duel
  | race
  | teamDeathmatch
  | clanArena
  | captureTheFlag
  | oneFlag
  | harvester
  | freezeTag
  | domination
  | attackAndDefend
  | redRover
  | unknown
  deriving DecidableEq

namespace GameTypes

/-- `type_long`. -/
def typeLong : GameTypes → String
  | freeForAll => "Free for All"
  | duel => "Duel"
  | race => "Race"
  | teamDeathmatch => "Team Deathmatch"
  | clanArena => "Clan Arena"
  | captureTheFlag => "Capture the Flag"
  | oneFlag => "One Flag"
  | harvester => "Harvester"
  | freezeTag => "Freeze Tag"
  | domination => "Domination"
  | attackAndDefend => "Attack and Defend"
  | redRover => "Red Rover"
  | unknown => "unknown"

/-- `type_short`. -/
def typeShort : GameTypes → String
  | freeForAll => "ffa"
  | duel => "duel"
  | race => "race"
  | teamDeathmatch => "tdm"
  | clanArena => "ca"
  | captureTheFlag => "ctf"
  | oneFlag => "1f"
  | harvester => "har"
  | freezeTag => "ft"
  | domination => "dom"
  | attackAndDefend => "ad"
  | redRover => "rr"
  | unknown => "N/A"

/-- `From<i32>`. -/
def ofInt : Int → GameTypes
  | 0 => freeForAll
  | 1 => duel
  | 2 => race
  | 3 => teamDeathmatch
  | 4 => clanArena
  | 5 => captureTheFlag
  | 6 => oneFlag
  | 8 => harvester
  | 9 => freezeTag
  | 10 => domination
  | 11 => attackAndDefend
  | 12 => redRover
  | _ => unknown

end GameTypes

/-- The engine with its console and its configstrings. -/
structure GameEngine (S : Type) extends CvarEngine S where
  executeConsoleCommand : String → S → S
  getConfigstring : Nat → S → String

/-- `Game`. -/
structure Game where
  cached : Bool
  valid : Bool
  deriving DecidableEq

/-- The server, and a game object that a plugin has. -/
structure GameState (S : Type) where
  server : S
  game : Game

/-- What a plugin sets tags to: a text, an iterable by the texts of its items, or something else. -/
inductive TagsArgument where
  | text (tags : String)
  | items (tags : List String)
  | other

/-- What is read of a game. -/
inductive GameRead where
  | contains (item : String)
  | item (item : String)
  | cvars
  | gametype
  | typeShort
  | map
  | redScore
  | blueScore
  | state
  | factory
  | factoryTitle
  | hostname
  | instagib
  | loadout
  | maxclients
  | timelimit
  | fraglimit
  | roundlimit
  | roundtimelimit
  | scorelimit
  | capturelimit
  | teamsize
  | tags
  | repr (qualname : PyResult String)
  | str
  | cached
  | valid

/-- What is set of a game. -/
inductive GameWrite where
  | map (value : String)
  | factory (value : String)
  | hostname (value : String)
  | instagib (value : PyScalar)
  | loadout (value : PyScalar)
  | maxclients (value : Int32)
  | timelimit (value : Int32)
  | fraglimit (value : Int32)
  | roundlimit (value : Int32)
  | roundtimelimit (value : Int32)
  | scorelimit (value : Int32)
  | capturelimit (value : Int32)
  | teamsize (value : Int32)
  | tags (value : TagsArgument)

/-- A class method that is a command of the console. -/
inductive GameCommand where
  | shuffle
  | timeout
  | timein
  | allready
  | pause
  | unpause
  | lock (team : Option String)
  | unlock (team : Option String)
  | opsay (msg : String)
  | abort
  | addteamscore (team : String) (score : Int32)
  | setmatchtime (time : Int32)

/-- What happens: a plugin reads, sets or commands, or anything else changes the server. -/
inductive GameObjectCall (S : Type) where
  | read (r : GameRead)
  | write (w : GameWrite)
  | command (c : GameCommand)
  | server (change : S → S)

/-- What a call returns. -/
inductive GameAnswer where
  | unit
  | bool (b : Bool)
  | int (i : Int)
  | text (s : String)
  | texts (ss : List String)
  | dict (d : PyDict)
  deriving DecidableEq

/-- The result of a method of a game, and what it leaves. -/
abbrev GameResult (S α : Type) := PyResult α × GameState S

namespace GameObject
variable {S : Type}

/-- A result that is converted. -/
def convert {α β : Type} (f : α → PyResult β) (r : GameResult S α) : GameResult S β :=
  (r.1.bind f, r.2)

/-- The error without an engine. -/
def noEngine : PyErr := .environmentError "main quake live engine not set"

/-- The error of a game that is gone. -/
def gone : PyErr :=
  .raised "NonexistentGameError: Invalid game. Is the server loading a new map?"

variable (engine : Option (GameEngine S)) (pick : Nat)

/-! ## What is read -/

/-- The variables of the server info; a game without them is not valid any more. -/
def serverinfo (s : GameState S) : GameResult S ParsedVariables :=
  match engine with
  | none => (.error noEngine, s)
  | some engine =>
    let configstring := engine.getConfigstring csServerinfo s.server
    if configstring = "" then (.error gone, { s with game := { s.game with valid := false } })
    else (.ok (parseVariables configstring), s)

/-- `Game(cached)`. -/
def pyNew (cached : Bool) (s : S) : PyResult Game :=
  match engine with
  | none => .error noEngine
  | some engine =>
    if engine.getConfigstring csServerinfo s = "" then
      .error (.raised "NonexistentGameError: Tried to instantiate a game while no game is active.")
    else .ok ⟨cached, true⟩

/-- `__contains__`. -/
def contains (item : String) (s : GameState S) : GameResult S Bool :=
  convert (fun vars => .ok (vars.get pick item).isSome) (serverinfo engine s)

/-- `__getitem__`. -/
def getItem (item : String) (s : GameState S) : GameResult S String :=
  convert (fun vars =>
    match vars.get pick item with
    | some value => .ok value
    | none => .error (.keyError s!"'{item}'")) (serverinfo engine s)

/-- `get_cvars`. -/
def getCvars (s : GameState S) : GameResult S PyDict :=
  convert (fun vars => .ok (ClientCommand.intoPyDict vars)) (serverinfo engine s)

/-- The type of a game that a text stands for. -/
def gameTypeOf (value : String) : GameTypes :=
  match Text.parseInt 32 value with
  | some i => .ofInt i
  | none => .unknown

/-- `get_gametype`. -/
def getGametype (s : GameState S) : GameResult S String :=
  convert (fun value => .ok (gameTypeOf value).typeLong) (getItem engine pick "g_gametype" s)

/-- `get_gametype_short`. -/
def getGametypeShort (s : GameState S) : GameResult S String :=
  convert (fun value => .ok (gameTypeOf value).typeShort) (getItem engine pick "g_gametype" s)

/-- `get_map`. -/
def getMap (s : GameState S) : GameResult S String := getItem engine pick "mapname" s

/-- A score; there is none in a text that is no number. -/
def getScore (index : Nat) (s : GameState S) : GameResult S Int :=
  match engine with
  | none => (.error noEngine, s)
  | some engine =>
    (.ok ((Text.parseInt 32 (engine.getConfigstring index s.server)).getD 0), s)

/-- `get_red_score`. -/
def getRedScore (s : GameState S) : GameResult S Int := getScore engine csScores1 s

/-- `get_blue_score`. -/
def getBlueScore (s : GameState S) : GameResult S Int := getScore engine csScores2 s

/-- The state of the game that a text stands for. -/
def stateOf (value : String) : String :=
  if value = "PRE_GAME" then "warmup"
  else if value = "COUNT_DOWN" then "countdown"
  else if value = "IN_PROGRESS" then "in_progress"
  else value

/-- `get_state`. -/
def getState (s : GameState S) : GameResult S String :=
  convert (fun value => .ok (stateOf value)) (getItem engine pick "g_gameState" s)

/-- `get_factory`. -/
def getFactory (s : GameState S) : GameResult S String := getItem engine pick "g_factory" s

/-- `get_factory_title`. -/
def getFactoryTitle (s : GameState S) : GameResult S String :=
  getItem engine pick "g_factoryTitle" s

/-- `get_hostname`. -/
def getHostname (s : GameState S) : GameResult S String := getItem engine pick "sv_hostname" s

/-- A text that is a number other than zero. -/
def isFlag (value : String) : Bool := (Text.parseInt 32 value).any (· ≠ 0)

/-- `get_instagib`. -/
def getInstagib (s : GameState S) : GameResult S Bool :=
  convert (fun value => .ok (isFlag value)) (getItem engine pick "g_instagib" s)

/-- `get_loadout`. -/
def getLoadout (s : GameState S) : GameResult S Bool :=
  convert (fun value => .ok (isFlag value)) (getItem engine pick "g_loadout" s)

/-- The number that a text stands for, or zero. -/
def numberOf (value : String) : Int := (Text.parseInt 32 value).getD 0

/-- A variable as a number. -/
def getNumber (item : String) (s : GameState S) : GameResult S Int :=
  convert (fun value => .ok (numberOf value)) (getItem engine pick item s)

/-- `get_maxclients`. -/
def getMaxclients (s : GameState S) : GameResult S Int := getNumber engine pick "sv_maxclients" s

/-- `get_timelimit`. -/
def getTimelimit (s : GameState S) : GameResult S Int := getNumber engine pick "timelimit" s

/-- `get_fraglimit`. -/
def getFraglimit (s : GameState S) : GameResult S Int := getNumber engine pick "fraglimit" s

/-- `get_roundlimit`. -/
def getRoundlimit (s : GameState S) : GameResult S Int := getNumber engine pick "roundlimit" s

/-- `get_roundtimelimit`. -/
def getRoundtimelimit (s : GameState S) : GameResult S Int :=
  getNumber engine pick "roundtimelimit" s

/-- `get_scorelimit`. -/
def getScorelimit (s : GameState S) : GameResult S Int := getNumber engine pick "scorelimit" s

/-- `get_capturelimit`. -/
def getCapturelimit (s : GameState S) : GameResult S Int := getNumber engine pick "capturelimit" s

/-- `get_teamsize`. -/
def getTeamsize (s : GameState S) : GameResult S Int := getNumber engine pick "teamsize" s

/-- `get_tags`. -/
def getTags (s : GameState S) : GameResult S (List String) :=
  convert (fun value => .ok (Text.split ',' value)) (getItem engine pick "sv_tags" s)

/-- `__repr__`, for a class of some name. -/
def repr (qualname : PyResult String) (s : GameState S) : String × GameState S :=
  let (gametype, s) := getGametype engine pick s
  let (map, s) := getMap engine pick s
  match qualname, gametype, map with
  | .ok classname, .ok factoryType, .ok mapname => (s!"{classname}({factoryType}@{mapname})", s)
  | _, _, _ => ("Game(N/A@N/A)", s)

/-- `__str__`. -/
def str (s : GameState S) : String × GameState S :=
  match getGametype engine pick s with
  | (.error _, s) => ("Invalid game", s)
  | (.ok factoryType, s) =>
    match getMap engine pick s with
    | (.error _, s) => ("Invalid game", s)
    | (.ok mapname, s) => (s!"{factoryType} on {mapname}", s)

/-! ## What is set -/

/-- `console_command`. -/
def consoleCommand (cmd : String) (s : GameState S) : GameResult S Unit :=
  match engine with
  | none => (.error noEngine, s)
  | some engine => (.ok (), { s with server := engine.executeConsoleCommand cmd s.server })

/-- `pyshinqlx_set_cvar`, with its answer dropped. -/
def setCvar (cvar value : String) (s : GameState S) : GameResult S Unit :=
  let (result, server) := Cvars.setCvar (engine.map (·.toCvarEngine)) cvar value s.server
  (result.map fun _ => (), { s with server := server })

/-- `set_map`. -/
def setMap (value : String) (s : GameState S) : GameResult S Unit :=
  consoleCommand engine s!"map {value}" s

/-- `set_factory`. -/
def setFactory (value : String) (s : GameState S) : GameResult S Unit :=
  match getMap engine pick s with
  | (.error e, s) => (.error e, s)
  | (.ok mapname, s) => consoleCommand engine s!"map {mapname} {value}" s

/-- `set_hostname`. -/
def setHostname (value : String) (s : GameState S) : GameResult S Unit :=
  setCvar engine "sv_hostname" value s

/-- A cvar that is set to 0 or 1. -/
def setFlag (cvar name : String) (value : PyScalar) (s : GameState S) : GameResult S Unit :=
  match value with
  | .bool true | .int 1 => setCvar engine cvar "1" s
  | .bool false | .int 0 => setCvar engine cvar "0" s
  | _ => (.error (.valueError s!"{name} needs to be 0, 1, or a bool."), s)

/-- `set_instagib`. -/
def setInstagib (value : PyScalar) (s : GameState S) : GameResult S Unit :=
  setFlag engine "g_instagib" "instagib" value s

/-- `set_loadout`. -/
def setLoadout (value : PyScalar) (s : GameState S) : GameResult S Unit :=
  setFlag engine "g_loadout" "loadout" value s

/-- A cvar that is set to a number. -/
def setNumber (cvar : String) (value : Int32) (s : GameState S) : GameResult S Unit :=
  setCvar engine cvar (toString value.toInt) s

/-- `set_maxclients`. -/
def setMaxclients (value : Int32) (s : GameState S) : GameResult S Unit :=
  setNumber engine "sv_maxclients" value s

/-- `set_timelimit`. -/
def setTimelimit (value : Int32) (s : GameState S) : GameResult S Unit :=
  setNumber engine "timelimit" value s

/-- `set_fraglimit`. -/
def setFraglimit (value : Int32) (s : GameState S) : GameResult S Unit :=
  setNumber engine "fraglimit" value s

/-- `set_roundlimit`. -/
def setRoundlimit (value : Int32) (s : GameState S) : GameResult S Unit :=
  setNumber engine "roundlimit" value s

/-- `set_roundtimelimit`. -/
def setRoundtimelimit (value : Int32) (s : GameState S) : GameResult S Unit :=
  setNumber engine "roundtimelimit" value s

/-- `set_scorelimit`. -/
def setScorelimit (value : Int32) (s : GameState S) : GameResult S Unit :=
  setNumber engine "scorelimit" value s

/-- `set_capturelimit`. -/
def setCapturelimit (value : Int32) (s : GameState S) : GameResult S Unit :=
  setNumber engine "capturelimit" value s

/-- `set_teamsize`. -/
def setTeamsize (value : Int32) (s : GameState S) : GameResult S Unit :=
  setNumber engine "teamsize" value s

/-- `set_tags`. -/
def setTags (value : TagsArgument) (s : GameState S) : GameResult S Unit :=
  match value with
  | .text tags => setCvar engine "sv_tags" tags s
  | .items tags => setCvar engine "sv_tags" (",".intercalate tags) s
  | .other =>
    (.error (.valueError "tags need to be a string or an iterable returning strings."), s)

/-- The command of a class method about a team. -/
def teamCommand (toLowercase : String → String) (team : String) (cmd : String → String) :
    PyResult String :=
  match teamOf (toLowercase team) with
  | none => .error (.valueError "Invalid team.")
  | some team => .ok (cmd team)

/-- The command of a class method. -/
def commandText (toLowercase : String → String) : GameCommand → PyResult String
  | .shuffle => .ok "forceshuffle"
  | .timeout => .ok "timeout"
  | .timein => .ok "timein"
  | .allready => .ok "allready"
  | .pause => .ok "pause"
  | .unpause => .ok "unpause"
  | .lock none => .ok "lock"
  | .lock (some team) => teamCommand toLowercase team fun team => s!"lock {team}"
  | .unlock none => .ok "unlock"
  | .unlock (some team) => teamCommand toLowercase team fun team => s!"unlock {team}"
  | .opsay msg => .ok s!"opsay {msg}"
  | .abort => .ok "map_restart"
  | .addteamscore team score =>
    teamCommand toLowercase team fun team => s!"addteamscore {team} {score.toInt}"
  | .setmatchtime time => .ok s!"setmatchtime {time.toInt}"

/-! ## Calls -/

/-- A result as an answer. -/
def answered {α : Type} (f : α → GameAnswer) (r : GameResult S α) : GameResult S GameAnswer :=
  (r.1.map f, r.2)

/-- What is read. -/
def read (s : GameState S) : GameRead → GameResult S GameAnswer
  | .contains item => answered .bool (contains engine pick item s)
  | .item item => answered .text (getItem engine pick item s)
  | .cvars => answered .dict (getCvars engine s)
  | .gametype => answered .text (getGametype engine pick s)
  | .typeShort => answered .text (getGametypeShort engine pick s)
  | .map => answered .text (getMap engine pick s)
  | .redScore => answered .int (getRedScore engine s)
  | .blueScore => answered .int (getBlueScore engine s)
  | .state => answered .text (getState engine pick s)
  | .factory => answered .text (getFactory engine pick s)
  | .factoryTitle => answered .text (getFactoryTitle engine pick s)
  | .hostname => answered .text (getHostname engine pick s)
  | .instagib => answered .bool (getInstagib engine pick s)
  | .loadout => answered .bool (getLoadout engine pick s)
  | .maxclients => answered .int (getMaxclients engine pick s)
  | .timelimit => answered .int (getTimelimit engine pick s)
  | .fraglimit => answered .int (getFraglimit engine pick s)
  | .roundlimit => answered .int (getRoundlimit engine pick s)
  | .roundtimelimit => answered .int (getRoundtimelimit engine pick s)
  | .scorelimit => answered .int (getScorelimit engine pick s)
  | .capturelimit => answered .int (getCapturelimit engine pick s)
  | .teamsize => answered .int (getTeamsize engine pick s)
  | .tags => answered .texts (getTags engine pick s)
  | .repr qualname =>
    let (text, s) := repr engine pick qualname s
    (.ok (.text text), s)
  | .str =>
    let (text, s) := str engine pick s
    (.ok (.text text), s)
  | .cached => (.ok (.bool s.game.cached), s)
  | .valid => (.ok (.bool s.game.valid), s)

/-- What is set. -/
def write (s : GameState S) : GameWrite → GameResult S Unit
  | .map value => setMap engine value s
  | .factory value => setFactory engine pick value s
  | .hostname value => setHostname engine value s
  | .instagib value => setInstagib engine value s
  | .loadout value => setLoadout engine value s
  | .maxclients value => setMaxclients engine value s
  | .timelimit value => setTimelimit engine value s
  | .fraglimit value => setFraglimit engine value s
  | .roundlimit value => setRoundlimit engine value s
  | .roundtimelimit value => setRoundtimelimit engine value s
  | .scorelimit value => setScorelimit engine value s
  | .capturelimit value => setCapturelimit engine value s
  | .teamsize value => setTeamsize engine value s
  | .tags value => setTags engine value s

/-- One call, with the choice of its searches. -/
def step (toLowercase : String → String) (s : GameState S) (call : Nat × GameObjectCall S) :
    GameResult S GameAnswer :=
  match call.2 with
  | .read r => read engine call.1 s r
  | .write w => answered (fun _ => .unit) (write engine call.1 s w)
  | .command c =>
    match commandText toLowercase c with
    | .error e => (.error e, s)
    | .ok cmd => answered (fun _ => .unit) (consoleCommand engine cmd s)
  | .server change => (.ok .unit, { s with server := change s.server })

end GameObject

/-! ## The game as a table -/

/-- What the engine publishes about a game: variables that an info string keeps apart, each once. -/
structure ServerInfo where
  items : ParsedVariables
  nonempty : items ≠ []
  separable : ParsedVariables.Separable items
  keys : (items.map Prod.fst).Nodup

/-- The server info of the engine is what it has published, and empty without a game. -/
def GameEngine.Publishes {S : Type} (engine : GameEngine S) (view : S → Option ServerInfo) : Prop :=
  ∀ s, engine.getConfigstring csServerinfo s =
    (view s).elim "" fun info => ParsedVariables.infoString info.items

namespace GameTable
open GameObject (gameTypeOf stateOf isFlag numberOf)
variable {S : Type}

/-- The variable that is read, and what its text means. -/
def field : GameRead → Option (String × (String → GameAnswer))
  | .item item => some (item, .text)
  | .gametype => some ("g_gametype", fun value => .text (gameTypeOf value).typeLong)
  | .typeShort => some ("g_gametype", fun value => .text (gameTypeOf value).typeShort)
  | .map => some ("mapname", .text)
  | .state => some ("g_gameState", fun value => .text (stateOf value))
  | .factory => some ("g_factory", .text)
  | .factoryTitle => some ("g_factoryTitle", .text)
  | .hostname => some ("sv_hostname", .text)
  | .instagib => some ("g_instagib", fun value => .bool (isFlag value))
  | .loadout => some ("g_loadout", fun value => .bool (isFlag value))
  | .maxclients => some ("sv_maxclients", fun value => .int (numberOf value))
  | .timelimit => some ("timelimit", fun value => .int (numberOf value))
  | .fraglimit => some ("fraglimit", fun value => .int (numberOf value))
  | .roundlimit => some ("roundlimit", fun value => .int (numberOf value))
  | .roundtimelimit => some ("roundtimelimit", fun value => .int (numberOf value))
  | .scorelimit => some ("scorelimit", fun value => .int (numberOf value))
  | .capturelimit => some ("capturelimit", fun value => .int (numberOf value))
  | .teamsize => some ("teamsize", fun value => .int (numberOf value))
  | .tags => some ("sv_tags", fun value => .texts (Text.split ',' value))
  | _ => none

/-- The value of a variable. -/
def value (info : ServerInfo) (item : String) : PyResult String :=
  match Assoc.lookup item info.items with
  | some value => .ok value
  | none => .error (.keyError s!"'{item}'")

/-- The kind of game and the map, as they are shown. -/
def shown (info : ServerInfo) : PyResult (String × String) :=
  (value info "g_gametype").bind fun gametype =>
    (value info "mapname").map fun map => ((gameTypeOf gametype).typeLong, map)

/-- What is read of a game that is there. -/
def ofInfo (info : ServerInfo) (r : GameRead) : PyResult GameAnswer :=
  match field r with
  | some (item, meaning) => (value info item).map meaning
  | none =>
    match r with
    | .contains item => .ok (.bool (Assoc.lookup item info.items).isSome)
    | .cvars => .ok (.dict (info.items.map fun x => (.str x.1, .str x.2)))
    | .repr (.ok classname) =>
      .ok (.text (match shown info with
        | .ok (gametype, map) => s!"{classname}({gametype}@{map})"
        | .error _ => "Game(N/A@N/A)"))
    | .repr (.error _) => .ok (.text "Game(N/A@N/A)")
    | _ =>
      .ok (.text (match shown info with
        | .ok (gametype, map) => s!"{gametype} on {map}"
        | .error _ => "Invalid game"))

/-- What is read of a game that is gone. -/
def ofNothing : GameRead → PyResult GameAnswer
  | .repr _ => .ok (.text "Game(N/A@N/A)")
  | .str => .ok (.text "Invalid game")
  | _ => .error GameObject.gone

/-- What is not read of the server info. -/
def apart (engine : GameEngine S) (s : GameState S) : GameRead → Option GameAnswer
  | .cached => some (.bool s.game.cached)
  | .valid => some (.bool s.game.valid)
  | .redScore => some (.int (numberOf (engine.getConfigstring csScores1 s.server)))
  | .blueScore => some (.int (numberOf (engine.getConfigstring csScores2 s.server)))
  | _ => none

/-- What is read. -/
def read (engine : GameEngine S) (view : S → Option ServerInfo) (s : GameState S) (r : GameRead) :
    GameResult S GameAnswer :=
  match apart engine s r, view s.server with
  | some answer, _ => (.ok answer, s)
  | none, some info => (ofInfo info r, s)
  | none, none => (ofNothing r, { s with game := { s.game with valid := false } })

/-- The factory is set for the map that is played. -/
def setFactory (engine : GameEngine S) (view : S → Option ServerInfo) (factory : String)
    (s : GameState S) : GameResult S Unit :=
  match view s.server with
  | none => (.error GameObject.gone, { s with game := { s.game with valid := false } })
  | some info =>
    match value info "mapname" with
    | .error e => (.error e, s)
    | .ok map => GameObject.consoleCommand (some engine) s!"map {map} {factory}" s

/-- One call. -/
def step (engine : GameEngine S) (view : S → Option ServerInfo) (toLowercase : String → String)
    (s : GameState S) (call : GameObjectCall S) : GameResult S GameAnswer :=
  match call with
  | .read r => read engine view s r
  | .write (.factory value) =>
    GameObject.answered (fun _ => .unit) (setFactory engine view value s)
  | call => GameObject.step (some engine) toLowercase s (0, call)

end GameTable

/-! ## Both agree -/

namespace ParsedVariables

theorem infoString_ne_empty {items : ParsedVariables} (hne : items ≠ []) :
    infoString items ≠ "" := by
  intro hempty
  have hlist := toList_infoString hne
  rw [hempty] at hlist
  cases hlist

/-- Variables of different names are a dict as they are. -/
theorem intoPyDict_of_nodup {items : ParsedVariables} (h : (items.map Prod.fst).Nodup) :
    ClientCommand.intoPyDict items = items.map fun x => (.str x.1, .str x.2) := by
  induction items using List.reverseRecOn with
  | nil => rfl
  | append_singleton items x ih =>
    rw [List.map_append, List.map_singleton, List.nodup_append] at h
    obtain ⟨hitems, -, hnew⟩ := h
    have hnone : Assoc.lookup (PyScalar.str x.1) (ClientCommand.intoPyDict items) = none := by
      rw [ih hitems, Assoc.lookup_eq_none_iff, List.map_map]
      intro hmem
      obtain ⟨y, hy, hyx⟩ := List.mem_map.mp hmem
      exact hnew y.1 (List.mem_map_of_mem hy) x.1 (List.mem_singleton_self x.1)
        (PyScalar.str.inj hyx)
    have hstep : ClientCommand.intoPyDict (items ++ [x]) =
        Assoc.insert (.str x.1) (.str x.2) (ClientCommand.intoPyDict items) := by
      rw [ClientCommand.intoPyDict, List.foldl_concat]
      rfl
    rw [hstep, Assoc.insert, hnone, ih hitems, List.map_append]
    rfl

end ParsedVariables

namespace GameObject
open GameTable (value)
variable {S : Type} {engine : GameEngine S} {view : S → Option ServerInfo}

/-- The game is gone, and not valid any more. -/
def invalidated (s : GameState S) : GameState S := { s with game := { s.game with valid := false } }

theorem serverinfo_eq (h : engine.Publishes view) (s : GameState S) :
    serverinfo (some engine) s =
      match view s.server with
      | none => (.error gone, invalidated s)
      | some info => (.ok info.items, s) := by
  have htext := h s.server
  unfold serverinfo
  dsimp only
  cases hview : view s.server with
  | none =>
    rw [hview, Option.elim_none] at htext
    rw [htext]
    rfl
  | some info =>
    rw [hview, Option.elim_some] at htext
    rw [htext, if_neg (ParsedVariables.infoString_ne_empty info.nonempty),
      ParsedVariables.parseVariables_infoString info.nonempty info.separable]

/-- A game object can be made while there is a game, and it is valid. -/
theorem pyNew_eq_ok_iff (h : engine.Publishes view) (cached : Bool) (s : S) (game : Game) :
    pyNew (some engine) cached s = .ok game ↔ (view s).isSome = true ∧ game = ⟨cached, true⟩ := by
  unfold pyNew
  dsimp only
  rw [h s]
  cases hview : view s with
  | none =>
    rw [Option.elim_none, if_pos rfl]
    simp
  | some info =>
    rw [Option.elim_some, if_neg (ParsedVariables.infoString_ne_empty info.nonempty)]
    simp [eq_comm]

/-- **A variable** is looked up in what was published. -/
theorem getItem_eq (h : engine.Publishes view) (pick : Nat) (item : String) (s : GameState S) :
    getItem (some engine) pick item s =
      match view s.server with
      | none => (.error gone, invalidated s)
      | some info => (value info item, s) := by
  unfold getItem
  rw [serverinfo_eq h]
  cases view s.server with
  | none => rfl
  | some info =>
    dsimp only [convert, Except.bind]
    rw [ParsedVariables.get_eq_lookup pick item info.keys, value]

/-- A variable that is converted. -/
theorem convert_getItem_eq {α : Type} (h : engine.Publishes view) (pick : Nat) (item : String)
    (s : GameState S) (meaning : String → α) (answer : α → GameAnswer) :
    answered answer (convert (fun v => .ok (meaning v)) (getItem (some engine) pick item s)) =
      match view s.server with
      | none => (.error gone, invalidated s)
      | some info => ((value info item).map (answer ∘ meaning), s) := by
  rw [getItem_eq h]
  cases view s.server with
  | none => rfl
  | some info =>
    dsimp only [answered, convert]
    cases value info item <;> rfl

/-- **What is read** is what the table says, whatever the searches choose. -/
theorem read_eq (h : engine.Publishes view) (pick : Nat) (s : GameState S) (r : GameRead) :
    read (some engine) pick s r = GameTable.read engine view s r := by
  have hitem : ∀ item, answered .text (getItem (some engine) pick item s) =
      match view s.server with
      | none => (.error gone, invalidated s)
      | some info => ((value info item).map .text, s) := by
    intro item
    rw [getItem_eq h]
    cases view s.server <;> rfl
  cases r with
  | cached | valid | redScore | blueScore => rfl
  | item | map | factory | factoryTitle | hostname =>
    refine (hitem _).trans ?_
    unfold GameTable.read
    cases view s.server <;> rfl
  | gametype | typeShort | state | instagib | loadout | maxclients | timelimit | fraglimit
  | roundlimit | roundtimelimit | scorelimit | capturelimit | teamsize | tags =>
    refine (convert_getItem_eq h pick _ s _ _).trans ?_
    unfold GameTable.read
    cases view s.server <;> rfl
  | contains item =>
    show answered .bool (contains (some engine) pick item s) = _
    unfold contains GameTable.read
    rw [serverinfo_eq h]
    cases view s.server with
    | none => rfl
    | some info =>
      dsimp only [answered, convert, Except.bind]
      rw [ParsedVariables.get_eq_lookup pick item info.keys]
      rfl
  | cvars =>
    show answered .dict (getCvars (some engine) s) = _
    unfold getCvars GameTable.read
    rw [serverinfo_eq h]
    cases view s.server with
    | none => rfl
    | some info =>
      dsimp only [answered, convert, Except.bind]
      rw [ParsedVariables.intoPyDict_of_nodup info.keys]
      rfl
  | repr qualname =>
    unfold read repr getGametype getMap GameTable.read
    rw [getItem_eq h]
    cases hview : view s.server with
    | none =>
      dsimp only [convert, Except.bind]
      rw [getItem_eq h]
      simp only [invalidated, hview]
      rfl
    | some info =>
      dsimp only [convert]
      rw [getItem_eq h]
      simp only [hview, GameTable.apart, GameTable.ofInfo, GameTable.shown, GameTable.field]
      cases qualname <;> cases value info "g_gametype" <;> cases value info "mapname" <;> rfl
  | str =>
    unfold read str getGametype getMap GameTable.read
    rw [getItem_eq h]
    cases hview : view s.server with
    | none => rfl
    | some info =>
      dsimp only [convert]
      simp only [GameTable.apart, GameTable.ofInfo, GameTable.shown, GameTable.field]
      cases value info "g_gametype" with
      | error e => rfl
      | ok gametype =>
        dsimp only [Except.bind]
        rw [getItem_eq h]
        simp only [hview]
        cases value info "mapname" <;> rfl

/-- **One call** does what it does to the table. -/
theorem step_eq (h : engine.Publishes view) (toLowercase : String → String) (s : GameState S)
    (call : Nat × GameObjectCall S) :
    step (some engine) toLowercase s call = GameTable.step engine view toLowercase s call.2 := by
  obtain ⟨pick, call⟩ := call
  cases call with
  | read r => exact read_eq h pick s r
  | command c => rfl
  | server change => rfl
  | write w =>
    cases w with
    | factory factory =>
      show answered _ (setFactory (some engine) pick factory s) = _
      unfold setFactory getMap GameTable.step GameTable.setFactory
      rw [getItem_eq h]
      cases view s.server with
      | none => rfl
      | some info =>
        dsimp only
        cases value info "mapname" <;> rfl
    | map | hostname | instagib | loadout | maxclients | timelimit | fraglimit | roundlimit
    | roundtimelimit | scorelimit | capturelimit | teamsize | tags => rfl

/-! ## Runs -/

/-- A cvar that is set to a text, and the answer that is read of it. -/
structure SetField where
  cvar : String
  text : String
  read : GameRead
  answer : GameAnswer

/-- The meaning of a flag. -/
def flagOf : PyScalar → Option Bool
  | .bool b => some b
  | .int 0 => some false
  | .int 1 => some true
  | _ => none

/-- A flag that is set. -/
def flagField (cvar : String) (read : GameRead) (value : PyScalar) : Option SetField :=
  (flagOf value).map fun b => ⟨cvar, if b then "1" else "0", read, .bool b⟩

/-- A number that is set. -/
def numberField (cvar : String) (read : GameRead) (value : Int32) : Option SetField :=
  some ⟨cvar, toString value.toInt, read, .int value.toInt⟩

/-- What a write sets: tags with a comma are several. -/
def setField : GameWrite → Option SetField
  | .map _ | .factory _ | .tags .other => none
  | .hostname value => some ⟨"sv_hostname", value, .hostname, .text value⟩
  | .instagib value => flagField "g_instagib" .instagib value
  | .loadout value => flagField "g_loadout" .loadout value
  | .maxclients value => numberField "sv_maxclients" .maxclients value
  | .timelimit value => numberField "timelimit" .timelimit value
  | .fraglimit value => numberField "fraglimit" .fraglimit value
  | .roundlimit value => numberField "roundlimit" .roundlimit value
  | .roundtimelimit value => numberField "roundtimelimit" .roundtimelimit value
  | .scorelimit value => numberField "scorelimit" .scorelimit value
  | .capturelimit value => numberField "capturelimit" .capturelimit value
  | .teamsize value => numberField "teamsize" .teamsize value
  | .tags (.text tags) => some ⟨"sv_tags", tags, .tags, .texts (Text.split ',' tags)⟩
  | .tags (.items []) => some ⟨"sv_tags", "", .tags, .texts [""]⟩
  | .tags (.items tags) =>
    some ⟨"sv_tags", ",".intercalate tags, .tags, .texts (tags.flatMap (Text.split ','))⟩

/-- A call looks into the server info. -/
def consults : GameObjectCall S → Bool
  | .read .cached | .read .valid | .read .redScore | .read .blueScore => false
  | .read _ | .write (.factory _) => true
  | .write _ | .command _ | .server _ => false

theorem setFlag_eq {value : PyScalar} {b : Bool} (h : flagOf value = some b)
    (engine : Option (GameEngine S)) (cvar name : String) (s : GameState S) :
    setFlag engine cvar name value s = setCvar engine cvar (if b then "1" else "0") s := by
  unfold flagOf at h
  split at h
  · rename_i b'
    obtain rfl : b' = b := Option.some.inj h
    cases b' <;> rfl
  · cases h
    rfl
  · cases h
    rfl
  · cases h

/-- A write of a field sets its cvar. -/
theorem write_eq_setCvar {w : GameWrite} {f : SetField} (hf : setField w = some f)
    (engine : Option (GameEngine S)) (pick : Nat) (s : GameState S) :
    write engine pick s w = setCvar engine f.cvar f.text s := by
  have hflag : ∀ {cvar read value} (name : String), flagField cvar read value = some f →
      setFlag engine cvar name value s = setCvar engine f.cvar f.text s := by
    intro cvar read value name hflag
    obtain ⟨b, hb, rfl⟩ := Option.map_eq_some_iff.mp hflag
    exact setFlag_eq hb engine cvar name s
  cases w with
  | map value | factory value => cases hf
  | hostname value =>
    cases hf
    rfl
  | instagib value => exact hflag "instagib" hf
  | loadout value => exact hflag "loadout" hf
  | maxclients value | timelimit value | fraglimit value | roundlimit value | roundtimelimit value
  | scorelimit value | capturelimit value | teamsize value =>
    cases hf
    rfl
  | tags value =>
    cases value with
    | other => cases hf
    | text tags =>
      cases hf
      rfl
    | items tags =>
      cases tags with
      | nil =>
        cases hf
        rfl
      | cons tag tags =>
        cases hf
        rfl

/-- The cvars that are set have no NUL in their names. -/
theorem nulFree_of_setField {w : GameWrite} {f : SetField} (hf : setField w = some f) :
    NulFree f.cvar := by
  cases w with
  | map value | factory value => cases hf
  | instagib value | loadout value =>
    obtain ⟨b, hb, rfl⟩ := Option.map_eq_some_iff.mp hf
    dsimp only
    decide
  | tags value =>
    rcases value with tags | (_ | ⟨tag, tags⟩) | _ <;> cases hf <;> dsimp only <;> decide
  | hostname value | maxclients value | timelimit value | fraglimit value | roundlimit value
  | roundtimelimit value | scorelimit value | capturelimit value | teamsize value =>
    cases hf
    dsimp only
    decide

/-- What was set is what is read of the text. -/
theorem field_of_setField {w : GameWrite} {f : SetField} (hf : setField w = some f) :
    ∃ meaning, GameTable.field f.read = some (f.cvar, meaning) ∧ meaning f.text = f.answer := by
  have hnumber : ∀ value : Int32, numberOf (toString value.toInt) = value.toInt := by
    intro value
    rw [numberOf, Text.parseInt_toString, if_pos ⟨value.le_toInt, value.toInt_lt⟩]
    rfl
  have hflag : ∀ b : Bool, isFlag (if b then "1" else "0") = b := by decide +kernel
  cases w with
  | map value | factory value => cases hf
  | hostname value =>
    cases hf
    exact ⟨_, rfl, rfl⟩
  | instagib value | loadout value =>
    obtain ⟨b, hb, rfl⟩ := Option.map_eq_some_iff.mp hf
    exact ⟨_, rfl, congrArg GameAnswer.bool (hflag b)⟩
  | maxclients value | timelimit value | fraglimit value | roundlimit value | roundtimelimit value
  | scorelimit value | capturelimit value | teamsize value =>
    cases hf
    exact ⟨_, rfl, congrArg GameAnswer.int (hnumber value)⟩
  | tags value =>
    cases value with
    | other => cases hf
    | text tags =>
      cases hf
      exact ⟨_, rfl, rfl⟩
    | items tags =>
      cases tags with
      | nil =>
        cases hf
        exact ⟨_, rfl, rfl⟩
      | cons tag tags =>
        cases hf
        exact ⟨_, rfl, congrArg GameAnswer.texts (Text.split_intercalate rfl (List.cons_ne_nil _ _))⟩

theorem answered_eq_error {α : Type} {r : GameResult S α} {f : α → GameAnswer} {e : PyErr} :
    (answered f r).1 = .error e ↔ r.1 = .error e := by
  show r.1.map f = _ ↔ _
  cases r.1 <;> simp [Except.map]

/-- A result that leaves the game object as it is, and the server too if it is an error. -/
structure Frame {α : Type} (s : GameState S) (r : GameResult S α) : Prop where
  game : r.2.game = s.game
  failed : ∀ e, r.1 = .error e → r.2.server = s.server

namespace Frame
variable {α : Type} {s : GameState S} {e : PyErr}

theorem error : Frame s (((.error e : PyResult α), s) : GameResult S α) := ⟨rfl, fun _ _ => rfl⟩

theorem answered {r : GameResult S α} (h : Frame s r) (f : α → GameAnswer) :
    Frame s (answered f r) :=
  ⟨h.game, fun e he => h.failed e (answered_eq_error.mp he)⟩

theorem consoleCommand (engine : Option (GameEngine S)) (cmd : String) :
    Frame s (consoleCommand engine cmd s) := by
  cases engine with
  | none => exact error
  | some engine => exact ⟨rfl, nofun⟩

theorem setCvar (engine : Option (GameEngine S)) (cvar value : String) :
    Frame s (setCvar engine cvar value s) := by
  refine ⟨rfl, fun e he => ?_⟩
  cases engine with
  | none => rfl
  | some engine =>
    simp only [GameObject.setCvar, Cvars.setCvar, Option.map_some] at he
    split at he <;> cases he

theorem setFlag (engine : Option (GameEngine S)) (cvar name : String) (value : PyScalar) :
    Frame s (setFlag engine cvar name value s) := by
  unfold GameObject.setFlag
  split
  · exact setCvar ..
  · exact setCvar ..
  · exact setCvar ..
  · exact setCvar ..
  · exact error

/-- What is set, but for the factory, which looks for the map. -/
theorem write (engine : Option (GameEngine S)) (pick : Nat) {w : GameWrite}
    (hw : ∀ value, w ≠ .factory value) : Frame s (write engine pick s w) := by
  cases w with
  | factory value => exact absurd rfl (hw value)
  | map value => exact consoleCommand ..
  | hostname | maxclients | timelimit | fraglimit | roundlimit | roundtimelimit | scorelimit
  | capturelimit | teamsize => exact setCvar ..
  | instagib | loadout => exact setFlag ..
  | tags value =>
    cases value with
    | text | items => exact setCvar ..
    | other => exact error

theorem command (engine : Option (GameEngine S)) (toLowercase : String → String)
    (call : Nat) (c : GameCommand) : Frame s (step engine toLowercase s (call, .command c)) := by
  unfold step
  dsimp only
  cases commandText toLowercase c with
  | error e => exact error
  | ok cmd => exact (consoleCommand ..).answered _

end Frame

/-- The factory is set if the map is known. -/
theorem setFactory_frame (engine : GameEngine S) (view : S → Option ServerInfo) (factory : String)
    (s : GameState S) :
    (GameTable.setFactory engine view factory s).2.game.valid =
        (s.game.valid && (view s.server).isSome) ∧
      ∀ e, (GameTable.setFactory engine view factory s).1 = .error e →
        (GameTable.setFactory engine view factory s).2.server = s.server := by
  unfold GameTable.setFactory
  cases view s.server with
  | none => exact ⟨by simp, fun _ _ => rfl⟩
  | some info =>
    dsimp only
    cases value info "mapname" with
    | error e => exact ⟨by simp, fun _ _ => rfl⟩
    | ok map =>
      have hframe := Frame.consoleCommand (s := s) (some engine) s!"map {map} {factory}"
      exact ⟨by simp [hframe.game], hframe.failed⟩

/-- A game stays valid unless a call finds it gone. -/
theorem valid_step (h : engine.Publishes view) (toLowercase : String → String) (s : GameState S)
    (call : Nat × GameObjectCall S) :
    (step (some engine) toLowercase s call).2.game.valid =
      (s.game.valid && (!consults call.2 || (view s.server).isSome)) := by
  obtain ⟨pick, call⟩ := call
  cases call with
  | server change => simp [step, consults]
  | command c => simp [(Frame.command (some engine) toLowercase pick c).game, consults]
  | write w =>
    by_cases hw : ∃ value, w = .factory value
    · obtain ⟨factory, rfl⟩ := hw
      rw [step_eq h]
      exact (setFactory_frame engine view factory s).1
    · have hframe := Frame.write (s := s) (some engine) pick (w := w)
        fun value heq => hw ⟨value, heq⟩
      have hnone : consults (S := S) (.write w) = false := by
        cases w with
        | factory value => exact absurd ⟨value, rfl⟩ hw
        | _ => rfl
      show (write (some engine) pick s w).2.game.valid = _
      rw [hnone, hframe.game]
      simp
  | read r =>
    rw [step_eq h]
    show (GameTable.read engine view s r).2.game.valid = _
    unfold GameTable.read
    cases hview : view s.server with
    | none => cases r <;> simp [GameTable.apart, consults]
    | some info => cases r <;> simp [GameTable.apart, consults]

/-- What is read, and what fails, leaves the server as it is. -/
theorem server_step (h : engine.Publishes view) (toLowercase : String → String) (s : GameState S)
    (call : Nat × GameObjectCall S)
    (hkeeps : (∃ r, call.2 = .read r) ∨
      ∃ e, (step (some engine) toLowercase s call).1 = .error e) :
    (step (some engine) toLowercase s call).2.server = s.server := by
  obtain ⟨pick, call⟩ := call
  cases call with
  | server change =>
    rcases hkeeps with ⟨r, hr⟩ | ⟨e, he⟩
    · cases hr
    · cases he
  | command c =>
    rcases hkeeps with ⟨r, hr⟩ | ⟨e, he⟩
    · cases hr
    · exact (Frame.command (some engine) toLowercase pick c).failed e he
  | write w =>
    rcases hkeeps with ⟨r, hr⟩ | ⟨e, he⟩
    · cases hr
    · by_cases hw : ∃ value, w = .factory value
      · obtain ⟨factory, rfl⟩ := hw
        rw [step_eq h] at he ⊢
        exact (setFactory_frame engine view factory s).2 e (answered_eq_error.mp he)
      · exact ((Frame.write (some engine) pick fun value heq => hw ⟨value, heq⟩).answered _).failed
          e he
  | read r =>
    rw [step_eq h]
    show (GameTable.read engine view s r).2.server = _
    unfold GameTable.read
    cases GameTable.apart engine s r <;> cases view s.server <;> rfl

/-- What has a field is read of the server info. -/
theorem read_of_field {r : GameRead} {item text : String} {meaning : String → GameAnswer}
    (hfield : GameTable.field r = some (item, meaning)) {s : GameState S} {info : ServerInfo}
    (hview : view s.server = some info) (hitem : Assoc.lookup item info.items = some text) :
    GameTable.read engine view s r = (.ok (meaning text), s) := by
  have hapart : GameTable.apart engine s r = none := by
    cases r <;> first | rfl | cases hfield
  unfold GameTable.read
  rw [hapart, hview]
  dsimp only
  have hvalue : value info item = .ok text := by
    unfold GameTable.value
    rw [hitem]
  unfold GameTable.ofInfo
  rw [hfield]
  show ((value info item).map meaning, s) = _
  rw [hvalue]
  rfl

/-- A cvar is in the server info as it is. -/
def Published (engine : GameEngine S) (view : S → Option ServerInfo) (cvar : String) (s : S) :
    Prop :=
  ∃ info, view s = some info ∧ Assoc.lookup cvar info.items = engine.findCvar cvar s

/-- What a write has set is read once it is published, if nothing else sets the cvar. -/
theorem read_back (h : engine.Publishes view) (hlaw : engine.Lawful)
    (toLowercase : String → String) (s : GameState S) (pick : Nat) {w : GameWrite} {f : SetField}
    (hf : setField w = some f) (hset : engine.Settable f.cvar) (hnul : NulFree f.text)
    (between : List (Nat × GameObjectCall S))
    (hkeeps : ∀ st ∈ Run.steps (step (some engine) toLowercase)
        (step (some engine) toLowercase s (pick, .write w)).2 between,
      engine.findCvar f.cvar st.after.server = engine.findCvar f.cvar st.before.server)
    (hpublished : Published engine view f.cvar
      (Run.final (step (some engine) toLowercase) s ((pick, .write w) :: between)).server)
    (pick' : Nat) :
    read (some engine) pick'
        (Run.final (step (some engine) toLowercase) s ((pick, .write w) :: between)) f.read =
      (.ok f.answer,
        Run.final (step (some engine) toLowercase) s ((pick, .write w) :: between)) := by
  have hwritten : engine.findCvar f.cvar
      (step (some engine) toLowercase s (pick, .write w)).2.server = some f.text := by
    show engine.findCvar f.cvar (write (some engine) pick s w).2.server = some f.text
    rw [write_eq_setCvar hf]
    exact (Cvars.setCvar_found hlaw hset (nulFree_of_setField hf) hnul s.server).choose_spec.2
  have hfinal := Run.invariant_of_good
    (fun s : GameState S => engine.findCvar f.cvar s.server = some f.text)
    (fun s call hs hsame => Eq.trans hsame hs) hwritten between hkeeps
  obtain ⟨info, hview, hitem⟩ := hpublished
  obtain ⟨meaning, hfield, hmeaning⟩ := field_of_setField hf
  rw [read_eq h, read_of_field hfield hview (hitem.trans hfinal), hmeaning]

/-- A run with a game object: every answer is that of the table, whatever the searches choose; the
object is valid until a call finds the game gone; reads and failures leave the server as it is; and
what is set is read back, as soon as it is published. -/
structure GameRefined (engine : GameEngine S) (view : S → Option ServerInfo)
    (toLowercase : String → String) (start : GameState S) (calls : List (Nat × GameObjectCall S)) :
    Prop where
  answers : (Run.steps (step (some engine) toLowercase) start calls).map Run.Step.result =
    (Run.steps (GameTable.step engine view toLowercase) start
      (calls.map Prod.snd)).map Run.Step.result
  final : Run.final (step (some engine) toLowercase) start calls =
    Run.final (GameTable.step engine view toLowercase) start (calls.map Prod.snd)
  valid : (Run.final (step (some engine) toLowercase) start calls).game.valid = true ↔
    start.game.valid = true ∧ ∀ st ∈ Run.steps (step (some engine) toLowercase) start calls,
      consults st.call.2 = true → (view st.before.server).isSome = true
  kept : ∀ st ∈ Run.steps (step (some engine) toLowercase) start calls,
    ((∃ r, st.call.2 = .read r) ∨ ∃ e, st.result = .error e) →
      st.after.server = st.before.server
  readBack : ∀ before pick w between f, calls = before ++ (pick, .write w) :: between →
    setField w = some f → engine.Settable f.cvar → NulFree f.text →
    (∀ st ∈ Run.steps (step (some engine) toLowercase)
        (Run.final (step (some engine) toLowercase) start (before ++ [(pick, .write w)])) between,
      engine.findCvar f.cvar st.after.server = engine.findCvar f.cvar st.before.server) →
    Published engine view f.cvar (Run.final (step (some engine) toLowercase) start calls).server →
    ∀ pick', read (some engine) pick' (Run.final (step (some engine) toLowercase) start calls)
      f.read = (.ok f.answer, Run.final (step (some engine) toLowercase) start calls)

/-- **A game object is a view of the table that the engine publishes.** -/
theorem game_refined (h : engine.Publishes view) (hlaw : engine.Lawful)
    (toLowercase : String → String) (start : GameState S)
    (calls : List (Nat × GameObjectCall S)) :
    GameRefined engine view toLowercase start calls := by
  have hsame : ∀ (s : GameState S) (calls : List (Nat × GameObjectCall S)),
      (Run.steps (step (some engine) toLowercase) s calls).map Run.Step.result =
          (Run.steps (GameTable.step engine view toLowercase) s
            (calls.map Prod.snd)).map Run.Step.result ∧
        Run.final (step (some engine) toLowercase) s calls =
          Run.final (GameTable.step engine view toLowercase) s (calls.map Prod.snd) := by
    intro s calls
    induction calls generalizing s with
    | nil => exact ⟨rfl, rfl⟩
    | cons call calls ih =>
      have hstep := step_eq h toLowercase s call
      obtain ⟨hresults, hfinal⟩ := ih (step (some engine) toLowercase s call).2
      rw [List.map_cons, Run.steps_cons, Run.steps_cons, Run.final_cons, Run.final_cons,
        List.map_cons, List.map_cons, hresults, hfinal, Run.take, Run.take, hstep]
      exact ⟨rfl, rfl⟩
  have hvalid : ∀ (s : GameState S) (calls : List (Nat × GameObjectCall S)),
      (Run.final (step (some engine) toLowercase) s calls).game.valid = true ↔
        s.game.valid = true ∧ ∀ st ∈ Run.steps (step (some engine) toLowercase) s calls,
          consults st.call.2 = true → (view st.before.server).isSome = true := by
    intro s calls
    induction calls generalizing s with
    | nil => simp
    | cons call calls ih =>
      rw [Run.final_cons, ih, valid_step h, Run.steps_cons, List.forall_mem_cons,
        Bool.and_eq_true, Bool.or_eq_true, and_assoc]
      refine and_congr_right fun _ => and_congr_left fun _ => ?_
      show _ ↔ (consults call.2 = true → (view s.server).isSome = true)
      cases consults call.2 <;> simp
  refine ⟨(hsame start calls).1, (hsame start calls).2, hvalid start calls, ?_, ?_⟩
  · exact Run.forall_steps (fun _ => True) (fun _ _ _ => trivial)
      (fun s call _ hkeeps => server_step h toLowercase s call hkeeps) trivial calls
  · rintro before pick w between f rfl hf hset hnul hkeeps hpublished pick'
    rw [Run.final_append] at hkeeps hpublished ⊢
    exact read_back h hlaw toLowercase _ pick hf hset hnul between hkeeps hpublished pick'

/-- A server with its cvars, and what it has published of them. -/
structure PublishedCvars where
  cvars : List (String × String)
  info : Option ServerInfo

instance (items : ParsedVariables) : Decidable (ParsedVariables.Separable items) :=
  inferInstanceAs (Decidable (∀ x ∈ items, '\\' ∉ x.1.toList ∧ '\\' ∉ x.2.toList))

/-- The server publishes its cvars. -/
def PublishedCvars.publish (s : PublishedCvars) : PublishedCvars :=
  { s with info :=
      if h : s.cvars ≠ [] ∧ ParsedVariables.Separable s.cvars ∧ (s.cvars.map Prod.fst).Nodup then
        some ⟨s.cvars, h.1, h.2.1, h.2.2⟩
      else none }

/-- An engine that publishes all of its cvars, and nothing else. -/
def publishedCvars : GameEngine PublishedCvars where
  findCvar name s := Cvars.table.findCvar name s.cvars
  getCvar name value s := { s with cvars := Cvars.table.getCvar name value s.cvars }
  setCvarForced name value forced s :=
    { s with cvars := Cvars.table.setCvarForced name value forced s.cvars }
  executeConsoleCommand _ s := s
  getConfigstring index s :=
    if index = csServerinfo then
      s.info.elim "" fun info => ParsedVariables.infoString info.items
    else ""

theorem PublishedCvars.publishes : publishedCvars.Publishes PublishedCvars.info := by
  intro s
  simp [publishedCvars]

theorem PublishedCvars.lawful : publishedCvars.Lawful where
  created name value s hname hvalue h :=
    Cvars.table_lawful.created name value s.cvars hname hvalue h
  others name other value s h := Cvars.table_lawful.others name other value s.cvars h

/-- A plugin sets the time limit, which is read when the server has published it, and asks for the
game again while the next map is loaded. -/
def timelimitCalls : List (Nat × GameObjectCall PublishedCvars) :=
  [(0, .write (.timelimit 20)), (1, .read .timelimit), (0, .server PublishedCvars.publish),
    (2, .read .timelimit), (1, .read .str), (0, .read (.contains "g_factory")),
    (0, .server fun s => { s with info := none }), (0, .read .str), (0, .read .valid),
    (0, .read .map)]

theorem game_refined_timelimit :
    GameRefined publishedCvars PublishedCvars.info id
      ⟨PublishedCvars.publish
        ⟨[("g_gametype", "4"), ("mapname", "campgrounds"), ("timelimit", "0")], none⟩,
        ⟨false, true⟩⟩ timelimitCalls ∧
    (Run.steps (step (some publishedCvars) id)
      ⟨PublishedCvars.publish
        ⟨[("g_gametype", "4"), ("mapname", "campgrounds"), ("timelimit", "0")], none⟩,
        ⟨false, true⟩⟩ timelimitCalls).map Run.Step.result =
      [.ok .unit, .ok (.int 0), .ok .unit, .ok (.int 20), .ok (.text "Clan Arena on campgrounds"),
        .ok (.bool false), .ok .unit, .ok (.text "Invalid game"), .ok (.bool false), .error gone] :=
  ⟨game_refined PublishedCvars.publishes PublishedCvars.lawful id _ _, by decide +kernel⟩

end GameObject
end ShinQlx
