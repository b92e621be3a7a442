import ShinQlx.Assoc
import ShinQlx.Python
import ShinQlx.Run
import ShinQlx.Text

/-! # Events from the ZMQ stats

The stats listener gets messages in JSON.  Each message that can be parsed is handed to
the `stats` event as it is; a few types of messages lead to further events.  The listener
runs in a thread of its own, so it dispatches nothing itself: it queues the dispatch for
the next frame.  One flag, `IN_PROGRESS`, is kept between messages: a report of a match
that has not started, or was reported before, does not end a game.

Parsing and writing JSON is not part of the repository; `JsonCodec` holds what the code
uses of it.
-/
namespace ShinQlx

/-- `serde_json::Value`. -/
inductive Json where
  | null
  | bool (b : Bool)
  | number (text : String)
  | string (s : String)
  | array (items : List Json)
  | object (fields : List (String × Json))

namespace Json

/-- `v[key]`: what is missing is `null`. -/
def get (key : String) : Json → Json
  | .object fields => (Assoc.lookup key fields).getD .null
  | _ => .null

/-- `as_str`. -/
def asStr : Json → Option String
  | .string s => some s
  | _ => none

/-- `is_null`. -/
def isNull : Json → Bool
  | .null => true
  | _ => false

end Json

/-- Parsing and writing JSON, in Rust and in Python; a parse that fails tells why. -/
structure JsonCodec (P : Type) where
  fromStr : String → Except String Json
  toString : Json → String
  loads : String → PyResult P

/-- What `players_info` tells about a connected player. -/
structure PlayerInfo where
  clientId : Int
  name : String
  steamId : Int
  userinfo : String
  deriving DecidableEq

/-- A `Player` made from what is known about it. -/
structure Player where
  id : Int
  name : String
  steamId : Int
  userInfo : String
  playerInfo : PlayerInfo
  deriving DecidableEq

/-- A dispatch that is queued for the next frame. -/
inductive StatsEvent (P : Type) where
  | stats (data : P)
  | gameStart (data : P)
  | roundEnd (data : P)
  | gameEnd (data : P)
  | death (victim : Player) (killer : Option Player) (data : P)
  | kill (victim : Player) (killer : Player) (data : P)
  | teamSwitch (player : Player) (oldTeam newTeam : String)
  deriving DecidableEq

namespace StatsEvent
variable {P : Type}

/-- Is this a `stats` event? -/
def isStats : StatsEvent P → Bool
  | .stats _ => true
  | _ => false

/-- Is this a `game_end` event? -/
def isGameEnd : StatsEvent P → Bool
  | .gameEnd _ => true
  | _ => false

end StatsEvent

/-- What handling a message finds: the dispatchers that are registered, whether the
function that queues a dispatch can be made, whether it can be called for an event, and
what each call of `players_info` tells. -/
structure ZmqEnv where
  registered : String → Bool
  threadSafe : PyResult Unit
  put : String → PyResult Unit
  playersInfo : Nat → PyResult (List PlayerInfo)

/-- `IN_PROGRESS` and the dispatches queued so far. -/
structure ZmqState (P : Type) where
  inProgress : Bool
  queued : List (StatsEvent P)

namespace StatsListener
variable {P : Type}

/-- No match has started. -/
def start : ZmqState P := ⟨false, []⟩

/-- The call of the function made by `dispatch_thread_safe`, for a dispatcher that has
to be registered. -/
def callThreadSafe (env : ZmqEnv) (name : String) (event : StatsEvent P) (s : ZmqState P) :
    PyResult Unit × ZmqState P :=
  if !env.registered name then
    (.error (.environmentError s!"could not get access to {name} dispatcher"), s)
  else
    match env.put name with
    | .error e => (.error e, s)
    | .ok () => (.ok (), { s with queued := s.queued ++ [event] })

/-- Queues an event that gets the data of the message. -/
def dispatchData (codec : JsonCodec P) (name : String) (event : P → StatsEvent P) (env : ZmqEnv)
    (stats : String) (s : ZmqState P) : PyResult Unit × ZmqState P :=
  match codec.loads stats with
  | .error e => (.error e, s)
  | .ok data =>
    -- whether the dispatcher is there is asked before the function is made
    match env.registered name, env.threadSafe with
    | true, .error e => (.error e, s)
    | _, _ => callThreadSafe env name (event data) s

/-- `dispatch_stats_event`. -/
def dispatchStatsEvent (codec : JsonCodec P) :
    ZmqEnv → String → ZmqState P → PyResult Unit × ZmqState P :=
  dispatchData codec "stats" .stats

/-- `dispatch_game_start_event`. -/
def dispatchGameStartEvent (codec : JsonCodec P) :
    ZmqEnv → String → ZmqState P → PyResult Unit × ZmqState P :=
  dispatchData codec "game_start" .gameStart

/-- `dispatch_round_end_event`. -/
def dispatchRoundEndEvent (codec : JsonCodec P) :
    ZmqEnv → String → ZmqState P → PyResult Unit × ZmqState P :=
  dispatchData codec "round_end" .roundEnd

/-- `dispatch_game_end_event`. -/
def dispatchGameEndEvent (codec : JsonCodec P) :
    ZmqEnv → String → ZmqState P → PyResult Unit × ZmqState P :=
  dispatchData codec "game_end" .gameEnd

/-- The `Player` for an entry of `players_info`. -/
def toPlayer (info : PlayerInfo) : Player :=
  ⟨info.clientId, info.name, info.steamId, info.userinfo, info⟩

/-- The first connected player that passes a test. -/
def findPlayer (playersInfo : PyResult (List PlayerInfo)) (p : PlayerInfo → Bool) : Option Player :=
  match playersInfo with
  | .error _ => none
  | .ok players => (players.find? p).map toPlayer

/-- `player_by_steam_id`. -/
def playerBySteamId (playersInfo : PyResult (List PlayerInfo)) (steamId : Int) : Option Player :=
  findPlayer playersInfo (·.steamId = steamId)

/-- `player_by_name`. -/
def playerByName (playersInfo : PyResult (List PlayerInfo)) (name : String) : Option Player :=
  findPlayer playersInfo (·.name = name)

/-- The steam id of a participant, if it is one of a person. -/
def steamIdOf (participant : Json) : Option Int :=
  ((participant.get "STEAM_ID").asStr.bind (Text.parseInt 64)).filter (0 < ·)

/-- The player that `players_info` has for a steam id, or else for a name. -/
def resolve (playersInfo : PyResult (List PlayerInfo)) (steamId : Option Int)
    (name : Option String) : Option Player :=
  match steamId with
  | some steamId => playerBySteamId playersInfo steamId
  | none => name.bind (playerByName playersInfo)

/-- `dispatch_player_death_events`. -/
def dispatchPlayerDeathEvents (codec : JsonCodec P) (env : ZmqEnv) (victimSteamId : Option Int)
    (victimName : String) (killerSteamId : Option Int) (killerName : Option String)
    (stats : String) (s : ZmqState P) : PyResult Unit × ZmqState P :=
  match resolve (env.playersInfo 0) victimSteamId (some victimName) with
  | none => (.ok (), s)
  | some victim =>
    let killer := resolve (env.playersInfo 1) killerSteamId killerName
    match codec.loads stats, env.threadSafe with
    | .error e, _ => (.error e, s)
    | .ok _, .error e => (.error e, s)
    | .ok data, .ok () =>
      match callThreadSafe env "death" (.death victim killer data) s with
      | (.error e, s) => (.error e, s)
      | (.ok (), s) =>
        match killer with
        | none => (.ok (), s)
        | some killer => callThreadSafe env "kill" (.kill victim killer data) s

/-- `handle_player_death_event`. -/
def handlePlayerDeathEvent (codec : JsonCodec P) (env : ZmqEnv) (stats : Json) (s : ZmqState P) :
    PyResult Unit × ZmqState P :=
  let data := stats.get "DATA"
  let victim := data.get "VICTIM"
  let killer := data.get "KILLER"
  match (victim.get "NAME").asStr with
  | none => (.ok (), s)
  | some victimName =>
    let (killerSteamId, killerName) :=
      if killer.isNull then (none, none) else (steamIdOf killer, (killer.get "NAME").asStr)
    dispatchPlayerDeathEvents codec env (steamIdOf victim) victimName killerSteamId killerName
      (codec.toString data) s

/-- `dispatch_team_switch_event`. -/
def dispatchTeamSwitchEvent (env : ZmqEnv) (steamId : Option Int) (name oldTeam newTeam : String)
    (s : ZmqState P) : PyResult Unit × ZmqState P :=
  match resolve (env.playersInfo 0) steamId (some name) with
  | none => (.ok (), s)
  | some player =>
    match env.threadSafe with
    | .error e => (.error e, s)
    | .ok () => callThreadSafe env "team_switch" (.teamSwitch player oldTeam newTeam) s

/-- `handle_team_switch_event`. -/
def handleTeamSwitchEvent (toLowercase : String → String) (env : ZmqEnv) (stats : Json)
    (s : ZmqState P) : PyResult Unit × ZmqState P :=
  let killer := (stats.get "DATA").get "KILLER"
  match (killer.get "NAME").asStr, (killer.get "OLD_TEAM").asStr, (killer.get "TEAM").asStr with
  | some name, some oldTeam, some newTeam =>
    if toLowercase oldTeam ≠ toLowercase newTeam then
      dispatchTeamSwitchEvent env (steamIdOf killer) name (toLowercase oldTeam)
        (toLowercase newTeam) s
    else (.ok (), s)
  | _, _, _ => (.ok (), s)

/-- The match on the type of a message, once its `stats` event is queued. -/
def handleStats (codec : JsonCodec P) (toLowercase : String → String) (env : ZmqEnv)
    (stats : Json) (s : ZmqState P) : PyResult Unit × ZmqState P :=
  let data := codec.toString (stats.get "DATA")
  match (stats.get "TYPE").asStr with
  | some "MATCH_STARTED" => dispatchGameStartEvent codec env data { s with inProgress := true }
  | some "ROUND_OVER" => dispatchRoundEndEvent codec env data s
  | some "MATCH_REPORT" =>
    match if s.inProgress then dispatchGameEndEvent codec env data s else (.ok (), s) with
    | (.error e, s) => (.error e, s)
    | (.ok (), s) => (.ok (), { s with inProgress := false })
  | some "PLAYER_DEATH" => handlePlayerDeathEvent codec env stats s
  | some "PLAYER_SWITCHTEAM" => handleTeamSwitchEvent toLowercase env stats s
  | _ => (.ok (), s)

/-- `try_handle_zmq_msg`. -/
def tryHandleZmqMsg (codec : JsonCodec P) (toLowercase : String → String) (env : ZmqEnv)
    (zmqMsg : String) (s : ZmqState P) : PyResult Unit × ZmqState P :=
  match codec.fromStr zmqMsg with
  | .error err => (.error (.environmentError s!"error parsing json data: {err}"), s)
  | .ok stats =>
    match dispatchStatsEvent codec env (codec.toString stats) s with
    | (.error e, s) => (.error e, s)
    | (.ok (), s) => handleStats codec toLowercase env stats s

/-- `handle_zmq_msg`, with the exception that it logs. -/
def handleZmqMsg (codec : JsonCodec P) (toLowercase : String → String) (s : ZmqState P)
    (msg : ZmqEnv × String) : Option PyErr × ZmqState P :=
  match tryHandleZmqMsg codec toLowercase msg.1 msg.2 s with
  | (.error e, s) => (some e, s)
  | (.ok (), s) => (none, s)

/-- The dispatchers a message can lead to. -/
def dispatchers : List String :=
  ["stats", "game_start", "round_end", "game_end", "death", "kill", "team_switch"]

/-- The built-in dispatchers are registered, and a dispatch can be queued: the module
that queues it compiles, and the queue takes it. -/
structure Sound (env : ZmqEnv) : Prop where
  registered : ∀ name ∈ dispatchers, env.registered name = true
  threadSafe : env.threadSafe = .ok ()
  put : ∀ name ∈ dispatchers, env.put name = .ok ()

/-- Python reads what Rust has written. -/
def Readable (codec : JsonCodec P) : Prop := ∀ v, ∃ data, codec.loads (codec.toString v) = .ok data

/-- The connected player that the victim of a message resolves to; it has to have a name. -/
def victimOf (env : ZmqEnv) (stats : Json) : Option Player :=
  let victim := (stats.get "DATA").get "VICTIM"
  (victim.get "NAME").asStr.bind fun name =>
    resolve (env.playersInfo 0) (steamIdOf victim) (some name)

/-- The connected player that the killer of a message resolves to. -/
def killerOf (env : ZmqEnv) (stats : Json) : Option Player :=
  let killer := (stats.get "DATA").get "KILLER"
  if killer.isNull then none
  else resolve (env.playersInfo 1) (steamIdOf killer) (killer.get "NAME").asStr

/-- The old and the new team of a message that tells both and the name of who switched, if they
differ. -/
def teamsOf (toLowercase : String → String) (stats : Json) : Option (String × String × String) :=
  let killer := (stats.get "DATA").get "KILLER"
  match (killer.get "NAME").asStr, (killer.get "OLD_TEAM").asStr, (killer.get "TEAM").asStr with
  | some name, some oldTeam, some newTeam =>
    if toLowercase oldTeam ≠ toLowercase newTeam then
      some (name, toLowercase oldTeam, toLowercase newTeam)
    else none
  | _, _, _ => none

/-- The connected player that switched teams, with the old team and the new one. -/
def switchOf (toLowercase : String → String) (env : ZmqEnv) (stats : Json) :
    Option (Player × String × String) :=
  (teamsOf toLowercase stats).bind fun (name, teams) =>
    (resolve (env.playersInfo 0) (steamIdOf ((stats.get "DATA").get "KILLER")) (some name)).map
      (·, teams)

/-- What a message with some data queues besides its `stats` event, and how it changes
`IN_PROGRESS`. -/
inductive Derived (toLowercase : String → String) (env : ZmqEnv) (stats : Json) (data : P) :
    Bool → List (StatsEvent P) → Bool → Prop
  | other {b : Bool} : (∀ type ∈ ["MATCH_STARTED", "ROUND_OVER", "MATCH_REPORT", "PLAYER_DEATH",
      "PLAYER_SWITCHTEAM"], (stats.get "TYPE").asStr ≠ some type) →
      Derived toLowercase env stats data b [] b
  | gameStart {b : Bool} : (stats.get "TYPE").asStr = some "MATCH_STARTED" →
      Derived toLowercase env stats data b [.gameStart data] true
  | roundEnd {b : Bool} : (stats.get "TYPE").asStr = some "ROUND_OVER" →
      Derived toLowercase env stats data b [.roundEnd data] b
  | gameEnd : (stats.get "TYPE").asStr = some "MATCH_REPORT" →
      Derived toLowercase env stats data true [.gameEnd data] false
  | noGame : (stats.get "TYPE").asStr = some "MATCH_REPORT" →
      Derived toLowercase env stats data false [] false
  | noVictim {b : Bool} : (stats.get "TYPE").asStr = some "PLAYER_DEATH" →
      victimOf env stats = none → Derived toLowercase env stats data b [] b
  | death {b : Bool} (victim : Player) : (stats.get "TYPE").asStr = some "PLAYER_DEATH" →
      victimOf env stats = some victim → killerOf env stats = none →
      Derived toLowercase env stats data b [.death victim none data] b
  | kill {b : Bool} (victim killer : Player) : (stats.get "TYPE").asStr = some "PLAYER_DEATH" →
      victimOf env stats = some victim → killerOf env stats = some killer →
      Derived toLowercase env stats data b
        [.death victim (some killer) data, .kill victim killer data] b
  | noSwitch {b : Bool} : (stats.get "TYPE").asStr = some "PLAYER_SWITCHTEAM" →
      switchOf toLowercase env stats = none → Derived toLowercase env stats data b [] b
  | teamSwitch {b : Bool} (player : Player) (oldTeam newTeam : String) :
      (stats.get "TYPE").asStr = some "PLAYER_SWITCHTEAM" →
      switchOf toLowercase env stats = some (player, oldTeam, newTeam) →
      Derived toLowercase env stats data b [.teamSwitch player oldTeam newTeam] b

/-! ## What one message queues -/

section sound
variable {codec : JsonCodec P} {toLowercase : String → String} {env : ZmqEnv}

theorem callThreadSafe_sound (h : Sound env) {name : String} (hname : name ∈ dispatchers)
    (event : StatsEvent P) (s : ZmqState P) :
    callThreadSafe env name event s = (.ok (), ⟨s.inProgress, s.queued ++ [event]⟩) := by
  simp [callThreadSafe, h.registered name hname, h.put name hname]

theorem dispatchData_sound (h : Sound env) {name : String} (hname : name ∈ dispatchers)
    (event : P → StatsEvent P) {v : Json} {data : P}
    (hdata : codec.loads (codec.toString v) = .ok data) (s : ZmqState P) :
    dispatchData codec name event env (codec.toString v) s =
      (.ok (), ⟨s.inProgress, s.queued ++ [event data]⟩) := by
  simp only [dispatchData, hdata, h.registered name hname, h.threadSafe]
  exact callThreadSafe_sound h hname (event data) s

/-- A state is left as `Derived` says. -/
def Leaves (toLowercase : String → String) (env : ZmqEnv) (stats : Json) (data : P)
    (s : ZmqState P) (r : PyResult Unit × ZmqState P) : Prop :=
  ∃ derived b, Derived toLowercase env stats data s.inProgress derived b ∧
    r = (.ok (), ⟨b, s.queued ++ derived⟩)

theorem Leaves.nothing {stats : Json} {data : P} {s : ZmqState P}
    (h : Derived toLowercase env stats data s.inProgress [] s.inProgress) :
    Leaves toLowercase env stats data s (.ok (), s) := by
  refine ⟨[], s.inProgress, h, ?_⟩
  rw [List.append_nil]

theorem handlePlayerDeathEvent_leaves (h : Sound env) {stats : Json} {data : P}
    (hdata : codec.loads (codec.toString (stats.get "DATA")) = .ok data)
    (htype : (stats.get "TYPE").asStr = some "PLAYER_DEATH") (s : ZmqState P) :
    Leaves toLowercase env stats data s (handlePlayerDeathEvent codec env stats s) := by
  simp only [handlePlayerDeathEvent]
  cases hname : (((stats.get "DATA").get "VICTIM").get "NAME").asStr with
  | none => exact .nothing (.noVictim htype (by simp [victimOf, hname]))
  | some victimName =>
    -- with no killer in the message nothing is asked for, and nobody is found
    have hkiller : ∀ r : Option Int × Option String,
        r = (if ((stats.get "DATA").get "KILLER").isNull then (none, none)
          else (steamIdOf ((stats.get "DATA").get "KILLER"),
            (((stats.get "DATA").get "KILLER").get "NAME").asStr)) →
        resolve (env.playersInfo 1) r.1 r.2 = killerOf env stats := by
      rintro r rfl
      simp only [killerOf]
      split <;> simp [resolve]
    have hvictim : victimOf env stats = resolve (env.playersInfo 0)
        (steamIdOf ((stats.get "DATA").get "VICTIM")) (some victimName) := by
      simp [victimOf, hname]
    simp only [dispatchPlayerDeathEvents, hkiller _ rfl, hdata, h.threadSafe, ← hvictim]
    cases hv : victimOf env stats with
    | none => exact .nothing (.noVictim htype hv)
    | some victim =>
      simp only [callThreadSafe_sound h (show "death" ∈ dispatchers by simp [dispatchers])]
      cases hk : killerOf env stats with
      | none => exact ⟨_, _, .death victim htype hv hk, rfl⟩
      | some killer =>
        refine ⟨_, _, .kill victim killer htype hv hk, ?_⟩
        simp only [callThreadSafe_sound h (show "kill" ∈ dispatchers by simp [dispatchers])]
        simp

/-- Handling a team switch is dispatching what `teamsOf` finds. -/
theorem handleTeamSwitchEvent_eq (stats : Json) (s : ZmqState P) :
    handleTeamSwitchEvent toLowercase env stats s =
      match teamsOf toLowercase stats with
      | none => (.ok (), s)
      | some (name, oldTeam, newTeam) =>
        dispatchTeamSwitchEvent env (steamIdOf ((stats.get "DATA").get "KILLER")) name oldTeam
          newTeam s := by
  simp only [handleTeamSwitchEvent, teamsOf]
  split
  next name oldTeam newTeam _ _ _ =>
    by_cases hteams : toLowercase oldTeam ≠ toLowercase newTeam
    · simp [hteams]
    · simp [hteams]
  next => rfl

theorem handleTeamSwitchEvent_leaves (h : Sound env) {stats : Json} {data : P}
    (htype : (stats.get "TYPE").asStr = some "PLAYER_SWITCHTEAM") (s : ZmqState P) :
    Leaves toLowercase env stats data s (handleTeamSwitchEvent toLowercase env stats s) := by
  rw [handleTeamSwitchEvent_eq]
  cases hteams : teamsOf toLowercase stats with
  | none => exact .nothing (.noSwitch htype (by simp [switchOf, hteams]))
  | some teams =>
    obtain ⟨name, oldTeam, newTeam⟩ := teams
    simp only [dispatchTeamSwitchEvent, h.threadSafe]
    cases hplayer : resolve (env.playersInfo 0) (steamIdOf ((stats.get "DATA").get "KILLER"))
      (some name) with
    | none => exact .nothing (.noSwitch htype (by simp [switchOf, hteams, hplayer]))
    | some player =>
      simp only
      rw [callThreadSafe_sound h (by simp [dispatchers])]
      exact ⟨_, _, .teamSwitch player oldTeam newTeam htype
        (by simp [switchOf, hteams, hplayer]), rfl⟩

theorem handleStats_leaves (h : Sound env) {stats : Json} {data : P}
    (hdata : codec.loads (codec.toString (stats.get "DATA")) = .ok data)
    (toLowercase : String → String) (s : ZmqState P) :
    Leaves toLowercase env stats data s (handleStats codec toLowercase env stats s) := by
  simp only [handleStats]
  split
  next htype =>
    have hd := dispatchData_sound h (show "game_start" ∈ dispatchers by simp [dispatchers])
      .gameStart hdata { s with inProgress := true }
    exact ⟨_, _, .gameStart htype, hd⟩
  next htype =>
    have hd := dispatchData_sound h (show "round_end" ∈ dispatchers by simp [dispatchers])
      .roundEnd hdata s
    exact ⟨_, _, .roundEnd htype, hd⟩
  next htype =>
    have hd := dispatchData_sound h (show "game_end" ∈ dispatchers by simp [dispatchers])
      .gameEnd hdata s
    cases hb : s.inProgress with
    | true =>
      simp only [dispatchGameEndEvent, hd, if_true]
      exact ⟨_, _, hb ▸ .gameEnd htype, rfl⟩
    | false =>
      refine ⟨[], false, ?_, ?_⟩
      · rw [hb]
        exact .noGame htype
      · simp
  next htype => exact handlePlayerDeathEvent_leaves h hdata htype s
  next htype => exact handleTeamSwitchEvent_leaves h htype s
  next hstarted hround hreport hdeath hswitch =>
    refine .nothing (.other ?_)
    simpa using ⟨hstarted, hround, hreport, hdeath, hswitch⟩

/-- **What a message does.**  One that cannot be parsed changes nothing; any other queues
its `stats` event and then what `Derived` says. -/
theorem handleZmqMsg_step (hcodec : Readable codec) (toLowercase : String → String)
    (s : ZmqState P) (m : ZmqEnv × String)
    (h : Sound m.1) :
    (∃ err, codec.fromStr m.2 = .error err ∧ (handleZmqMsg codec toLowercase s m).2 = s) ∨
    (∃ stats whole data derived b, codec.fromStr m.2 = .ok stats ∧
      codec.loads (codec.toString stats) = .ok whole ∧
      codec.loads (codec.toString (stats.get "DATA")) = .ok data ∧
      Derived toLowercase m.1 stats data s.inProgress derived b ∧
      (handleZmqMsg codec toLowercase s m).2 = ⟨b, s.queued ++ .stats whole :: derived⟩) := by
  simp only [handleZmqMsg, tryHandleZmqMsg, dispatchStatsEvent]
  cases hparse : codec.fromStr m.2 with
  | error err => exact .inl ⟨err, rfl, rfl⟩
  | ok stats =>
    right
    obtain ⟨whole, hwhole⟩ := hcodec stats
    obtain ⟨data, hdata⟩ := hcodec (stats.get "DATA")
    have hd := dispatchData_sound h (show "stats" ∈ dispatchers by simp [dispatchers]) .stats
      hwhole s
    obtain ⟨derived, b, hder, hleft⟩ := handleStats_leaves h hdata toLowercase
      ⟨s.inProgress, s.queued ++ [.stats whole]⟩
    refine ⟨stats, whole, data, derived, b, rfl, hwhole, hdata, hder, ?_⟩
    simp [hd, hleft]

end sound

/-! ## Runs -/

section runs
variable {codec : JsonCodec P}

/-- The type of a message; one that cannot be parsed has none. -/
def typeOf (codec : JsonCodec P) (m : ZmqEnv × String) : Option String :=
  match codec.fromStr m.2 with
  | .error _ => none
  | .ok stats => (stats.get "TYPE").asStr

/-- A match has started, and no report came since. -/
def InMatch (codec : JsonCodec P) (messages : List (ZmqEnv × String)) : Prop :=
  ∃ pre m post, messages = pre ++ m :: post ∧ typeOf codec m = some "MATCH_STARTED" ∧
    ∀ m' ∈ post, typeOf codec m' ≠ some "MATCH_REPORT"

theorem inMatch_concat (messages : List (ZmqEnv × String)) (m : ZmqEnv × String) :
    InMatch codec (messages ++ [m]) ↔ typeOf codec m = some "MATCH_STARTED" ∨
      (InMatch codec messages ∧ typeOf codec m ≠ some "MATCH_REPORT") := by
  constructor
  · rintro ⟨pre, m', post, heq, hstarted, hpost⟩
    rcases List.eq_nil_or_concat post with rfl | ⟨post, last, rfl⟩
    · obtain ⟨rfl, rfl⟩ : messages = pre ∧ m = m' := by simpa using heq
      exact .inl hstarted
    · obtain ⟨rfl, rfl⟩ : messages = pre ++ m' :: post ∧ m = last := by
        have h : messages ++ [m] = (pre ++ m' :: post) ++ [last] := by simpa using heq
        simpa using List.append_inj' h rfl
      refine .inr ⟨⟨pre, m', post, rfl, hstarted, fun n hn => hpost n ?_⟩, hpost m ?_⟩
      · simp [hn]
      · simp
  · rintro (hstarted | ⟨⟨pre, m', post, rfl, hstarted, hpost⟩, hreport⟩)
    · exact ⟨messages, m, [], rfl, hstarted, by simp⟩
    · refine ⟨pre, m', post ++ [m], by simp, hstarted, ?_⟩
      intro n hn
      rcases List.mem_append.mp hn with hn | hn
      · exact hpost n hn
      · rwa [List.mem_singleton.mp hn]

/-- The state a run of messages leads to. -/
abbrev after (codec : JsonCodec P) (toLowercase : String → String)
    (messages : List (ZmqEnv × String)) : ZmqState P :=
  Run.final (handleZmqMsg codec toLowercase) start messages

theorem after_concat (toLowercase : String → String) (messages : List (ZmqEnv × String))
    (m : ZmqEnv × String) :
    after codec toLowercase (messages ++ [m]) =
      (handleZmqMsg codec toLowercase (after codec toLowercase messages) m).2 := by
  rw [after, Run.final_append]
  rfl

/-- `IN_PROGRESS` tells whether a match has started and was not reported. -/
theorem inProgress_iff (hcodec : Readable codec) (toLowercase : String → String)
    (messages : List (ZmqEnv × String))
    (hsound : ∀ m ∈ messages, Sound m.1) :
    (after codec toLowercase messages).inProgress = true ↔ InMatch codec messages := by
  induction messages using List.reverseRecOn with
  | nil => simp [InMatch, start]
  | append_singleton messages m ih =>
    have ih := ih fun m' hm' => hsound m' (by simp [hm'])
    rw [after_concat, inMatch_concat, ← ih]
    rcases handleZmqMsg_step hcodec toLowercase
      (after codec toLowercase messages) m (hsound m (by simp)) with
      ⟨err, hparse, hleft⟩ | ⟨stats, whole, data, derived, b, hparse, -, -, hder, hleft⟩
    · simp [hleft, typeOf, hparse]
    · rw [hleft]
      simp only [typeOf, hparse]
      generalize hb : (after codec toLowercase messages).inProgress = b' at hder
      cases hder <;> simp_all

section derived
variable {toLowercase : String → String} {env : ZmqEnv} {stats : Json} {data : P} {b b' : Bool}
  {derived : List (StatsEvent P)}

theorem Derived.isStats_false (h : Derived toLowercase env stats data b derived b') :
    ∀ e ∈ derived, e.isStats = false := by
  cases h <;> simp [StatsEvent.isStats]

theorem Derived.gameEnds_eq (h : Derived toLowercase env stats data b derived b') :
    derived.countP StatsEvent.isGameEnd =
      if b = true ∧ (stats.get "TYPE").asStr = some "MATCH_REPORT" then 1 else 0 := by
  cases h <;> simp_all [StatsEvent.isGameEnd]

theorem Derived.gameEnd_mem_iff (h : Derived toLowercase env stats data b derived b') :
    (∃ data, .gameEnd data ∈ derived) ↔
      (stats.get "TYPE").asStr = some "MATCH_REPORT" ∧ b = true := by
  cases h <;> simp_all

theorem Derived.eq_of_kill_mem (h : Derived toLowercase env stats data b derived b')
    {victim killer : Player} {data' : P} (hkill : .kill victim killer data' ∈ derived) :
    derived = [.death victim (some killer) data', .kill victim killer data'] := by
  cases h with
  | kill victim' killer' =>
    obtain ⟨rfl, rfl, rfl⟩ : victim = victim' ∧ killer = killer' ∧ data' = data := by
      simpa using hkill
    rfl
  | _ => simp at hkill

/-- A death is queued exactly for a victim that resolves. -/
theorem Derived.death_mem_iff (h : Derived toLowercase env stats data b derived b')
    (victim : Player) (killer : Option Player) :
    (∃ data, .death victim killer data ∈ derived) ↔
      (stats.get "TYPE").asStr = some "PLAYER_DEATH" ∧ victimOf env stats = some victim ∧
        killerOf env stats = killer := by
  cases h with
  | death victim' htype hvictim hkiller => simp [htype, hvictim, hkiller, eq_comm]
  | kill victim' killer' htype hvictim hkiller => simp [htype, hvictim, hkiller, eq_comm]
  | noVictim htype hvictim => simp [hvictim]
  | other htype => simp at htype; simp [htype]
  | _ => simp_all

/-- A kill is queued exactly for a victim and a killer that resolve. -/
theorem Derived.kill_mem_iff (h : Derived toLowercase env stats data b derived b')
    (victim killer : Player) :
    (∃ data, .kill victim killer data ∈ derived) ↔
      (stats.get "TYPE").asStr = some "PLAYER_DEATH" ∧ victimOf env stats = some victim ∧
        killerOf env stats = some killer := by
  cases h with
  | death victim' htype hvictim hkiller => simp [hkiller]
  | kill victim' killer' htype hvictim hkiller => simp [htype, hvictim, hkiller, eq_comm]
  | noVictim htype hvictim => simp [hvictim]
  | other htype => simp at htype; simp [htype]
  | _ => simp_all

end derived

/-- A message that comes after the messages `pre` finds a state, queues `new` and leaves
another state. -/
structure Conforms (codec : JsonCodec P) (toLowercase : String → String)
    (pre : List (ZmqEnv × String)) (m : ZmqEnv × String) (before after : ZmqState P)
    (new : List (StatsEvent P)) : Prop where
  queued : after.queued = before.queued ++ new
  malformed : ∀ err, codec.fromStr m.2 = .error err →
    new = [] ∧ after.inProgress = before.inProgress
  statsFirst : ∀ stats, codec.fromStr m.2 = .ok stats →
    ∃ whole data derived, codec.loads (codec.toString stats) = .ok whole ∧
      codec.loads (codec.toString (stats.get "DATA")) = .ok data ∧
      new = .stats whole :: derived ∧ (∀ e ∈ derived, e.isStats = false) ∧
      Derived toLowercase m.1 stats data before.inProgress derived after.inProgress
  gameEnds_le : new.countP StatsEvent.isGameEnd ≤ 1
  gameEnd_iff : (∃ data, .gameEnd data ∈ new) ↔
    typeOf codec m = some "MATCH_REPORT" ∧ InMatch codec pre
  death_iff : ∀ stats, codec.fromStr m.2 = .ok stats → ∀ victim killer,
    (∃ data, .death victim killer data ∈ new) ↔
      (stats.get "TYPE").asStr = some "PLAYER_DEATH" ∧ victimOf m.1 stats = some victim ∧
        killerOf m.1 stats = killer
  death_kill : ∀ victim killer data, .kill victim killer data ∈ new →
    ∃ statsData, new = [.stats statsData, .death victim (some killer) data,
      .kill victim killer data]
  kill_iff : ∀ stats, codec.fromStr m.2 = .ok stats → ∀ victim killer,
    (∃ data, .kill victim killer data ∈ new) ↔
      (stats.get "TYPE").asStr = some "PLAYER_DEATH" ∧ victimOf m.1 stats = some victim ∧
        killerOf m.1 stats = some killer

theorem conforms_of_mem (hcodec : Readable codec) (toLowercase : String → String)
    (pre : List (ZmqEnv × String))
    (m : ZmqEnv × String) (hpre : ∀ m' ∈ pre, Sound m'.1) (hm : Sound m.1) :
    ∃ new, Conforms codec toLowercase pre m (after codec toLowercase pre)
      (after codec toLowercase (pre ++ [m])) new := by
  have hin := inProgress_iff hcodec toLowercase pre hpre
  rw [after_concat]
  rcases handleZmqMsg_step hcodec toLowercase (after codec toLowercase pre) m hm
    with ⟨err, hparse, hleft⟩ | ⟨stats, whole, data, derived, b, hparse, hwhole, hdata, hder, hleft⟩
  · -- nothing is queued
    refine ⟨[], ?_⟩
    rw [hleft]
    constructor <;> simp [typeOf, hparse]
  · refine ⟨.stats whole :: derived, ?_⟩
    have hstats : ∀ stats', codec.fromStr m.2 = .ok stats' → stats' = stats := by
      intro stats' hparse'
      simpa [hparse, eq_comm] using hparse'
    rw [hleft]
    constructor
    case queued => rfl
    case malformed => simp [hparse]
    case statsFirst =>
      rintro _ hparse'
      rw [hstats _ hparse']
      exact ⟨whole, data, derived, hwhole, hdata, rfl, hder.isStats_false, hder⟩
    case gameEnds_le =>
      rw [List.countP_cons_of_neg (by simp [StatsEvent.isGameEnd]), hder.gameEnds_eq]
      split <;> simp
    case gameEnd_iff =>
      rw [← hin]
      simpa [typeOf, hparse] using hder.gameEnd_mem_iff
    case death_iff =>
      intro stats' hparse' victim killer
      rw [hstats _ hparse']
      simpa using hder.death_mem_iff victim killer
    case death_kill =>
      intro victim killer data' hkill
      rw [hder.eq_of_kill_mem (by simpa using hkill)]
      exact ⟨whole, rfl⟩
    case kill_iff =>
      intro stats' hparse' victim killer
      rw [hstats _ hparse']
      simpa using hder.kill_mem_iff victim killer

/-- Where no match starts, at most one is ended, and that only if one is in progress. -/
theorem gameEnds_le_of_no_start (hcodec : Readable codec) (toLowercase : String → String)
    (messages : List (ZmqEnv × String))
    (hsound : ∀ m ∈ messages, Sound m.1)
    (hstart : ∀ m ∈ messages, typeOf codec m ≠ some "MATCH_STARTED") (s : ZmqState P) :
    (Run.final (handleZmqMsg codec toLowercase) s messages).queued.countP StatsEvent.isGameEnd ≤
      s.queued.countP StatsEvent.isGameEnd + s.inProgress.toNat := by
  induction messages generalizing s with
  | nil => simp
  | cons m messages ih =>
    have ih := ih (fun m' hm' => hsound m' (by simp [hm']))
      (fun m' hm' => hstart m' (by simp [hm'])) (handleZmqMsg codec toLowercase s m).2
    have hm := hstart m (by simp)
    rw [Run.final_cons]
    refine ih.trans ?_
    rcases handleZmqMsg_step hcodec toLowercase s m (hsound m (by simp))
      with ⟨err, hparse, hleft⟩ | ⟨stats, whole, data, derived, b, hparse, -, -, hder, hleft⟩
    · rw [hleft]
    · rw [hleft]
      have hder' := hder.gameEnds_eq
      rw [List.countP_append, List.countP_cons_of_neg (by simp [StatsEvent.isGameEnd]), hder']
      simp only [typeOf, hparse] at hm
      generalize s.inProgress = b' at hder
      cases hder <;> simp_all

/-- **The match state machine.**  Every message of a run conforms: one that cannot be
parsed queues nothing and leaves `IN_PROGRESS`; any other queues its `stats` event first;
a `game_end` is queued by a report in a match, and by nothing else; a `death` is queued by
a message about one whose victim resolves, and right after it a `kill` if the killer resolves
too.  Until a match starts again, at most one is ended. -/
theorem zmq_run (codec : JsonCodec P) (toLowercase : String → String) (hcodec : Readable codec)
    (messages : List (ZmqEnv × String)) (hsound : ∀ m ∈ messages, Sound m.1) :
    (∀ pre m post, messages = pre ++ m :: post →
      ∃ new, Conforms codec toLowercase pre m (after codec toLowercase pre)
        (after codec toLowercase (pre ++ [m])) new) ∧
    (∀ pre between post, messages = pre ++ between ++ post →
      (∀ m ∈ between, typeOf codec m ≠ some "MATCH_STARTED") →
      (after codec toLowercase (pre ++ between)).queued.countP StatsEvent.isGameEnd ≤
        (after codec toLowercase pre).queued.countP StatsEvent.isGameEnd + 1) := by
  constructor
  · rintro pre m post rfl
    refine conforms_of_mem hcodec toLowercase pre m (fun m' hm' => hsound m' ?_) (hsound m ?_)
    · simp [hm']
    · simp
  · rintro pre between post rfl hstart
    have h := gameEnds_le_of_no_start hcodec toLowercase between
      (fun m hm => hsound m (by simp [hm])) hstart (after codec toLowercase pre)
    rw [after, Run.final_append]
    exact h.trans (Nat.add_le_add_left (Bool.toNat_le _) _)

/-- A message of a type, without data. -/
def dataless (type : String) : String :=
  "\x7b\"DATA\":\x7b\x7d,\"TYPE\":\"" ++ type ++ "\"\x7d"

/-- A codec that knows the messages without data that start and report a match. -/
def datalessCodec : JsonCodec String where
  fromStr msg :=
    match ["MATCH_STARTED", "MATCH_REPORT"].find? (msg = dataless ·) with
    | some type => .ok (.object [("DATA", .object []), ("TYPE", .string type)])
    | none => .error "EofWhileParsingObject"
  toString
    | .object [("DATA", .object []), ("TYPE", .string type)] => dataless type
    | .object [] => "\x7b\x7d"
    | _ => "null"
  loads := .ok

/-- Everything is registered and nobody is connected. -/
def emptyServer : ZmqEnv := ⟨fun _ => true, .ok (), fun _ => .ok (), fun _ => .ok []⟩

/-- The data of a message in which sarge kills visor. -/
def visorKilledData : String :=
  "\x7b\"KILLER\":\x7b\"NAME\":\"sarge\"\x7d,\"VICTIM\":\x7b\"NAME\":\"visor\"\x7d\x7d"

/-- A message in which sarge kills visor. -/
def visorKilled : String :=
  "\x7b\"DATA\":" ++ visorKilledData ++ ",\"TYPE\":\"PLAYER_DEATH\"\x7d"

/-- A codec that knows this message too. -/
def deathCodec : JsonCodec String where
  fromStr msg :=
    if msg = visorKilled then
      .ok (.object [("DATA", .object [("KILLER", .object [("NAME", .string "sarge")]),
        ("VICTIM", .object [("NAME", .string "visor")])]), ("TYPE", .string "PLAYER_DEATH")])
    else datalessCodec.fromStr msg
  toString
    | .object [("DATA", .object [("KILLER", _), ("VICTIM", _)]), ("TYPE", _)] => visorKilled
    | .object [("KILLER", _), ("VICTIM", _)] => visorKilledData
    | v => datalessCodec.toString v
  loads := .ok

/-- Sarge is client 0. -/
def sarge : PlayerInfo := ⟨0, "sarge", 76561197960265729, "\\name\\sarge"⟩

/-- Visor is client 1. -/
def visor : PlayerInfo := ⟨1, "visor", 76561197960265730, "\\name\\visor"⟩

/-- Everything is registered and the two are connected. -/
def fullServer : ZmqEnv := ⟨fun _ => true, .ok (), fun _ => .ok (), fun _ => .ok [sarge, visor]⟩

/-- What the start of a match queues. -/
def started : List (StatsEvent String) :=
  [.stats (dataless "MATCH_STARTED"), .gameStart "\x7b\x7d"]

/-- What the death of visor queues. -/
def killed : List (StatsEvent String) :=
  [.stats visorKilled, .death (toPlayer visor) (some (toPlayer sarge)) visorKilledData,
    .kill (toPlayer visor) (toPlayer sarge) visorKilledData]

/-- A match starts, a message is cut off, sarge kills visor, and the report ends the game. -/
theorem zmq_run_reported :
    (∃ new, Conforms deathCodec id
      [(fullServer, dataless "MATCH_STARTED"), (fullServer, "\x7b\"DATA\":")]
      (fullServer, visorKilled) ⟨true, started⟩ ⟨true, started ++ killed⟩ new) ∧
    ∃ new, Conforms deathCodec id
      [(fullServer, dataless "MATCH_STARTED"), (fullServer, "\x7b\"DATA\":"),
        (fullServer, visorKilled)]
      (fullServer, dataless "MATCH_REPORT") ⟨true, started ++ killed⟩
      ⟨false, started ++ killed ++ [.stats (dataless "MATCH_REPORT"), .gameEnd "\x7b\x7d"]⟩
      new := by
  have hsound : Sound fullServer := ⟨fun _ _ => rfl, rfl, fun _ _ => rfl⟩
  have hrun := (zmq_run deathCodec id (fun v => ⟨_, rfl⟩)
    [(fullServer, dataless "MATCH_STARTED"), (fullServer, "\x7b\"DATA\":"),
      (fullServer, visorKilled), (fullServer, dataless "MATCH_REPORT")]
    (by simpa using hsound)).1
  exact ⟨hrun [_, _] _ [_] rfl, hrun [_, _, _] _ [] rfl⟩

end runs

end StatsListener
end ShinQlx
