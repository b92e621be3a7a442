import ShinQlx.KeyedRun
import ShinQlx.PlayerNumbers
import ShinQlx.PlayerWeapons

/-! # What plugins do to players

The functions of `_shinqlx` that read and change a player go by client id: they look up the entity
and its client, and read or write numbers, flags and bits of the arrays there.
-/
namespace ShinQlx

/-- `pmtype_t`. -/
inductive PmType where
  | normal
  | noclip
  | spectator
  | dead
  | freeze
  | intermission
  | tutorial
  deriving DecidableEq, Repr

/-- `team_t`. -/
inductive GameTeam where
  | free
  | red
  | blue
  | spectator
  | numTeams
  deriving DecidableEq, Repr

/-- `privileges_t`. -/
inductive Privileges where
  | banned
  | none
  | mod
  | admin
  | root
  deriving DecidableEq, Repr

/-- `privileges_t::from`. -/
def Privileges.ofInt (value : Int32) : Privileges :=
  match value.toInt with
  | -1 => .banned
  | 1 => .mod
  | 2 => .admin
  | 3 => .root
  | _ => .none

/-- `Holdable`. -/
inductive Holdable where
  | none
  | teleporter
  | medKit
  | kamikaze
  | portal
  | invulnerability
  | flight
  | unknown
  deriving DecidableEq, Repr

namespace Holdable

/-- `Holdable::from` an `i32`. -/
def ofInt (value : Int32) : Holdable :=
  match value.toInt with
  | 0 => .none
  | 27 => .teleporter
  | 28 => .medKit
  | 34 => .flight
  | 37 => .kamikaze
  | 38 => .portal
  | 39 => .invulnerability
  | _ => .unknown

/-- `i32::from` a `Holdable`. -/
def toInt : Holdable → Int32
  | .none => 0
  | .teleporter => 27
  | .medKit => 28
  | .flight => 34
  | .kamikaze => 37
  | .portal => 38
  | .invulnerability => 39
  | .unknown => 0

end Holdable

/-- `Flight`. -/
structure Flight where
  fuel : Int32
  maxFuel : Int32
  thrust : Int32
  refuel : Int32
  deriving DecidableEq, Repr

/-- `Vector3`. -/
structure Vector3 where
  x : Int32
  y : Int32
  z : Int32
  deriving DecidableEq, Repr

/-- The casts between integers and the floating point numbers of the game. -/
structure FloatCasts (F : Type) where
  ofInt : Int32 → F
  toInt : F → Int32

/-- `Vector3::from`. -/
def FloatCasts.toVector3 {F : Type} (f : FloatCasts F) (v : F × F × F) : Vector3 :=
  ⟨f.toInt v.1, f.toInt v.2.1, f.toInt v.2.2⟩

/-- A `Vector3` for the game. -/
def FloatCasts.ofVector3 {F : Type} (f : FloatCasts F) (v : Vector3) : F × F × F :=
  (f.ofInt v.x, f.ofInt v.y, f.ofInt v.z)

/-- A `gclient_t`. -/
structure PlayerClient (F : Type) extends TimedClient where
  origin : F × F × F
  velocity : F × F × F
  weapon : Int32
  eFlags : Int32
  pmType : PmType
  persistant : Fin 16 → Int32
  ping : Int32
  noclip : Bool
  sessionTeam : GameTeam
  privileges : Privileges
  enterTime : Int32
  numKills : Int32
  numDeaths : Int32
  totalDamageDealt : Int32
  totalDamageTaken : Int32

/-- A `gentity_t`. -/
structure PlayerEntity (F : Type) where
  health : Int32
  client : Option (PlayerClient F)

namespace PlayerClient
variable {F : Type}

/-- `STAT_HOLDABLE_ITEM`. -/
def statHoldableItem : Fin 16 := 1

/-- `STAT_FLIGHT_THRUST`. -/
def statFlightThrust : Fin 16 := 9

/-- `STAT_MAX_FLIGHT_FUEL`. -/
def statMaxFlightFuel : Fin 16 := 10

/-- `STAT_CUR_FLIGHT_FUEL`. -/
def statCurFlightFuel : Fin 16 := 11

/-- `STAT_FLIGHT_REFUEL`. -/
def statFlightRefuel : Fin 16 := 12

/-- `PERS_ROUND_SCORE`. -/
def persRoundScore : Fin 16 := 0

/-- `EF_KAMIKAZE`. -/
def efKamikaze : Int32 := 512

/-- `EF_TALK`. -/
def efTalk : Int32 := 4096

/-- `MODELINDEX_KAMIKAZE`. -/
def modelindexKamikaze : Int32 := 35

/-- `is_alive`. -/
def isAlive (c : PlayerClient F) : Bool := c.pmType = .normal

/-- `is_frozen`. -/
def isFrozen (c : PlayerClient F) : Bool := c.pmType = .freeze

/-- `is_chatting`. -/
def isChatting (c : PlayerClient F) : Bool := c.eFlags &&& efTalk ≠ 0

/-- `get_armor`. -/
def getArmor (c : PlayerClient F) : Int32 := c.stats GameClient.statArmor

/-- `get_weapon`; a number that is no `weapon_t` reads as `WP_NONE`. -/
def getWeapon (c : PlayerClient F) : Int32 := if 0 ≤ c.weapon ∧ c.weapon < 16 then c.weapon else 0

/-- `get_holdable`. -/
def getHoldable (c : PlayerClient F) : Int32 := c.stats statHoldableItem

/-- The numbers of the flight, as `player_state` reads them. -/
def getFlight (c : PlayerClient F) : Flight :=
  ⟨c.stats statCurFlightFuel, c.stats statMaxFlightFuel, c.stats statFlightThrust,
    c.stats statFlightRefuel⟩

/-- `get_score`. -/
def getScore (c : PlayerClient F) : Int32 :=
  if c.sessionTeam = .spectator then 0 else c.persistant persRoundScore

/-- `get_time_on_team`. -/
def getTimeOnTeam (levelTime : Option Int32) (c : PlayerClient F) : Int32 :=
  levelTime.getD 0 - c.enterTime

/-- `remove_kamikaze_flag`. -/
def removeKamikazeFlag (c : PlayerClient F) : PlayerClient F :=
  { c with eFlags := c.eFlags &&& ~~~efKamikaze }

/-- A change of the arrays of the `playerState_t`. -/
def changeArrays (change : GameClient → GameClient) (c : PlayerClient F) : PlayerClient F :=
  { c with toGameClient := change c.toGameClient }

/-- A stat is set. -/
def setStat (i : Fin 16) (value : Int32) (c : PlayerClient F) : PlayerClient F :=
  { c with stats := Function.update c.stats i value }

/-- `set_armor`. -/
def setArmor (armor : Int32) (c : PlayerClient F) : PlayerClient F :=
  c.changeArrays (GameClient.setArmor armor)

/-- `set_weapon`. -/
def setWeapon (weapon : Int32) (c : PlayerClient F) : PlayerClient F := { c with weapon := weapon }

/-- `set_holdable`. -/
def setHoldable (holdableIndex : Int32) (c : PlayerClient F) : PlayerClient F :=
  let flagged :=
    if holdableIndex = modelindexKamikaze then { c with eFlags := c.eFlags ||| efKamikaze }
    else c.removeKamikazeFlag
  flagged.setStat statHoldableItem holdableIndex

/-- `set_flight`. -/
def setFlight (flight : Flight) (c : PlayerClient F) : PlayerClient F :=
  (((c.setStat statCurFlightFuel flight.fuel).setStat statMaxFlightFuel flight.maxFuel).setStat
    statFlightThrust flight.thrust).setStat statFlightRefuel flight.refuel

/-- `set_invulnerability`; the sum wraps around. -/
def setInvulnerability (levelTime : Option Int32) (time : Int32) (c : PlayerClient F) :
    PlayerClient F :=
  { c with
    toTimedClient := (PlayerNumbers.setInvulnerability levelTime time c.toTimedClient).value }

/-- `set_score`. -/
def setScore (score : Int32) (c : PlayerClient F) : PlayerClient F :=
  { c with persistant := Function.update c.persistant persRoundScore score }

/-- `spawn`. -/
def spawn (c : PlayerClient F) : PlayerClient F := { c with pmType := .normal }

end PlayerClient

/-- `PlayerState`. -/
structure PlayerState where
  isAlive : Bool
  position : Vector3
  velocity : Vector3
  health : Int32
  armor : Int32
  noclip : Bool
  weapon : Int32
  weapons : Weapons
  ammo : Weapons
  powerups : Powerups
  holdable : Holdable
  flight : Flight
  isChatting : Bool
  isFrozen : Bool

/-- `PlayerStats`. -/
structure PlayerStats where
  score : Int32
  kills : Int32
  deaths : Int32
  damageDealt : Int32
  damageTaken : Int32
  time : Int32
  ping : Int32

/-- What a call finds: the number of clients, if there is an engine, the level time, if there is a
level, which numbers are items, if an item can be launched, and what the game makes of the entity
when its client spawns. -/
structure ControlEnv (F : Type) where
  maxClients : Option Int
  levelTime : Option Int32
  isItem : Int32 → Bool
  launches : Bool
  spawned : PlayerEntity F

/-- A call of the bindings about a player, with its arguments. -/
inductive Control where
  | playerState
  | playerStats
  | setPosition (position : Vector3)
  | setVelocity (velocity : Vector3)
  | setHealth (health : Int32)
  | setArmor (armor : Int32)
  | setWeapon (weapon : Int32)
  | setWeapons (weapons : Weapons)
  | setAmmo (ammos : Weapons)
  | setPowerups (powerups : Powerups)
  | setHoldable (holdable : Int32)
  | dropHoldable
  | setFlight (flight : Flight)
  | setInvulnerability (time : Int32)
  | noclip (activate : Bool)
  | setScore (score : Int32)
  | setPrivileges (privileges : Int32)
  | playerSpawn

/-- What a call answers. -/
inductive ControlAnswer where
  | done (found : Bool)
  | state (state : Option PlayerState)
  | stats (stats : Option PlayerStats)

/-- What a call has the engine do for the entity. -/
inductive EngineDeed where
  | launchItem (item : Int32)
  | clientSpawn
  deriving DecidableEq

/-- The answer of a call and the deeds of the engine. -/
abbrev Controlled := Outcome ControlAnswer × List EngineDeed

/-- The entities of the client ids. -/
abbrev PlayerEntities (F : Type) := Int → Option (PlayerEntity F)

namespace PlayerControls
variable {F : Type} (f : FloatCasts F) (env : ControlEnv F)

/-- `validate_client_id`. -/
def validateClientId (clientId : Int) : PyResult Unit :=
  PlayersInGame.validateClientId ⟨env.maxClients, env.levelTime, fun _ => none⟩ clientId

/-- The client of an entity. -/
def gameClient (w : PlayerEntities F) (clientId : Int) : Option (PlayerClient F) :=
  (w clientId).bind PlayerEntity.client

/-- An entity gets a client that has changed. -/
def putClient (w : PlayerEntities F) (clientId : Int) (c : PlayerClient F) : PlayerEntities F :=
  Function.update w clientId ((w clientId).map fun e => { e with client := some c })

/-- A body that runs once the client id is validated. -/
def validated (clientId : Int) (w : PlayerEntities F) (body : Controlled × PlayerEntities F) :
    Controlled × PlayerEntities F :=
  match validateClientId env clientId with
  | .error e => ((.err e, []), w)
  | .ok () => body

/-- The setters that look up the client and change it, if it is there and `differs`. -/
def setClient (differs : PlayerClient F → Bool) (change : PlayerClient F → PlayerClient F)
    (clientId : Int) (w : PlayerEntities F) : Controlled × PlayerEntities F :=
  match (gameClient w clientId).filter differs with
  | none => ((.ok (.done false), []), w)
  | some c => ((.ok (.done true), []), putClient w clientId (change c))

/-- `PlayerState::from`. -/
def playerStateFrom (e : PlayerEntity F) (c : PlayerClient F) : PlayerState where
  isAlive := c.isAlive
  position := f.toVector3 c.origin
  velocity := f.toVector3 c.velocity
  health := e.health
  armor := c.getArmor
  noclip := c.noclip
  weapon := c.getWeapon
  weapons := .ofArray c.getWeapons
  ammo := .ofArray c.getAmmos
  powerups := .ofArray (c.getPowerups (env.levelTime.getD 0))
  holdable := .ofInt c.getHoldable
  flight := c.getFlight
  isChatting := c.isChatting
  isFrozen := c.isFrozen

/-- `PlayerStats::from`. -/
def playerStatsFrom (c : PlayerClient F) : PlayerStats where
  score := c.getScore
  kills := c.numKills
  deaths := c.numDeaths
  damageDealt := c.totalDamageDealt
  damageTaken := c.totalDamageTaken
  time := c.getTimeOnTeam env.levelTime
  ping := c.ping

/-- `pyshinqlx_player_state`. -/
def pyshinqlxPlayerState (clientId : Int) (w : PlayerEntities F) :
    Controlled × PlayerEntities F :=
  let state := (w clientId).bind fun e => e.client.map (playerStateFrom f env e)
  validated env clientId w ((.ok (.state state), []), w)

/-- `pyshinqlx_player_stats`. -/
def pyshinqlxPlayerStats (clientId : Int) (w : PlayerEntities F) :
    Controlled × PlayerEntities F :=
  validated env clientId w
    ((.ok (.stats ((gameClient w clientId).map (playerStatsFrom env))), []), w)

/-- A setter that changes the client if it is there. -/
def changing (change : PlayerClient F → PlayerClient F) (clientId : Int) (w : PlayerEntities F) :
    Controlled × PlayerEntities F :=
  validated env clientId w (setClient (fun _ => true) change clientId w)

/-- `pyshinqlx_set_position`. -/
def pyshinqlxSetPosition (position : Vector3) :
    Int → PlayerEntities F → Controlled × PlayerEntities F :=
  changing env fun c => { c with origin := f.ofVector3 position }

/-- `pyshinqlx_set_velocity`. -/
def pyshinqlxSetVelocity (velocity : Vector3) :
    Int → PlayerEntities F → Controlled × PlayerEntities F :=
  changing env fun c => { c with velocity := f.ofVector3 velocity }

/-- `pyshinqlx_set_health`; the entity needs no client. -/
def pyshinqlxSetHealth (health : Int32) (clientId : Int) (w : PlayerEntities F) :
    Controlled × PlayerEntities F :=
  validated env clientId w
    (match w clientId with
    | none => ((.ok (.done false), []), w)
    | some e =>
      ((.ok (.done true), []), Function.update w clientId (some { e with health := health })))

/-- `pyshinqlx_set_armor`. -/
def pyshinqlxSetArmor (armor : Int32) : Int → PlayerEntities F → Controlled × PlayerEntities F :=
  changing env (·.setArmor armor)

/-- `pyshinqlx_set_weapon`. -/
def pyshinqlxSetWeapon (weapon : Int32) (clientId : Int) (w : PlayerEntities F) :
    Controlled × PlayerEntities F :=
  validated env clientId w
    (if 0 ≤ weapon ∧ weapon < 16 then setClient (fun _ => true) (·.setWeapon weapon) clientId w
    else ((.err (.valueError "Weapon must be a number from 0 to 15."), []), w))

/-- `pyshinqlx_set_weapons`. -/
def pyshinqlxSetWeapons (weapons : Weapons) :
    Int → PlayerEntities F → Controlled × PlayerEntities F :=
  changing env (·.changeArrays (GameClient.setWeapons weapons.toArray))

/-- `pyshinqlx_set_ammo`. -/
def pyshinqlxSetAmmo (ammos : Weapons) : Int → PlayerEntities F → Controlled × PlayerEntities F :=
  changing env (·.changeArrays (GameClient.setAmmos ammos.toArray))

/-- `pyshinqlx_set_powerups`. -/
def pyshinqlxSetPowerups (powerups : Powerups) :
    Int → PlayerEntities F → Controlled × PlayerEntities F :=
  changing env
    (·.changeArrays (GameClient.setPowerups (env.levelTime.getD 0) powerups.toArray))

/-- `pyshinqlx_set_holdable`. -/
def pyshinqlxSetHoldable (holdable : Int32) :
    Int → PlayerEntities F → Controlled × PlayerEntities F :=
  changing env (·.setHoldable (Holdable.ofInt holdable).toInt)

/-- `drop_holdable` of the entity of a client: what is launched is what the client holds, if it is
an item. -/
def dropHoldable (clientId : Int) (c : PlayerClient F) (w : PlayerEntities F) :
    Controlled × PlayerEntities F :=
  if env.isItem c.getHoldable then
    if env.launches then
      ((.ok (.done true), [.launchItem c.getHoldable]), putClient w clientId (c.setHoldable 0))
    else ((.panic, []), w)
  else ((.ok (.done true), []), w)

/-- `pyshinqlx_drop_holdable`. -/
def pyshinqlxDropHoldable (clientId : Int) (w : PlayerEntities F) :
    Controlled × PlayerEntities F :=
  let flagged := (setClient (fun _ => true) (·.removeKamikazeFlag) clientId w).2
  validated env clientId w
    (match (gameClient flagged clientId).filter (Holdable.ofInt ·.getHoldable ≠ .none) with
    | none => ((.ok (.done false), []), flagged)
    | some c => dropHoldable env clientId c flagged)

/-- `pyshinqlx_set_flight`. -/
def pyshinqlxSetFlight (flight : Flight) :
    Int → PlayerEntities F → Controlled × PlayerEntities F :=
  changing env (·.setFlight flight)

/-- `pyshinqlx_set_invulnerability`. -/
def pyshinqlxSetInvulnerability (time : Int32) :
    Int → PlayerEntities F → Controlled × PlayerEntities F :=
  changing env (·.setInvulnerability env.levelTime time)

/-- `pyshinqlx_noclip`. -/
def pyshinqlxNoclip (activate : Bool) (clientId : Int) (w : PlayerEntities F) :
    Controlled × PlayerEntities F :=
  validated env clientId w
    (setClient (·.noclip != activate) (fun c => { c with noclip := activate }) clientId w)

/-- `pyshinqlx_set_score`. -/
def pyshinqlxSetScore (score : Int32) : Int → PlayerEntities F → Controlled × PlayerEntities F :=
  changing env (·.setScore score)

/-- `pyshinqlx_set_privileges`. -/
def pyshinqlxSetPrivileges (privileges : Int32) :
    Int → PlayerEntities F → Controlled × PlayerEntities F :=
  changing env fun c => { c with privileges := .ofInt privileges }

/-- `pyshinqlx_player_spawn`; the game makes of the entity what it likes. -/
def pyshinqlxPlayerSpawn (clientId : Int) (w : PlayerEntities F) :
    Controlled × PlayerEntities F :=
  validated env clientId w
    (match gameClient w clientId with
    | none => ((.ok (.done false), []), w)
    | some c =>
      ((.ok (.done true), [.clientSpawn]),
        Function.update (putClient w clientId c.spawn) clientId (some env.spawned)))

/-- A call about a client id. -/
def step (w : PlayerEntities F) (call : Int × ControlEnv F × Control) :
    Controlled × PlayerEntities F :=
  let (clientId, env, control) := call
  match control with
  | .playerState => pyshinqlxPlayerState f env clientId w
  | .playerStats => pyshinqlxPlayerStats env clientId w
  | .setPosition position => pyshinqlxSetPosition f env position clientId w
  | .setVelocity velocity => pyshinqlxSetVelocity f env velocity clientId w
  | .setHealth health => pyshinqlxSetHealth env health clientId w
  | .setArmor armor => pyshinqlxSetArmor env armor clientId w
  | .setWeapon weapon => pyshinqlxSetWeapon env weapon clientId w
  | .setWeapons weapons => pyshinqlxSetWeapons env weapons clientId w
  | .setAmmo ammos => pyshinqlxSetAmmo env ammos clientId w
  | .setPowerups powerups => pyshinqlxSetPowerups env powerups clientId w
  | .setHoldable holdable => pyshinqlxSetHoldable env holdable clientId w
  | .dropHoldable => pyshinqlxDropHoldable env clientId w
  | .setFlight flight => pyshinqlxSetFlight env flight clientId w
  | .setInvulnerability time => pyshinqlxSetInvulnerability env time clientId w
  | .noclip activate => pyshinqlxNoclip env activate clientId w
  | .setScore score => pyshinqlxSetScore env score clientId w
  | .setPrivileges privileges => pyshinqlxSetPrivileges env privileges clientId w
  | .playerSpawn => pyshinqlxPlayerSpawn env clientId w

end PlayerControls
end ShinQlx
