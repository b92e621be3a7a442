import ShinQlx.ClientCommand
import ShinQlx.ClientId

/-! # The objects that stand for players

A plugin holds a `Player` for as long as it likes.  The object has two copies of the
player's userinfo: one of its own, from when it was made, and one in the `PlayerInfo` that
`update` replaces by a new one.  Its name is kept beside them, with the steam id that tells
whether the slot still belongs to the player.

Each getter reads one of these, or asks the engine about the slot.  Lookups in a userinfo
are parallel searches; `PlayerWorld` holds their choices.
-/
namespace ShinQlx

/-- `PlayerInfo` with all of its fields. -/
structure FullPlayerInfo extends PlayerInfo where
  connectionState : Int
  team : Int
  privileges : Int
  deriving DecidableEq

/-- A `Player` that a plugin holds. -/
structure PlayerObject where
  valid : Bool
  id : Int
  playerInfo : FullPlayerInfo
  userInfo : String
  steamId : Int
  name : String
  deriving DecidableEq

/-- What the game tells about the entity of a player. -/
structure EntitySlot where
  name : String
  team : Int
  privileges : Int

/-- What the server tells about a client; its steam id has 64 bits. -/
structure ClientSlot where
  state : Int
  userInfo : String
  steamId : Nat

/-- What is asked about a slot: its entity and its client, the configstrings if there is an
engine, and the state and the stats of its player. -/
structure PlayerEngine (S T : Type) where
  entity : Int → Option EntitySlot
  client : Int → Option ClientSlot
  configstring : Option (Nat → String)
  playerState : Int → PyResult (Option S)
  playerStats : Int → PyResult (Option T)

/-- What the getters rely on: the choice of a lookup of each key, and `str::parse` for
floating point numbers, with zero. -/
structure PlayerWorld (F : Type) where
  pick : String → Nat
  parseFloat : String → Option F
  zero : F

/-- `CS_PLAYERS`. -/
def csPlayers : Nat := 529

/-- `PlayerInfo::from` a client id. -/
def FullPlayerInfo.ofId {S T : Type} (engine : PlayerEngine S T) (clientId : Int) :
    FullPlayerInfo :=
  let returned : FullPlayerInfo :=
    { clientId := clientId, name := "", connectionState := 0, userinfo := "", steamId := 0,
      team := 3, privileges := -1 }
  let returned :=
    match engine.entity clientId with
    | none => returned
    | some gameEntity =>
      { returned with
        name := gameEntity.name, team := gameEntity.team, privileges := gameEntity.privileges }
  match engine.client clientId with
  | none => returned
  | some client =>
    { returned with
      connectionState := client.state, userinfo := client.userInfo,
      steamId := (client.steamId : Int).bmod (2 ^ 64) }

namespace PlayerObject
variable {F S T : Type}

/-- The exception of a player that is gone. -/
def nonexistent : PyErr :=
  .nonexistentPlayerError "The player does not exist anymore. Did the player disconnect?"

/-- The name in a `PlayerInfo`, or else in its userinfo. -/
def nameOf (w : PlayerWorld F) (info : FullPlayerInfo) : String :=
  if info.name = "" then
    ((parseVariables info.userinfo).get (w.pick "name") "name").getD ""
  else info.name

/-- `Player::py_new`. -/
def pyNew (w : PlayerWorld F) (engine : PlayerEngine S T) (clientId : Int)
    (info : Option FullPlayerInfo) : PlayerObject :=
  let playerInfo := info.getD (.ofId engine clientId)
  { valid := true
    id := clientId
    userInfo := playerInfo.userinfo
    steamId := playerInfo.steamId
    playerInfo := playerInfo
    name := nameOf w playerInfo }

/-- `update`. -/
def update (w : PlayerWorld F) (engine : PlayerEngine S T) (p : PlayerObject) :
    PyResult Unit × PlayerObject :=
  let p := { p with playerInfo := .ofId engine p.id }
  if p.playerInfo.steamId ≠ p.steamId then (.error nonexistent, { p with valid := false })
  else (.ok (), { p with name := nameOf w p.playerInfo })

/-! ## What is read from the userinfo -/

/-- The variables of the object's own userinfo. -/
def vars (p : PlayerObject) : ParsedVariables := parseVariables p.userInfo

/-- A lookup in the object's own userinfo. -/
def find (w : PlayerWorld F) (p : PlayerObject) (item : String) : Option String :=
  p.vars.get (w.pick item) item

/-- A variable that has to be there. -/
def required (w : PlayerWorld F) (p : PlayerObject) (item : String) : PyResult String :=
  match p.find w item with
  | none => .error (.keyError s!"'{item}'")
  | some value => .ok value

/-- A variable that has to be there, as a 32-bit integer. -/
def requiredInt (w : PlayerWorld F) (p : PlayerObject) (item : String) : PyResult Int :=
  match p.find w item with
  | none => .error (.keyError s!"'{item}'")
  | some value =>
    match Text.parseInt 32 value with
    | none => .error (.valueError s!"invalid literal for int() with base 10: '{value}'")
    | some i => .ok i

/-- `__contains__`. -/
def contains (w : PlayerWorld F) (p : PlayerObject) (item : String) : PyResult Bool :=
  if !p.valid then .error nonexistent else .ok (p.find w item).isSome

/-- `__getitem__`. -/
def getItem (w : PlayerWorld F) (p : PlayerObject) (item : String) : PyResult String :=
  if !p.valid then .error nonexistent else p.required w item

/-- `get_cvars`. -/
def getCvars (p : PlayerObject) : PyResult PyDict :=
  if !p.valid then .error nonexistent else .ok (ClientCommand.intoPyDict p.vars)

/-- `get_ip`. -/
def getIp (w : PlayerWorld F) (p : PlayerObject) : String :=
  ((p.find w "ip").map fun value => (Text.split ':' value).head?.getD "").getD ""

/-- `get_qport`. -/
def getQport (w : PlayerWorld F) (p : PlayerObject) : Int :=
  ((p.find w "qport").map fun value => (Text.parseInt 32 value).getD (-1)).getD (-1)

/-- `get_colors`. -/
def getColors (w : PlayerWorld F) (p : PlayerObject) : F × F :=
  (((p.find w "color1").bind w.parseFloat).getD w.zero,
    ((p.find w "color2").bind w.parseFloat).getD w.zero)

/-- `get_model`. -/
def getModel (w : PlayerWorld F) (p : PlayerObject) : PyResult String := p.required w "model"

/-- `get_headmodel`. -/
def getHeadmodel (w : PlayerWorld F) (p : PlayerObject) : PyResult String :=
  p.required w "headmodel"

/-- `get_handicap`. -/
def getHandicap (w : PlayerWorld F) (p : PlayerObject) : PyResult String := p.required w "handicap"

/-- `get_country`. -/
def getCountry (w : PlayerWorld F) (p : PlayerObject) : PyResult String := p.required w "country"

/-- `get_autohop`. -/
def getAutohop (w : PlayerWorld F) (p : PlayerObject) : PyResult Int := p.requiredInt w "autohop"

/-- `get_autoaction`. -/
def getAutoaction (w : PlayerWorld F) (p : PlayerObject) : PyResult Int :=
  p.requiredInt w "autoaction"

/-- `get_predictitems`. -/
def getPredictitems (w : PlayerWorld F) (p : PlayerObject) : PyResult Int :=
  p.requiredInt w "cg_predictitems"

/-! ## What is read from elsewhere -/

/-- `trim_end_matches` of `^7`, from the end of the text. -/
def trimEndWhite : List Char → List Char
  | '7' :: '^' :: cs => trimEndWhite cs
  | cs => cs

/-- `get_name`. -/
def getName (p : PlayerObject) : String :=
  String.ofList (trimEndWhite p.name.toList.reverse).reverse ++ "^7"

/-- `get_clean_name`. -/
def getCleanName (p : PlayerObject) : String := ClientId.cleanText p.name

/-- `get_clan`; the index has 16 bits. -/
def getClan (w : PlayerWorld F) (engine : PlayerEngine S T) (p : PlayerObject) : String :=
  (engine.configstring.bind fun getConfigstring =>
    (parseVariables (getConfigstring ((csPlayers + p.id) % 2 ^ 16).toNat)).get (w.pick "cn")
      "cn").getD ""

/-- `get_team`. -/
def getTeam (p : PlayerObject) : PyResult String :=
  match p.playerInfo.team with
  | 0 => .ok "free"
  | 1 => .ok "red"
  | 2 => .ok "blue"
  | 3 => .ok "spectator"
  | _ => .error (.valueError "invalid team")

/-- `get_connection_state`. -/
def getConnectionState (p : PlayerObject) : PyResult String :=
  match p.playerInfo.connectionState with
  | 0 => .ok "free"
  | 1 => .ok "zombie"
  | 2 => .ok "connected"
  | 3 => .ok "primed"
  | 4 => .ok "active"
  | _ => .error (.valueError "invalid clientState")

/-- `get_privileges`. -/
def getPrivileges (p : PlayerObject) : Option String :=
  match p.playerInfo.privileges with
  | 1 => some "mod"
  | 2 => some "admin"
  | 3 => some "root"
  | -1 => some "banned"
  | _ => none

/-- `get_state`. -/
def getState (engine : PlayerEngine S T) (p : PlayerObject) : PyResult (Option S) :=
  engine.playerState p.id

/-- `get_stats`. -/
def getStats (engine : PlayerEngine S T) (p : PlayerObject) : PyResult (Option T) :=
  engine.playerStats p.id

end PlayerObject
end ShinQlx
