import ShinQlx.ClientId
import ShinQlx.Command
import ShinQlx.Run

/-! # Permissions and flags in the database

Permissions and flags of players are kept in one flat space of keys, which are made of the
steam id and the name of the flag as they are.  `Redis` reads and writes them, with a player
given in different ways.

`PlayerData` is what the store is for: a map of permissions and a map of flags.  As the keys
of different entries are different (`Entry.key_injective`), the operations on the database
answer like the ones on the two maps, in every run (`playerStore_refines`).
-/
namespace ShinQlx

/-- What `Redis` asks its connection: the string form of what `exists` returns, the text that
`get` returns, and whether an integer could be `set`. -/
structure KeyValueClient (S : Type) where
  existing : S → String → PyResult String
  get : S → String → PyResult (Option String)
  set : S → String → Int → PyResult Bool × S

namespace Redis
variable {S : Type} (client : KeyValueClient S)

/-- `__contains__`. -/
def contains (s : S) (key : String) : PyResult Bool := (client.existing s key).map (· ≠ "0")

/-- `__getitem__`. -/
def getItem (s : S) (key : String) : PyResult String :=
  match client.get s key with
  | .error e => .error e
  | .ok none => .error (.keyError s!"The key '{key}' is not present in the database.")
  | .ok (some value) => .ok value

/-- `__setitem__`. -/
def setItem (s : S) (key : String) (item : Int) : PyResult Unit × S :=
  match client.set s key item with
  | (.error e, s) => (.error e, s)
  | (.ok false, s) => (.error (.runtimeError "The database assignment failed."), s)
  | (.ok true, s) => (.ok (), s)

/-- The key of a permission. -/
def permissionKey (player : String) : String := "minqlx:players:" ++ player ++ ":permission"

/-- The key of a flag. -/
def flagKey (player flag : String) : String := "minqlx:players:" ++ player ++ ":flags:" ++ flag

/-- A player in a key that is written. -/
def playerText : ClientArg → String
  | .player rustPlayer => toString rustPlayer.steamId
  | player => player.toString

/-- A player whose permission is read. -/
def steamId (player : ClientArg) : PyResult Int :=
  let invalid : PyErr :=
    .valueError "Invalid player. Use either a shinqlx.Player instance or a SteamID64."
  match player with
  | .player rustPlayer => .ok rustPlayer.steamId
  | .int i => if -2 ^ 63 ≤ i ∧ i < 2 ^ 63 then .ok i else .error invalid
  | .str s =>
    match Text.parseInt 64 s with
    | some steamId => .ok steamId
    | none => .error invalid
  | _ => .error invalid

/-- `set_permission`. -/
def setPermission (s : S) (player : ClientArg) (level : Int) : PyResult Unit × S :=
  setItem client s (permissionKey (playerText player)) level

/-- `get_permission`. -/
def getPermission (getCvar : String → PyResult (Option String)) (s : S) (player : ClientArg) :
    PyResult Int := do
  let steamId ← steamId player
  let owner ← owner getCvar
  if some steamId = owner then return 5
  let key := permissionKey (toString steamId)
  if !(← contains client s key) then return 0
  let value ← getItem client s key
  match Text.parseInt 32 value with
  | some level => return level
  | none => throw (.valueError s!"invalid literal for int() with base 10: '{value}")

/-- `has_permission`. -/
def hasPermission (getCvar : String → PyResult (Option String)) (s : S) (player : ClientArg)
    (level : Int) : PyResult Bool :=
  (getPermission client getCvar s player).map (level ≤ ·)

/-- `set_flag`. -/
def setFlag (s : S) (player : ClientArg) (flag : String) (value : Bool) : PyResult Unit × S :=
  setItem client s (flagKey (playerText player) flag) (if value then 1 else 0)

/-- `clear_flag`. -/
def clearFlag (s : S) (player : ClientArg) (flag : String) : PyResult Unit × S :=
  setFlag client s player flag false

/-- `get_flag`. -/
def getFlag (s : S) (player : ClientArg) (flag : String) (default : Bool) : PyResult Bool := do
  let key := flagKey (playerText player) flag
  if !(← contains client s key) then return default
  return (← getItem client s key) ≠ "0"

end Redis

/-! ## The two maps -/

/-- What is known about the players: their permissions, and their flags. -/
@[ext]
structure PlayerData where
  permission : Int → Option Int32
  flag : Int → String → Option Bool

/-- A steam id as an argument: a `Player` with it, the integer, or its decimal digits. -/
def Names (steamId : Int) : ClientArg → Prop
  | .player p => p.steamId = steamId
  | .int i => i = steamId
  | .str s => s = toString steamId
  | _ => False

/-- A player that is given in one of the ways; its steam id has 64 bits. -/
structure PlayerRef where
  arg : ClientArg
  steamId : Int
  names : Names steamId arg
  range : -2 ^ 63 ≤ steamId ∧ steamId < 2 ^ 63

/-- The calls; between them the cvars of the server change. -/
inductive StoreCall where
  | cvars (getCvar : String → PyResult (Option String))
  | setPermission (player : PlayerRef) (level : Int32)
  | getPermission (player : PlayerRef)
  | hasPermission (player : PlayerRef) (level : Int32)
  | setFlag (player : PlayerRef) (flag : String) (value : Bool)
  | clearFlag (player : PlayerRef) (flag : String)
  | getFlag (player : PlayerRef) (flag : String) (default : Bool)

/-- What a call returns. -/
inductive StoreAnswer where
  | none
  | level (level : Int)
  | bool (b : Bool)
  deriving DecidableEq

/-- A database and the cvars of the server. -/
structure StoreState (S : Type) where
  data : S
  getCvar : String → PyResult (Option String)

/-- A call to the database. -/
def redisStep {S : Type} (client : KeyValueClient S) (s : StoreState S) :
    StoreCall → PyResult StoreAnswer × StoreState S
  | .cvars getCvar => (.ok .none, { s with getCvar := getCvar })
  | .setPermission player level =>
    let (result, data) := Redis.setPermission client s.data player.arg level.toInt
    (result.map fun _ => .none, { s with data := data })
  | .getPermission player =>
    ((Redis.getPermission client s.getCvar s.data player.arg).map .level, s)
  | .hasPermission player level =>
    ((Redis.hasPermission client s.getCvar s.data player.arg level.toInt).map .bool, s)
  | .setFlag player flag value =>
    let (result, data) := Redis.setFlag client s.data player.arg flag value
    (result.map fun _ => .none, { s with data := data })
  | .clearFlag player flag =>
    let (result, data) := Redis.clearFlag client s.data player.arg flag
    (result.map fun _ => .none, { s with data := data })
  | .getFlag player flag default =>
    ((Redis.getFlag client s.data player.arg flag default).map .bool, s)

namespace PlayerData

/-- The permission of a player: that of the owner, or the one that was set, or 0. -/
def level (d : PlayerData) (getCvar : String → PyResult (Option String)) (steamId : Int) :
    PyResult Int :=
  (owner getCvar).map fun owner =>
    if some steamId = owner then 5 else ((d.permission steamId).map Int32.toInt).getD 0

/-- A permission is set. -/
def setPermission (d : PlayerData) (steamId : Int) (level : Int32) : PlayerData :=
  { d with permission := fun i => if i = steamId then some level else d.permission i }

/-- A flag is set. -/
def setFlag (d : PlayerData) (steamId : Int) (flag : String) (value : Bool) : PlayerData :=
  { d with flag := fun i f => if i = steamId ∧ f = flag then some value else d.flag i f }

/-- A call to the two maps. -/
def step (s : StoreState PlayerData) : StoreCall → PyResult StoreAnswer × StoreState PlayerData
  | .cvars getCvar => (.ok .none, { s with getCvar := getCvar })
  | .setPermission player level =>
    (.ok .none, { s with data := s.data.setPermission player.steamId level })
  | .getPermission player => ((s.data.level s.getCvar player.steamId).map .level, s)
  | .hasPermission player level =>
    ((s.data.level s.getCvar player.steamId).map fun value => .bool (level.toInt ≤ value), s)
  | .setFlag player flag value =>
    (.ok .none, { s with data := s.data.setFlag player.steamId flag value })
  | .clearFlag player flag =>
    (.ok .none, { s with data := s.data.setFlag player.steamId flag false })
  | .getFlag player flag default =>
    (.ok (.bool ((s.data.flag player.steamId flag).getD default)), s)

end PlayerData

/-! ## Keys -/

/-- What a key stands for. -/
inductive Entry where
  | permission (steamId : Int)
  | flag (steamId : Int) (flag : String)
  deriving DecidableEq

namespace Entry

/-- The key of an entry. -/
def key : Entry → String
  | .permission steamId => Redis.permissionKey (toString steamId)
  | .flag steamId name => Redis.flagKey (toString steamId) name

theorem toList_permissionKey (player : String) : (Redis.permissionKey player).toList =
    "minqlx:players:".toList ++ (player.toList ++ ':' :: "permission".toList) := by
  show ("minqlx:players:" ++ player ++ ":permission").toList = _
  rw [String.toList_append, String.toList_append, List.append_assoc]
  rfl

theorem toList_flagKey (player flag : String) : (Redis.flagKey player flag).toList =
    "minqlx:players:".toList ++ (player.toList ++ ':' :: ("flags:".toList ++ flag.toList)) := by
  show ("minqlx:players:" ++ player ++ ":flags:" ++ flag).toList = _
  rw [String.toList_append, String.toList_append, String.toList_append, List.append_assoc,
    List.append_assoc]
  rfl

theorem colon_notMem (steamId : Int) : ':' ∉ (toString steamId).toList := by
  intro hc
  rcases Text.mem_toString hc with hc | hc | hc <;> exact absurd hc (by decide)

/-- Behind the same beginning, the player and what follows the colon are the same. -/
theorem player_inj {steamId steamId' : Int} {rest rest' : List Char}
    (h : "minqlx:players:".toList ++ ((toString steamId).toList ++ ':' :: rest) =
      "minqlx:players:".toList ++ ((toString steamId').toList ++ ':' :: rest')) :
    steamId = steamId' ∧ rest = rest' := by
  obtain ⟨hid, hrest⟩ := (Text.append_cons_inj (colon_notMem steamId) (colon_notMem steamId')).mp
    (List.append_cancel_left h)
  exact ⟨Text.toString_injective (String.toList_inj.mp hid), hrest⟩

/-- **Different entries have different keys**, whatever the flags are called. -/
theorem key_injective : Function.Injective key := by
  intro e e' h
  have hlist := congrArg String.toList h
  cases e with
  | permission steamId =>
    cases e' with
    | permission steamId' =>
      rw [key, key, toList_permissionKey, toList_permissionKey] at hlist
      rw [(player_inj hlist).1]
    | flag steamId' name' =>
      rw [key, key, toList_permissionKey, toList_flagKey] at hlist
      exact absurd (congrArg List.head? (player_inj hlist).2) (by simp)
  | flag steamId name =>
    cases e' with
    | permission steamId' =>
      rw [key, key, toList_permissionKey, toList_flagKey] at hlist
      exact absurd (congrArg List.head? (player_inj hlist).2) (by simp)
    | flag steamId' name' =>
      rw [key, key, toList_flagKey, toList_flagKey] at hlist
      obtain ⟨rfl, hrest⟩ := player_inj hlist
      rw [String.toList_inj.mp (List.append_cancel_left hrest)]

end Entry

/-! ## The database holds the two maps -/

/-- A connection that keeps texts: `get` returns the text that was last set under a key, and
`exists` tells whether there is one. -/
structure KeepsTexts {S : Type} (client : KeyValueClient S) (content : S → String → Option String) :
    Prop where
  existing : ∀ s key,
    client.existing s key = .ok (if (content s key).isSome then "1" else "0")
  get : ∀ s key, client.get s key = .ok (content s key)
  set : ∀ s key item, ∃ s', client.set s key item = (.ok true, s') ∧
    ∀ other, content s' other = if other = key then some (toString item) else content s other

/-- The text that is kept for an entry. -/
def PlayerData.text (d : PlayerData) : Entry → Option String
  | .permission steamId => (d.permission steamId).map fun level => toString level.toInt
  | .flag steamId flag => (d.flag steamId flag).map fun value => if value then "1" else "0"

/-- The entries of a database are those of the two maps, under the same cvars. -/
structure Holds {S : Type} (content : S → String → Option String) (s : StoreState S)
    (a : StoreState PlayerData) : Prop where
  text : ∀ e : Entry, content s.data e.key = a.data.text e
  getCvar : s.getCvar = a.getCvar

namespace Redis
variable {S : Type} {client : KeyValueClient S} {content : S → String → Option String}

theorem contains_eq (h : KeepsTexts client content) (s : S) (key : String) :
    contains client s key = .ok (content s key).isSome := by
  rw [contains, h.existing]
  cases content s key <;> rfl

theorem getItem_eq (h : KeepsTexts client content) {s : S} {key value : String}
    (hvalue : content s key = some value) : getItem client s key = .ok value := by
  rw [getItem, h.get, hvalue]

theorem setItem_eq (h : KeepsTexts client content) (s : S) (key : String) (item : Int) :
    ∃ s', setItem client s key item = (.ok (), s') ∧
      ∀ other, content s' other =
        if other = key then some (toString item) else content s other := by
  obtain ⟨s', hset, hcontent⟩ := h.set s key item
  exact ⟨s', by rw [setItem, hset], hcontent⟩

/-- A player has the same key in whichever way it is given. -/
theorem playerText_eq (player : PlayerRef) : playerText player.arg = toString player.steamId := by
  obtain ⟨arg, id, hnames, -⟩ := player
  cases arg with
  | player p => exact congrArg toString hnames
  | int i => exact congrArg toString hnames
  | str s => exact hnames
  | _ => exact hnames.elim

theorem steamId_eq (player : PlayerRef) : steamId player.arg = .ok player.steamId := by
  obtain ⟨arg, id, hnames, hrange⟩ := player
  cases arg with
  | player p => exact congrArg Except.ok hnames
  | int i =>
    obtain rfl : i = id := hnames
    exact if_pos hrange
  | str s =>
    obtain rfl : s = toString id := hnames
    have hread := Text.parseInt_toString 64 id
    rw [if_pos hrange] at hread
    simp only [steamId, hread]
  | _ => exact hnames.elim

/-- The permission that is read is that of the map. -/
theorem getPermission_eq (h : KeepsTexts client content) {s : StoreState S}
    {a : StoreState PlayerData} (hs : Holds content s a) (player : PlayerRef) :
    getPermission client s.getCvar s.data player.arg = a.data.level a.getCvar player.steamId := by
  rw [getPermission, PlayerData.level, steamId_eq, hs.getCvar]
  cases owner a.getCvar with
  | error e => rfl
  | ok owner =>
    have htext := hs.text (.permission player.steamId)
    have hkey : permissionKey (toString player.steamId) =
        (Entry.permission player.steamId).key := rfl
    by_cases howner : some player.steamId = owner
    · simp [howner, bind, Except.bind, pure, Except.pure, Except.map]
    · cases hlevel : a.data.permission player.steamId with
      | none =>
        rw [PlayerData.text, hlevel, Option.map_none] at htext
        simp only [howner, bind, Except.bind, pure, Except.pure, Except.map, hkey,
          contains_eq h, htext]
        rfl
      | some level =>
        have hread := Text.parseInt_toString 32 level.toInt
        rw [if_pos ⟨level.le_toInt, level.toInt_lt⟩] at hread
        rw [PlayerData.text, hlevel, Option.map_some] at htext
        simp only [howner, bind, Except.bind, pure, Except.pure, Except.map, hkey,
          contains_eq h, htext, getItem_eq h htext, hread]
        rfl

/-- So is the flag. -/
theorem getFlag_eq (h : KeepsTexts client content) {s : StoreState S}
    {a : StoreState PlayerData} (hs : Holds content s a) (player : PlayerRef) (flag : String)
    (default : Bool) :
    getFlag client s.data player.arg flag default =
      .ok ((a.data.flag player.steamId flag).getD default) := by
  have htext := hs.text (.flag player.steamId flag)
  have hkey : flagKey (playerText player.arg) flag = (Entry.flag player.steamId flag).key := by
    rw [playerText_eq]
    rfl
  rw [getFlag, hkey]
  cases hflag : a.data.flag player.steamId flag with
  | none =>
    rw [PlayerData.text, hflag, Option.map_none] at htext
    simp [bind, Except.bind, pure, Except.pure, contains_eq h, htext]
  | some value =>
    rw [PlayerData.text, hflag, Option.map_some] at htext
    simp only [bind, Except.bind, pure, Except.pure, contains_eq h, htext, getItem_eq h htext]
    cases value <;> rfl

/-- An item that is set is set in the maps. -/
theorem holds_setItem (h : KeepsTexts client content) {s : StoreState S} {a : StoreState PlayerData}
    (hs : Holds content s a) (e : Entry) {item : Int} {data : PlayerData}
    (hdata : ∀ other,
      data.text other = if other = e then some (toString item) else a.data.text other) :
    ∃ s', setItem client s.data e.key item = (.ok (), s') ∧
      Holds content { s with data := s' } { a with data := data } := by
  obtain ⟨s', hset, hcontent⟩ := setItem_eq h s.data e.key item
  refine ⟨s', hset, fun other => ?_, hs.getCvar⟩
  rw [hcontent, hdata]
  by_cases hother : other = e
  · rw [if_pos hother, if_pos (congrArg Entry.key hother)]
  · rw [if_neg hother, if_neg (Entry.key_injective.ne hother), hs.text]

end Redis

namespace PlayerData

theorem text_setPermission (d : PlayerData) (steamId : Int) (level : Int32) (other : Entry) :
    (d.setPermission steamId level).text other =
      if other = .permission steamId then some (toString level.toInt) else d.text other := by
  cases other with
  | permission i => by_cases hi : i = steamId <;> simp [setPermission, text, hi]
  | flag i name => simp [setPermission, text]

theorem text_setFlag (d : PlayerData) (steamId : Int) (flag : String) (value : Bool)
    (other : Entry) :
    (d.setFlag steamId flag value).text other =
      if other = .flag steamId flag then some (toString (if value then (1 : Int) else 0))
      else d.text other := by
  cases other with
  | permission i => simp [setFlag, text]
  | flag i name =>
    by_cases hi : i = steamId ∧ name = flag
    · cases value <;> simp [setFlag, text, hi] <;> rfl
    · simp [setFlag, text, hi]

end PlayerData

section refinement
variable {S : Type} {client : KeyValueClient S} {content : S → String → Option String}

/-- A flag that is set is set in the map of flags. -/
theorem holds_setFlag (h : KeepsTexts client content) {s : StoreState S}
    {a : StoreState PlayerData} (hs : Holds content s a) (player : PlayerRef) (flag : String)
    (value : Bool) :
    ∃ s', Redis.setFlag client s.data player.arg flag value = (.ok (), s') ∧
      Holds content { s with data := s' }
        { a with data := a.data.setFlag player.steamId flag value } := by
  obtain ⟨s', hset, hholds⟩ := Redis.holds_setItem h hs (.flag player.steamId flag)
    (a.data.text_setFlag player.steamId flag value)
  refine ⟨s', ?_, hholds⟩
  rw [Redis.setFlag, Redis.playerText_eq]
  exact hset

/-- Every call is answered alike. -/
theorem holds_step (h : KeepsTexts client content) {s : StoreState S} {a : StoreState PlayerData}
    (hs : Holds content s a) (c : StoreCall) :
    (redisStep client s c).1 = (PlayerData.step a c).1 ∧
      Holds content (redisStep client s c).2 (PlayerData.step a c).2 := by
  cases c with
  | cvars getCvar => exact ⟨rfl, hs.text, rfl⟩
  | setPermission player level =>
    obtain ⟨s', hset, hholds⟩ := Redis.holds_setItem h hs (.permission player.steamId)
      (a.data.text_setPermission player.steamId level)
    have hcall : Redis.setPermission client s.data player.arg level.toInt = (.ok (), s') := by
      rw [Redis.setPermission, Redis.playerText_eq]
      exact hset
    rw [redisStep, hcall]
    exact ⟨rfl, hholds⟩
  | getPermission player =>
    rw [redisStep, Redis.getPermission_eq h hs]
    exact ⟨rfl, hs⟩
  | hasPermission player level =>
    rw [redisStep, Redis.hasPermission, Redis.getPermission_eq h hs, PlayerData.step]
    cases a.data.level a.getCvar player.steamId <;> exact ⟨rfl, hs⟩
  | setFlag player flag value =>
    obtain ⟨s', hset, hholds⟩ := holds_setFlag h hs player flag value
    rw [redisStep, hset]
    exact ⟨rfl, hholds⟩
  | clearFlag player flag =>
    obtain ⟨s', hset, hholds⟩ := holds_setFlag h hs player flag false
    rw [redisStep, Redis.clearFlag, hset]
    exact ⟨rfl, hholds⟩
  | getFlag player flag default =>
    rw [redisStep, Redis.getFlag_eq h hs]
    exact ⟨rfl, hs⟩

end refinement

/-! ## What was set last -/

/-- The permission that a call sets for a steam id. -/
def StoreCall.permissionSet (steamId : Int) : StoreCall → Option Int32
  | .setPermission player level => if steamId = player.steamId then some level else none
  | _ => none

/-- The value that a call sets for a steam id and a flag. -/
def StoreCall.flagSet (steamId : Int) (name : String) : StoreCall → Option Bool
  | .setFlag player flag value =>
    if steamId = player.steamId ∧ name = flag then some value else none
  | .clearFlag player flag => if steamId = player.steamId ∧ name = flag then some false else none
  | _ => none

/-- The permission that was last set for a steam id. -/
def lastPermission (steamId : Int) (calls : List StoreCall) : Option Int32 :=
  calls.reverse.findSome? (·.permissionSet steamId)

/-- The value that was last set for a steam id and a flag. -/
def lastFlag (steamId : Int) (name : String) (calls : List StoreCall) : Option Bool :=
  calls.reverse.findSome? (·.flagSet steamId name)

namespace PlayerData

/-- No permissions and no flags. -/
def empty : PlayerData := ⟨fun _ => none, fun _ _ => none⟩

/-- What is known after some calls: what was last set, and otherwise what was known before. -/
def after (d : PlayerData) (calls : List StoreCall) : PlayerData :=
  { permission := fun steamId => (lastPermission steamId calls).or (d.permission steamId)
    flag := fun steamId name => (lastFlag steamId name calls).or (d.flag steamId name) }

end PlayerData

theorem lastPermission_concat (steamId : Int) (calls : List StoreCall) (c : StoreCall) :
    lastPermission steamId (calls ++ [c]) =
      (c.permissionSet steamId).or (lastPermission steamId calls) := by
  rw [lastPermission, List.reverse_concat, List.findSome?_cons]
  cases c.permissionSet steamId <;> rfl

theorem lastFlag_concat (steamId : Int) (name : String) (calls : List StoreCall) (c : StoreCall) :
    lastFlag steamId name (calls ++ [c]) =
      (c.flagSet steamId name).or (lastFlag steamId name calls) := by
  rw [lastFlag, List.reverse_concat, List.findSome?_cons]
  cases c.flagSet steamId name <;> rfl

/-- The maps hold what was last set. -/
theorem final_data (a : StoreState PlayerData) (calls : List StoreCall) :
    (Run.final PlayerData.step a calls).data = a.data.after calls := by
  have hpermission : ∀ (a : StoreState PlayerData) (c : StoreCall) (steamId : Int),
      (PlayerData.step a c).2.data.permission steamId =
        (c.permissionSet steamId).or (a.data.permission steamId) := by
    intro a c steamId
    cases c with
    | setPermission player level =>
      by_cases h : steamId = player.steamId <;>
        simp [PlayerData.step, PlayerData.setPermission, StoreCall.permissionSet, h]
    | _ => rfl
  have hflag : ∀ (a : StoreState PlayerData) (c : StoreCall) (steamId : Int) (name : String),
      (PlayerData.step a c).2.data.flag steamId name =
        (c.flagSet steamId name).or (a.data.flag steamId name) := by
    intro a c steamId name
    cases c with
    | setFlag player flag value =>
      by_cases h : steamId = player.steamId ∧ name = flag <;>
        simp [PlayerData.step, PlayerData.setFlag, StoreCall.flagSet, h]
    | clearFlag player flag =>
      by_cases h : steamId = player.steamId ∧ name = flag <;>
        simp [PlayerData.step, PlayerData.setFlag, StoreCall.flagSet, h]
    | _ => rfl
  induction calls using List.reverseRecOn with
  | nil => rfl
  | append_singleton calls c ih =>
    rw [Run.final_append, Run.final_cons, Run.final_nil]
    refine PlayerData.ext (funext fun steamId => ?_) (funext fun steamId => funext fun name => ?_)
    · rw [hpermission, ih]
      simp only [PlayerData.after, lastPermission_concat, Option.or_assoc]
    · rw [hflag, ih]
      simp only [PlayerData.after, lastFlag_concat, Option.or_assoc]

/-- A connection to a database that is a map of texts. -/
def mapClient : KeyValueClient (String → Option String) where
  existing s key := .ok (if (s key).isSome then "1" else "0")
  get s key := .ok (s key)
  set s key item := (.ok true, fun other => if other = key then some (toString item) else s other)

end ShinQlx
