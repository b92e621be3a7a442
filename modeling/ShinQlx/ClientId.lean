import ShinQlx.ColorTag
import ShinQlx.StatsListener

/-! # Which player is meant

Plugins name a player by a `Player`, a client id, a steam id or a name, and `client_id`
finds out whose client id is meant.  What acts on a player (`kick`, `mute`, `put` and the
like) asks it first.

It tries one reading after the other, and the first reads the string form of whatever it
was given as a number.  The string form of a `Player` is the name that the player chose.  The
other readings are parallel searches that come up with any of the players they find; `pick`
is their choice.

`Resolves` says whom an argument means, and `resolves_iff` for which arguments and players
`client_id` finds that one.
-/
namespace ShinQlx

/-- What a plugin names a player by, as `client_id` tells it apart: `other` is an object
that none of its conversions takes, by its string form. -/
inductive ClientArg where
  | none
  | player (p : Player)
  | int (i : Int)
  | str (s : String)
  | other (text : String)

/-- What `client_id` finds: how letters are lowered, and the connected players. -/
structure ClientIdWorld where
  toLowercase : String → String
  allPlayers : PyResult (List Player)

namespace ClientArg

/-- The string form of an argument. -/
def toString : ClientArg → String
  | .none => "None"
  | .player p => p.name
  | .int i => ToString.toString i
  | .str s => s
  | .other text => text

end ClientArg

namespace ClientId

/-- `clean_text`. -/
def cleanText (text : String) : String := String.ofList (ColorToken.strip text.toList)

/-- `find_any`, which finds the `pick`-th of the players that pass the test. -/
def findAny (pick : Nat) (p : Player → Bool) (players : List Player) : Option Player :=
  let found := players.filter p
  found[pick % found.length]?

/-- A name as it is compared. -/
def cleanName (w : ClientIdWorld) (name : String) : String := w.toLowercase (cleanText name)

/-- `client_id`. -/
def clientId (w : ClientIdWorld) (pick : Nat) (name : ClientArg)
    (playerList : Option (List Player)) : Option Int :=
  match name with
  | .none => none
  | _ =>
    match (Text.parseInt 32 name.toString).filter fun value => 0 ≤ value ∧ value < 64 with
    | some value => some value
    | none =>
      match name with
      | .player player => some player.id
      | _ =>
        let allPlayers := playerList.getD (w.allPlayers.unwrapOr [])
        match Text.parseInt 64 name.toString with
        | some steamId => (findAny pick (·.steamId = steamId) allPlayers).map (·.id)
        | none =>
          match name with
          | .str playerName =>
            (findAny pick (fun player => cleanName w player.name = cleanName w playerName)
              allPlayers).map (·.id)
          | _ => none

end ClientId

/-! ## What acts on a player -/

/-- `Teams::from` a name, and back. -/
def teamOf (name : String) : Option String :=
  ["free", "red", "blue", "spectator"].find? (· = name)

/-- The calls that act on a player. -/
inductive AdminCall where
  | put (team : String)
  | mute
  | unmute
  | tempban
  | ban
  | unban
  | addadmin
  | addmod
  | demote
  | addscore (score : Int)
  | slap (damage : Int)
  | slay
  | kick (reason : String)
  | tell (msg : String)

/-- What is done to a client: a console command, a kick, or a message to it. -/
inductive AdminAct where
  | console (cmd : String)
  | kick (clientId : Int) (reason : Option String)
  | tell (clientId : Int) (msg : String)
  deriving DecidableEq

/-- What a call finds: the choice of a search, whether there is an engine, and what becomes of
a kick and of a message. -/
structure AdminWorld extends ClientIdWorld where
  pick : Nat
  engine : Bool
  kick : Int → Option String → PyResult Unit
  tell : Int → String → PyResult Unit

/-- What a call comes to, and what it does. -/
structure AdminDone where
  result : PyResult Unit
  acts : List AdminAct

namespace AdminCall

/-- `console_command`. -/
def consoleCommand (w : AdminWorld) (cmd : String) : AdminDone :=
  if w.engine then ⟨.ok (), [.console cmd]⟩
  else ⟨.error (.environmentError "main quake live engine not set"), []⟩

/-- The error for a player that is not found. -/
def invalid : AdminCall → PyErr
  | .tell _ => .valueError "could not find recipient"
  | _ => .valueError "Invalid player."

/-- What a call does to a client. -/
def act (w : AdminWorld) (id : Int) : AdminCall → AdminDone
  | .put team =>
    match teamOf (w.toLowercase team) with
    | none => ⟨.error (.valueError "Invalid team."), []⟩
    | some team => consoleCommand w s!"put {id} {team}"
  | .mute => consoleCommand w s!"mute {id}"
  | .unmute => consoleCommand w s!"unmute {id}"
  | .tempban => consoleCommand w s!"tempban {id}"
  | .ban => consoleCommand w s!"ban {id}"
  | .unban => consoleCommand w s!"unban {id}"
  | .addadmin => consoleCommand w s!"addadmin {id}"
  | .addmod => consoleCommand w s!"addmod {id}"
  | .demote => consoleCommand w s!"demote {id}"
  | .addscore score => consoleCommand w s!"addscore {id} {score}"
  | .slap damage => consoleCommand w s!"slap {id} {damage}"
  | .slay => consoleCommand w s!"slay {id}"
  | .kick reason =>
    let reason := if reason = "" then none else some reason
    ⟨w.kick id reason, [.kick id reason]⟩
  | .tell msg => ⟨w.tell id msg, [.tell id msg]⟩

/-- The call, for what a plugin names the player by. -/
def run (w : AdminWorld) (player : ClientArg) (call : AdminCall) : AdminDone :=
  match ClientId.clientId w.toClientIdWorld w.pick player none with
  | none => ⟨.error call.invalid, []⟩
  | some id => call.act w id

end AdminCall

namespace ClientId

/-! ## Whom an argument means -/

/-- The integer that an argument is, or its string form reads as. -/
def numberOf (width : Nat) : ClientArg → Option Int
  | .int i => if -2 ^ (width - 1) ≤ i ∧ i < 2 ^ (width - 1) then some i else none
  | .str s | .other s => Text.parseInt width s
  | .none | .player _ => none

/-- The client id that an argument is. -/
def idOf (name : ClientArg) : Option Int :=
  (numberOf 32 name).filter fun value => 0 ≤ value ∧ value < 64

/-- The steam id that an argument is, if it is no client id. -/
def steamIdOf (name : ClientArg) : Option Int :=
  if (idOf name).isSome then none else numberOf 64 name

/-- Whom an argument means among some players, whatever the searches choose.  A `Player`
means itself, also to what acts on it; a number from 0 to 63 the client with that id; any
other number the player with that steam id, if there is one; and a string that is nobody's
id a player with that name. -/
structure Resolves (w : ClientIdWorld) (name : ClientArg) (players : List Player) : Prop where
  player : ∀ p pick, name = .player p →
    clientId w pick name (some players) = some p.id
  acts : ∀ p v call, name = .player p → AdminCall.run v name call = call.act v p.id
  number : ∀ i pick, idOf name = some i →
    clientId w pick name (some players) = some i
  steamId : ∀ s pick, steamIdOf name = some s → (∃ p ∈ players, p.steamId = s) →
    ∃ p ∈ players, p.steamId = s ∧
      clientId w pick name (some players) = some p.id
  named : ∀ t pick, name = .str t → idOf name = none →
    (∀ p ∈ players, steamIdOf name ≠ some p.steamId) →
    (∃ p ∈ players, cleanName w p.name = cleanName w t) →
    ∃ p ∈ players, cleanName w p.name = cleanName w t ∧
      clientId w pick name (some players) = some p.id
  stable : ∀ pick pick',
    clientId w pick name (some players) = clientId w pick' name (some players)

/-- The players that pass a test have one id. -/
def SameId (p : Player → Prop) (players : List Player) : Prop :=
  ∀ x ∈ players, ∀ y ∈ players, p x → p y → x.id = y.id

/-- An argument that cannot be mistaken: a `Player` whose name is no client id but its own;
a steam id of one client; or a name of one client, that does not read as a number. -/
structure Unmistakable (w : ClientIdWorld) (name : ClientArg) (players : List Player) :
    Prop where
  player : ∀ p, name = .player p → ∀ i, idOf (.str p.name) = some i → i = p.id
  steamId : ∀ s, steamIdOf name = some s → SameId (·.steamId = s) players
  named : ∀ t, name = .str t → idOf name = none → numberOf 64 name = none →
    SameId (fun p => cleanName w p.name = cleanName w t) players
  number : ∀ t s, name = .str t → steamIdOf name = some s → (∀ p ∈ players, p.steamId ≠ s) →
    ∀ p ∈ players, cleanName w p.name ≠ cleanName w t

/-! ## What the searches find -/

theorem findAny_of_exists {p : Player → Bool} {players : List Player}
    (h : ∃ x ∈ players, p x = true) (pick : Nat) :
    ∃ x ∈ players, p x = true ∧ findAny pick p players = some x := by
  obtain ⟨x, hx, hp⟩ := h
  have hpos : 0 < (players.filter p).length := List.length_pos_of_mem (List.mem_filter.mpr ⟨hx, hp⟩)
  have hlt := Nat.mod_lt pick hpos
  obtain ⟨hmem, hpass⟩ := List.mem_filter.mp (List.getElem_mem hlt)
  exact ⟨_, hmem, hpass, List.getElem?_eq_getElem hlt⟩

theorem findAny_of_not_exists {p : Player → Bool} {players : List Player}
    (h : ∀ x ∈ players, p x = false) (pick : Nat) : findAny pick p players = none := by
  have hnil : players.filter p = [] := List.filter_eq_nil_iff.mpr fun x hx => by simp [h x hx]
  rw [findAny, hnil]
  rfl

/-- A search finds a player that passes the test, or none does. -/
theorem findAny_cases (pick : Nat) (p : Player → Bool) (players : List Player) :
    (∃ x ∈ players, p x = true ∧ findAny pick p players = some x) ∨
      findAny pick p players = none ∧ ∀ x ∈ players, p x = false := by
  by_cases hex : ∃ x ∈ players, p x = true
  · exact .inl (findAny_of_exists hex pick)
  · have hnone : ∀ x ∈ players, p x = false := fun x hx =>
      Bool.eq_false_iff.mpr fun hp => hex ⟨x, hx, hp⟩
    exact .inr ⟨findAny_of_not_exists hnone pick, hnone⟩

/-- Who is found is one of the players, and passes the test. -/
theorem mem_of_findAny {pick : Nat} {p : Player → Bool} {players : List Player} {x : Player}
    (h : findAny pick p players = some x) : x ∈ players ∧ p x = true :=
  List.mem_filter.mp (List.mem_of_getElem? h)

/-- Each of the players that pass the test can be found. -/
theorem exists_findAny {p : Player → Bool} {players : List Player} {x : Player}
    (hx : x ∈ players) (hp : p x = true) : ∃ pick, findAny pick p players = some x := by
  obtain ⟨i, hi, rfl⟩ := List.getElem_of_mem (List.mem_filter.mpr ⟨hx, hp⟩)
  refine ⟨i, ?_⟩
  rw [findAny, Nat.mod_eq_of_lt hi, List.getElem?_eq_getElem hi]

/-- A search comes up with one id exactly where those it can find have one. -/
theorem findAny_stable_iff (p : Player → Bool) (players : List Player) :
    (∀ pick pick', (findAny pick p players).map (·.id) = (findAny pick' p players).map (·.id)) ↔
      SameId (fun x => p x = true) players := by
  constructor
  · intro h x hx y hy hpx hpy
    obtain ⟨i, hi⟩ := exists_findAny hx hpx
    obtain ⟨j, hj⟩ := exists_findAny hy hpy
    have hij := h i j
    rw [hi, hj] at hij
    exact Option.some.inj hij
  · intro h pick pick'
    rcases findAny_cases pick p players with ⟨x, hx, hpx, hfound⟩ | ⟨hfound, hnone⟩
    · obtain ⟨y, hy, hpy, hfound'⟩ := findAny_of_exists ⟨x, hx, hpx⟩ pick'
      rw [hfound, hfound', Option.map_some, Option.map_some, h x hx y hy hpx hpy]
    · rw [hfound, findAny_of_not_exists hnone]

/-! ## The readings of an argument -/

section readings
variable {w : ClientIdWorld} {pick : Nat} {name : ClientArg}

/-- What an argument reads as, unless it is a `Player`. -/
theorem parseInt_toString_eq (hnone : name ≠ .none) (hplayer : ∀ p, name ≠ .player p)
    (width : Nat) : Text.parseInt width name.toString = numberOf width name := by
  cases name with
  | none => exact absurd rfl hnone
  | player p => exact absurd rfl (hplayer p)
  | int i => exact Text.parseInt_toString width i
  | str s => rfl
  | other text => rfl

/-- A `Player` whose name is no client id means itself. -/
theorem clientId_player (p : Player) (players : Option (List Player)) :
    clientId w pick (.player p) players = some ((idOf (.str p.name)).getD p.id) := by
  have hid : (Text.parseInt 32 p.name).filter (fun value => 0 ≤ value ∧ value < 64) =
      idOf (.str p.name) := rfl
  simp only [clientId, ClientArg.toString, hid]
  cases idOf (.str p.name) <;> rfl

/-- The readings one after the other. -/
theorem clientId_eq (hnone : name ≠ .none) (hplayer : ∀ p, name ≠ .player p)
    (players : List Player) :
    clientId w pick name (some players) =
      match idOf name, numberOf 64 name, name with
      | some i, _, _ => some i
      | none, some s, _ => (findAny pick (·.steamId = s) players).map (·.id)
      | none, none, .str t =>
        (findAny pick (fun player => cleanName w player.name = cleanName w t) players).map (·.id)
      | none, none, _ => none := by
  rw [idOf, ← parseInt_toString_eq hnone hplayer, ← parseInt_toString_eq hnone hplayer]
  cases name with
  | none => exact absurd rfl hnone
  | player p => exact absurd rfl (hplayer p)
  | int | str | other =>
    simp only [clientId]
    generalize (Text.parseInt 32 _).filter _ = id
    generalize Text.parseInt 64 _ = number
    cases id <;> cases number <;> rfl

theorem clientId_of_idOf {i : Int} (h : idOf name = some i) (players : List Player) :
    clientId w pick name (some players) = some i := by
  have hnone : name ≠ .none := by
    rintro rfl
    cases h
  have hplayer : ∀ p, name ≠ .player p := by
    rintro p rfl
    cases h
  rw [clientId_eq hnone hplayer, h]

theorem clientId_of_steamIdOf {s : Int} (h : steamIdOf name = some s) (players : List Player) :
    clientId w pick name (some players) =
      (findAny pick (·.steamId = s) players).map (·.id) := by
  rw [steamIdOf] at h
  split at h
  · cases h
  next hid =>
    have hnone : name ≠ .none := by
      rintro rfl
      cases h
    have hplayer : ∀ p, name ≠ .player p := by
      rintro p rfl
      cases h
    rw [Option.not_isSome_iff_eq_none] at hid
    rw [clientId_eq hnone hplayer, hid, h]

theorem clientId_of_str {t : String} (hid : idOf (.str t) = none)
    (hnumber : numberOf 64 (.str t) = none) (players : List Player) :
    clientId w pick (.str t) (some players) =
      (findAny pick (fun player => cleanName w player.name = cleanName w t) players).map
        (·.id) := by
  rw [clientId_eq (by simp) (by simp), hid, hnumber]

/-- What reads as nothing is nobody. -/
theorem clientId_of_nothing (hplayer : ∀ p, name ≠ .player p) (hid : idOf name = none)
    (hnumber : numberOf 64 name = none) (hstr : ∀ t, name ≠ .str t) (players : List Player) :
    clientId w pick name (some players) = none := by
  cases name with
  | none => rfl
  | player p => exact absurd rfl (hplayer p)
  | str t => exact absurd rfl (hstr t)
  | int i => rw [clientId_eq (by simp) (by simp), hid, hnumber]
  | other t => rw [clientId_eq (by simp) (by simp), hid, hnumber]

end readings

theorem steamIdOf_eq_none_iff {name : ClientArg} (hid : idOf name = none) :
    steamIdOf name = none ↔ numberOf 64 name = none := by
  simp [steamIdOf, hid]

/-- A `Player` that cannot be mistaken means itself, in every world. -/
theorem Unmistakable.self {w : ClientIdWorld} {p : Player} {players : List Player}
    (h : Unmistakable w (.player p) players) (v : ClientIdWorld) (pick : Nat)
    (among : Option (List Player)) : clientId v pick (.player p) among = some p.id := by
  rw [clientId_player]
  cases hid : idOf (.str p.name) with
  | none => rfl
  | some i => rw [h.player p rfl i hid, Option.getD_some]

/-- Whom an argument that cannot be mistaken means does not depend on the searches. -/
theorem Unmistakable.stable {w : ClientIdWorld} {name : ClientArg} {players : List Player}
    (h : Unmistakable w name players) (pick pick' : Nat) :
    clientId w pick name (some players) = clientId w pick' name (some players) := by
  by_cases hplayer : ∃ p, name = .player p
  · obtain ⟨p, rfl⟩ := hplayer
    rw [h.self w pick, h.self w pick']
  · have hplayer : ∀ p, name ≠ .player p := fun p hp => hplayer ⟨p, hp⟩
    cases hid : idOf name with
    | some i => rw [clientId_of_idOf hid, clientId_of_idOf hid]
    | none =>
      cases hs : steamIdOf name with
      | some s =>
        rw [clientId_of_steamIdOf hs, clientId_of_steamIdOf hs]
        exact (findAny_stable_iff _ players).mpr (by simpa using h.steamId s hs) pick pick'
      | none =>
        -- what reads as no number is a name, if it is a string
        have hnumber := (steamIdOf_eq_none_iff hid).mp hs
        by_cases hstr : ∃ t, name = .str t
        · obtain ⟨t, rfl⟩ := hstr
          rw [clientId_of_str hid hnumber, clientId_of_str hid hnumber]
          exact (findAny_stable_iff _ players).mpr
            (by simpa using h.named t rfl hid hnumber) pick pick'
        · have hstr : ∀ t, name ≠ .str t := fun t ht => hstr ⟨t, ht⟩
          rw [clientId_of_nothing hplayer hid hnumber hstr,
            clientId_of_nothing hplayer hid hnumber hstr]

/-- **The player that is meant is found**, always and whatever the searches choose, exactly
where the argument cannot be mistaken. -/
theorem resolves_iff (w : ClientIdWorld) (name : ClientArg) (players : List Player) :
    Resolves w name players ↔ Unmistakable w name players := by
  constructor
  · intro h
    constructor
    case player =>
      rintro p rfl i hi
      have hself := h.player p 0 rfl
      rw [clientId_player, hi, Option.getD_some] at hself
      exact Option.some.inj hself
    case steamId =>
      intro s hs
      have hstable := h.stable
      simp only [clientId_of_steamIdOf hs] at hstable
      simpa using (findAny_stable_iff (fun p => decide (p.steamId = s)) players).mp hstable
    case named =>
      rintro t rfl hid hnumber
      have hstable := h.stable
      simp only [clientId_of_str hid hnumber] at hstable
      simpa using (findAny_stable_iff
        (fun p => decide (cleanName w p.name = cleanName w t)) players).mp hstable
    case number =>
      -- the number is searched for as a steam id only, and the name would have to be found
      rintro t s rfl hs hnobody p hp heq
      have hid : idOf (.str t) = none := by
        rw [steamIdOf] at hs
        by_contra hsome
        rw [if_pos (Option.ne_none_iff_isSome.mp hsome)] at hs
        cases hs
      obtain ⟨q, -, -, hq⟩ := h.named t 0 rfl hid
        (fun p hp heq => hnobody p hp (Option.some.inj (heq.symm.trans hs))) ⟨p, hp, heq⟩
      rw [clientId_of_steamIdOf hs, findAny_of_not_exists (by simpa using hnobody)] at hq
      cases hq
  · intro h
    constructor
    case player =>
      rintro p pick rfl
      exact h.self w pick _
    case acts =>
      rintro p v call rfl
      rw [AdminCall.run, h.self]
    case number => exact fun i pick hi => clientId_of_idOf hi players
    case steamId =>
      intro s pick hs hex
      obtain ⟨p, hp, hps, hfound⟩ := findAny_of_exists
        (p := fun p => decide (p.steamId = s)) (by simpa using hex) pick
      exact ⟨p, hp, of_decide_eq_true hps, by rw [clientId_of_steamIdOf hs, hfound]; rfl⟩
    case named =>
      rintro t pick rfl hid hnobody hex
      cases hs : steamIdOf (.str t) with
      | some s =>
        -- a number that is nobody's steam id is not looked up as a name
        obtain ⟨p, hp, heq⟩ := hex
        refine absurd heq (h.number t s rfl hs (fun q hq hqs => hnobody q hq ?_) p hp)
        rw [hs, hqs]
      | none =>
        obtain ⟨p, hp, hname, hfound⟩ := findAny_of_exists
          (p := fun p => decide (cleanName w p.name = cleanName w t)) (by simpa using hex) pick
        refine ⟨p, hp, of_decide_eq_true hname, ?_⟩
        rw [clientId_of_str hid ((steamIdOf_eq_none_iff hid).mp hs), hfound]
        rfl
    case stable => exact h.stable

/-- A player with a name. -/
def playerNamed (id : Int) (name : String) : Player :=
  ⟨id, name, 0, "", ⟨id, name, 0, ""⟩⟩

/-- To mute a player who is called 7 is to mute the client with that id. -/
theorem not_resolves_seven :
    ¬ Resolves ⟨id, .ok []⟩ (.player (playerNamed 3 "7")) [] := by
  intro h
  have hself := h.player (playerNamed 3 "7") 0 rfl
  exact absurd hself (by decide +kernel)

end ClientId
end ShinQlx
