import ShinQlx.PlayerControls

/-! # Players as records

A plugin sees a player as a record in which each function of the bindings changes a field of its
own, however the game stores it: as a stat, as a bit of a stat or of the flags, or as a time that
counts from the level time.

`controls_refined` says that this is right in every run of calls about whatever players: what
becomes of a player, and what is answered about it, is what the calls about that player do to its
record, one after the other.  So no call about a player changes or reveals another one, and no two
fields get in the way of each other.
-/
namespace ShinQlx

/-- A player as plugins see it. -/
structure PlayerView (F : Type) where
  pmType : PmType
  chatting : Bool
  kamikaze : Bool
  origin : F × F × F
  velocity : F × F × F
  armor : Int32
  noclip : Bool
  weapon : Int32
  weapons : Fin 15 → Int32
  ammo : Fin 15 → Int32
  expiry : Fin 6 → Int32
  holdable : Int32
  flight : Flight
  invulnerabilityTime : Int32
  score : Int32
  team : GameTeam
  privileges : Privileges
  enterTime : Int32
  kills : Int32
  deaths : Int32
  damageDealt : Int32
  damageTaken : Int32
  ping : Int32

/-- An entity as plugins see it, with its player if it has a client. -/
structure EntityView (F : Type) where
  health : Int32
  player : Option (PlayerView F)

variable {F : Type}

/-- The record of a client. -/
def PlayerClient.view (c : PlayerClient F) : PlayerView F where
  pmType := c.pmType
  chatting := c.isChatting
  kamikaze := c.eFlags &&& PlayerClient.efKamikaze ≠ 0
  origin := c.origin
  velocity := c.velocity
  armor := c.getArmor
  noclip := c.noclip
  weapon := c.getWeapon
  weapons := c.getWeapons
  ammo := c.getAmmos
  expiry := fun i => c.powerups (GameClient.powerupIndex i)
  holdable := c.getHoldable
  flight := c.getFlight
  invulnerabilityTime := c.invulnerabilityTime
  score := c.persistant PlayerClient.persRoundScore
  team := c.sessionTeam
  privileges := c.privileges
  enterTime := c.enterTime
  kills := c.numKills
  deaths := c.numDeaths
  damageDealt := c.totalDamageDealt
  damageTaken := c.totalDamageTaken
  ping := c.ping

/-- The record of an entity. -/
def PlayerEntity.view (e : PlayerEntity F) : EntityView F := ⟨e.health, e.client.map (·.view)⟩

namespace PlayerView
variable (f : FloatCasts F) (env : ControlEnv F)

/-- The time that a powerup has left. -/
def remaining (expiry : Int32) : Int32 := if expiry = 0 then 0 else expiry - env.levelTime.getD 0

/-- What `player_state` tells about a record. -/
def state (health : Int32) (v : PlayerView F) : PlayerState where
  isAlive := v.pmType = .normal
  position := f.toVector3 v.origin
  velocity := f.toVector3 v.velocity
  health := health
  armor := v.armor
  noclip := v.noclip
  weapon := v.weapon
  weapons := .ofArray v.weapons
  ammo := .ofArray v.ammo
  powerups := .ofArray fun i => remaining env (v.expiry i)
  holdable := .ofInt v.holdable
  flight := v.flight
  isChatting := v.chatting
  isFrozen := v.pmType = .freeze

/-- What `player_stats` tells about a record. -/
def stats (v : PlayerView F) : PlayerStats where
  score := if v.team = .spectator then 0 else v.score
  kills := v.kills
  deaths := v.deaths
  damageDealt := v.damageDealt
  damageTaken := v.damageTaken
  time := env.levelTime.getD 0 - v.enterTime
  ping := v.ping

/-- The time at which a powerup ends. -/
def expiryOf (item : Int32) : Int32 :=
  let levelTime := env.levelTime.getD 0
  if item = 0 then 0 else levelTime - levelTime % 1000 + item

/-- What is left of a record when its holdable is dropped. -/
def dropped (v : PlayerView F) : Controlled × PlayerView F :=
  let v := { v with kamikaze := false }
  if Holdable.ofInt v.holdable = .none then ((.ok (.done false), []), v)
  else if ¬ env.isItem v.holdable then ((.ok (.done true), []), v)
  else if env.launches then
    ((.ok (.done true), [.launchItem v.holdable]), { v with holdable := 0 })
  else ((.panic, []), v)

/-- A call that was carried out, or was not. -/
def done (found : Bool) : Controlled := (.ok (.done found), [])

/-- The player of an entity changes, if there is one. -/
def set (change : PlayerView F → PlayerView F) (e : Option (EntityView F)) :
    Controlled × Option (EntityView F) :=
  (done (e.bind EntityView.player).isSome,
    e.map fun e => { e with player := e.player.map change })

/-- A deed of a player that may be there. -/
def actPlayer (deed : PlayerView F → Controlled × PlayerView F) (e : Option (EntityView F)) :
    Controlled × Option (EntityView F) :=
  (((e.bind EntityView.player).map fun v => (deed v).1).getD (done false),
    e.map fun e => { e with player := e.player.map fun v => (deed v).2 })

/-- What a call with a valid client id does to the record of its entity. -/
def act (control : Control) (e : Option (EntityView F)) : Controlled × Option (EntityView F) :=
  match control with
  | .playerState => ((.ok (.state (e.bind fun e => e.player.map (state f env e.health))), []), e)
  | .playerStats => ((.ok (.stats ((e.bind EntityView.player).map (stats env))), []), e)
  | .setPosition position => set (fun v => { v with origin := f.ofVector3 position }) e
  | .setVelocity velocity => set (fun v => { v with velocity := f.ofVector3 velocity }) e
  | .setHealth health => (done e.isSome, e.map fun e => { e with health := health })
  | .setArmor armor => set (fun v => { v with armor := armor }) e
  | .setWeapon weapon =>
    if 0 ≤ weapon ∧ weapon < 16 then set (fun v => { v with weapon := weapon }) e
    else ((.err (.valueError "Weapon must be a number from 0 to 15."), []), e)
  | .setWeapons weapons =>
    set (fun v => { v with weapons := fun i => if 0 < weapons.toArray i then 1 else 0 }) e
  | .setAmmo ammos => set (fun v => { v with ammo := ammos.toArray }) e
  | .setPowerups powerups =>
    set (fun v => { v with expiry := fun i => expiryOf env (powerups.toArray i) }) e
  | .setHoldable holdable =>
    set (fun v => { v with holdable := (Holdable.ofInt holdable).toInt, kamikaze := false }) e
  | .dropHoldable => actPlayer (dropped env) e
  | .setFlight flight => set (fun v => { v with flight := flight }) e
  | .setInvulnerability time =>
    set (fun v => { v with invulnerabilityTime := env.levelTime.getD 0 + time }) e
  | .noclip activate =>
    actPlayer (fun v => (done (v.noclip != activate), { v with noclip := activate })) e
  | .setScore score => set (fun v => { v with score := score }) e
  | .setPrivileges privileges => set (fun v => { v with privileges := .ofInt privileges }) e
  | .playerSpawn =>
    if (e.bind EntityView.player).isSome then
      ((.ok (.done true), [.clientSpawn]), some env.spawned.view)
    else (done false, e)

/-- What a call about a client id does to the record of its entity. -/
def own (clientId : Int) (e : Option (EntityView F)) (call : ControlEnv F × Control) :
    Controlled × Option (EntityView F) :=
  match PlayerControls.validateClientId call.1 clientId with
  | .error err => ((.err err, []), e)
  | .ok () => act f call.1 call.2 e

end PlayerView

/-! ## Each setter writes its field -/

namespace PlayerClient
variable (c : PlayerClient F)

theorem and_not_efKamikaze (flags : Int32) : flags &&& ~~~efKamikaze &&& efKamikaze = 0 := by
  rw [Int32.and_assoc, show ~~~efKamikaze &&& efKamikaze = 0 by decide, Int32.and_zero]

theorem and_not_efKamikaze_efTalk (flags : Int32) :
    flags &&& ~~~efKamikaze &&& efTalk = flags &&& efTalk := by
  rw [Int32.and_assoc, show ~~~efKamikaze &&& efTalk = efTalk by decide]

theorem or_efKamikaze_and (flags mask : Int32) :
    (flags ||| efKamikaze) &&& mask = flags &&& mask ||| efKamikaze &&& mask :=
  Int32.toBitVec_inj.mp BitVec.and_or_distrib_right

theorem or_efKamikaze_ne_zero (flags : Int32) : (flags ||| efKamikaze) &&& efKamikaze ≠ 0 := by
  rw [or_efKamikaze_and]
  intro h
  exact absurd (Int32.or_eq_zero_iff.mp h).2 (by decide)

theorem or_efKamikaze_efTalk (flags : Int32) :
    (flags ||| efKamikaze) &&& efTalk = flags &&& efTalk := by
  rw [or_efKamikaze_and, show efKamikaze &&& efTalk = 0 by decide, Int32.or_zero]

theorem view_removeKamikazeFlag :
    c.removeKamikazeFlag.view = { c.view with kamikaze := false } := by
  simp only [view, removeKamikazeFlag, isChatting, and_not_efKamikaze, and_not_efKamikaze_efTalk]
  rfl

theorem view_or_efKamikaze :
    { c with eFlags := c.eFlags ||| efKamikaze }.view = { c.view with kamikaze := true } := by
  simp only [view, isChatting, or_efKamikaze_efTalk, ne_eq, or_efKamikaze_ne_zero,
    not_false_eq_true, decide_true]
  rfl

/-- The fields of a record that come from the stats, without the weapons. -/
theorem view_setStat {i : Fin 16} (hi : i ≠ GameClient.statWeapons) (value : Int32) :
    (c.setStat i value).view =
      { c.view with
        armor := if i = GameClient.statArmor then value else c.getArmor
        holdable := if i = statHoldableItem then value else c.getHoldable
        flight :=
          ⟨if i = statCurFlightFuel then value else c.getFlight.fuel,
            if i = statMaxFlightFuel then value else c.getFlight.maxFuel,
            if i = statFlightThrust then value else c.getFlight.thrust,
            if i = statFlightRefuel then value else c.getFlight.refuel⟩ } := by
  have hweapons : (c.setStat i value).getWeapons = c.getWeapons := by
    funext j
    simp only [GameClient.getWeapons, setStat, Function.update_of_ne hi.symm]
  simp only [view, hweapons]
  simp only [getArmor, getHoldable, getFlight, setStat, Function.update_apply, eq_comm]
  rfl

theorem view_setArmor (armor : Int32) :
    (c.setArmor armor).view = { c.view with armor := armor } :=
  view_setStat c (i := GameClient.statArmor) (by decide) armor

theorem view_setHoldable (holdable : Int32) :
    (c.setHoldable holdable).view =
      { c.view with holdable := holdable, kamikaze := holdable = modelindexKamikaze } := by
  rw [setHoldable]
  split
  · rename_i h
    rw [view_setStat _ (by decide), view_or_efKamikaze, decide_eq_true h]
    rfl
  · rename_i h
    rw [view_setStat _ (by decide), view_removeKamikazeFlag, decide_eq_false h]
    rfl

/-- `MODELINDEX_KAMIKAZE` is not the number of `Holdable::Kamikaze`, nor of any other. -/
theorem toInt_ne_modelindexKamikaze (holdable : Holdable) :
    holdable.toInt ≠ modelindexKamikaze := by
  cases holdable <;> decide

theorem view_setHoldable_toInt (holdable : Holdable) :
    (c.setHoldable holdable.toInt).view =
      { c.view with holdable := holdable.toInt, kamikaze := false } := by
  rw [view_setHoldable, decide_eq_false (toInt_ne_modelindexKamikaze holdable)]

theorem view_setFlight (flight : Flight) :
    (c.setFlight flight).view = { c.view with flight := flight } := by
  rw [setFlight, view_setStat _ (by decide), view_setStat _ (by decide),
    view_setStat _ (by decide), view_setStat _ (by decide)]
  rfl

theorem view_setWeapons (weapons : Fin 15 → Int32) :
    (c.changeArrays (GameClient.setWeapons weapons)).view =
      { c.view with weapons := fun i => if 0 < weapons i then 1 else 0 } := by
  have hread : (c.changeArrays (GameClient.setWeapons weapons)).getWeapons =
      fun i => if 0 < weapons i then 1 else 0 :=
    funext (GameClient.getWeapons_setWeapons weapons c.toGameClient)
  have hstats : c.changeArrays (GameClient.setWeapons weapons) =
      c.setStat GameClient.statWeapons
        ((GameClient.setWeapons weapons c.toGameClient).stats GameClient.statWeapons) := by
    simp only [changeArrays, GameClient.setWeapons, setStat, Function.update_self]
  rw [view, hread, hstats]
  rfl

theorem view_setAmmos (ammos : Fin 15 → Int32) :
    (c.changeArrays (GameClient.setAmmos ammos)).view = { c.view with ammo := ammos } := by
  rw [view]
  simp only [changeArrays, GameClient.getAmmos_setAmmos]
  rfl

theorem view_setPowerups (env : ControlEnv F) (powerups : Fin 6 → Int32) :
    (c.changeArrays (GameClient.setPowerups (env.levelTime.getD 0) powerups)).view =
      { c.view with expiry := fun i => PlayerView.expiryOf env (powerups i) } := by
  have hread : (fun i => (c.changeArrays
      (GameClient.setPowerups (env.levelTime.getD 0) powerups)).powerups
        (GameClient.powerupIndex i)) = fun i => PlayerView.expiryOf env (powerups i) :=
    funext (Entries.writeAll_apply (fun i => PlayerView.expiryOf env (powerups i)) c.powerups
      GameClient.powerupIndex_injective)
  rw [view, hread]
  rfl

theorem view_setWeapon {weapon : Int32} (h : 0 ≤ weapon ∧ weapon < 16) :
    (c.setWeapon weapon).view = { c.view with weapon := weapon } := by
  have hread : (c.setWeapon weapon).getWeapon = weapon := if_pos h
  rw [view, hread]
  rfl

theorem view_setScore (score : Int32) :
    (c.setScore score).view = { c.view with score := score } := by
  have hread : (c.setScore score).persistant persRoundScore = score := by
    simp only [setScore, Function.update_self]
  rw [view, hread]
  rfl

end PlayerClient

/-! ## Each call changes its own record -/

namespace PlayerControls

/-- The record of a client id. -/
def part (clientId : Int) (w : PlayerEntities F) : Option (EntityView F) :=
  (w clientId).map PlayerEntity.view

/-- What a call does to the records is what is said of the record of its client id. -/
structure Acts (clientId : Int) (w : PlayerEntities F) (call : Controlled × PlayerEntities F)
    (said : Controlled × Option (EntityView F)) : Prop where
  result : call.1 = said.1
  same : part clientId call.2 = said.2
  others : ∀ j, j ≠ clientId → part j call.2 = part j w

variable {f : FloatCasts F} {env : ControlEnv F} {clientId : Int} {w : PlayerEntities F}

theorem Acts.nothing (answer : Controlled) :
    Acts clientId w (answer, w) (answer, part clientId w) :=
  ⟨rfl, rfl, fun _ _ => rfl⟩

theorem bind_player (clientId : Int) (w : PlayerEntities F) :
    (part clientId w).bind EntityView.player = (gameClient w clientId).map (·.view) := by
  rw [part, gameClient]
  cases w clientId <;> rfl

theorem part_update (clientId : Int) (w : PlayerEntities F) (e : Option (PlayerEntity F)) :
    part clientId (Function.update w clientId e) = e.map PlayerEntity.view := by
  rw [part, Function.update_self]

theorem part_update_of_ne {j : Int} (hj : j ≠ clientId) (w : PlayerEntities F)
    (e : Option (PlayerEntity F)) : part j (Function.update w clientId e) = part j w := by
  rw [part, Function.update_of_ne hj, part]

/-- A client that is put in its place. -/
theorem part_putClient {c : PlayerClient F} (hc : gameClient w clientId = some c)
    (c' : PlayerClient F) (change : PlayerView F → PlayerView F)
    (hview : c'.view = change c.view) :
    part clientId (putClient w clientId c') =
      (part clientId w).map fun e => { e with player := e.player.map change } := by
  obtain ⟨e, he, hclient⟩ := Option.bind_eq_some_iff.mp hc
  rw [putClient, part_update, part, he]
  simp only [Option.map_some, PlayerEntity.view, hclient, hview]

theorem others_putClient (c : PlayerClient F) {j : Int} (hj : j ≠ clientId) :
    part j (putClient w clientId c) = part j w :=
  part_update_of_ne hj w _

theorem Acts.validated {body : Controlled × PlayerEntities F}
    {said : Controlled × Option (EntityView F)} (h : Acts clientId w body said) :
    Acts clientId w (validated env clientId w body)
      (match validateClientId env clientId with
      | .error err => ((.err err, []), part clientId w)
      | .ok () => said) := by
  rw [PlayerControls.validated]
  cases validateClientId env clientId with
  | error err => exact Acts.nothing _
  | ok u => exact h

/-- A player that is not there stays away. -/
theorem map_player_of_none (hc : gameClient w clientId = none)
    (change : PlayerView F → PlayerView F) :
    (part clientId w).map (fun e => { e with player := e.player.map change }) =
      part clientId w := by
  have hplayer := bind_player clientId w
  rw [hc, Option.map_none] at hplayer
  cases hpart : part clientId w with
  | none => rfl
  | some e =>
    rw [hpart] at hplayer
    obtain ⟨health, player⟩ := e
    cases hplayer
    rfl

theorem Acts.setClient {change : PlayerClient F → PlayerClient F}
    {said : PlayerView F → PlayerView F} (h : ∀ c, (change c).view = said c.view) :
    Acts clientId w (setClient (fun _ => true) change clientId w)
      (PlayerView.set said (part clientId w)) := by
  rw [PlayerControls.setClient, PlayerView.set, bind_player]
  cases hc : gameClient w clientId with
  | none => exact ⟨rfl, (map_player_of_none hc said).symm, fun _ _ => rfl⟩
  | some c =>
    exact ⟨rfl, part_putClient hc _ said (h c), fun _ hj => others_putClient _ hj⟩

/-- A setter writes its field. -/
theorem Acts.changing {change : PlayerClient F → PlayerClient F}
    {said : PlayerView F → PlayerView F} (h : ∀ c, (change c).view = said c.view) :
    Acts clientId w (changing env change clientId w)
      (match validateClientId env clientId with
      | .error err => ((.err err, []), part clientId w)
      | .ok () => PlayerView.set said (part clientId w)) :=
  (Acts.setClient h).validated

theorem acts_playerState :
    Acts clientId w (step f w (clientId, env, .playerState))
      (PlayerView.own f clientId (part clientId w) (env, .playerState)) := by
  have hstate : ((w clientId).bind fun e => e.client.map (playerStateFrom f env e)) =
      (part clientId w).bind fun e => e.player.map (PlayerView.state f env e.health) := by
    rw [part]
    cases w clientId with
    | none => rfl
    | some e =>
      show e.client.map _ = (e.client.map _).map _
      rw [Option.map_map]
      rfl
  rw [step, PlayerView.own, pyshinqlxPlayerState, hstate]
  exact (Acts.nothing _).validated

theorem acts_playerStats :
    Acts clientId w (step f w (clientId, env, .playerStats))
      (PlayerView.own f clientId (part clientId w) (env, .playerStats)) := by
  rw [step, PlayerView.own, PlayerView.act, bind_player, Option.map_map]
  exact (Acts.nothing _).validated

theorem acts_setHealth (health : Int32) :
    Acts clientId w (step f w (clientId, env, .setHealth health))
      (PlayerView.own f clientId (part clientId w) (env, .setHealth health)) := by
  refine Acts.validated ?_
  rw [PlayerView.act, part]
  cases he : w clientId with
  | none =>
    have hpart : part clientId w = none := congrArg (Option.map PlayerEntity.view) he
    exact ⟨rfl, hpart, fun _ _ => rfl⟩
  | some e => exact ⟨rfl, part_update .., fun _ hj => part_update_of_ne hj ..⟩

theorem acts_setWeapon (weapon : Int32) :
    Acts clientId w (step f w (clientId, env, .setWeapon weapon))
      (PlayerView.own f clientId (part clientId w) (env, .setWeapon weapon)) := by
  refine Acts.validated ?_
  rw [PlayerView.act]
  split
  · rename_i hweapon
    exact Acts.setClient fun c => c.view_setWeapon hweapon
  · exact Acts.nothing _

theorem gameClient_putClient {c : PlayerClient F} (hc : gameClient w clientId = some c)
    (c' : PlayerClient F) : gameClient (putClient w clientId c') clientId = some c' := by
  obtain ⟨e, he, -⟩ := Option.bind_eq_some_iff.mp hc
  rw [gameClient, putClient, Function.update_self, he]
  rfl

theorem putClient_putClient (c c' : PlayerClient F) :
    putClient (putClient w clientId c) clientId c' = putClient w clientId c' := by
  rw [putClient, putClient, putClient, Function.update_self, Function.update_idem, Option.map_map]
  rfl

theorem putClient_self {c : PlayerClient F} (hc : gameClient w clientId = some c) :
    putClient w clientId c = w := by
  obtain ⟨e, he, hclient⟩ := Option.bind_eq_some_iff.mp hc
  rw [putClient, he, Option.map_some, ← hclient, ← he, Function.update_eq_self]

/-- A deed of a player that puts a client in its place. -/
theorem Acts.actPlayer {body : Controlled × PlayerEntities F}
    {deed : PlayerView F → Controlled × PlayerView F}
    (hnone : gameClient w clientId = none → body = (PlayerView.done false, w))
    (hsome : ∀ c, gameClient w clientId = some c → ∃ c', c'.view = (deed c.view).2 ∧
      body = ((deed c.view).1, putClient w clientId c')) :
    Acts clientId w body (PlayerView.actPlayer deed (part clientId w)) := by
  rw [PlayerView.actPlayer, bind_player]
  cases hc : gameClient w clientId with
  | none =>
    rw [hnone hc]
    exact ⟨rfl, (map_player_of_none hc _).symm, fun _ _ => rfl⟩
  | some c =>
    obtain ⟨c', hview, hbody⟩ := hsome c hc
    rw [hbody]
    exact ⟨rfl, part_putClient hc c' _ hview, fun _ hj => others_putClient _ hj⟩

theorem acts_noclip (activate : Bool) :
    Acts clientId w (step f w (clientId, env, .noclip activate))
      (PlayerView.own f clientId (part clientId w) (env, .noclip activate)) := by
  refine Acts.validated (Acts.actPlayer (fun hc => ?_) fun c hc => ?_)
  · rw [PlayerControls.setClient, hc]
    rfl
  · rw [PlayerControls.setClient, hc, Option.filter_some]
    cases hdiffers : c.noclip != activate with
    | true => exact ⟨_, rfl, by rw [show c.view.noclip = c.noclip from rfl, hdiffers]; rfl⟩
    | false =>
      have hsame : c.noclip = activate := by simpa using hdiffers
      refine ⟨c, ?_, ?_⟩
      · rw [← hsame]
        rfl
      · rw [putClient_self hc, show c.view.noclip = c.noclip from rfl, hdiffers]
        rfl

theorem setClient_of_some {c : PlayerClient F} (hc : gameClient w clientId = some c)
    (change : PlayerClient F → PlayerClient F) :
    setClient (fun _ => true) change clientId w =
      (PlayerView.done true, putClient w clientId (change c)) := by
  rw [setClient, hc]
  rfl

theorem setClient_of_none (hc : gameClient w clientId = none)
    (change : PlayerClient F → PlayerClient F) :
    setClient (fun _ => true) change clientId w = (PlayerView.done false, w) := by
  rw [setClient, hc]
  rfl

/-- What is dropped is read from the client as the flag is already removed. -/
theorem acts_dropHoldable :
    Acts clientId w (step f w (clientId, env, .dropHoldable))
      (PlayerView.own f clientId (part clientId w) (env, .dropHoldable)) := by
  refine Acts.validated (Acts.actPlayer (fun hc => ?_) fun c hc => ?_)
  · rw [setClient_of_none hc, hc]
    rfl
  · rw [setClient_of_some hc, gameClient_putClient hc, Option.filter_some]
    have hread : c.removeKamikazeFlag.getHoldable = c.view.holdable := rfl
    have hview := c.view_removeKamikazeFlag
    rw [PlayerView.dropped, hread]
    simp only [decide_not]
    by_cases hnone : Holdable.ofInt c.view.holdable = .none
    · simp only [hnone, if_true, decide_true, Bool.not_true, Bool.false_eq_true, if_false]
      exact ⟨_, hview, rfl⟩
    · simp only [hnone, if_false, decide_false, Bool.not_false, if_true, dropHoldable, hread]
      cases env.isItem c.view.holdable with
      | false => exact ⟨_, hview, rfl⟩
      | true =>
        cases env.launches with
        | false => exact ⟨_, hview, rfl⟩
        | true =>
          refine ⟨c.removeKamikazeFlag.setHoldable 0, ?_, ?_⟩
          · rw [PlayerClient.view_setHoldable, hview]
            rfl
          · rw [putClient_putClient]
            rfl

theorem acts_playerSpawn :
    Acts clientId w (step f w (clientId, env, .playerSpawn))
      (PlayerView.own f clientId (part clientId w) (env, .playerSpawn)) := by
  refine Acts.validated ?_
  rw [PlayerView.act, bind_player]
  cases hc : gameClient w clientId with
  | none => exact Acts.nothing _
  | some c =>
    refine ⟨rfl, part_update .., fun j hj => ?_⟩
    exact (part_update_of_ne hj ..).trans (others_putClient _ hj)

/-- **Each call acts on the record of its client id.** -/
theorem acts (control : Control) :
    Acts clientId w (step f w (clientId, env, control))
      (PlayerView.own f clientId (part clientId w) (env, control)) := by
  cases control with
  | playerState => exact acts_playerState
  | playerStats => exact acts_playerStats
  | setPosition position => exact Acts.changing fun _ => rfl
  | setVelocity velocity => exact Acts.changing fun _ => rfl
  | setHealth health => exact acts_setHealth health
  | setArmor armor => exact Acts.changing fun c => c.view_setArmor armor
  | setWeapon weapon => exact acts_setWeapon weapon
  | setWeapons weapons => exact Acts.changing fun c => c.view_setWeapons weapons.toArray
  | setAmmo ammos => exact Acts.changing fun c => c.view_setAmmos ammos.toArray
  | setPowerups powerups => exact Acts.changing fun c => c.view_setPowerups env powerups.toArray
  | setHoldable holdable => exact Acts.changing fun c => c.view_setHoldable_toInt _
  | dropHoldable => exact acts_dropHoldable
  | setFlight flight => exact Acts.changing fun c => c.view_setFlight flight
  | setInvulnerability time => exact Acts.changing fun _ => rfl
  | noclip activate => exact acts_noclip activate
  | setScore score => exact Acts.changing fun c => c.view_setScore score
  | setPrivileges privileges => exact Acts.changing fun _ => rfl
  | playerSpawn => exact acts_playerSpawn

theorem local_step (f : FloatCasts F) : KeyedRun.Local (step f) part (PlayerView.own f) where
  result _ _ _ := (acts _).result
  same _ _ _ := (acts _).same
  others _ _ _ := (acts _).others

/-- **Players are records.**  In every run of calls, whatever becomes of a player and whatever is
answered about it is what the calls about that player do to its record. -/
theorem controls_refined (f : FloatCasts F) (w : PlayerEntities F)
    (calls : List (Int × ControlEnv F × Control)) (clientId : Int) :
    part clientId (Run.final (step f) w calls) =
        Run.final (PlayerView.own f clientId) (part clientId w) (KeyedRun.about clientId calls) ∧
      KeyedRun.results (step f) clientId w calls =
        (Run.steps (PlayerView.own f clientId) (part clientId w)
          (KeyedRun.about clientId calls)).map Run.Step.result :=
  (local_step f).run clientId w calls

/-! ## The kamikaze flag -/

/-- An entity has a player with the kamikaze flag. -/
def Flagged (e : Option (EntityView F)) : Prop :=
  ∃ v, e.bind EntityView.player = some v ∧ v.kamikaze = true

/-- A call that gets as far as the holdable of a player. -/
def ReachesHoldable (clientId : Int) (call : ControlEnv F × Control) : Prop :=
  validateClientId call.1 clientId = .ok () ∧
    (call.2 = .dropHoldable ∨ ∃ holdable, call.2 = .setHoldable holdable)

theorem flagged_map (change : PlayerView F → PlayerView F) (e : Option (EntityView F)) :
    Flagged (e.map fun e => { e with player := e.player.map change }) ↔
      ∃ v, e.bind EntityView.player = some v ∧ (change v).kamikaze = true := by
  obtain _ | ⟨health, player⟩ := e
  · simp [Flagged]
  · cases player <;> simp [Flagged]

theorem flagged_map_of_keeps {change : PlayerView F → PlayerView F}
    (h : ∀ v, (change v).kamikaze = v.kamikaze) (e : Option (EntityView F)) :
    Flagged (e.map fun e => { e with player := e.player.map change }) ↔ Flagged e := by
  rw [flagged_map]
  simp only [h, Flagged]

theorem not_flagged_map_of_clears {change : PlayerView F → PlayerView F}
    (h : ∀ v, (change v).kamikaze = false) (e : Option (EntityView F)) :
    ¬ Flagged (e.map fun e => { e with player := e.player.map change }) := by
  simp [flagged_map, h]

theorem flagged_setHealth (health : Int32) (e : Option (EntityView F)) :
    Flagged (e.map fun e => { e with health := health }) ↔ Flagged e := by
  cases e <;> rfl

theorem dropped_kamikaze (env : ControlEnv F) (v : PlayerView F) :
    (PlayerView.dropped env v).2.kamikaze = false := by
  rw [PlayerView.dropped]
  split
  · rfl
  · split
    · rfl
    · split <;> rfl

/-- The calls that are not about the holdable keep the flag. -/
theorem flagged_act_of_keeps (f : FloatCasts F) (env : ControlEnv F) (e : Option (EntityView F))
    {control : Control} (hspawn : control ≠ .playerSpawn) (hdrop : control ≠ .dropHoldable)
    (hset : ∀ holdable, control ≠ .setHoldable holdable) :
    Flagged (PlayerView.act f env control e).2 ↔ Flagged e := by
  cases control with
  | setHoldable holdable => exact absurd rfl (hset holdable)
  | dropHoldable => exact absurd rfl hdrop
  | playerSpawn => exact absurd rfl hspawn
  | setHealth health => exact flagged_setHealth health e
  | setWeapon weapon =>
    rw [PlayerView.act]
    split
    · apply flagged_map_of_keeps
      exact fun _ => rfl
    · exact Iff.rfl
  | playerState => exact Iff.rfl
  | playerStats => exact Iff.rfl
  | _ =>
    apply flagged_map_of_keeps
    exact fun _ => rfl

theorem flagged_own_iff (f : FloatCasts F) (clientId : Int) (e : Option (EntityView F))
    (call : ControlEnv F × Control) (hspawn : call.2 ≠ .playerSpawn) :
    Flagged (PlayerView.own f clientId e call).2 ↔
      Flagged e ∧ ¬ ReachesHoldable clientId call := by
  rw [PlayerView.own, ReachesHoldable]
  cases validateClientId call.1 clientId with
  | error err => simp
  | ok u =>
    by_cases hdrop : call.2 = .dropHoldable
    · rw [hdrop]
      have hcleared := not_flagged_map_of_clears (dropped_kamikaze call.1) e
      exact iff_of_false hcleared fun h => h.2 ⟨rfl, .inl rfl⟩
    · by_cases hset : ∃ holdable, call.2 = .setHoldable holdable
      · obtain ⟨holdable, hset⟩ := hset
        rw [hset]
        have hcleared : ¬ Flagged (PlayerView.act f call.1 (.setHoldable holdable) e).2 := by
          apply not_flagged_map_of_clears
          exact fun _ => rfl
        exact iff_of_false hcleared fun h => h.2 ⟨rfl, .inr ⟨holdable, rfl⟩⟩
      · have hkept := flagged_act_of_keeps f call.1 e hspawn hdrop (not_exists.mp hset)
        exact hkept.trans (and_iff_left fun h => h.2.elim hdrop hset).symm

/-- **The bindings never set the kamikaze flag.**  In a run in which the game does not spawn a
player again, the player has the flag iff it was there from the start, and no call has reached the
holdable. -/
theorem kamikaze_iff (f : FloatCasts F) (w : PlayerEntities F)
    (calls : List (Int × ControlEnv F × Control)) (clientId : Int)
    (hspawn : ∀ call ∈ KeyedRun.about clientId calls, call.2 ≠ .playerSpawn) :
    Flagged (part clientId (Run.final (step f) w calls)) ↔
      Flagged (part clientId w) ∧
        ∀ call ∈ KeyedRun.about clientId calls, ¬ ReachesHoldable clientId call := by
  rw [((local_step f).run clientId w calls).1]
  generalize part clientId w = e
  generalize KeyedRun.about clientId calls = own at hspawn ⊢
  induction own generalizing e with
  | nil => simp
  | cons call own ih =>
    rw [List.forall_mem_cons] at hspawn
    rw [Run.final_cons, ih _ hspawn.2, flagged_own_iff f clientId e call hspawn.1, and_assoc,
      List.forall_mem_cons]

/-- A client with the kamikaze flag. -/
def flaggedClient : PlayerClient Unit where
  stats := fun _ => 0
  powerups := fun _ => 0
  ammo := fun _ => 0
  invulnerabilityTime := 0
  origin := ((), (), ())
  velocity := ((), (), ())
  weapon := 1
  eFlags := PlayerClient.efKamikaze
  pmType := .normal
  persistant := fun _ => 0
  ping := 30
  noclip := false
  sessionTeam := .free
  privileges := .none
  enterTime := 0
  numKills := 0
  numDeaths := 0
  totalDamageDealt := 0
  totalDamageTaken := 0

/-- Two players have the flag. -/
def twoFlagged : PlayerEntities Unit :=
  fun clientId => if clientId = 0 ∨ clientId = 1 then some ⟨100, some flaggedClient⟩ else none

/-- A server with two slots. -/
def twoSlots : ControlEnv Unit := ⟨some 2, some 1000, fun _ => true, true, ⟨100, none⟩⟩

/-- The one gets armor, and the other a kamikaze. -/
def armorAndKamikaze : List (Int × ControlEnv Unit × Control) :=
  [(0, twoSlots, .setArmor 50), (1, twoSlots, .setHoldable 37)]

theorem kamikaze_iff_twoFlagged :
    Flagged (part 0 (Run.final (step ⟨fun _ => (), fun _ => 0⟩) twoFlagged armorAndKamikaze)) ∧
      ¬ Flagged (part 1 (Run.final (step ⟨fun _ => (), fun _ => 0⟩) twoFlagged
        armorAndKamikaze)) := by
  have hflagged : ∀ clientId, clientId = 0 ∨ clientId = 1 →
      Flagged (part clientId twoFlagged) := by
    intro clientId hid
    rw [part, twoFlagged, if_pos hid]
    exact ⟨flaggedClient.view, rfl, rfl⟩
  constructor
  · rw [kamikaze_iff]
    · refine ⟨hflagged 0 (.inl rfl), ?_⟩
      simp [KeyedRun.about, armorAndKamikaze, ReachesHoldable]
    · simp [KeyedRun.about, armorAndKamikaze]
  · rw [kamikaze_iff]
    · have hreaches : ReachesHoldable 1 (twoSlots, .setHoldable 37) :=
        ⟨by decide, .inr ⟨37, rfl⟩⟩
      exact fun h => h.2 _ (by simp [KeyedRun.about, armorAndKamikaze]) hreaches
    · simp [KeyedRun.about, armorAndKamikaze]

end PlayerControls
end ShinQlx
