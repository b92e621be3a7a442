import ShinQlx.ClientId
import ShinQlx.PlayerControls

/-! # Slapping and slaying from the console

The commands `slap` and `slay` of the server console, which plugins use too, go by a client id in
their arguments.  A player who is active is thrown and loses health, or is killed at once.

`damage_accounted` says what a run of such commands makes of each player, however the commands are mixed: the
hit points go down by the sum of the positive damages and end at 0, a player dies exactly once then,
and from there on is left alone; nothing else of a player changes but the velocity.
-/
namespace ShinQlx

/-- What the engine has of a command: the number of its words, and the words. -/
structure ConsoleLine where
  argc : Int
  argv : Nat → Option String

/-- The line of words. -/
def ConsoleLine.ofWords (words : List String) : ConsoleLine := ⟨words.length, fun i => words[i]?⟩

/-- `entity_event_t`, of these commands. -/
inductive EntityEvent where
  | pain
  | death1
  | gibPlayer
  deriving DecidableEq

/-- What a command does: it prints to the console, sends a command to all clients, or adds an event
to an entity. -/
inductive ConsoleAct where
  | comPrintf (msg : String)
  | sendServerCommand (cmd : String)
  | gameAddEvent (clientId : Int) (event : EntityEvent) (eventParam : Int32)
  deriving DecidableEq

/-- The entity of a client id: whether it is in use, the number of its client, and the name of the
client, if there is one. -/
structure ConsolePlayer (F : Type) extends PlayerEntity F where
  inUse : Bool
  clientNumber : Int32
  name : Option String

namespace ConsoleDamage
variable {F : Type} (f : FloatCasts F) (maxClients : Int32)

/-- The entities of the client ids. -/
abbrev Players (F : Type) := Int → Option (ConsolePlayer F)

/-- A command: a slap throws the player in some direction. -/
inductive Command (F : Type) where
  | slap (throw : F × F)
  | slay

/-- The client id that is passed to a command, or else what it prints. -/
def passedClientId (line : ConsoleLine) : Except (List ConsoleAct) Int :=
  if line.argc < 2 then
    match line.argv 0 with
    | none => .error []
    | some commandName =>
      .error [.comPrintf ("Usage: " ++ commandName ++ " <client_id> [damage]\n")]
  else
    match line.argv 1 with
    | none => .error []
    | some passedClientId =>
      let invalid : ConsoleAct := .comPrintf
        ("client_id must be a number between 0 and " ++ toString (maxClients - 1).toInt ++ ".\n")
      match Text.parseInt 32 passedClientId with
      | none => .error [invalid]
      | some clientId =>
        if 0 ≤ clientId ∧ clientId < maxClients.toInt then .ok clientId else .error [invalid]

/-- The damage that is passed to `slap`. -/
def passedDamage (line : ConsoleLine) : Int32 :=
  if line.argc > 2 then
    Int32.ofInt (((line.argv 2).bind (Text.parseInt 32)).getD 0)
  else 0

/-- The player is in the game and lives. -/
def isActive (player : ConsolePlayer F) : Bool := player.inUse && decide (0 < player.health)

/-- What is printed for a player who is not active. -/
def notActive : ConsoleAct := .comPrintf "The player is currently not active.\n"

/-- What everybody is told of a slap. -/
def slapMessage (name : String) (dmg : Int32) : String :=
  if dmg ≠ 0 then
    "print \"" ++ name ++ "^7 was slapped for " ++ toString dmg.toInt ++ " damage!\n\"\n"
  else "print \"" ++ name ++ "^7 was slapped\n\"\n"

/-- What everybody is told of a slaying. -/
def slayMessage (name : String) : String := "print \"" ++ name ++ "^7 was slain!\n\"\n"

/-- What `cmd_slap` does to a player. -/
def slap (throw : F × F) (dmg : Int32) (clientId : Int) (player : ConsolePlayer F) :
    List ConsoleAct × ConsolePlayer F :=
  if !isActive player then ([notActive], player)
  else
    let slapping : ConsoleAct := .comPrintf "Slapping...\n"
    match player.name with
    | none => ([slapping], player)
    | some name =>
      let message : ConsoleAct := .sendServerCommand (slapMessage name dmg)
      match player.client with
      | none => ([slapping, message], player)
      | some client =>
        let player := { player with
          client := some { client with velocity := (throw.1, throw.2, f.ofInt 300) } }
        if 0 < dmg then
          let oldHealth := player.health
          let player := { player with health := oldHealth - dmg }
          if oldHealth ≤ dmg then
            ([slapping, message, .gameAddEvent clientId .death1 player.clientNumber], player)
          else ([slapping, message, .gameAddEvent clientId .pain 99], player)
        else ([slapping, message, .gameAddEvent clientId .pain 99], player)

/-- What `cmd_slay` does to a player. -/
def slay (clientId : Int) (player : ConsolePlayer F) : List ConsoleAct × ConsolePlayer F :=
  if !isActive player then ([notActive], player)
  else
    let slaying : ConsoleAct := .comPrintf "Slaying player...\n"
    match player.name with
    | none => ([slaying], player)
    | some name =>
      ([slaying, .sendServerCommand (slayMessage name),
        .gameAddEvent clientId .gibPlayer player.clientNumber], { player with health := -40 })

/-- `cmd_slap`. -/
def cmdSlap (throw : F × F) (line : ConsoleLine) (players : Players F) :
    List ConsoleAct × Players F :=
  match passedClientId maxClients line with
  | .error acts => (acts, players)
  | .ok clientId =>
    match players clientId with
    | none => ([], players)
    | some player =>
      let (acts, player) := slap f throw (passedDamage line) clientId player
      (acts, Function.update players clientId (some player))

/-- `cmd_slay`. -/
def cmdSlay (line : ConsoleLine) (players : Players F) : List ConsoleAct × Players F :=
  match passedClientId maxClients line with
  | .error acts => (acts, players)
  | .ok clientId =>
    match players clientId with
    | none => ([], players)
    | some player =>
      let (acts, player) := slay clientId player
      (acts, Function.update players clientId (some player))

/-- What a command that is typed does. -/
def step (players : Players F) : Command F × ConsoleLine → List ConsoleAct × Players F
  | (.slap throw, line) => cmdSlap f maxClients throw line players
  | (.slay, line) => cmdSlay maxClients line players

/-! ## What is typed and what is meant -/

/-- What a command means for a player. -/
inductive Deed (F : Type) where
  | slap (throw : F × F) (dmg : Int32)
  | slay

/-- The player whom a command means, and what it means for the player. -/
def deedOf (typed : Command F × ConsoleLine) : Option (Int × Deed F) :=
  match passedClientId maxClients typed.2, typed.1 with
  | .error _, _ => none
  | .ok clientId, .slap throw => some (clientId, .slap throw (passedDamage typed.2))
  | .ok clientId, .slay => some (clientId, .slay)

/-- What a deed does to a player. -/
def act (clientId : Int) (player : ConsolePlayer F) : Deed F → List ConsoleAct × ConsolePlayer F
  | .slap throw dmg => slap f throw dmg clientId player
  | .slay => slay clientId player

/-- What a deed does to the player of a client id, if there is one. -/
def own (clientId : Int) (player : Option (ConsolePlayer F)) (deed : Deed F) :
    List ConsoleAct × Option (ConsolePlayer F) :=
  match player with
  | none => ([], none)
  | some player => ((act f clientId player deed).1, some (act f clientId player deed).2)

/-- What a deed on a player does. -/
def deedStep (players : Players F) (deed : Int × Deed F) : List ConsoleAct × Players F :=
  ((own f deed.1 (players deed.1) deed.2).1,
    Function.update players deed.1 (own f deed.1 (players deed.1) deed.2).2)

/-- What the commands of a run mean for a player. -/
def deedsOn (clientId : Int) (typed : List (Command F × ConsoleLine)) : List (Deed F) :=
  KeyedRun.about clientId (typed.filterMap (deedOf maxClients))

/-- A command that means no player changes nothing. -/
theorem step_of_none {players : Players F} {typed : Command F × ConsoleLine}
    (h : deedOf maxClients typed = none) :
    passedClientId maxClients typed.2 = .error (step f maxClients players typed).1 ∧
      (step f maxClients players typed).2 = players := by
  obtain ⟨command, line⟩ := typed
  cases hid : passedClientId maxClients line with
  | error acts => cases command <;> simp [step, cmdSlap, cmdSlay, hid]
  | ok clientId => cases command <;> simp [deedOf, hid] at h

theorem step_of_some {players : Players F} {typed : Command F × ConsoleLine}
    {deed : Int × Deed F} (h : deedOf maxClients typed = some deed) :
    step f maxClients players typed = deedStep f players deed := by
  obtain ⟨command, line⟩ := typed
  cases hid : passedClientId maxClients line with
  | error acts => simp [deedOf, hid] at h
  | ok clientId =>
    have hsame : players clientId = none → Function.update players clientId none = players := by
      intro hnone
      rw [← hnone, Function.update_eq_self]
    cases command with
    | slap throw =>
      obtain rfl : (clientId, Deed.slap throw (passedDamage line)) = deed := by
        simpa [deedOf, hid] using h
      cases hplayer : players clientId with
      | none => simp [step, cmdSlap, hid, hplayer, deedStep, own, hsame]
      | some player => simp [step, cmdSlap, hid, hplayer, deedStep, own, act]
    | slay =>
      obtain rfl : (clientId, Deed.slay) = deed := by simpa [deedOf, hid] using h
      cases hplayer : players clientId with
      | none => simp [step, cmdSlay, hid, hplayer, deedStep, own, hsame]
      | some player => simp [step, cmdSlay, hid, hplayer, deedStep, own, act]

/-- A run of commands is one of the deeds that they mean. -/
theorem final_eq (players : Players F) (typed : List (Command F × ConsoleLine)) :
    Run.final (step f maxClients) players typed =
      Run.final (deedStep f) players (typed.filterMap (deedOf maxClients)) := by
  induction typed generalizing players with
  | nil => rfl
  | cons t typed ih =>
    rw [Run.final_cons, ih]
    cases hdeed : deedOf maxClients t with
    | none => rw [List.filterMap_cons_none hdeed, (step_of_none f maxClients hdeed).2]
    | some deed =>
      rw [List.filterMap_cons_some hdeed, Run.final_cons, step_of_some f maxClients hdeed]

/-- Deeds are about one player each. -/
theorem deedStep_local : KeyedRun.Local (deedStep f) (fun k players => players k) (own f) where
  result _ _ _ := rfl
  same _ _ _ := Function.update_self ..
  others _ _ _ _ hne := Function.update_of_ne hne ..

/-- The player after a run of commands. -/
theorem player_final (players : Players F) (typed : List (Command F × ConsoleLine)) (k : Int) :
    Run.final (step f maxClients) players typed k =
      Run.final (own f k) (players k) (deedsOn maxClients k typed) := by
  rw [final_eq]
  exact ((deedStep_local f).run k players _).1

/-! ## Hit points -/

/-- The hit points of a player. -/
def points (player : ConsolePlayer F) : Nat := player.health.toNatClampNeg

/-- The deed is a slaying. -/
def isSlay : Deed F → Bool
  | .slap _ _ => false
  | .slay => true

/-- The damage of a slap. -/
def damage : Deed F → Nat
  | .slap _ dmg => dmg.toNatClampNeg
  | .slay => 0

/-- The hit points that are left after some deeds. -/
def left (player : ConsolePlayer F) (deeds : List (Deed F)) : Nat :=
  if player.inUse && player.name.isSome then
    if deeds.any isSlay then 0
    else if player.client.isSome then points player - (deeds.map damage).sum
    else points player
  else points player

/-- Nothing but the health and the velocity changes. -/
def Hurt (player player' : ConsolePlayer F) : Prop :=
  ∃ (health : Int32) (throw : F × F × F → F × F × F), player' = { player with
    health := health
    client := player.client.map fun client => { client with velocity := throw client.velocity } }

/-- What a deed makes the command do, for the hit points that the player has. -/
def answer (clientId : Int) (player : ConsolePlayer F) (points : Nat) (deed : Deed F) :
    List ConsoleAct :=
  if !player.inUse || points = 0 then [notActive]
  else
    match deed, player.name with
    | .slap _ _, none => [.comPrintf "Slapping...\n"]
    | .slay, none => [.comPrintf "Slaying player...\n"]
    | .slap _ dmg, some name =>
      [.comPrintf "Slapping...\n", .sendServerCommand (slapMessage name dmg)] ++
        if player.client.isNone then []
        else if points ≤ dmg.toNatClampNeg then
          [.gameAddEvent clientId .death1 player.clientNumber]
        else [.gameAddEvent clientId .pain 99]
    | .slay, some name =>
      [.comPrintf "Slaying player...\n", .sendServerCommand (slayMessage name),
        .gameAddEvent clientId .gibPlayer player.clientNumber]

/-- The death of a player. -/
def isDeathOf (clientId : Int) : ConsoleAct → Bool
  | .gameAddEvent id event _ => id = clientId && event ≠ .pain
  | _ => false

section deeds
variable (k : Int) (player : ConsolePlayer F)

/-- A living player who is hurt has no more than the difference, so that nothing wraps around. -/
theorem toInt_sub_of_pos {health dmg : Int32} (hhealth : 0 < health) (hdmg : 0 < dmg) :
    (health - dmg).toInt = health.toInt - dmg.toInt := by
  rw [Int32.lt_iff_toInt_lt] at hhealth hdmg
  have hle := health.toInt_lt
  have hle' := dmg.toInt_lt
  have hzero : (0 : Int32).toInt = 0 := rfl
  rw [Int32.toInt_sub, Int.bmod_eq_of_le] <;> omega

theorem isActive_eq : isActive player = (player.inUse && decide (points player ≠ 0)) := by
  rw [isActive, points, ← Int32.toNat_toInt]
  congr 1
  rw [decide_eq_decide, Int32.lt_iff_toInt_lt]
  have hzero : (0 : Int32).toInt = 0 := rfl
  omega

/-- A player who is not active is left alone. -/
theorem act_of_not_active {deed : Deed F} (h : isActive player = false) :
    act f k player deed = ([notActive], player) := by
  cases deed <;> simp [act, slap, slay, h]

/-- A slap of a player in the game. -/
theorem act_slap {name : String} {client : PlayerClient F} (throw : F × F) (dmg : Int32)
    (h : isActive player = true) (hname : player.name = some name)
    (hclient : player.client = some client) :
    ∃ health, act f k player (.slap throw dmg) =
        (answer k player (points player) (.slap throw dmg), { player with
          health := health
          client := some { client with velocity := (throw.1, throw.2, f.ofInt 300) } }) ∧
      health.toNatClampNeg = points player - dmg.toNatClampNeg := by
  have hactive := h
  rw [isActive_eq, Bool.and_eq_true, decide_eq_true_eq] at h
  obtain ⟨huse, hpoints⟩ := h
  have hhealth : 0 < player.health := by
    rw [isActive, Bool.and_eq_true, decide_eq_true_eq] at hactive
    exact hactive.2
  have hanswer : answer k player (points player) (.slap throw dmg) =
      [.comPrintf "Slapping...\n", .sendServerCommand (slapMessage name dmg)] ++
        if points player ≤ dmg.toNatClampNeg then
          [.gameAddEvent k .death1 player.clientNumber]
        else [.gameAddEvent k .pain 99] := by
    simp [answer, huse, hpoints, hname, hclient]
  rw [hanswer]
  simp only [act, slap, hactive, Bool.not_true, Bool.false_eq_true, if_false, hname, hclient]
  rw [points, ← Int32.toNat_toInt] at hpoints ⊢
  rw [← Int32.toNat_toInt]
  by_cases hdmg : 0 < dmg
  · have hsub := toInt_sub_of_pos hhealth hdmg
    have hpos : 0 < dmg.toInt := Int32.lt_iff_toInt_lt.mp hdmg
    rw [if_pos hdmg]
    refine ⟨player.health - dmg, ?_, by rw [← Int32.toNat_toInt, hsub]; omega⟩
    have hiff : player.health ≤ dmg ↔ player.health.toInt.toNat ≤ dmg.toInt.toNat := by
      rw [Int32.le_iff_toInt_le]
      omega
    by_cases hle : player.health ≤ dmg
    · rw [if_pos hle, if_pos (hiff.mp hle)]
      rfl
    · rw [if_neg hle, if_neg (fun hle' => hle (hiff.mpr hle'))]
      rfl
  · have hzero : dmg.toInt.toNat = 0 := by
      rw [Int32.lt_iff_toInt_lt] at hdmg
      exact Int.toNat_of_nonpos (Int.not_lt.mp hdmg)
    rw [if_neg hdmg, hzero, if_neg (by omega)]
    exact ⟨player.health, rfl, rfl⟩

theorem hurt_refl : Hurt player player := by
  refine ⟨player.health, id, ?_⟩
  have hclient : player.client.map (fun client => { client with velocity := id client.velocity }) =
      player.client := Option.map_id'
  rw [hclient]

/-- **What a deed does.**  What is printed and sent follows from the hit points, nothing changes
but the health and the velocity, and the hit points are what is left. -/
theorem act_spec (deed : Deed F) :
    (act f k player deed).1 = answer k player (points player) deed ∧
      Hurt player (act f k player deed).2 ∧
      points (act f k player deed).2 = left player [deed] := by
  cases hactive : isActive player with
  | false =>
    rw [act_of_not_active f k player hactive]
    rw [isActive_eq, Bool.and_eq_false_iff, decide_eq_false_iff_not, not_not] at hactive
    refine ⟨?_, hurt_refl player, ?_⟩
    · rcases hactive with huse | hpoints
      · simp [answer, huse]
      · simp [answer, hpoints]
    · rcases hactive with huse | hpoints
      · simp [left, huse]
      · simp [left, hpoints]
  | true =>
    have hstate := hactive
    rw [isActive_eq, Bool.and_eq_true, decide_eq_true_eq] at hstate
    obtain ⟨huse, hpoints⟩ := hstate
    cases hname : player.name with
    | none =>
      refine ⟨?_, ?_, ?_⟩
      · cases deed <;> simp [act, slap, slay, answer, hactive, huse, hpoints, hname]
      · cases deed <;> simpa [act, slap, slay, hactive, hname] using hurt_refl player
      · cases deed <;> simp [act, slap, slay, left, hactive, hname]
    | some name =>
      cases deed with
      | slay =>
        refine ⟨?_, ⟨-40, id, ?_⟩, ?_⟩
        · simp [act, slay, answer, hactive, huse, hpoints, hname]
        · simp [act, slay, hactive, hname]
        · simp [act, slay, left, hactive, huse, hname, points, isSlay]
      | slap throw dmg =>
        cases hclient : player.client with
        | none =>
          refine ⟨?_, ?_, ?_⟩
          · simp [act, slap, answer, hactive, huse, hpoints, hname, hclient]
          · simpa [act, slap, hactive, hname, hclient] using hurt_refl player
          · simp [act, slap, left, hactive, hname, hclient, isSlay]
        | some client =>
          obtain ⟨health, hact, hleft⟩ := act_slap f k player throw dmg hactive hname hclient
          rw [hact]
          refine ⟨rfl, ⟨health, fun _ => (throw.1, throw.2, f.ofInt 300), ?_⟩, ?_⟩
          · rw [hclient]
            rfl
          · simpa [left, huse, hname, hclient, isSlay, damage, points] using hleft

variable {k player} {player' player'' : ConsolePlayer F}

theorem Hurt.trans (h : Hurt player player') (h' : Hurt player' player'') :
    Hurt player player'' := by
  obtain ⟨health, throw, rfl⟩ := h
  obtain ⟨health', throw', rfl⟩ := h'
  refine ⟨health', throw' ∘ throw, ?_⟩
  cases player.client <;> rfl

/-- What is left after a deed and others behind it. -/
theorem left_cons (h : Hurt player player') {deed : Deed F}
    (hpoints : points player' = left player [deed]) (deeds : List (Deed F)) :
    left player (deed :: deeds) = left player' deeds := by
  obtain ⟨health, throw, rfl⟩ := h
  rw [left] at hpoints
  rw [left, left, hpoints]
  dsimp only
  cases player.inUse && player.name.isSome with
  | false => rfl
  | true =>
    simp only [if_true, List.any_cons, List.any_nil, Bool.or_false, List.map_cons, List.sum_cons,
      List.map_nil, List.sum_nil, Nat.add_zero, Option.isSome_map]
    cases isSlay deed <;> cases deeds.any isSlay <;> cases player.client.isSome <;> simp
    omega

theorem left_le (deeds : List (Deed F)) : left player deeds ≤ points player := by
  rw [left]
  split
  · split
    · exact Nat.zero_le _
    · split
      · exact Nat.sub_le _ _
      · exact Nat.le_refl _
  · exact Nat.le_refl _

/-- The answers to a player who was hurt go by the hit points alone. -/
theorem answer_of_hurt (h : Hurt player player') (n : Nat) (deed : Deed F) :
    answer k player' n deed = answer k player n deed := by
  obtain ⟨health, throw, rfl⟩ := h
  simp only [answer, Option.isNone_map]

/-- What becomes of a player in a run. -/
theorem own_final (player : ConsolePlayer F) (deeds : List (Deed F)) :
    ∃ player', Run.final (own f k) (some player) deeds = some player' ∧ Hurt player player' ∧
      points player' = left player deeds := by
  induction deeds generalizing player with
  | nil => exact ⟨player, rfl, hurt_refl player, by simp [left]⟩
  | cons deed deeds ih =>
    obtain ⟨-, hhurt, hpoints⟩ := act_spec f k player deed
    obtain ⟨player', hfinal, hhurt', hpoints'⟩ := ih (act f k player deed).2
    refine ⟨player', hfinal, hhurt.trans hhurt', hpoints'.trans ?_⟩
    exact (left_cons hhurt hpoints deeds).symm

/-- A deed kills a player iff there are hit points before it and none behind it. -/
theorem countP_act (deed : Deed F) :
    (act f k player deed).1.countP (isDeathOf k) =
      if 0 < points player ∧ points (act f k player deed).2 = 0 then 1 else 0 := by
  obtain ⟨hanswer, -, hpoints⟩ := act_spec f k player deed
  rw [hanswer, hpoints]
  by_cases hactive : player.inUse = true ∧ points player ≠ 0
  · obtain ⟨huse, hne⟩ := hactive
    have hpos := Nat.pos_of_ne_zero hne
    cases hname : player.name with
    | none => cases deed <;> simp [answer, left, huse, hne, hname, isDeathOf]
    | some name =>
      cases deed with
      | slay => simp [answer, left, huse, hne, hpos, hname, isDeathOf, isSlay]
      | slap throw dmg =>
        cases hclient : player.client with
        | none => simp [answer, left, huse, hne, hname, hclient, isDeathOf, isSlay]
        | some client =>
          have hleft : left player [.slap throw dmg] = points player - dmg.toNatClampNeg := by
            simp [left, huse, hname, hclient, isSlay, damage]
          rw [hleft]
          by_cases hle : points player ≤ dmg.toNatClampNeg
          · rw [if_pos ⟨hpos, Nat.sub_eq_zero_of_le hle⟩]
            simp [answer, huse, hne, hname, hclient, hle, isDeathOf]
          · rw [if_neg fun hzero => hle (Nat.sub_eq_zero_iff_le.mp hzero.2)]
            simp [answer, huse, hne, hname, hclient, hle, isDeathOf]
  · have hnone : answer k player (points player) deed = [notActive] := by
      rw [answer.eq_def, if_pos]
      simp only [Bool.or_eq_true, Bool.not_eq_true', decide_eq_true_eq]
      by_contra hor
      rw [not_or] at hor
      exact hactive ⟨Bool.eq_true_of_not_eq_false hor.1, hor.2⟩
    rw [hnone, if_neg]
    · rfl
    · rintro ⟨hpos, hzero⟩
      refine hactive ⟨?_, Nat.ne_of_gt hpos⟩
      by_contra huse
      rw [left, Bool.eq_false_of_not_eq_true huse] at hzero
      exact Nat.ne_of_gt hpos hzero

/-- Events are added to the player the deed is about. -/
theorem eq_of_mem_answer {id : Int} {event : EntityEvent} {eventParam : Int32} {n : Nat}
    {deed : Deed F} (h : .gameAddEvent id event eventParam ∈ answer k player n deed) : id = k := by
  rw [answer.eq_def] at h
  split at h
  · simp [notActive] at h
  · split at h
    · simp at h
    · simp at h
    · split at h
      · simp at h
      · split at h <;> exact (by simpa using h : id = k ∧ _).1
    · exact (by simpa using h : id = k ∧ _).1

/-- A deed on somebody else does not kill a player. -/
theorem countP_own_of_ne {j : Int} (h : j ≠ k) (target : Option (ConsolePlayer F)) (deed : Deed F) :
    (own f j target deed).1.countP (isDeathOf k) = 0 := by
  cases target with
  | none => rfl
  | some target =>
    show (act f j target deed).1.countP (isDeathOf k) = 0
    rw [(act_spec f j target deed).1, List.countP_eq_zero]
    intro a ha hdeath
    cases a with
    | comPrintf | sendServerCommand => cases hdeath
    | gameAddEvent id event eventParam =>
      simp [isDeathOf, eq_of_mem_answer ha, h] at hdeath

end deeds

/-! ## A run -/

/-- What is printed and sent, and what happens to entities, in a run. -/
def acts (players : Players F) (typed : List (Command F × ConsoleLine)) : List ConsoleAct :=
  (Run.steps (step f maxClients) players typed).flatMap Run.Step.result

/-- What a run of commands makes of the players.  A player has the hit points that are left of the
deeds on it, and dies at most once; what each command does follows from the hit points that are left
before it; and what plugins ask for is what the commands mean. -/
structure Damaged (players : Players F) (typed : List (Command F × ConsoleLine)) : Prop where
  points : ∀ k player, players k = some player →
    ∃ player', Run.final (step f maxClients) players typed k = some player' ∧
      Hurt player player' ∧ points player' = left player (deedsOn maxClients k typed)
  deaths : ∀ k player, players k = some player →
    (acts f maxClients players typed).countP (isDeathOf k) =
      if 0 < ConsoleDamage.points player ∧ left player (deedsOn maxClients k typed) = 0 then 1 else 0
  answers : ∀ before t after k deed player, typed = before ++ t :: after →
    deedOf maxClients t = some (k, deed) → players k = some player →
    (step f maxClients (Run.final (step f maxClients) players before) t).1 =
      answer k player (left player (deedsOn maxClients k before)) deed
  slap : ∀ (w : AdminWorld) (id damage : Int) (throw : F × F), w.engine = true →
    0 ≤ id → id < maxClients.toInt → -2 ^ 31 ≤ damage → damage < 2 ^ 31 →
    ∃ cmd, (AdminCall.slap damage).act w id = ⟨.ok (), [.console cmd]⟩ ∧
      deedOf maxClients (.slap throw, .ofWords (Text.split ' ' cmd)) =
        some (id, .slap throw (Int32.ofInt damage))
  slay : ∀ (w : AdminWorld) (id : Int), w.engine = true → 0 ≤ id → id < maxClients.toInt →
    ∃ cmd, AdminCall.slay.act w id = ⟨.ok (), [.console cmd]⟩ ∧
      deedOf maxClients ((.slay : Command F), .ofWords (Text.split ' ' cmd)) = some (id, .slay)

section run
variable {f maxClients} {k : Int} {players : Players F} {player : ConsolePlayer F}
  {typed : List (Command F × ConsoleLine)} {t : Command F × ConsoleLine}

/-- Nobody dies of a command that is refused. -/
theorem countP_error {line : ConsoleLine} {acts : List ConsoleAct}
    (h : passedClientId maxClients line = .error acts) : acts.countP (isDeathOf k) = 0 := by
  rw [passedClientId] at h
  split at h
  · split at h
    · obtain rfl := Except.error.inj h
      rfl
    · obtain rfl := Except.error.inj h
      rfl
  · split at h
    · obtain rfl := Except.error.inj h
      rfl
    · dsimp only at h
      split at h
      · obtain rfl := Except.error.inj h
        rfl
      · split at h
        · cases h
        · obtain rfl := Except.error.inj h
          rfl

theorem deedsOn_cons_of_none (h : deedOf maxClients t = none) :
    deedsOn maxClients k (t :: typed) = deedsOn maxClients k typed := by
  rw [deedsOn, List.filterMap_cons_none h, deedsOn]

theorem deedsOn_cons_self {deed : Deed F} (h : deedOf maxClients t = some (k, deed)) :
    deedsOn maxClients k (t :: typed) = deed :: deedsOn maxClients k typed := by
  rw [deedsOn, List.filterMap_cons_some h, KeyedRun.about_cons_self, deedsOn]

theorem deedsOn_cons_of_ne {j : Int} {deed : Deed F} (h : deedOf maxClients t = some (j, deed))
    (hne : j ≠ k) : deedsOn maxClients k (t :: typed) = deedsOn maxClients k typed := by
  rw [deedsOn, List.filterMap_cons_some h, KeyedRun.about_cons_of_ne hne, deedsOn]

/-- A player dies once, if at all. -/
theorem countP_acts (h : players k = some player) :
    (acts f maxClients players typed).countP (isDeathOf k) =
      if 0 < points player ∧ left player (deedsOn maxClients k typed) = 0 then 1 else 0 := by
  induction typed generalizing players player with
  | nil =>
    have hleft : left player (deedsOn maxClients k []) = points player := by
      simp [left, deedsOn, KeyedRun.about]
    rw [hleft, if_neg (by omega)]
    rfl
  | cons t typed ih =>
    rw [acts, Run.steps_cons, List.flatMap_cons, List.countP_append]
    show (step f maxClients players t).1.countP (isDeathOf k) +
      (acts f maxClients (step f maxClients players t).2 typed).countP (isDeathOf k) = _
    cases hdeed : deedOf maxClients t with
    | none =>
      obtain ⟨hacts, hplayers⟩ := step_of_none f maxClients hdeed
      rw [countP_error hacts, hplayers, ih h, deedsOn_cons_of_none hdeed, Nat.zero_add]
    | some keyed =>
      obtain ⟨j, deed⟩ := keyed
      rw [step_of_some f maxClients hdeed]
      by_cases hj : j = k
      · subst hj
        obtain ⟨-, hhurt, hpoints⟩ := act_spec f j player deed
        have hafter : (deedStep f players (j, deed)).2 j = some (act f j player deed).2 := by
          rw [deedStep, h]
          exact Function.update_self ..
        have hacts : (deedStep f players (j, deed)).1 = (act f j player deed).1 := by
          rw [deedStep, h]
          rfl
        have hle : left (act f j player deed).2 (deedsOn maxClients j typed) ≤
            points (act f j player deed).2 := left_le _
        have hle' : left player [deed] ≤ points player := left_le _
        rw [ih hafter, hacts, countP_act, deedsOn_cons_self hdeed, left_cons hhurt hpoints]
        rw [← hpoints] at hle'
        split_ifs <;> omega
      · have hafter : (deedStep f players (j, deed)).2 k = some player :=
          (Function.update_of_ne (Ne.symm hj) ..).trans h
        rw [ih hafter, deedsOn_cons_of_ne hdeed hj]
        show (own f j (players j) deed).1.countP (isDeathOf k) + _ = _
        rw [countP_own_of_ne f hj, Nat.zero_add]

/-- Words with blanks between them are cut apart. -/
theorem split_words {words : List String} (hne : words ≠ []) (h : ∀ word ∈ words, ' ' ∉ word.toList) :
    Text.split ' ' (" ".intercalate words) = words := by
  rw [Text.split_intercalate rfl hne]
  induction words with
  | nil => rfl
  | cons word words ih =>
    obtain ⟨hword, hwords⟩ := List.forall_mem_cons.mp h
    rw [List.flatMap_cons, Text.split_of_notMem hword, List.singleton_append]
    by_cases hnil : words = []
    · rw [hnil]
      rfl
    · rw [ih hnil hwords]

theorem blank_notMem_toString (i : Int) : ' ' ∉ (toString i).toList := by
  intro hmem
  rcases Text.mem_toString hmem with h | h | h <;> exact absurd h (by decide)

/-- The client id that a plugin passes. -/
theorem passedClientId_ofWords {id : Int} (hid : 0 ≤ id) (hlt : id < maxClients.toInt)
    (command : String) (words : List String) :
    passedClientId maxClients (.ofWords (command :: toString id :: words)) = .ok id := by
  have hmax := maxClients.toInt_lt
  have hargc : ¬(ConsoleLine.ofWords (command :: toString id :: words)).argc < 2 := by
    show ¬((words.length + 1 + 1 : Nat) : Int) < 2
    omega
  have hparse : Text.parseInt 32 (toString id) = some id := by
    rw [Text.parseInt_toString, if_pos]
    omega
  rw [passedClientId, if_neg hargc]
  show (match Text.parseInt 32 (toString id) with
    | none => _
    | some clientId => _) = _
  rw [hparse]
  exact if_pos ⟨hid, hlt⟩

/-- What a plugin asks for as a slap. -/
theorem deedOf_slap (w : AdminWorld) {id damage : Int} (throw : F × F) (hengine : w.engine = true)
    (hid : 0 ≤ id) (hlt : id < maxClients.toInt) (hlow : -2 ^ 31 ≤ damage)
    (hhigh : damage < 2 ^ 31) :
    ∃ cmd, (AdminCall.slap damage).act w id = ⟨.ok (), [.console cmd]⟩ ∧
      deedOf maxClients (.slap throw, .ofWords (Text.split ' ' cmd)) =
        some (id, .slap throw (Int32.ofInt damage)) := by
  have hsplit : Text.split ' ' s!"slap {id} {damage}" =
      ["slap", toString id, toString damage] := by
    have hcmd : s!"slap {id} {damage}" =
        " ".intercalate ["slap", toString id, toString damage] := by
      show "slap" ++ " " ++ toString id ++ " " ++ toString damage = _
      rw [String.intercalate_cons_cons, String.intercalate_cons_cons, String.intercalate_singleton]
      simp only [String.append_assoc]
    rw [hcmd]
    refine split_words (List.cons_ne_nil _ _) fun word hword => ?_
    rcases List.mem_cons.mp hword with rfl | hword
    · decide
    · rcases List.mem_pair.mp hword with rfl | rfl
      · exact blank_notMem_toString id
      · exact blank_notMem_toString damage
  refine ⟨s!"slap {id} {damage}", if_pos hengine, ?_⟩
  have hdamage : passedDamage (.ofWords ["slap", toString id, toString damage]) =
      Int32.ofInt damage := by
    show Int32.ofInt ((Text.parseInt 32 (toString damage)).getD 0) = _
    rw [Text.parseInt_toString, if_pos ⟨hlow, hhigh⟩]
    rfl
  rw [hsplit, deedOf, passedClientId_ofWords hid hlt, hdamage]

/-- What a plugin asks for as a slaying. -/
theorem deedOf_slay (w : AdminWorld) {id : Int} (hengine : w.engine = true) (hid : 0 ≤ id)
    (hlt : id < maxClients.toInt) :
    ∃ cmd, AdminCall.slay.act w id = ⟨.ok (), [.console cmd]⟩ ∧
      deedOf maxClients ((.slay : Command F), .ofWords (Text.split ' ' cmd)) =
        some (id, .slay) := by
  have hsplit : Text.split ' ' s!"slay {id}" = ["slay", toString id] := by
    have hcmd : s!"slay {id}" = " ".intercalate ["slay", toString id] := by
      show "slay" ++ " " ++ toString id = _
      rw [String.intercalate_cons_cons, String.intercalate_singleton]
    rw [hcmd]
    refine split_words (List.cons_ne_nil _ _) fun word hword => ?_
    rcases List.mem_pair.mp hword with rfl | rfl
    · decide
    · exact blank_notMem_toString id
  refine ⟨s!"slay {id}", if_pos hengine, ?_⟩
  rw [hsplit, deedOf, passedClientId_ofWords hid hlt]

end run

/-- **Slapping and slaying.**  After any run of the two commands, with any arguments, each player
has the hit points that the deeds on it leave, whatever was done to others in between, and nothing
else of it has changed but the velocity; a player who had hit points and has none dies exactly once;
each command tells, throws and hurts as its player's hit points before it say, and a dead player is
left alone; and `slap` and `slay` of plugins are these commands for just that player and damage. -/
theorem damage_accounted (players : Players F) (typed : List (Command F × ConsoleLine)) :
    Damaged f maxClients players typed := by
  have hfinal : ∀ {k player}, players k = some player → ∀ typed,
      ∃ player', Run.final (step f maxClients) players typed k = some player' ∧
        Hurt player player' ∧ points player' = left player (deedsOn maxClients k typed) := by
    intro k player hplayer typed
    rw [player_final, hplayer]
    exact own_final f player _
  refine ⟨fun k player hplayer => hfinal hplayer typed, fun k player => countP_acts, ?_, ?_, ?_⟩
  · rintro before t after k deed player - hdeed hplayer
    obtain ⟨player', hbefore, hhurt, hpoints⟩ := hfinal hplayer before
    rw [step_of_some f maxClients hdeed, deedStep, hbefore]
    show (act f k player' deed).1 = _
    rw [(act_spec f k player' deed).1, hpoints, answer_of_hurt hhurt]
  · exact fun w id damage throw => deedOf_slap w throw
  · exact fun w id => deedOf_slay w

end ConsoleDamage
end ShinQlx
