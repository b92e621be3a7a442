import ShinQlx.ChatReply
import ShinQlx.FindPlayer
import ShinQlx.GameClient

/-! # Messages to one player

`center_print` and `tell` send a message to the player that a plugin names.  `center_print` sends
its command at once, and hands on the client id that `client_id` has found, which is none where
nobody is found; to what sends the command, none stands for everybody.  `tell` queues its
commands for the next frame, and raises where nobody is found.

`targeted_iff` says when a message goes to the one that was named.
-/
namespace ShinQlx

/-- A command that was sent to a client, or to everybody. -/
structure SentCommand where
  client : Option Int
  cmd : String
  deriving DecidableEq

/-- What a message finds: the choice of a search, the game, which clients are in the state
`CS_ACTIVE` and have an entity, and what the handlers of a server command leave of it. -/
structure MessageWorld extends ClientIdWorld where
  pick : Nat
  game : PlayersInGame
  active : Int → Bool
  hasGentity : Int → Bool
  serverCommandDispatcher : Option Int → String → Option String

/-- What a call comes to, and the commands that it sends. -/
structure MessageCall (R : Type) where
  result : PyResult R
  sent : List SentCommand

namespace TargetedMessages

open ClientId

/-- `shinqlx_send_server_command`. -/
def shinqlxSendServerCommand (w : MessageWorld) (client : Option Int) (cmd : String) :
    List SentCommand :=
  if w.game.maxClients.isNone then []
  else if cmd = "" then []
  else
    let passedOn :=
      match client with
      | some id => if w.hasGentity id then w.serverCommandDispatcher (some id) cmd else some cmd
      | none => w.serverCommandDispatcher none cmd
    match passedOn with
    | none => []
    | some cmd => if cmd = "" then [] else [⟨client, cmd⟩]

/-- `pyshinqlx_send_server_command`. -/
def pyshinqlxSendServerCommand (w : MessageWorld) (clientId : Option Int) (cmd : String) :
    MessageCall Bool :=
  match clientId with
  | none => ⟨.ok true, shinqlxSendServerCommand w none cmd⟩
  | some actualClientId =>
    match w.game.validateClientId actualClientId with
    | .error e => ⟨.error e, []⟩
    | .ok () =>
      if w.active actualClientId then
        ⟨.ok true, shinqlxSendServerCommand w (some actualClientId) cmd⟩
      else ⟨.ok false, []⟩

/-- The command of `center_print`. -/
def centerPrintedCmd (msg : String) : String := "cp \"" ++ msg ++ "\""

/-- `Plugin::center_print`; without a recipient it is given none. -/
def centerPrint (w : MessageWorld) (msg : String) (recipient : ClientArg) : MessageCall Unit :=
  let clientId := clientId w.toClientIdWorld w.pick recipient none
  let call := pyshinqlxSendServerCommand w clientId (centerPrintedCmd msg)
  ⟨call.result.map fun _ => (), call.sent⟩

/-- The format of a `TellChannel`, filled with a message. -/
def tellFormat (message : String) : String := "print \"" ++ message ++ "\n\"\n"

/-- The channel of a reply to a client. -/
def tellChannel (clientId : Int) : ReplyWorld where
  recipients := .ok (some [clientId])
  format := fun message => .ok (tellFormat message)
  putNowait := fun _ _ => .ok ()

/-- `Plugin::tell`. -/
def tell (w : MessageWorld) (msg : String) (recipient : ClientArg) (limit : Int)
    (delimiter : String) : Replied :=
  match clientId w.toClientIdWorld w.pick recipient none with
  | none => ⟨.error (.valueError "could not find recipient"), [], []⟩
  | some recipientClientId =>
    ChatReply.reply (tellChannel recipientClientId) msg limit delimiter

/-- The tasks of the next frame. -/
def runTasks (w : MessageWorld) (tasks : List (Option Int × String)) : List SentCommand :=
  tasks.flatMap fun task => (pyshinqlxSendServerCommand w task.1 task.2).sent

/-- The commands of `tell`. -/
def tellCommands (msg : String) (limit : Int) (delimiter : String) : List String :=
  (ChatReply.payloads msg limit delimiter).map fun x => tellFormat (ChatReply.payload x)

/-! ## Who is meant -/

/-- Whom a recipient denotes among the connected players: a number from 0 to 63 is a client id,
and any other number a steam id. -/
inductive Denotes (w : ClientIdWorld) : ClientArg → Int → Prop
  | player (p : Player) : Denotes w (.player p) p.id
  | clientId {name : ClientArg} {id : Int} : idOf name = some id → Denotes w name id
  | steamId {name : ClientArg} {steamId : Int} {p : Player} : steamIdOf name = some steamId →
      p ∈ FindPlayer.players w none → p.steamId = steamId → Denotes w name p.id
  | name {text : String} {p : Player} : idOf (.str text) = none →
      numberOf 64 (.str text) = none → p ∈ FindPlayer.players w none →
      cleanName w p.name = cleanName w text → Denotes w (.str text) p.id

/-- Commands can be sent to the client. -/
def Connected (w : MessageWorld) (id : Int) : Prop :=
  w.game.validateClientId id = .ok () ∧ w.active id = true

/-- What is left of a command for a client or for everybody, if anything is. -/
def passedOn (w : MessageWorld) (client : Option Int) (cmd : String) : Option String :=
  if cmd = "" then none
  else
    (match client with
      | some id => if w.hasGentity id then w.serverCommandDispatcher (some id) cmd else some cmd
      | none => w.serverCommandDispatcher none cmd).filter (· ≠ "")

/-- The commands were sent to a client and to no other, if it is connected. -/
structure OnlyTo (w : MessageWorld) (id : Int) (cmds : List String) (sent : List SentCommand) :
    Prop where
  target : ∀ command ∈ sent, command.client = some id
  all : Connected w id → sent.map (·.cmd) = cmds.filterMap (passedOn w (some id))
  none : ¬ Connected w id → sent = []

/-- **What becomes of commands for a recipient**: they are sent to the client that it denotes, or
to nobody if it denotes none; `later` is when they are sent. -/
def SentAsMeant (w later : MessageWorld) (recipient : ClientArg) (cmds : List String)
    (sent : List SentCommand) : Prop :=
  (∃ id, Denotes w.toClientIdWorld recipient id ∧ OnlyTo later id cmds sent) ∨
    (∀ id, ¬ Denotes w.toClientIdWorld recipient id) ∧ sent = []

/-- **What `center_print` should send**: everybody gets the message only without a recipient. -/
structure CenterPrinted (w : MessageWorld) (msg : String) (recipient : ClientArg) : Prop where
  everybody : recipient = .none →
    ∀ command ∈ (centerPrint w msg recipient).sent, command.client = none
  targeted : recipient ≠ .none →
    SentAsMeant w w recipient [centerPrintedCmd msg] (centerPrint w msg recipient).sent

/-- **What `tell` should send**, in the next frame. -/
def Told (w later : MessageWorld) (msg : String) (recipient : ClientArg) (limit : Int)
    (delimiter : String) : Prop :=
  SentAsMeant w later recipient (tellCommands msg limit delimiter)
    (runTasks later (tell w msg recipient limit delimiter).tasks)

/-- Something of the commands reaches a client. -/
def Reaches (w : MessageWorld) (id : Int) (cmds : List String) : Prop :=
  Connected w id ∧ ∃ cmd ∈ cmds, passedOn w (some id) cmd ≠ none

/-- Something of a command reaches everybody. -/
def ReachesAll (w : MessageWorld) (cmd : String) : Prop :=
  w.game.maxClients ≠ none ∧ passedOn w none cmd ≠ none

/-- The recipient is a `Player` whose name reads as another client id, and one of the two clients
can be reached. -/
def Misread (w : MessageWorld) (recipient : ClientArg) (cmds : List String) : Prop :=
  ∃ p i, recipient = .player p ∧ idOf (.str p.name) = some i ∧ i ≠ p.id ∧
    (Reaches w i cmds ∨ Reaches w p.id cmds)

/-! ## What is sent -/

/-- The commands for a client. -/
def toClient (w : MessageWorld) (id : Int) (cmds : List String) : List SentCommand :=
  cmds.flatMap fun cmd => (pyshinqlxSendServerCommand w (some id) cmd).sent

theorem shinqlxSendServerCommand_eq (w : MessageWorld) (client : Option Int) (cmd : String) :
    shinqlxSendServerCommand w client cmd =
      if w.game.maxClients.isNone then []
      else ((passedOn w client cmd).map (SentCommand.mk client)).toList := by
  unfold shinqlxSendServerCommand passedOn
  split
  · rfl
  · split
    · rfl
    · dsimp only
      generalize (match client with
        | some id => if w.hasGentity id then w.serverCommandDispatcher (some id) cmd else some cmd
        | none => w.serverCommandDispatcher none cmd) = left
      cases left with
      | none => rfl
      | some cmd => by_cases hempty : cmd = "" <;> simp [hempty, Option.filter_some]

theorem Connected.engine {w : MessageWorld} {id : Int} (h : Connected w id) :
    w.game.maxClients.isNone = false := by
  have hvalid := h.1
  rw [PlayersInGame.validateClientId] at hvalid
  cases hmax : w.game.maxClients with
  | none =>
    rw [hmax] at hvalid
    cases hvalid
  | some maxclients => rfl

/-- A command for a client is sent to nobody else. -/
theorem sent_eq (w : MessageWorld) (id : Int) (cmd : String) :
    (pyshinqlxSendServerCommand w (some id) cmd).sent =
      if w.game.validateClientId id = .ok () ∧ w.active id = true then
        ((passedOn w (some id) cmd).map (SentCommand.mk (some id))).toList
      else [] := by
  rw [pyshinqlxSendServerCommand]
  cases hvalid : w.game.validateClientId id with
  | error e => rfl
  | ok u =>
    cases hactive : w.active id with
    | false => simp
    | true =>
      have hengine := Connected.engine (w := w) ⟨hvalid, hactive⟩
      simp [shinqlxSendServerCommand_eq, hengine]

theorem sent_of_connected {w : MessageWorld} {id : Int} (h : Connected w id) (cmd : String) :
    (pyshinqlxSendServerCommand w (some id) cmd).sent =
      ((passedOn w (some id) cmd).map (SentCommand.mk (some id))).toList :=
  (sent_eq w id cmd).trans (if_pos h)

theorem sent_of_not_connected {w : MessageWorld} {id : Int} (h : ¬ Connected w id)
    (cmd : String) : (pyshinqlxSendServerCommand w (some id) cmd).sent = [] :=
  (sent_eq w id cmd).trans (if_neg h)

theorem toClient_of_connected {w : MessageWorld} {id : Int} (h : Connected w id)
    (cmds : List String) :
    toClient w id cmds =
      (cmds.filterMap (passedOn w (some id))).map (SentCommand.mk (some id)) := by
  induction cmds with
  | nil => rfl
  | cons cmd cmds ih =>
    rw [toClient] at ih ⊢
    rw [List.flatMap_cons, ih, sent_of_connected h, List.filterMap_cons]
    cases passedOn w (some id) cmd <;> rfl

theorem toClient_of_not_connected {w : MessageWorld} {id : Int} (h : ¬ Connected w id)
    (cmds : List String) : toClient w id cmds = [] :=
  List.flatMap_eq_nil_iff.mpr fun cmd _ => sent_of_not_connected h cmd

/-- A client that is reached gets something. -/
theorem toClient_ne_nil_iff {w : MessageWorld} {id : Int} {cmds : List String} :
    toClient w id cmds ≠ [] ↔ Reaches w id cmds := by
  rw [Reaches]
  by_cases h : Connected w id
  · rw [toClient_of_connected h, and_iff_right h, ne_eq, List.map_eq_nil_iff,
      List.filterMap_eq_nil_iff]
    simp
  · rw [toClient_of_not_connected h]
    exact iff_of_false (fun hne => hne rfl) fun hreaches => h hreaches.1

/-- What is sent to one client. -/
theorem onlyTo_iff {w : MessageWorld} {id : Int} {cmds : List String} {sent : List SentCommand} :
    OnlyTo w id cmds sent ↔ sent = toClient w id cmds := by
  constructor
  · intro h
    by_cases hconnected : Connected w id
    · rw [toClient_of_connected hconnected, ← h.all hconnected, List.map_map]
      refine (List.map_id sent).symm.trans (List.map_congr_left fun command hcommand => ?_)
      rw [id_eq, Function.comp_apply, ← h.target command hcommand]
    · rw [toClient_of_not_connected hconnected, h.none hconnected]
  · rintro rfl
    by_cases hconnected : Connected w id
    · refine ⟨?_, fun _ => ?_, fun h => absurd hconnected h⟩
      · rw [toClient_of_connected hconnected]
        intro command hcommand
        obtain ⟨cmd, -, rfl⟩ := List.mem_map.mp hcommand
        rfl
      · rw [toClient_of_connected hconnected, List.map_map]
        exact List.map_id _
    · have hnil := toClient_of_not_connected hconnected cmds
      refine ⟨?_, fun h => absurd h hconnected, fun _ => hnil⟩
      rw [hnil]
      exact fun command hcommand => absurd hcommand List.not_mem_nil

/-- The commands of a reply are for the client of its channel. -/
theorem tasks_reply (id : Int) (msg : String) (limit : Int) (delimiter : String) :
    (ChatReply.reply (tellChannel id) msg limit delimiter).tasks =
      (tellCommands msg limit delimiter).map fun cmd => (some id, cmd) := by
  have hcolor : ∀ c ∈ (none : Option Char), ColorToken.isColor c = true := nofun
  have hreply : ChatReply.reply (tellChannel id) msg limit delimiter =
      ChatReply.sendMsgs (tellChannel id) [some id] (ChatReply.tagOf none)
        ((ChatReply.blocks msg limit delimiter).map ChatReply.joined) := by
    rw [ChatReply.blocks, ← ChatReply.foldl_joinMsgs]
    rfl
  have hreturns : (ChatReply.sendMsgs (tellChannel id) [some id] (ChatReply.tagOf none)
      ((ChatReply.blocks msg limit delimiter).map ChatReply.joined)).result = .ok () :=
    ChatReply.sendMsgs_returns hcolor fun x _ =>
      ⟨tellFormat (ChatReply.payload x), rfl, fun _ _ => rfl⟩
  obtain ⟨commands, hformatted, htasks⟩ := ChatReply.sendMsgs_tasks hcolor hreturns
  have hcommands : commands = tellCommands msg limit delimiter := by
    refine (List.map_injective_iff.mpr (fun a b h => Except.ok.inj h)
      (Eq.trans ?_ hformatted)).symm
    rw [tellCommands, List.map_map]
    rfl
  rw [hreply, htasks, hcommands]
  exact List.map_eq_flatMap.symm

/-- What the tasks of a reply send. -/
theorem runTasks_reply (w : MessageWorld) (id : Int) (msg : String) (limit : Int)
    (delimiter : String) :
    runTasks w (ChatReply.reply (tellChannel id) msg limit delimiter).tasks =
      toClient w id (tellCommands msg limit delimiter) := by
  rw [runTasks, tasks_reply, List.flatMap_map]
  rfl

/-! ## Who is found -/

theorem denotes_player_iff {w : ClientIdWorld} {p : Player} {id : Int} :
    Denotes w (.player p) id ↔ id = p.id := by
  constructor
  · intro h
    cases h with
    | player => rfl
    | clientId hid => cases hid
    | steamId hsteam _ _ => cases hsteam
  · rintro rfl
    exact .player p

/-- Who is found by anything but a `Player` is denoted, and nobody is where nobody is found. -/
theorem clientId_cases (w : ClientIdWorld) (pick : Nat) {name : ClientArg}
    (hplayer : ∀ p, name ≠ .player p) :
    (∃ id, clientId w pick name none = some id ∧ Denotes w name id) ∨
      clientId w pick name none = none ∧ ∀ id, ¬ Denotes w name id := by
  have hall : clientId w pick name none =
      clientId w pick name (some (FindPlayer.players w none)) := by
    cases name <;> rfl
  rw [hall]
  cases hid : idOf name with
  | some i => exact .inl ⟨i, clientId_of_idOf hid _, .clientId hid⟩
  | none =>
    cases hsteam : steamIdOf name with
    | some steamId =>
      rw [clientId_of_steamIdOf hsteam]
      rcases findAny_cases pick (·.steamId = steamId) (FindPlayer.players w none) with
        ⟨p, hp, hps, hfound⟩ | ⟨hfound, hnobody⟩
      · exact .inl ⟨p.id, by rw [hfound]; rfl, .steamId hsteam hp (of_decide_eq_true hps)⟩
      · refine .inr ⟨by rw [hfound]; rfl, fun id h => ?_⟩
        cases h with
        | player p => exact hplayer p rfl
        | clientId hid' => cases hid.symm.trans hid'
        | steamId hsteam' hp hps =>
          obtain rfl := Option.some.inj (hsteam.symm.trans hsteam')
          exact of_decide_eq_false (hnobody _ hp) hps
        | name _ hnumber _ _ =>
          cases hsteam.symm.trans ((steamIdOf_eq_none_iff hid).mpr hnumber)
    | none =>
      have hnumber := (steamIdOf_eq_none_iff hid).mp hsteam
      by_cases hstr : ∃ text, name = .str text
      · obtain ⟨text, rfl⟩ := hstr
        rw [clientId_of_str hid hnumber]
        rcases findAny_cases pick (fun p => cleanName w p.name = cleanName w text)
          (FindPlayer.players w none) with ⟨p, hp, hname, hfound⟩ | ⟨hfound, hnobody⟩
        · exact .inl ⟨p.id, by rw [hfound]; rfl,
            .name hid hnumber hp (of_decide_eq_true hname)⟩
        · refine .inr ⟨by rw [hfound]; rfl, fun id h => ?_⟩
          cases h with
          | clientId hid' => cases hid.symm.trans hid'
          | steamId hsteam' _ _ => cases hsteam.symm.trans hsteam'
          | name _ _ hp hname => exact of_decide_eq_false (hnobody _ hp) hname
      · have hstr : ∀ text, name ≠ .str text := fun text htext => hstr ⟨text, htext⟩
        refine .inr ⟨clientId_of_nothing hplayer hid hnumber hstr _, fun id h => ?_⟩
        cases h with
        | player p => exact hplayer p rfl
        | clientId hid' => cases hid.symm.trans hid'
        | steamId hsteam' _ _ => cases hsteam.symm.trans hsteam'
        | name _ _ _ _ => exact hstr _ rfl

/-! ## Where messages go -/

theorem client_of_mem_toClient {w : MessageWorld} {id : Int} {cmds : List String}
    {command : SentCommand} (h : command ∈ toClient w id cmds) : command.client = some id :=
  (onlyTo_iff.mpr rfl).target command h

/-- Two clients are sent the same only if both are sent nothing. -/
theorem toClient_eq_iff {w : MessageWorld} {i j : Int} (hne : i ≠ j) {cmds : List String} :
    toClient w i cmds = toClient w j cmds ↔ ¬ (Reaches w i cmds ∨ Reaches w j cmds) := by
  rw [← toClient_ne_nil_iff, ← toClient_ne_nil_iff, not_or, not_not, not_not]
  constructor
  · intro h
    have hnil : toClient w i cmds = [] := by
      rw [List.eq_nil_iff_forall_not_mem]
      intro command hcommand
      have hi := client_of_mem_toClient hcommand
      have hj := client_of_mem_toClient (h ▸ hcommand)
      exact hne (Option.some.inj (hi.symm.trans hj))
    exact ⟨hnil, h ▸ hnil⟩
  · rintro ⟨hi, hj⟩
    rw [hi, hj]

/-- What goes to a client is sent as meant, if that is who is denoted. -/
theorem sentAsMeant_of_denotes {w later : MessageWorld} {recipient : ClientArg} {id : Int}
    (h : Denotes w.toClientIdWorld recipient id) (cmds : List String) :
    SentAsMeant w later recipient cmds (toClient later id cmds) :=
  .inl ⟨id, h, onlyTo_iff.mpr rfl⟩

/-- What is sent for a `Player` is sent to it, unless its name is misread. -/
theorem sentAsMeant_player_iff {w later : MessageWorld} {p : Player} {cmds : List String} :
    SentAsMeant w later (.player p) cmds
        (toClient later ((idOf (.str p.name)).getD p.id) cmds) ↔
      ¬ Misread later (.player p) cmds := by
  have hmeant : ∀ sent, SentAsMeant w later (.player p) cmds sent ↔
      sent = toClient later p.id cmds := by
    intro sent
    rw [SentAsMeant, ← onlyTo_iff]
    constructor
    · rintro (⟨id, hid, honly⟩ | ⟨hnobody, -⟩)
      · obtain rfl := denotes_player_iff.mp hid
        exact honly
      · exact absurd (.player p) (hnobody p.id)
    · exact fun honly => .inl ⟨p.id, .player p, honly⟩
  rw [hmeant]
  cases hid : idOf (.str p.name) with
  | none =>
    refine iff_of_true rfl ?_
    rintro ⟨q, i, hq, hi, -, -⟩
    obtain rfl := ClientArg.player.inj hq
    cases hid.symm.trans hi
  | some i =>
    rw [Option.getD_some]
    by_cases hself : i = p.id
    · refine iff_of_true (by rw [hself]) ?_
      rintro ⟨q, j, hq, hj, hne, -⟩
      obtain rfl := ClientArg.player.inj hq
      exact hne ((Option.some.inj (hj.symm.trans hid)).trans hself)
    · rw [toClient_eq_iff hself, not_iff_not]
      constructor
      · exact fun h => ⟨p, i, rfl, hid, hself, h⟩
      · rintro ⟨q, j, hq, hj, -, h⟩
        obtain rfl := ClientArg.player.inj hq
        obtain rfl := Option.some.inj (hid.symm.trans hj)
        exact h

theorem not_misread {w : MessageWorld} {recipient : ClientArg} {cmds : List String}
    (hplayer : ∀ p, recipient ≠ .player p) : ¬ Misread w recipient cmds := by
  rintro ⟨p, i, hp, -, -, -⟩
  exact hplayer p hp

/-- What is sent to everybody. -/
theorem broadcast_eq_nil_iff {w : MessageWorld} {cmd : String} :
    shinqlxSendServerCommand w none cmd = [] ↔ ¬ ReachesAll w cmd := by
  rw [shinqlxSendServerCommand_eq, ReachesAll]
  cases w.game.maxClients with
  | none => simp
  | some maxclients => simp

theorem client_of_mem_broadcast {w : MessageWorld} {cmd : String} {command : SentCommand}
    (h : command ∈ shinqlxSendServerCommand w none cmd) : command.client = none := by
  rw [shinqlxSendServerCommand_eq] at h
  split at h
  · cases h
  · rw [Option.mem_toList] at h
    obtain ⟨cmd', -, rfl⟩ := Option.map_eq_some_iff.mp h
    rfl

/-- What `tell` sends. -/
theorem runTasks_tell (w later : MessageWorld) (msg : String) (recipient : ClientArg)
    (limit : Int) (delimiter : String) :
    runTasks later (tell w msg recipient limit delimiter).tasks =
      match clientId w.toClientIdWorld w.pick recipient none with
      | none => []
      | some id => toClient later id (tellCommands msg limit delimiter) := by
  rw [tell]
  cases clientId w.toClientIdWorld w.pick recipient none with
  | none => rfl
  | some id => exact runTasks_reply later id msg limit delimiter

/-- What `center_print` sends. -/
theorem sent_centerPrint (w : MessageWorld) (msg : String) (recipient : ClientArg) :
    (centerPrint w msg recipient).sent =
      match clientId w.toClientIdWorld w.pick recipient none with
      | none => shinqlxSendServerCommand w none (centerPrintedCmd msg)
      | some id => toClient w id [centerPrintedCmd msg] := by
  rw [centerPrint]
  cases clientId w.toClientIdWorld w.pick recipient none with
  | none => rfl
  | some id => exact (List.flatMap_singleton ..).symm

/-- **Messages of `center_print`.** -/
theorem centerPrinted_iff (w : MessageWorld) (msg : String) (recipient : ClientArg) :
    CenterPrinted w msg recipient ↔
      (recipient ≠ .none →
        ¬ Misread w recipient [centerPrintedCmd msg] ∧
          ((∃ id, Denotes w.toClientIdWorld recipient id) ∨
            ¬ ReachesAll w (centerPrintedCmd msg))) := by
  have heverybody : recipient = .none →
      ∀ command ∈ (centerPrint w msg recipient).sent, command.client = none := by
    rintro rfl command hcommand
    exact client_of_mem_broadcast hcommand
  have htargeted : recipient ≠ .none →
      (SentAsMeant w w recipient [centerPrintedCmd msg] (centerPrint w msg recipient).sent ↔
        ¬ Misread w recipient [centerPrintedCmd msg] ∧
          ((∃ id, Denotes w.toClientIdWorld recipient id) ∨
            ¬ ReachesAll w (centerPrintedCmd msg))) := by
    intro _
    rw [sent_centerPrint]
    by_cases hplayer : ∃ p, recipient = .player p
    · obtain ⟨p, rfl⟩ := hplayer
      rw [clientId_player]
      exact sentAsMeant_player_iff.trans
        (and_iff_left (.inl ⟨p.id, .player p⟩)).symm
    · have hplayer : ∀ p, recipient ≠ .player p := fun p hp => hplayer ⟨p, hp⟩
      rw [and_iff_right (not_misread hplayer)]
      rcases clientId_cases w.toClientIdWorld w.pick hplayer with
        ⟨id, hfound, hdenotes⟩ | ⟨hfound, hnobody⟩
      · rw [hfound]
        exact iff_of_true (sentAsMeant_of_denotes hdenotes _) (.inl ⟨id, hdenotes⟩)
      · have hno : ¬ ∃ id, Denotes w.toClientIdWorld recipient id :=
          fun hex => hex.elim hnobody
        rw [hfound, or_iff_right hno, ← broadcast_eq_nil_iff, SentAsMeant,
          or_iff_right fun hex => hno (hex.imp fun id h => h.1), and_iff_right hnobody]
  exact ⟨fun h hgiven => (htargeted hgiven).mp (h.targeted hgiven),
    fun h => ⟨heverybody, fun hgiven => (htargeted hgiven).mpr (h hgiven)⟩⟩

/-- **Messages of `tell`.** -/
theorem told_iff (w later : MessageWorld) (msg : String) (recipient : ClientArg) (limit : Int)
    (delimiter : String) :
    Told w later msg recipient limit delimiter ↔
      ¬ Misread later recipient (tellCommands msg limit delimiter) := by
  rw [Told, runTasks_tell]
  by_cases hplayer : ∃ p, recipient = .player p
  · obtain ⟨p, rfl⟩ := hplayer
    rw [clientId_player]
    exact sentAsMeant_player_iff
  · have hplayer : ∀ p, recipient ≠ .player p := fun p hp => hplayer ⟨p, hp⟩
    refine iff_of_true ?_ (not_misread hplayer)
    rcases clientId_cases w.toClientIdWorld w.pick hplayer with
      ⟨id, hfound, hdenotes⟩ | ⟨hfound, hnobody⟩
    · rw [hfound]
      exact sentAsMeant_of_denotes hdenotes _
    · rw [hfound]
      exact .inr ⟨hnobody, rfl⟩

/-- **Messages go to whom they are meant for iff** the recipient is no `Player` whose name is
misread, and for `center_print` denotes somebody or is not given, or the message would reach
nobody. -/
theorem targeted_iff (w later : MessageWorld) (msg : String) (recipient : ClientArg) (limit : Int)
    (delimiter : String) :
    (CenterPrinted w msg recipient ↔
      (recipient ≠ .none →
        ¬ Misread w recipient [centerPrintedCmd msg] ∧
          ((∃ id, Denotes w.toClientIdWorld recipient id) ∨
            ¬ ReachesAll w (centerPrintedCmd msg)))) ∧
    (Told w later msg recipient limit delimiter ↔
      ¬ Misread later recipient (tellCommands msg limit delimiter)) :=
  ⟨centerPrinted_iff w msg recipient, told_iff w later msg recipient limit delimiter⟩

/-- A server on which nobody plays. -/
def emptyServer : MessageWorld :=
  ⟨⟨id, .ok []⟩, 0, ⟨some 16, none, fun _ => none⟩, fun _ => false, fun _ => false,
    fun _ cmd => some cmd⟩

/-- A message for a player who has left is sent to everybody. -/
theorem not_centerPrinted_left : ¬ CenterPrinted emptyServer "psst" (.str "gone") := by
  intro h
  rcases h.targeted nofun with ⟨id, -, honly⟩ | ⟨-, hnothing⟩
  · exact absurd (honly.target ⟨none, "cp \"psst\""⟩ (by decide)) nofun
  · exact absurd hnothing (by decide)

end TargetedMessages
end ShinQlx
