import ShinQlx.ChannelEquality
import ShinQlx.FrameLog
import ShinQlx.PlayerObject
import ShinQlx.TargetedMessages

/-! # What the channels deliver

A reply to a channel asks for one task of the next frame for each recipient and each text: for
everybody, for the players of a team, or for one client.  Who is in a team is looked up when the
reply is made; whether a client can be reached, and what the handlers of a server command leave of
a command, is seen when the task runs, in the frame after.

`delivered` says what a client is sent in a run: the commands of the replies that were for it,
once each and in order.
-/
namespace ShinQlx

/-- The clients, as a channel finds them: how many there can be, if there is an engine, and what
is known about each. -/
structure ClientTable (S P : Type) where
  maxClients : Option Int
  engine : PlayerEngine S P

/-- `Teams`. -/
inductive Teams where
  | free | red | blue | spectator | invalid
  deriving DecidableEq

namespace Teams

/-- `Teams::from` a text. -/
def ofStr (value : String) : Teams :=
  if value = "free" then .free
  else if value = "red" then .red
  else if value = "blue" then .blue
  else if value = "spectator" then .spectator
  else .invalid

/-- `as i32`. -/
def toInt : Teams → Int
  | .free => 0
  | .red => 1
  | .blue => 2
  | .spectator => 3
  | .invalid => -1

end Teams

/-- `pyshinqlx_players_info`. -/
def ClientTable.playersInfo {S P : Type} (t : ClientTable S P) :
    PyResult (List (Option FullPlayerInfo)) :=
  match t.maxClients with
  | none => .error (.environmentError "main quake live engine not set")
  | some maxclients =>
    .ok ((List.range maxclients.toNat).filterMap fun (clientId : Nat) =>
      match t.engine.client clientId with
      | none => none
      | some client =>
        if client.state = 0 then none else some (some (.ofId t.engine clientId)))

/-- A channel that a message is replied to; the format of a team's channel is free. -/
inductive ReplyChannel where
  | teamChat (team : String) (format : String → PyResult String)
  | tell (clientId : Int)
  | clientCommand (clientId : Int)
  | console

/-- The result of a reply, with the tasks that it asks for, and what is printed to the console. -/
structure ChannelReply where
  replied : Replied
  printed : List String

namespace ReplyChannel
variable {S P : Type}

/-- `TeamChatChannel::recipients`. -/
def teamRecipients (t : ClientTable S P) (team : String) : PyResult (Option (List Int)) :=
  if team = "all" then .ok none
  else
    let filteredTeam := (Teams.ofStr team).toInt
    t.playersInfo.map fun playersInfo =>
      some (playersInfo.filterMap fun
        | some playerInfo =>
          if playerInfo.team = filteredTeam then some playerInfo.clientId else none
        | none => none)

/-- What `reply` of a `TeamChatChannel` finds. -/
def teamWorld (t : ClientTable S P) (team : String) (format : String → PyResult String) :
    ReplyWorld where
  recipients := teamRecipients t team
  format := format
  putNowait := fun _ _ => .ok ()

/-- `reply` of a channel. -/
def reply (t : ClientTable S P) (msg : String) (limit : Int) (delimiter : String) :
    ReplyChannel → ChannelReply
  | .teamChat team format => ⟨ChatReply.reply (teamWorld t team format) msg limit delimiter, []⟩
  | .tell clientId | .clientCommand clientId =>
    ⟨ChatReply.reply (TargetedMessages.tellChannel clientId) msg limit delimiter, []⟩
  | .console => ⟨⟨.ok (), [], []⟩, [msg]⟩

end ReplyChannel

/-- The team of a built-in channel. -/
def ChatChannel.team : ChatChannel → String
  | .main => "all"
  | .free => "free"
  | .red => "red"
  | .blue => "blue"
  | .spectator => "spectator"

/-- The name of a built-in channel. -/
def ChatChannel.name : ChatChannel → String
  | .main => "chat"
  | .free => "free_chat"
  | .red => "red_team_chat"
  | .blue => "blue_team_chat"
  | .spectator => "spectator_chat"

/-- A built-in channel. -/
def ChatChannel.replyChannel (c : ChatChannel) : ReplyChannel :=
  .teamChat c.team fun message => .ok (TargetedMessages.tellFormat message)

/-- What `Plugin::msg` is given for a channel. -/
inductive MsgChannel where
  | none
  | channel (c : ReplyChannel)
  | other (texts : PyTexts)

/-- `Plugin::msg`. -/
def pluginMsg {S P : Type} (t : ClientTable S P) (msg : String) (chatChannel : MsgChannel)
    (limit : Option Int) (delimiter : Option String) : ChannelReply :=
  let replyTo := ReplyChannel.reply t msg (limit.getD 100) (delimiter.getD " ")
  match chatChannel with
  | .none => replyTo ChatChannel.main.replyChannel
  | .channel c => replyTo c
  | .other texts =>
    let isEqual := fun (channel : Channel) => channel.richcmp texts .eq = some true
    match [ChatChannel.main, .red, .blue].find? fun c =>
        isEqual (.named .teamChatChannel c.name) with
    | some c => replyTo c.replyChannel
    | none =>
      if isEqual (.named .consoleChannel "console") then replyTo .console
      else ⟨⟨.error (.valueError "Invalid channel."), [], []⟩, []⟩

/-- A task of the next frame: `pyshinqlx_send_server_command` with its arguments, or some other
function. -/
inductive FrameFunc (F : Type) where
  | sendServerCommand (clientId : Option Int) (cmd : String)
  | other (func : F)

/-- What plugins do about frames: a message to a channel, with the clients as they are then, or a
request of their own. -/
inductive ChannelDeed (S P T F : Type) where
  | reply (t : ClientTable S P) (channel : ReplyChannel) (msg : String) (limit : Int)
    (delimiter : String)
  | msg (t : ClientTable S P) (chatChannel : MsgChannel) (msg : String) (limit : Option Int)
    (delimiter : Option String)
  | request (r : TaskRequest T F)

namespace ChannelDelivery
variable {S P T F : Type}

/-- A request for some other function. -/
def otherRequest : TaskRequest T F → TaskRequest T (FrameFunc F)
  | .nextFrame func => .nextFrame (.other func)
  | .delay time func => .delay time (.other func)

/-- The tasks of a reply. -/
def taskRequests (reply : ChannelReply) : List (TaskRequest T (FrameFunc F)) :=
  reply.replied.tasks.map fun task => .nextFrame (.sendServerCommand task.1 task.2)

/-- What a deed asks for. -/
def asks : ChannelDeed S P T F → List (TaskRequest T (FrameFunc F))
  | .reply t channel msg limit delimiter => taskRequests (channel.reply t msg limit delimiter)
  | .msg t chatChannel msg limit delimiter =>
    taskRequests (pluginMsg t msg chatChannel limit delimiter)
  | .request r => [otherRequest r]

/-- The command of a function, if it is for this client, or for everybody. -/
def commandOf (client : Option Int) : FrameFunc F → Option String
  | .sendServerCommand client' cmd => if client' = client then some cmd else none
  | .other _ => none

/-- The commands that a deed puts off for a client, or for everybody. -/
def commandsFor (client : Option Int) (d : ChannelDeed S P T F) : List String :=
  (FrameTasks.nextFrames (asks d)).filterMap (commandOf client)

/-- What the execution of a task of the next frame sends; `w` is what it finds. -/
def sends (w : MessageWorld) (task : FrameTask (FrameFunc F)) : List SentCommand :=
  match task.isNextFrame, task.func with
  | true, .sendServerCommand clientId cmd =>
    (TargetedMessages.pyshinqlxSendServerCommand w clientId cmd).sent
  | _, _ => []

/-- What the channels have sent in a run; `worlds` is what each execution finds. -/
def sent (worlds : Nat → MessageWorld) (s : FrameTasks T (FrameFunc F)) : List SentCommand :=
  s.executed.zipIdx.flatMap fun x => sends (worlds x.2) x.1.2

/-- The command of a task that channels put off, if it is for this client, or for everybody. -/
def taskFor (client : Option Int) (task : FrameTask (FrameFunc F)) : Option String :=
  if task.isNextFrame then commandOf client task.func else none

/-- The commands of the channels for a client, or for everybody, that have been executed, each
with the number of the execution. -/
def executedFor (client : Option Int) (s : FrameTasks T (FrameFunc F)) : List (Nat × String) :=
  s.executed.zipIdx.filterMap fun x => (taskFor client x.1.2).map (x.2, ·)

/-- What comes of a command for a client, or for everybody, when it is executed. -/
def deliveredAt (w : MessageWorld) (client : Option Int) (cmd : String) : Option String :=
  match client with
  | some id =>
    if w.game.validateClientId id = .ok () ∧ w.active id = true then
      TargetedMessages.passedOn w (some id) cmd
    else none
  | none => if w.game.maxClients.isNone then none else TargetedMessages.passedOn w none cmd

/-- The server commands of some texts, up to the first that cannot be formatted. -/
def formatted (format : String → PyResult String) : List String → List String
  | [] => []
  | text :: texts =>
    match format text with
    | .error _ => []
    | .ok command => command :: formatted format texts

/-- The texts of a message. -/
def texts (msg : String) (limit : Int) (delimiter : String) : List String :=
  (ChatReply.payloads msg limit delimiter).map ChatReply.payload

/-- A client that `players_info` lists, in a team. -/
def InTeam (t : ClientTable S P) (team : String) (id : Int) : Prop :=
  ∃ maxclients client, t.maxClients = some maxclients ∧ 0 ≤ id ∧ id < maxclients ∧
    t.engine.client id = some client ∧ client.state ≠ 0 ∧
    (FullPlayerInfo.ofId t.engine id).team = (Teams.ofStr team).toInt

/-- Whom a reply to a channel is for; none is everybody. -/
def For (t : ClientTable S P) : ReplyChannel → Option Int → Prop
  | .teamChat team _, client =>
    if team = "all" then client = none else ∃ id, client = some id ∧ InTeam t team id
  | .tell id, client | .clientCommand id, client => client = some id
  | .console, _ => False

/-- The format of a channel. -/
def formatOf : ReplyChannel → String → PyResult String
  | .teamChat _ format => format
  | _ => fun message => .ok (TargetedMessages.tellFormat message)

/-- The channel that `Plugin::msg` replies to. -/
def msgChannel : MsgChannel → Option ReplyChannel
  | .none => some ChatChannel.main.replyChannel
  | .channel c => some c
  | .other texts =>
    match Channel.shown texts with
    | some "chat" => some ChatChannel.main.replyChannel
    | some "red_team_chat" => some ChatChannel.red.replyChannel
    | some "blue_team_chat" => some ChatChannel.blue.replyChannel
    | some "console" => some .console
    | _ => none

/-- Whom a deed is for; none is everybody. -/
def AddressedTo (client : Option Int) : ChannelDeed S P T F → Prop
  | .reply t channel _ _ _ => For t channel client
  | .msg t chatChannel _ _ _ => ∃ channel, msgChannel chatChannel = some channel ∧
      For t channel client
  | .request _ => False

/-- The commands of a deed. -/
def commandsOf : ChannelDeed S P T F → List String
  | .reply _ channel msg limit delimiter =>
    formatted (formatOf channel) (texts msg limit delimiter)
  | .msg _ chatChannel msg limit delimiter =>
    match msgChannel chatChannel with
    | some channel =>
      formatted (formatOf channel) (texts msg (limit.getD 100) (delimiter.getD " "))
    | none => []
  | .request _ => []

open scoped Classical in
/-- **What the channels deliver** to a client, or to everybody, with a log of a run: the commands
of the deeds that are for it and whose frame is over, once each and in order, as far as they can be
sent when their turn comes. -/
structure Delivers (worlds : Nat → MessageWorld) (log : List (Nat × ChannelDeed S P T F))
    (s : FrameTasks T (FrameFunc F)) (client : Option Int) : Prop where
  executed : (executedFor client s).map Prod.snd =
    (log.filter fun x => x.1 + 1 < s.frame ∧ AddressedTo client x.2).flatMap
      fun x => commandsOf x.2
  inTurn : ((executedFor client s).map Prod.fst).Pairwise (· < ·)
  sent : ((sent worlds s).filter (·.client = client)).map (·.cmd) =
    (executedFor client s).filterMap fun x => deliveredAt (worlds x.1) client x.2

/-! ## What a reply asks for -/

/-- The tasks of a reply, where the queue takes what it is given. -/
theorem sendMsgs_tasks_eq {w : ReplyWorld} (hput : ∀ cid command, w.putNowait cid command = .ok ())
    (targets : List (Option Int)) {color : Option Char}
    (hcolor : ∀ c ∈ color, ColorToken.isColor c = true) (msgs : List String) :
    (ChatReply.sendMsgs w targets (ChatReply.tagOf color) msgs).tasks =
      (formatted w.format ((ChatReply.colored color msgs).map ChatReply.payload)).flatMap
        fun command => targets.map (·, command) := by
  induction msgs generalizing color with
  | nil => rfl
  | cons s msgs ih =>
    have hrest := ih (ChatReply.isColor_colorBehind hcolor s)
    rw [← ChatReply.nextColor_tagOf hcolor] at hrest
    rw [ChatReply.sendMsgs, ChatReply.colored, List.map_cons, formatted, ChatReply.payload]
    cases hformat : w.format (ChatReply.tagOf color ++ s) with
    | error e => rfl
    | ok command =>
      have hreturns : (ChatReply.putCommand w command targets).1 = .ok () :=
        ChatReply.putCommand_returns fun cid _ => hput cid command
      have hqueued := ChatReply.putCommand_ok hreturns
      simp only
      generalize ChatReply.putCommand w command targets = queued at hreturns hqueued
      obtain ⟨result, tasks⟩ := queued
      obtain rfl : result = .ok () := hreturns
      obtain rfl : tasks = targets.map (·, command) := hqueued
      exact congrArg _ hrest

theorem reply_tasks {w : ReplyWorld} (hput : ∀ cid command, w.putNowait cid command = .ok ())
    {recipients : Option (List Int)} (hrecipients : w.recipients = .ok recipients) (msg : String)
    (limit : Int) (delimiter : String) :
    (ChatReply.reply w msg limit delimiter).tasks =
      (formatted w.format (texts msg limit delimiter)).flatMap
        fun command => (ChatReply.targetsOf recipients).map (·, command) := by
  have hcolor : ∀ c ∈ (none : Option Char), ColorToken.isColor c = true := nofun
  rw [ChatReply.reply, hrecipients, texts, ChatReply.payloads, ChatReply.blocks,
    ← ChatReply.foldl_joinMsgs]
  exact sendMsgs_tasks_eq hput (ChatReply.targetsOf recipients) hcolor _

/-- What the tasks of a reply put off is what is received. -/
theorem nextFrames_taskRequests (client : Option Int) (reply : ChannelReply) :
    (FrameTasks.nextFrames (taskRequests (T := T) (F := F) reply)).filterMap (commandOf client) =
      ChatReply.receivedBy client reply.replied.tasks := by
  rw [taskRequests, FrameTasks.nextFrames, List.filterMap_map, List.filterMap_filterMap,
    ChatReply.receivedBy, ← List.filterMap_eq_map, List.filterMap_filter]
  refine List.filterMap_congr fun task _ => ?_
  simp [commandOf]

theorem receivedBy_flatMap (client : Option Int) (targets : List (Option Int))
    (commands : List String) :
    ChatReply.receivedBy client (commands.flatMap fun command => targets.map (·, command)) =
      commands.flatMap fun command => List.replicate (targets.count client) command := by
  induction commands with
  | nil => rfl
  | cons command commands ih =>
    rw [List.flatMap_cons, List.flatMap_cons, ← ih, ← ChatReply.receivedBy_map,
      ChatReply.receivedBy, List.filter_append, List.map_append]
    rfl

/-- A recipient that is named once gets each command once. -/
theorem receivedBy_of_count {client : Option Int} {targets : List (Option Int)}
    (commands : List String) (h : targets.count client = 1) :
    ChatReply.receivedBy client (commands.flatMap fun command => targets.map (·, command)) =
      commands := by
  rw [receivedBy_flatMap, h]
  exact List.flatMap_singleton' commands

theorem receivedBy_of_not_mem {client : Option Int} {targets : List (Option Int)}
    (commands : List String) (h : client ∉ targets) :
    ChatReply.receivedBy client (commands.flatMap fun command => targets.map (·, command)) =
      [] := by
  rw [receivedBy_flatMap, List.count_eq_zero_of_not_mem h]
  exact List.flatMap_eq_nil_iff.mpr fun _ _ => rfl

theorem ofId_clientId (engine : PlayerEngine S P) (id : Int) :
    (FullPlayerInfo.ofId engine id).clientId = id := by
  rw [FullPlayerInfo.ofId]
  cases engine.entity id <;> cases engine.client id <;> rfl

/-- A client that is listed and in a team, as its id. -/
def teamMember (t : ClientTable S P) (team : String) (clientId : Nat) : Option Int :=
  match t.engine.client clientId with
  | none => none
  | some client =>
    if client.state ≠ 0 ∧
        (FullPlayerInfo.ofId t.engine clientId).team = (Teams.ofStr team).toInt then
      some clientId
    else none

theorem teamMember_eq_some_iff {t : ClientTable S P} {team : String} {clientId : Nat} {id : Int} :
    teamMember t team clientId = some id ↔
      clientId = id ∧ ∃ client, t.engine.client id = some client ∧ client.state ≠ 0 ∧
        (FullPlayerInfo.ofId t.engine id).team = (Teams.ofStr team).toInt := by
  rw [teamMember]
  constructor
  · intro h
    split at h
    · cases h
    · rename_i client hclient
      split at h
      · rename_i hmember
        cases h
        exact ⟨rfl, client, hclient, hmember⟩
      · cases h
  · rintro ⟨rfl, client, hclient, hmember⟩
    rw [hclient]
    exact if_pos hmember

theorem teamRecipients_eq {t : ClientTable S P} {maxclients : Int}
    (hmax : t.maxClients = some maxclients) {team : String} (hteam : team ≠ "all") :
    ReplyChannel.teamRecipients t team =
      .ok (some ((List.range maxclients.toNat).filterMap (teamMember t team))) := by
  rw [ReplyChannel.teamRecipients, if_neg hteam, ClientTable.playersInfo, hmax]
  simp only [Except.map, List.filterMap_filterMap]
  refine congrArg (fun ids => Except.ok (some ids)) (List.filterMap_congr fun clientId _ => ?_)
  rw [teamMember]
  cases t.engine.client clientId with
  | none => rfl
  | some client =>
    by_cases hstate : client.state = 0
    · simp [hstate]
    · simp [hstate, ofId_clientId]

/-- The players of a team, each once. -/
theorem teamRecipients_of_engine {t : ClientTable S P} {maxclients : Int}
    (hmax : t.maxClients = some maxclients) {team : String} (hteam : team ≠ "all") :
    ∃ ids, ReplyChannel.teamRecipients t team = .ok (some ids) ∧ ids.Nodup ∧
      ∀ id, id ∈ ids ↔ InTeam t team id := by
  refine ⟨_, teamRecipients_eq hmax hteam, ?_, fun id => ?_⟩
  · refine List.nodup_range.filterMap fun a a' id ha ha' => ?_
    have hida := (teamMember_eq_some_iff.mp ha).1
    have hida' := (teamMember_eq_some_iff.mp ha').1
    omega
  · rw [List.mem_filterMap]
    constructor
    · rintro ⟨clientId, hrange, hmember⟩
      obtain ⟨rfl, client, hclient⟩ := teamMember_eq_some_iff.mp hmember
      rw [List.mem_range] at hrange
      exact ⟨maxclients, client, hmax, by omega, by omega, hclient⟩
    · rintro ⟨maxclients', client, hmax', hnonneg, hlt, hclient⟩
      cases hmax.symm.trans hmax'
      refine ⟨id.toNat, List.mem_range.mpr (by omega), ?_⟩
      exact teamMember_eq_some_iff.mpr ⟨Int.toNat_of_nonneg hnonneg, client, hclient⟩

theorem teamRecipients_of_no_engine {t : ClientTable S P} (hmax : t.maxClients = none)
    {team : String} (hteam : team ≠ "all") :
    ReplyChannel.teamRecipients t team =
      .error (.environmentError "main quake live engine not set") := by
  rw [ReplyChannel.teamRecipients, if_neg hteam, ClientTable.playersInfo, hmax]
  rfl

theorem receivedBy_reply {w : ReplyWorld} (hput : ∀ cid command, w.putNowait cid command = .ok ())
    {recipients : Option (List Int)} (hrecipients : w.recipients = .ok recipients)
    (hnodup : (ChatReply.targetsOf recipients).Nodup) (msg : String) (limit : Int)
    (delimiter : String) (client : Option Int) :
    (client ∈ ChatReply.targetsOf recipients →
      ChatReply.receivedBy client (ChatReply.reply w msg limit delimiter).tasks =
        formatted w.format (texts msg limit delimiter)) ∧
    (client ∉ ChatReply.targetsOf recipients →
      ChatReply.receivedBy client (ChatReply.reply w msg limit delimiter).tasks = []) := by
  rw [reply_tasks hput hrecipients]
  constructor
  · intro hmem
    exact receivedBy_of_count _ (List.count_eq_one_of_mem hnodup hmem)
  · exact receivedBy_of_not_mem _

/-- **Whom a reply is for.**  They get every command of the message once, and in order; nobody else
gets any. -/
theorem receivedBy_channel (t : ClientTable S P) (channel : ReplyChannel) (msg : String)
    (limit : Int) (delimiter : String) (client : Option Int) :
    (For t channel client →
      ChatReply.receivedBy client (channel.reply t msg limit delimiter).replied.tasks =
        formatted (formatOf channel) (texts msg limit delimiter)) ∧
    (¬ For t channel client →
      ChatReply.receivedBy client (channel.reply t msg limit delimiter).replied.tasks = []) := by
  have htell : ∀ id, (client = some id →
        ChatReply.receivedBy client
          (ChatReply.reply (TargetedMessages.tellChannel id) msg limit delimiter).tasks =
          formatted (fun message => .ok (TargetedMessages.tellFormat message))
            (texts msg limit delimiter)) ∧
      (¬ client = some id →
        ChatReply.receivedBy client
          (ChatReply.reply (TargetedMessages.tellChannel id) msg limit delimiter).tasks = []) := by
    intro id
    have hreply := receivedBy_reply (w := TargetedMessages.tellChannel id) (fun _ _ => rfl) rfl
      (List.nodup_singleton _) msg limit delimiter client
    refine ⟨fun h => hreply.1 (List.mem_singleton.mpr h), fun h => hreply.2 fun hmem => ?_⟩
    exact h (List.mem_singleton.mp hmem)
  cases channel with
  | tell id => exact htell id
  | clientCommand id => exact htell id
  | console => exact ⟨False.elim, fun _ => rfl⟩
  | teamChat team format =>
    rw [For]
    by_cases hall : team = "all"
    · rw [if_pos hall]
      have hrecipients : (ReplyChannel.teamWorld t team format).recipients = .ok none :=
        if_pos hall
      have hreply := receivedBy_reply (w := ReplyChannel.teamWorld t team format)
        (fun _ _ => rfl) hrecipients (List.nodup_singleton _) msg limit delimiter client
      refine ⟨fun h => hreply.1 (List.mem_singleton.mpr h), fun h => hreply.2 fun hmem => ?_⟩
      exact h (List.mem_singleton.mp hmem)
    · rw [if_neg hall]
      cases hmax : t.maxClients with
      | none =>
        have htasks : ((ReplyChannel.teamChat team format).reply t msg limit
            delimiter).replied.tasks = [] := by
          rw [ReplyChannel.reply, ChatReply.reply, ReplyChannel.teamWorld]
          simp only [teamRecipients_of_no_engine hmax hall]
        rw [htasks]
        refine ⟨?_, fun _ => rfl⟩
        rintro ⟨id, -, maxclients, client, hmax', -⟩
        cases hmax.symm.trans hmax'
      | some maxclients =>
        obtain ⟨ids, hrecipients, hnodup, hids⟩ := teamRecipients_of_engine hmax hall
        have hreply := receivedBy_reply (w := ReplyChannel.teamWorld t team format)
          (fun _ _ => rfl) hrecipients (hnodup.map (Option.some_injective _)) msg limit
          delimiter client
        have hmem : client ∈ ChatReply.targetsOf (some ids) ↔
            ∃ id, client = some id ∧ InTeam t team id := by
          rw [ChatReply.targetsOf, List.mem_map]
          refine exists_congr fun id => ?_
          rw [hids, and_comm, eq_comm]
        rw [← hmem]
        exact hreply

theorem richcmp_eq_true_iff (self : Channel) (other : PyTexts) :
    self.richcmp other .eq = some true ↔ Channel.shown other = some self.name := by
  rw [Channel.richcmp_eq, Option.some_inj, decide_eq_true_iff]

/-- A message goes to its channel, and nowhere if there is none. -/
theorem pluginMsg_eq (t : ClientTable S P) (msg : String) (chatChannel : MsgChannel)
    (limit : Option Int) (delimiter : Option String) :
    pluginMsg t msg chatChannel limit delimiter =
      match msgChannel chatChannel with
      | some c => c.reply t msg (limit.getD 100) (delimiter.getD " ")
      | none => ⟨⟨.error (.valueError "Invalid channel."), [], []⟩, []⟩ := by
  cases chatChannel with
  | none => rfl
  | channel c => rfl
  | other texts =>
    rw [pluginMsg, msgChannel]
    simp only [richcmp_eq_true_iff, Channel.named, ChatChannel.name]
    cases hshown : Channel.shown texts with
    | none => rfl
    | some text =>
      simp only [Option.some_inj, List.find?_cons, List.find?_nil]
      by_cases hchat : text = "chat"
      · subst hchat
        rfl
      by_cases hred : text = "red_team_chat"
      · subst hred
        rfl
      by_cases hblue : text = "blue_team_chat"
      · subst hblue
        rfl
      by_cases hconsole : text = "console"
      · subst hconsole
        rfl
      · simp [hchat, hred, hblue, hconsole]

/-- The commands that a deed puts off for those that it is for, and for others. -/
theorem commandsFor_eq (client : Option Int) (d : ChannelDeed S P T F) :
    (AddressedTo client d → commandsFor client d = commandsOf d) ∧
      (¬ AddressedTo client d → commandsFor client d = []) := by
  cases d with
  | request r =>
    refine ⟨False.elim, fun _ => ?_⟩
    cases r <;> rfl
  | reply t channel msg limit delimiter =>
    rw [commandsFor, asks, nextFrames_taskRequests]
    exact receivedBy_channel t channel msg limit delimiter client
  | msg t chatChannel msg limit delimiter =>
    rw [commandsFor, asks, nextFrames_taskRequests, pluginMsg_eq, commandsOf, AddressedTo]
    cases msgChannel chatChannel with
    | none => exact ⟨fun h => absurd h.choose_spec.1 nofun, fun _ => rfl⟩
    | some channel =>
      have hreply := receivedBy_channel t channel msg (limit.getD 100) (delimiter.getD " ") client
      refine ⟨?_, fun h => hreply.2 fun hfor => h ⟨channel, rfl, hfor⟩⟩
      rintro ⟨channel', hchannel, hfor⟩
      cases hchannel
      exact hreply.1 hfor

/-! ## What is sent in a run -/

/-- What a call of `send_server_command` sends. -/
theorem pyshinqlxSendServerCommand_sent (w : MessageWorld) (client : Option Int) (cmd : String) :
    (TargetedMessages.pyshinqlxSendServerCommand w client cmd).sent =
      ((deliveredAt w client cmd).map (SentCommand.mk client)).toList := by
  cases client with
  | none =>
    rw [deliveredAt, TargetedMessages.pyshinqlxSendServerCommand,
      TargetedMessages.shinqlxSendServerCommand_eq]
    cases w.game.maxClients <;> rfl
  | some id =>
    rw [TargetedMessages.sent_eq, deliveredAt]
    by_cases h : w.game.validateClientId id = .ok () ∧ w.active id = true
    · rw [if_pos h, if_pos h]
    · rw [if_neg h, if_neg h]
      rfl

/-- What a task sends to a client, or to everybody. -/
theorem sends_filter (w : MessageWorld) (client : Option Int) (task : FrameTask (FrameFunc F)) :
    ((sends w task).filter (·.client = client)).map (·.cmd) =
      ((taskFor client task).bind (deliveredAt w client)).toList := by
  rw [sends, taskFor]
  cases task.isNextFrame with
  | false => rfl
  | true =>
    rw [if_pos rfl]
    cases task.func with
    | other func => rfl
    | sendServerCommand client' cmd =>
      simp only [pyshinqlxSendServerCommand_sent, commandOf]
      by_cases h : client' = client
      · subst h
        rw [if_pos rfl, Option.bind_some]
        cases deliveredAt w client' cmd <;> simp
      · rw [if_neg h, Option.bind_none]
        cases deliveredAt w client' cmd <;> simp [h]

section
variable {worlds : Nat → MessageWorld} {s : FrameTasks T (FrameFunc F)}

theorem sent_filter (worlds : Nat → MessageWorld) (s : FrameTasks T (FrameFunc F))
    (client : Option Int) :
    ((sent worlds s).filter (·.client = client)).map (·.cmd) =
      (executedFor client s).filterMap fun x => deliveredAt (worlds x.1) client x.2 := by
  rw [sent, executedFor, List.filterMap_filterMap]
  induction s.executed.zipIdx with
  | nil => rfl
  | cons x executed ih =>
    rw [List.flatMap_cons, List.filter_append, List.map_append, ih, sends_filter,
      List.filterMap_cons]
    cases taskFor client x.1.2 with
    | none => rfl
    | some cmd =>
      simp only [Option.map_some, Option.bind_some]
      cases deliveredAt (worlds x.2) client cmd <;> rfl

theorem executedFor_map_fst_sublist (client : Option Int) (s : FrameTasks T (FrameFunc F)) :
    ((executedFor client s).map Prod.fst).Sublist (s.executed.zipIdx.map Prod.snd) := by
  rw [executedFor]
  induction s.executed.zipIdx with
  | nil => exact List.Sublist.refl []
  | cons x executed ih =>
    rw [List.filterMap_cons, List.map_cons]
    cases taskFor client x.1.2 with
    | none => exact ih.cons _
    | some cmd => exact ih.cons_cons _

theorem executedFor_inTurn (client : Option Int) (s : FrameTasks T (FrameFunc F)) :
    ((executedFor client s).map Prod.fst).Pairwise (· < ·) := by
  refine List.Pairwise.sublist (executedFor_map_fst_sublist client s) ?_
  rw [List.zipIdx_map_snd]
  exact List.pairwise_lt_range'

/-- What was executed for a client, read off the tasks that came by `next_frame_tasks`. -/
theorem executedFor_map_snd (client : Option Int) (s : FrameTasks T (FrameFunc F)) :
    (executedFor client s).map Prod.snd =
      s.executedTasks.filterMap fun ran => commandOf client ran.2.func := by
  have hzip : s.executed = s.executed.zipIdx.map Prod.fst := (List.zipIdx_map_fst 0 _).symm
  rw [executedFor, FrameTasks.executedTasks, List.map_filterMap, List.filterMap_filter]
  conv_rhs => rw [hzip]
  rw [List.filterMap_map]
  refine List.filterMap_congr fun x _ => ?_
  rw [Option.map_map, taskFor]
  cases hnext : x.1.2.isNextFrame with
  | false => simp [hnext]
  | true => simp [hnext, Function.comp_def]

/-- Functions that are put off in one frame are kept together. -/
theorem filter_puts {A : Type} (f frame : Nat) (funcs : List A) :
    (funcs.map (f, ·)).filter (fun x => x.1 + 1 < frame) =
      if f + 1 < frame then funcs.map (f, ·) else [] := by
  rw [List.filter_map]
  by_cases h : f + 1 < frame
  · rw [if_pos h]
    exact congrArg _ (List.filter_eq_self.mpr fun func _ => decide_eq_true h)
  · rw [if_neg h, List.map_eq_nil_iff, List.filter_eq_nil_iff]
    exact fun func _ => by simpa using h

variable [LinearOrder T] {clock : Clock T}
  {execution : Nat → FrameTasks.Deeds (ChannelDeed S P T F)} {made : List (ChannelDeed S P T F)}
  {log : List (Nat × ChannelDeed S P T F)}

open scoped Classical in
theorem executedFor_of_logged (hsettled : s.Settled clock)
    (hlogged : FrameTasks.Logged asks execution made s log) (client : Option Int) :
    (executedFor client s).map Prod.snd =
      (log.filter fun x => x.1 + 1 < s.frame ∧ AddressedTo client x.2).flatMap
        fun x => commandsOf x.2 := by
  rw [executedFor_map_snd, hsettled.executedTasks, hlogged.enqueued, List.filterMap_map]
  generalize s.frame = frame
  clear hlogged
  induction log with
  | nil => rfl
  | cons x log ih =>
    rw [List.flatMap_cons, List.filter_append, List.filterMap_append, ih, filter_puts,
      List.filter_cons]
    by_cases hframe : x.1 + 1 < frame
    · rw [if_pos hframe, List.filterMap_map]
      have hcommands := commandsFor_eq client x.2
      by_cases hfor : AddressedTo client x.2
      · rw [if_pos (decide_eq_true ⟨hframe, hfor⟩), List.flatMap_cons, ← hcommands.1 hfor]
        rfl
      · rw [if_neg fun h => hfor (of_decide_eq_true h).2]
        exact congrArg (· ++ _) (hcommands.2 hfor)
    · rw [if_neg hframe, if_neg fun h => hframe (of_decide_eq_true h).1]
      rfl

end

/-- **Channels deliver every message to those that it is for, and to nobody else.**  In a run of
frames, with replies by code between frames, by handlers and by tasks that run, everybody and every
client is sent the commands of the messages that were for it when they were made and whose frame is
over: each once, in the order of the messages, unless the client cannot be reached or a handler
stops the command when its turn comes. -/
theorem delivered [LinearOrder T] [AddZeroClass T] (clock : Clock T)
    (execution : Nat → FrameTasks.Deeds (ChannelDeed S P T F)) (worlds : Nat → MessageWorld)
    (calls : List (FrameTasks.DeedCall (ChannelDeed S P T F))) {fuel : Nat}
    {s : FrameTasks T (FrameFunc F)}
    (hrun : FrameTasks.start.run clock (fun n => (execution n).execution asks) fuel
      (calls.flatMap (FrameTasks.DeedCall.calls asks)) = some s) :
    ∃ log, FrameTasks.Logged asks execution (calls.flatMap FrameTasks.DeedCall.deeds) s log ∧
      ∀ client, Delivers worlds log s client := by
  have hsettled := (FrameTasks.settled_start clock).run hrun
  obtain ⟨log, hlogged⟩ := (FrameTasks.logged_start asks execution).run hrun
  refine ⟨log, hlogged, fun client => ⟨?_, executedFor_inTurn client s,
    sent_filter worlds s client⟩⟩
  exact executedFor_of_logged hsettled hlogged client

/-- A server with a player in each team. -/
def twoPlayers : ClientTable Unit Unit where
  maxClients := some 2
  engine :=
    { entity := fun id => some ⟨"", if id = 0 then 1 else 2, 0⟩
      client := fun _ => some ⟨4, "", 0⟩
      configstring := none
      playerState := fun _ => .ok none
      playerStats := fun _ => .ok none }

/-- A message to a team and one to everybody, and two frames. -/
def twoMessages : List (FrameTasks.DeedCall (ChannelDeed Unit Unit Nat Unit)) :=
  [.deed (.reply twoPlayers ChatChannel.red.replyChannel "go" 100 " "),
    .deed (.msg twoPlayers .none "hi" none none), .frame [] (.ok ()), .frame [] (.ok ())]

/-- Tasks that do nothing. -/
def idleTasks : Nat → FrameTasks.Deeds (ChannelDeed Unit Unit Nat Unit) := fun _ => ⟨[], none⟩

/-- Both players can be reached. -/
def reachable : MessageWorld :=
  ⟨⟨id, .ok []⟩, 0, ⟨some 2, none, fun _ => none⟩, fun _ => true, fun _ => true,
    fun _ cmd => some cmd⟩

theorem delivered_twoMessages :
    ∃ s log, FrameTasks.start.run FrameTasks.ticking (fun n => (idleTasks n).execution asks) 5
        (twoMessages.flatMap (FrameTasks.DeedCall.calls asks)) = some s ∧
      FrameTasks.Logged asks idleTasks (twoMessages.flatMap FrameTasks.DeedCall.deeds) s log ∧
      (∀ client, Delivers (fun _ => reachable) log s client) ∧
      sent (fun _ => reachable) s =
        [⟨some 0, "print \"go\n\"\n"⟩, ⟨none, "print \"hi\n\"\n"⟩] := by
  have hcomputed : (FrameTasks.start.run FrameTasks.ticking
      (fun n => (idleTasks n).execution asks) 5
      (twoMessages.flatMap (FrameTasks.DeedCall.calls asks))).map (sent fun _ => reachable) =
      some [⟨some 0, "print \"go\n\"\n"⟩, ⟨none, "print \"hi\n\"\n"⟩] := by
    decide +kernel
  obtain ⟨s, hs, hsent⟩ := Option.map_eq_some_iff.mp hcomputed
  obtain ⟨log, hlogged, hdelivers⟩ :=
    delivered FrameTasks.ticking idleTasks (fun _ => reachable) twoMessages hs
  exact ⟨s, log, hs, hlogged, hdelivers, hsent⟩

end ChannelDelivery
end ShinQlx
