import ShinQlx.Authorisation
import ShinQlx.ChannelDelivery
import ShinQlx.ChatMessage
import ShinQlx.ForwardedText
import ShinQlx.PlayerStore

/-! # Who runs what

A client sends a command.  Unless the handlers of `client_command` stop it, the command registry is
asked about it in the channel of client commands; and if what they make of it is a chat message, the
registry is asked about the message, in the channel that it is for.  Meanwhile plugins register
commands, permissions are granted in the database, and cvars change.

`access_accounted` says for every run of all that, and every handler of a command that runs: the
command was registered, the client has typed a word that calls it, in a channel in which it is
allowed, and the player is the owner, or the command is free, or it was granted to the player.
-/
namespace ShinQlx

/-- A `Player`, whose steam id has 64 bits. -/
structure ServerPlayer extends Player where
  range : -2 ^ 63 ≤ steamId ∧ steamId < 2 ^ 63

/-- What the registry is asked about. -/
inductive InputSource where
  | clientCommand
  | chat
  deriving DecidableEq

/-- A command of a client and what happens while it is handled: the handlers of `client_command`
and of `chat`, what the handlers of commands find beside the cvars and the database, and the calls
that handlers make to the database and to the registry, with how many of them have been made when a
position of the registry is reached. -/
structure ClientCall (Pl H E : Type) where
  engine : Bool
  clientOk : Bool
  hasGentity : Bool
  world : ClientCommandWorld ServerPlayer
  chain : ClientCommandChain E ServerPlayer
  chatDispatched : ServerPlayer → String → ChatChannel → PyValue
  caller : Option ServerPlayer
  cmd : String
  dispatcher : InputSource → Bool
  toLowercase : String → String
  answers : InputSource → Nat → InputWorld Pl H Channel ServerPlayer
  stored : List StoreCall
  storedBefore : InputSource → Nat → Nat
  registry : List (CallEnv × CommandCall Pl H Channel)
  registryBefore : InputSource → Nat

/-- What happens on the server. -/
inductive AccessEvent (Pl H E : Type) where
  | registry (env : CallEnv) (call : CommandCall Pl H Channel)
  | store (call : StoreCall)
  | client (c : ClientCall Pl H E)

/-- The registry and the database, with the cvars. -/
structure AccessState (S Pl H : Type) where
  commands : Commands Pl H Channel
  store : StoreState S

/-- A text that the registry is asked about. -/
structure Asked where
  source : InputSource
  player : ServerPlayer
  msg : String
  channel : Channel

namespace CommandAccess
variable {S Pl H E : Type} [PyCompare H] (client : KeyValueClient S) (hasDb : Pl → Bool)

/-- A player for the database. -/
def playerRef (p : ServerPlayer) : PlayerRef := ⟨.player p.toPlayer, p.steamId, rfl, p.range⟩

/-- What the checks of a command find; some plugins have no database. -/
def lookups (s : StoreState S) : Lookups Pl ServerPlayer where
  getCvar := s.getCvar
  db := fun plugin =>
    if hasDb plugin then
      .ok (some ⟨fun p =>
        (Redis.getPermission client s.getCvar s.data (playerRef p).arg).map some⟩)
    else .ok none
  steamId := fun p => .ok (some p.steamId)

/-- The database when a position of the registry is reached. -/
def storeAt (c : ClientCall Pl H E) (s : AccessState S Pl H) (source : InputSource) (k : Nat) :
    StoreState S :=
  Run.final (redisStep client) s.store (c.stored.take (c.storedBefore source k))

/-- The registry when it is asked. -/
def commandsAt (c : ClientCall Pl H E) (s : AccessState S Pl H) (source : InputSource) :
    Commands Pl H Channel :=
  Run.final CommandInvoker.step s.commands (c.registry.take (c.registryBefore source))

/-- The input that a text is. -/
def input (c : ClientCall Pl H E) (s : AccessState S Pl H) (a : Asked) :
    Input Pl H Channel ServerPlayer where
  player := a.player
  msg := a.msg
  channel := a.channel
  channelName := .ok a.channel.name
  dispatcher := c.dispatcher a.source
  toLowercase := c.toLowercase
  world := fun k =>
    { c.answers a.source k with toLookups := lookups client hasDb (storeAt client c s a.source k) }

/-- `handle_input` for a text. -/
def handle (c : ClientCall Pl H E) (s : AccessState S Pl H) (a : Asked) : Handled Pl H Channel :=
  CommandInvoker.handleInput (input client hasDb c s a) (commandsAt c s a.source)

/-- A client command as a text to ask about. -/
def clientText (player : ServerPlayer) (cmd : String) : Asked :=
  ⟨.clientCommand, player, cmd, Channel.clientCommandChannel player.id⟩

/-- A chat message as a text to ask about. -/
def chatText (player : ServerPlayer) (msg : String) (channel : ChatChannel) : Asked :=
  ⟨.chat, player, msg, Channel.named .teamChatChannel channel.name⟩

/-- The handlers of `client_command`, with the registry. -/
def chain (c : ClientCall Pl H E) (s : AccessState S Pl H) : ClientCommandChain E ServerPlayer :=
  { c.chain with
    handleInput := fun player cmd => (handle client hasDb c s (clientText player cmd)).result }

/-- What the handler of a client command finds. -/
def world (c : ClientCall Pl H E) (s : AccessState S Pl H) : ClientCommandWorld ServerPlayer :=
  { (chain client hasDb c s).world c.world with
    raise := fun player event =>
      match event with
      | .chat msg channel =>
        ClientCommand.chatDispatch (handle client hasDb c s (chatText player msg channel)).result
          (c.chatDispatched player msg channel)
      | event => c.world.raise player event }

/-- The text of a chat event. -/
def chatAsked (player : ServerPlayer) : ClientEvent → Option Asked
  | .chat msg channel => some (chatText player msg channel)
  | _ => none

/-- The texts that the registry is asked about while a client command is handled. -/
def asked (c : ClientCall Pl H E) (s : AccessState S Pl H) : List Asked :=
  if c.engine && c.cmd ≠ "" && c.clientOk && c.hasGentity && c.world.initialized then
    match c.world.player with
    | .error _ => []
    | .ok player =>
      if c.world.registered "client_command" then
        ((chain client hasDb c s).dispatch player c.cmd).2.map (clientText player) ++
          (ClientCommand.tryHandleClientCommand (world client hasDb c s) c.cmd
            c.caller).events.filterMap (chatAsked player)
      else []
  else []

/-- The commands whose handlers run, each with the text that called it and its position. -/
def called (c : ClientCall Pl H E) (s : AccessState S Pl H) :
    List (Asked × Command Pl H Channel × Nat) :=
  (asked client hasDb c s).flatMap fun a => (handle client hasDb c s a).calls.map (a, ·)

/-- What an event does; the result is the handlers of commands that run. -/
def step (s : AccessState S Pl H) :
    AccessEvent Pl H E → List (Asked × Command Pl H Channel × Nat) × AccessState S Pl H
  | .registry env call =>
    ([], { s with commands := (CommandInvoker.step s.commands (env, call)).2 })
  | .store call => ([], { s with store := (redisStep client s.store call).2 })
  | .client c =>
    (called client hasDb c s,
      ⟨Run.final CommandInvoker.step s.commands c.registry,
        Run.final (redisStep client) s.store c.stored⟩)

/-! ## What must be accounted for -/

/-- The calls to the database. -/
def storeCalls (events : List (AccessEvent Pl H E)) : List StoreCall :=
  events.flatMap fun
    | .store call => [call]
    | .client c => c.stored
    | .registry _ _ => []

/-- The calls to the registry. -/
def registryCalls (events : List (AccessEvent Pl H E)) :
    List (CallEnv × CommandCall Pl H Channel) :=
  events.flatMap fun
    | .registry env call => [(env, call)]
    | .client c => c.registry
    | .store _ => []

/-- The client has typed a text: as a command, or as a chat message in a channel. -/
inductive Typed (c : ClientCall Pl H E) (s : AccessState S Pl H) : Asked → Prop
  | command {player : ServerPlayer} : c.world.player = .ok player →
      Typed c s (clientText player c.cmd)
  | chat {player : ServerPlayer} {value : PyValue} {k : ChatCommand} {msg : String}
      {channel : ChatChannel} : c.world.player = .ok player →
      ((chain client hasDb c s).dispatch player c.cmd).1 = .ok value → value.isFalse = false →
      ClientCommand.classify (value.extractString.getD c.cmd) = k.request msg →
      k.channel c.world player = .ok channel → Typed c s (chatText player msg channel)

/-- The handler of a command may run: `d` is what the database held before the events, and
`store` is the database when the position of the command was reached. -/
structure Accounted (d : PlayerData) (events : List (AccessEvent Pl H E)) (c : ClientCall Pl H E)
    (s : AccessState S Pl H) (a : Asked) (x : Command Pl H Channel × Nat) : Prop where
  typed : Typed client hasDb c s a
  added : ∃ env priority, (env, .add x.1 priority) ∈ registryCalls events ++ c.registry
  called : ∃ word, (Text.splitWhitespace a.msg).head? = some word ∧
    x.1.CalledBy c.toLowercase (lookups client hasDb (storeAt client c s a.source x.2))
      (c.toLowercase word)
  allowed : x.1.AllowedIn a.channel
  granted :
    let store := storeAt client c s a.source x.2
    let required := x.1.requiredPermission (lookups client hasDb store) (a.source = .clientCommand)
    owner store.getCvar = .ok (some a.player.steamId) ∨ required = 0 ∨
      hasDb x.1.plugin = true ∧ ∃ level,
        (d.after (storeCalls events ++ c.stored.take (c.storedBefore a.source x.2))).level
          store.getCvar a.player.steamId = .ok level ∧ required ≤ level

/-- Every handler of a command that runs for a client, after some events, may run. -/
def AllAccounted (d : PlayerData) (start : AccessState S Pl H) (events : List (AccessEvent Pl H E))
    (c : ClientCall Pl H E) : Prop :=
  let s := Run.final (step client hasDb) start events
  ∀ x ∈ (step client hasDb s (.client c)).1, Accounted client hasDb d events c s x.1 x.2

/-! ## The registry and the database -/

omit [PyCompare H] in
theorem mem_flatten_empty {x : Command Pl H Channel} :
    x ∉ Levels.flatten (CommandInvoker.empty : Commands Pl H Channel) := by
  simp [Levels.flatten, CommandInvoker.empty]

omit [PyCompare H] in
/-- A call that is put off leaves the registry as it is. -/
theorem deferCommand_state (env : CallEnv) (call : CommandCall Pl H Channel)
    (commands : Commands Pl H Channel) :
    (CommandInvoker.deferCommand env call commands).state = commands := by
  rw [CommandInvoker.deferCommand]
  cases env.nextFrame <;> rfl

/-- A call of the registry makes no command but the one that is added. -/
theorem mem_flatten_step {commands : Commands Pl H Channel} {x : Command Pl H Channel}
    {env : CallEnv} {call : CommandCall Pl H Channel}
    (h : x ∈ Levels.flatten (CommandInvoker.step commands (env, call)).2) :
    x ∈ Levels.flatten commands ∨ ∃ priority, call = .add x priority := by
  cases call with
  | add command priority =>
    have h : x ∈ Levels.flatten (CommandInvoker.addCommand env command priority commands).state := h
    cases hregistered : CommandInvoker.isRegistered command commands with
    | true =>
      rw [CommandInvoker.addCommand_of_registered hregistered] at h
      exact .inl h
    | false =>
      rcases CommandInvoker.addCommand_of_new hregistered env priority with
        ⟨-, hadd⟩ | ⟨-, i, -, hadd⟩ | ⟨-, -, hadd⟩
      · rw [hadd, deferCommand_state] at h
        exact .inl h
      · rw [hadd] at h
        rcases Levels.mem_flatten_push.mp h with hold | rfl
        · exact .inl hold
        · exact .inr ⟨priority, rfl⟩
      · rw [hadd] at h
        exact .inl h
  | remove command =>
    have h : x ∈ Levels.flatten (CommandInvoker.removeCommand env command commands).state := h
    left
    cases hregistered : CommandInvoker.isRegistered command commands with
    | false =>
      rw [CommandInvoker.removeCommand_of_unregistered hregistered] at h
      exact h
    | true =>
      rw [CommandInvoker.removeCommand_of_registered hregistered] at h
      split at h
      · rw [deferCommand_state] at h
        exact h
      · rw [Levels.flatten_keep] at h
        exact List.mem_of_mem_filter h

/-- A registered command was added. -/
theorem added_of_mem {commands : Commands Pl H Channel}
    {calls : List (CallEnv × CommandCall Pl H Channel)} {x : Command Pl H Channel}
    (h : x ∈ Levels.flatten (Run.final CommandInvoker.step commands calls)) :
    x ∈ Levels.flatten commands ∨ ∃ env priority, (env, .add x priority) ∈ calls := by
  induction calls generalizing commands with
  | nil => exact .inl h
  | cons call calls ih =>
    rcases ih h with hmem | ⟨env, priority, hmem⟩
    · rcases mem_flatten_step hmem with hold | ⟨priority, hcall⟩
      · exact .inl hold
      · exact .inr ⟨call.1, priority, hcall ▸ List.mem_cons_self⟩
    · exact .inr ⟨env, priority, List.mem_cons_of_mem _ hmem⟩

/-- What a run leaves is what its calls to the registry and to the database leave. -/
theorem final_eq (s : AccessState S Pl H) (events : List (AccessEvent Pl H E)) :
    Run.final (step client hasDb) s events =
      ⟨Run.final CommandInvoker.step s.commands (registryCalls events),
        Run.final (redisStep client) s.store (storeCalls events)⟩ := by
  induction events generalizing s with
  | nil => rfl
  | cons event events ih =>
    rw [Run.final_cons, ih]
    cases event with
    | registry env call => rfl
    | store call => rfl
    | client c =>
      simp only [registryCalls, storeCalls, List.flatMap_cons, Run.final_append]
      rfl

/-- The permission of a player is the one that was last set. -/
theorem getPermission_final {content : S → String → Option String} (h : KeepsTexts client content)
    {store : StoreState S} {d : PlayerData}
    (hstore : ∀ e : Entry, content store.data e.key = d.text e)
    (calls : List StoreCall) (player : PlayerRef) :
    let final := Run.final (redisStep client) store calls
    Redis.getPermission client final.getCvar final.data player.arg =
      (d.after calls).level final.getCvar player.steamId := by
  have hstart : Holds content store ⟨d, store.getCvar⟩ := ⟨hstore, rfl⟩
  obtain ⟨-, hfinal⟩ := Run.simulation (Holds content) (fun _ _ c hs => holds_step h hs c) hstart
    calls
  dsimp only
  rw [Redis.getPermission_eq h hfinal, final_data, hfinal.getCvar]

/-! ## Which handlers run -/

section calls
variable {client hasDb} {c : ClientCall Pl H E} {s : AccessState S Pl H}

/-- A chat message comes of a chat command. -/
theorem chat_of_act {P : Type} {w : ClientCommandWorld P} {player : P} {cmd : String}
    {caller : Option P} {request : ClientRequest} {msg : String} {channel : ChatChannel}
    (h : .chat msg channel ∈ (ClientCommand.act w player cmd caller request).events) :
    ∃ k : ChatCommand, request = k.request msg ∧ k.channel w player = .ok channel := by
  have hchat : ∀ {command msg' what : String} {found : PyResult ChatChannel},
      .chat msg channel ∈
        (ClientCommand.chat w player command msg' what found caller).events →
      msg' = msg ∧ found = .ok channel := by
    intro command msg' what found h
    unfold ClientCommand.chat at h
    split at h
    · cases h
    · split at h
      · cases h
      · split at h
        · cases h
        · cases List.mem_singleton.mp h
          exact ⟨rfl, rfl⟩
  cases request with
  | say msg' =>
    obtain ⟨rfl, hfound⟩ := hchat h
    exact ⟨.say, rfl, hfound⟩
  | sayTeam msg' =>
    obtain ⟨rfl, hfound⟩ := hchat h
    exact ⟨.sayTeam, rfl, hfound⟩
  | callvote vote args =>
    simp only [ClientCommand.act, ClientCommand.callvote, ClientCommand.raiseEvent] at h
    grind
  | vote arg =>
    simp only [ClientCommand.act, ClientCommand.vote, ClientCommand.raiseEvent] at h
    grind
  | team arg =>
    simp only [ClientCommand.act, ClientCommand.team, ClientCommand.raiseEvent] at h
    grind
  | userinfo vars =>
    simp only [ClientCommand.act, ClientCommand.userinfo, ClientCommand.raiseEvent] at h
    grind
  | other => cases h

omit [PyCompare H] in
/-- The registry is asked about the command as it was sent. -/
theorem eq_of_mem_dispatch {E P : Type} {chain : ClientCommandChain E P} {player : P}
    {cmd text : String} (h : text ∈ (chain.dispatch player cmd).2) : text = cmd := by
  rw [ClientCommandChain.dispatch] at h
  split at h
  · cases h
  · split at h
    · cases h
    · split at h <;> exact List.mem_singleton.mp h

/-- A chat event comes of a chat command, in what the handlers made of the command. -/
theorem chat_of_events {P : Type} {w : ClientCommandWorld P} {player : P} {cmd : String}
    {caller : Option P} {msg : String} {channel : ChatChannel} (hplayer : w.player = .ok player)
    (h : .chat msg channel ∈ (ClientCommand.tryHandleClientCommand w cmd caller).events) :
    ∃ value, w.dispatch player cmd = .ok value ∧ value.isFalse = false ∧
      ∃ k : ChatCommand, ClientCommand.classify (value.extractString.getD cmd) = k.request msg ∧
        k.channel w player = .ok channel := by
  simp only [ClientCommand.tryHandleClientCommand, hplayer] at h
  split at h
  · cases h
  · split at h
    · cases h
    · rename_i value hdispatch
      split at h
      · cases h
      · rename_i hvalue
        exact ⟨value, hdispatch, Bool.eq_false_iff.mpr hvalue, chat_of_act h⟩

/-- The client has typed what the registry is asked about. -/
theorem typed_of_mem_asked {a : Asked} (h : a ∈ asked client hasDb c s) :
    Typed client hasDb c s a := by
  rw [asked] at h
  split at h
  · cases hplayer : c.world.player with
    | error e => simp [hplayer] at h
    | ok player =>
      simp only [hplayer] at h
      split at h
      · rcases List.mem_append.mp h with h | h
        · obtain ⟨text, htext, rfl⟩ := List.mem_map.mp h
          obtain rfl := eq_of_mem_dispatch htext
          exact .command hplayer
        · obtain ⟨event, hevent, hasked⟩ := List.mem_filterMap.mp h
          cases event with
          | chat msg channel =>
            cases hasked
            obtain ⟨value, hdispatch, hvalue, k, hclassify, hchannel⟩ :=
              chat_of_events (w := world client hasDb c s) hplayer hevent
            refine .chat (k := k) hplayer hdispatch hvalue hclassify ?_
            cases k <;> exact hchannel
          | voteCalled | vote | teamSwitchAttempt | userinfo => cases hasked
      · cases h
  · cases h

/-- A handler that runs belongs to a command that is eligible. -/
theorem eligible_of_mem_calls {a : Asked} {x : Command Pl H Channel × Nat}
    (h : x ∈ (handle client hasDb c s a).calls) :
    ∃ name, CommandInvoker.inputName (input client hasDb c s a) = some name ∧
      x ∈ (Levels.flatten (commandsAt c s a.source)).zipIdx ∧
      CommandInvoker.eligible (input client hasDb c s a) name (a.channel.name = "client_command") x
        = true := by
  by_cases hcan : ∃ name channelName,
      CommandInvoker.inputName (input client hasDb c s a) = some name ∧
      (input client hasDb c s a).channelName = .ok channelName ∧
      (input client hasDb c s a).dispatcher = true
  · obtain ⟨name, channelName, hname, hchannel, hdispatcher⟩ := hcan
    obtain rfl : a.channel.name = channelName := Except.ok.inj hchannel
    rw [handle, CommandInvoker.handleInput_exact _ hname hchannel hdispatcher] at h
    obtain ⟨hmem, heligible⟩ := CommandInvoker.eligible_of_mem_executed h
    exact ⟨name, hname, hmem, heligible⟩
  · rw [handle, CommandInvoker.handleInput_calls_nil _ hcan] at h
    cases h

/-- The channel tells a client command. -/
theorem Typed.name_iff {a : Asked} (h : Typed client hasDb c s a) :
    a.channel.name = "client_command" ↔ a.source = .clientCommand := by
  cases h with
  | command hplayer => exact iff_of_true rfl rfl
  | @chat player value k msg channel hplayer hdispatch hvalue hclassify hchannel =>
    have hname : ∀ channel : ChatChannel, channel.name ≠ "client_command" := by
      intro channel
      cases channel <;> decide
    exact iff_of_false (hname channel) nofun

omit [PyCompare H] in
/-- The rights of a player, with the database. -/
theorem granted_of_permitted {store : StoreState S} {x : Command Pl H Channel}
    {player : ServerPlayer} {isClientCmd : Bool}
    (h : x.Permitted (lookups client hasDb store) player isClientCmd) :
    owner store.getCvar = .ok (some player.steamId) ∨
      x.requiredPermission (lookups client hasDb store) isClientCmd = 0 ∨
      hasDb x.plugin = true ∧ ∃ level,
        Redis.getPermission client store.getCvar store.data (playerRef player).arg = .ok level ∧
          x.requiredPermission (lookups client hasDb store) isClientCmd ≤ level := by
  rcases h with ⟨id, value, hvalue, hparse, hid, hsteam⟩ | hzero | ⟨db, granted, hdb, hgot, hle⟩
  · left
    obtain rfl : player.steamId = id := Option.some.inj (Except.ok.inj hsteam)
    exact (Command.owner_eq_some (lookups client hasDb store) player.steamId).mpr
      ⟨value, hvalue, hparse, hid⟩
  · exact .inr (.inl hzero)
  · refine .inr (.inr ?_)
    cases hplugin : hasDb x.plugin with
    | false => simp [lookups, hplugin] at hdb
    | true =>
      simp only [lookups, hplugin, if_true, Except.ok.injEq, Option.some.injEq] at hdb
      subst hdb
      refine ⟨rfl, granted, ?_, hle⟩
      simp only at hgot
      cases hlevel : Redis.getPermission client store.getCvar store.data (playerRef player).arg with
      | error e => simp [hlevel, Except.map] at hgot
      | ok level =>
        simp only [hlevel, Except.map, Except.ok.injEq, Option.some.injEq] at hgot
        rw [hgot]

end calls

/-- **Access to commands.**  The database begins with what `d` says and the registry empty.  After
any run of calls to the registry and the database, changes of cvars and commands of clients, every
handler of a command that runs for a client belongs to a command that was registered and that the
client has typed, in a channel where it is allowed; and the player is the owner, the command asks
for no permission, or the permission that was last set for the player is high enough. -/
theorem access_accounted {content : S → String → Option String} (h : KeepsTexts client content)
    {d : PlayerData} {start : AccessState S Pl H} (hempty : start.commands = CommandInvoker.empty)
    (hstore : ∀ e : Entry, content start.store.data e.key = d.text e)
    (events : List (AccessEvent Pl H E)) (c : ClientCall Pl H E) :
    AllAccounted client hasDb d start events c := by
  rw [AllAccounted, final_eq, hempty]
  intro (a, x) hx
  obtain ⟨a', hasked, hcall⟩ := List.mem_flatMap.mp hx
  obtain ⟨x', hcalls, heq⟩ := List.mem_map.mp hcall
  cases heq
  have htyped := typed_of_mem_asked hasked
  obtain ⟨name, hname, hmem, heligible⟩ := eligible_of_mem_calls hcalls
  obtain ⟨word, hword, rfl⟩ := Option.map_eq_some_iff.mp hname
  simp only [CommandInvoker.eligible, Bool.and_eq_true] at heligible
  obtain ⟨⟨hcalled, hallowed⟩, hpermitted⟩ := heligible
  rw [Command.isEligiblePlayer_iff, decide_eq_decide.mpr htyped.name_iff] at hpermitted
  refine ⟨htyped, ?_, ⟨word, hword, (Command.isEligibleName_iff ..).mp hcalled⟩,
    (Command.isEligibleChannel_iff ..).mp hallowed, ?_⟩
  · -- what was registered while the command is handled was added, too
    have hregistered := List.fst_mem_of_mem_zipIdx hmem
    rw [commandsAt, ← Run.final_append] at hregistered
    rcases added_of_mem hregistered with hold | ⟨env, priority, hadded⟩
    · exact absurd hold mem_flatten_empty
    · refine ⟨env, priority, List.mem_append.mpr ?_⟩
      exact (List.mem_append.mp hadded).imp_right List.mem_of_mem_take
  · rcases granted_of_permitted hpermitted with howner | hzero | ⟨hdb, level, hlevel, hle⟩
    · exact .inl howner
    · exact .inr (.inl hzero)
    · refine .inr (.inr ⟨hdb, level, ?_, hle⟩)
      have hfinal := getPermission_final client h hstore (storeCalls events ++
        c.stored.take (c.storedBefore a.source x.2)) (playerRef a.player)
      dsimp only at hfinal
      rw [Run.final_append] at hfinal
      exact hfinal.symm.trans hlevel

/-- A player to whom a permission is given. -/
def admin : ServerPlayer := ⟨⟨3, "admin", 7, "", ⟨3, "admin", 7, ""⟩⟩, by decide⟩

/-- A command that asks for a permission. -/
def restricted : Command Unit PyFunction Channel :=
  { plugin := (), name := ["kick"], handler := ⟨0⟩, permission := 3, channels := [],
    excludeChannels := [], clientCmdPass := true, clientCmdPerm := 5, prefixed := false,
    usage := "" }

/-- The player says the name of the command to the team. -/
def sayKick : ClientCall Unit PyFunction PyFunction where
  engine := true
  clientOk := true
  hasGentity := true
  world :=
    { initialized := true
      player := .ok admin
      userInfo := fun _ => ""
      registered := fun _ => true
      dispatch := fun _ _ => .ok (.bool true)
      raise := fun _ _ => .ok (.bool true)
      channel := fun _ => true
      isVoteActive := false
      team := fun _ => .ok "red"
      pick := id
      update := fun d _ => .ok d
      display := fun _ => "" }
  chain := ⟨fun _ => "admin", [], fun _ _ _ => .ok .none, fun _ _ => .ok true⟩
  chatDispatched := fun _ _ _ => .bool true
  caller := none
  cmd := "say_team kick"
  dispatcher := fun _ => true
  toLowercase := id
  answers := fun _ _ =>
    { getCvar := fun _ => .ok none
      db := fun _ => .ok none
      steamId := fun _ => .ok none
      commandEvent := fun _ => .ok (.bool true)
      logExecution := .ok ()
      call := fun _ _ _ _ => .ok .none
      reply := fun _ => .ok ()
      logUnknown := .ok () }
  stored := []
  storedBefore := fun _ _ => 0
  registry := []
  registryBefore := fun _ => 0

/-- The command is registered, and the player gets the permission for it. -/
def grants : List (AccessEvent Unit PyFunction PyFunction) :=
  [.registry ⟨false, .ok none, .ok ()⟩ (.add restricted 2),
    .store (.setPermission (playerRef admin) 3)]

/-- An empty registry and an empty database. -/
def nothing : AccessState (String → Option String) Unit PyFunction :=
  ⟨CommandInvoker.empty, fun _ => none, fun _ => .ok none⟩

theorem access_accounted_sayKick :
    AllAccounted mapClient (fun _ => true) .empty nothing grants sayKick ∧
      (called mapClient (fun _ => true) sayKick
        (Run.final (step mapClient fun _ => true) nothing grants)).map
          (fun x => (x.1.msg, x.1.channel.name, x.2.1.name, x.2.2)) =
        [("kick", "red_team_chat", ["kick"], 0)] := by
  have hkeeps : KeepsTexts mapClient id :=
    ⟨fun _ _ => rfl, fun _ _ => rfl, fun _ _ _ => ⟨_, rfl, fun _ => rfl⟩⟩
  refine ⟨access_accounted mapClient (fun _ => true) hkeeps rfl ?_ grants sayKick,
    by decide +kernel⟩
  · intro e
    cases e <;> rfl

end CommandAccess
end ShinQlx
