import ShinQlx.CommandAccess

/-! # Commands from the console

`qlx` hands the rest of the line on the console to the command registry, for a player who is none.
Its steam id is that of the owner, or 0 as long as no owner is configured, but in the database it
is always the player with the steam id 0.

`rcon_exact` says which commands run: with an owner all of those that the line calls and that are
allowed on the console, as for the owner, and without one only those that ask for no permission or
are granted to the steam id 0.
-/
namespace ShinQlx

/-- `_DUMMY_USERINFO`. -/
def dummyUserinfo : String :=
  "\n\\ui_singlePlayerActive\\0\n\\cg_autoAction\\1\n\\cg_autoHop\\0\n\\cg_predictItems\\1\n" ++
  "\\model\\bitterman/sport_blue\n\\headmodel\\crash/red\n\\handicap\\100\n\\cl_anonymous\\0\n" ++
  "\\color1\\4\\color2\\23\n\\sex\\male\n\\teamtask\\0\n\\rate\\25000\n\\country\\NO"

namespace RconDummyPlayer

/-- The `Player` that an `RconDummyPlayer` is. -/
def player : Player :=
  ⟨-1, "RconDummyPlayer", 0, dummyUserinfo, ⟨-1, "RconDummyPlayer", 0, dummyUserinfo⟩⟩

/-- `get_steam_id`. -/
def getSteamId (getCvar : String → PyResult (Option String)) : PyResult Int :=
  (owner getCvar).map (·.getD 0)

end RconDummyPlayer

/-- `None` where a channel is asked for. -/
def noChannel : Channel := ⟨⟨.ok "None", .ok "None"⟩, ⟨6, [6]⟩, "None"⟩

/-- A line on the console and what happens while it is handled: what the handlers of commands find
beside the cvars and the database, and the calls that handlers make to the database, with how many
of them have been made when a position of the registry is reached. -/
structure RconCall (Pl H : Type) where
  engine : Bool
  cmdArgs : Option String
  initialized : Bool
  commands : Bool
  consoleChannel : Bool
  dispatcher : Bool
  toLowercase : String → String
  answers : Nat → InputWorld Pl H Channel Player
  stored : List StoreCall
  storedBefore : Nat → Nat

namespace RconAccess
open CommandAccess (playerRef storeCalls registryCalls)
variable {S Pl H E : Type} (client : KeyValueClient S) (hasDb : Pl → Bool)

/-- What the checks of a command find. -/
def lookups (s : StoreState S) : Lookups Pl Player where
  getCvar := s.getCvar
  db := fun plugin =>
    if hasDb plugin then
      .ok (some ⟨fun p => (Redis.getPermission client s.getCvar s.data (.player p)).map some⟩)
    else .ok none
  steamId := fun _ => (RconDummyPlayer.getSteamId s.getCvar).map some

/-- The database when a position of the registry is reached. -/
def storeAt (c : RconCall Pl H) (s : AccessState S Pl H) (k : Nat) : StoreState S :=
  Run.final (redisStep client) s.store (c.stored.take (c.storedBefore k))

/-- The channel of the console. -/
def channel (c : RconCall Pl H) : Channel :=
  if c.consoleChannel then .named .consoleChannel "console" else noChannel

/-- The input that a line is. -/
def input (c : RconCall Pl H) (s : AccessState S Pl H) (cmd : String) :
    Input Pl H Channel Player where
  player := RconDummyPlayer.player
  msg := cmd
  channel := channel c
  channelName := (channel c).str
  dispatcher := c.dispatcher
  toLowercase := c.toLowercase
  world := fun k => { c.answers k with toLookups := lookups client hasDb (storeAt client c s k) }

/-- `try_handle_rcon`, and the commands whose handlers it calls. -/
def tryHandleRcon (c : RconCall Pl H) (s : AccessState S Pl H) (cmd : String) :
    PyResult (Option Bool) × List (Command Pl H Channel × Nat) :=
  if c.commands then
    let handled := CommandInvoker.handleInput (input client hasDb c s cmd) s.commands
    (handled.result.map fun _ => none, handled.calls)
  else (.ok none, [])

/-- `handle_rcon`. -/
def handleRcon (c : RconCall Pl H) (s : AccessState S Pl H) (cmd : String) :
    Option Bool × List (Command Pl H Channel × Nat) :=
  match tryHandleRcon client hasDb c s cmd with
  | (.ok value, calls) => (value, calls)
  | (.error _, calls) => (some true, calls)

/-- `rcon_dispatcher`. -/
def rconDispatcher (c : RconCall Pl H) (s : AccessState S Pl H) (cmd : String) :
    List (Command Pl H Channel × Nat) :=
  if c.initialized then (handleRcon client hasDb c s cmd).2 else []

/-- `cmd_py_rcon`. -/
def cmdPyRcon (c : RconCall Pl H) (s : AccessState S Pl H) : List (Command Pl H Channel × Nat) :=
  if c.engine then
    match c.cmdArgs with
    | none => []
    | some commands => rconDispatcher client hasDb c s commands
  else []

/-! ## What the console may do -/

/-- The registry is asked about a line. -/
def Asks (c : RconCall Pl H) (cmd : String) : Prop :=
  c.engine = true ∧ c.cmdArgs = some cmd ∧ c.initialized = true ∧ c.commands = true ∧
    c.dispatcher = true

/-- The console may run a command: `d` is what the database held before the events. -/
structure MayRun (d : PlayerData) (events : List (AccessEvent Pl H E)) (c : RconCall Pl H)
    (s : AccessState S Pl H) (cmd : String) (x : Command Pl H Channel × Nat) : Prop where
  registered : x ∈ (Levels.flatten s.commands).zipIdx
  called : ∃ word, (Text.splitWhitespace cmd).head? = some word ∧
    x.1.CalledBy c.toLowercase (lookups client hasDb (storeAt client c s x.2))
      (c.toLowercase word)
  allowed : x.1.AllowedIn (channel c)
  granted :
    let store := storeAt client c s x.2
    let required := x.1.requiredPermission (lookups client hasDb store) false
    (∃ id, owner store.getCvar = .ok (some id)) ∨ required = 0 ∨
      hasDb x.1.plugin = true ∧ ∃ level,
        (d.after (storeCalls events ++ c.stored.take (c.storedBefore x.2))).level store.getCvar 0 =
          .ok level ∧ required ≤ level

/-- The input of a player on the console, who finds the same. -/
def playerInput (answers : Nat → InputWorld Pl H Channel ServerPlayer) (c : RconCall Pl H)
    (s : AccessState S Pl H) (cmd : String) (p : ServerPlayer) :
    Input Pl H Channel ServerPlayer where
  player := p
  msg := cmd
  channel := channel c
  channelName := (channel c).str
  dispatcher := c.dispatcher
  toLowercase := c.toLowercase
  world := fun k =>
    { answers k with toLookups := CommandAccess.lookups client hasDb (storeAt client c s k) }

/-- What a line on the console runs, after some events. -/
structure RconExact [PyCompare H] (d : PlayerData) (start : AccessState S Pl H)
    (events : List (AccessEvent Pl H E)) (c : RconCall Pl H) : Prop where
  nothing : (∀ cmd, ¬ Asks c cmd) →
    cmdPyRcon client hasDb c (Run.final (CommandAccess.step client hasDb) start events) = []
  exactly : ∀ cmd, Asks c cmd →
    let s := Run.final (CommandAccess.step client hasDb) start events
    ∃ xs : List (Command Pl H Channel × Nat), xs.Sublist (Levels.flatten s.commands).zipIdx ∧
      (∀ x, x ∈ xs ↔ MayRun client hasDb d events c s cmd x) ∧
      cmdPyRcon client hasDb c s =
        CommandInvoker.executed (input client hasDb c s cmd)
          ((CommandInvoker.inputName (input client hasDb c s cmd)).getD "") xs
  added : ∀ x ∈ cmdPyRcon client hasDb c (Run.final (CommandAccess.step client hasDb) start events),
    ∃ env priority, (env, .add x.1 priority) ∈ registryCalls events
  asOwner : ∀ (answers : Nat → InputWorld Pl H Channel ServerPlayer) cmd (p : ServerPlayer),
    let s := Run.final (CommandAccess.step client hasDb) start events
    (∀ k, owner (storeAt client c s k).getCvar = .ok (some p.steamId)) →
    ∀ name, CommandInvoker.attempts (input client hasDb c s cmd) name false 0
        (Levels.flatten s.commands) =
      CommandInvoker.attempts (playerInput client hasDb answers c s cmd p) name false 0
        (Levels.flatten s.commands)

/-! ## The rights of the console -/

section rights
variable {client hasDb} {store : StoreState S}

/-- The steam id is that of the owner. -/
theorem getSteamId_of_owner {getCvar : String → PyResult (Option String)} {id : Int}
    (h : owner getCvar = .ok (some id)) : RconDummyPlayer.getSteamId getCvar = .ok id := by
  rw [RconDummyPlayer.getSteamId, h]
  rfl

/-- With an owner every command is permitted. -/
theorem permitted_of_owner {id : Int} (h : owner store.getCvar = .ok (some id))
    (x : Command Pl H Channel) (p : Player) (isClientCmd : Bool) :
    x.Permitted (lookups client hasDb store) p isClientCmd := by
  obtain ⟨value, hvalue, hparse, hid⟩ :=
    (Command.owner_eq_some (lookups client hasDb store : Lookups Pl Player) id).mp h
  have hsteam : (lookups client hasDb store : Lookups Pl Player).steamId p = .ok (some id) := by
    show (RconDummyPlayer.getSteamId store.getCvar).map some = _
    rw [getSteamId_of_owner h]
    rfl
  exact .inl ⟨id, value, hvalue, hparse, hid, hsteam⟩

/-- **The rights of the console.** -/
theorem permitted_iff (x : Command Pl H Channel) :
    x.Permitted (lookups client hasDb store) RconDummyPlayer.player false ↔
      (∃ id, owner store.getCvar = .ok (some id)) ∨
        x.requiredPermission (lookups client hasDb store) false = 0 ∨
        hasDb x.plugin = true ∧ ∃ level,
          Redis.getPermission client store.getCvar store.data (.player RconDummyPlayer.player) =
            .ok level ∧ x.requiredPermission (lookups client hasDb store) false ≤ level := by
  constructor
  · rintro (⟨id, value, hvalue, hparse, hid, -⟩ | hzero | ⟨db, granted, hdb, hgot, hle⟩)
    · have howner := (Command.owner_eq_some (lookups client hasDb store : Lookups Pl Player) id).mpr
        ⟨value, hvalue, hparse, hid⟩
      exact .inl ⟨id, howner⟩
    · exact .inr (.inl hzero)
    · refine .inr (.inr ?_)
      cases hplugin : hasDb x.plugin with
      | false => simp [lookups, hplugin] at hdb
      | true =>
        simp only [lookups, hplugin, if_true, Except.ok.injEq, Option.some.injEq] at hdb
        subst hdb
        refine ⟨rfl, granted, ?_, hle⟩
        cases hlevel : Redis.getPermission client store.getCvar store.data
            (.player RconDummyPlayer.player) with
        | error e => simp [hlevel, Except.map] at hgot
        | ok level =>
          simp only [hlevel, Except.map, Except.ok.injEq, Option.some.injEq] at hgot
          rw [hgot]
  · rintro (⟨id, howner⟩ | hzero | ⟨hplugin, level, hlevel, hle⟩)
    · exact permitted_of_owner howner x _ _
    · exact .inr (.inl hzero)
    · refine .inr (.inr ⟨_, level, if_pos hplugin, ?_, hle⟩)
      show (Redis.getPermission client store.getCvar store.data
        (.player RconDummyPlayer.player)).map some = _
      rw [hlevel]
      rfl

end rights

/-! ## Which handlers run -/

section calls
variable {client hasDb} {c : RconCall Pl H} {s : AccessState S Pl H} {cmd : String}

/-- The channel of the console is none of client commands. -/
theorem channel_str (c : RconCall Pl H) :
    ∃ name, (channel c).str = .ok name ∧ name ≠ "client_command" := by
  unfold channel
  split
  · exact ⟨"console", rfl, by decide⟩
  · exact ⟨"None", rfl, by decide⟩

/-- What is returned does not change what was called. -/
theorem handleRcon_calls :
    (handleRcon client hasDb c s cmd).2 = (tryHandleRcon client hasDb c s cmd).2 := by
  rw [handleRcon]
  rcases tryHandleRcon client hasDb c s cmd with ⟨_ | _, calls⟩ <;> rfl

theorem cmdPyRcon_of_asks (h : Asks c cmd) :
    cmdPyRcon client hasDb c s =
      (CommandInvoker.handleInput (input client hasDb c s cmd) s.commands).calls := by
  obtain ⟨hengine, hargs, hinit, hcommands, -⟩ := h
  rw [cmdPyRcon, if_pos hengine, hargs]
  show rconDispatcher client hasDb c s cmd = _
  rw [rconDispatcher, if_pos hinit, handleRcon_calls, tryHandleRcon, if_pos hcommands]

theorem cmdPyRcon_of_not_asks (h : ∀ cmd, ¬ Asks c cmd) : cmdPyRcon client hasDb c s = [] := by
  rw [cmdPyRcon]
  split
  · rename_i hengine
    cases hargs : c.cmdArgs with
    | none => rfl
    | some cmd =>
      show rconDispatcher client hasDb c s cmd = []
      rw [rconDispatcher]
      split
      · rename_i hinit
        rw [handleRcon_calls, tryHandleRcon]
        split
        · rename_i hcommands
          apply CommandInvoker.handleInput_calls_nil
          rintro ⟨name, channelName, -, -, hdispatcher⟩
          exact h cmd ⟨hengine, hargs, hinit, hcommands, hdispatcher⟩
        · rfl
      · rfl
  · rfl

/-- The commands that a line may run, by position. -/
def candidates (client : KeyValueClient S) (hasDb : Pl → Bool) (c : RconCall Pl H)
    (s : AccessState S Pl H) (cmd : String) : List (Command Pl H Channel × Nat) :=
  match CommandInvoker.inputName (input client hasDb c s cmd) with
  | none => []
  | some name =>
    CommandInvoker.attempts (input client hasDb c s cmd) name false 0 (Levels.flatten s.commands)

theorem candidates_sublist :
    (candidates client hasDb c s cmd).Sublist (Levels.flatten s.commands).zipIdx := by
  unfold candidates
  split
  · exact List.nil_sublist _
  · exact List.filter_sublist

/-- The candidates run until one ends the loop. -/
theorem calls_eq (h : Asks c cmd) :
    cmdPyRcon client hasDb c s =
      CommandInvoker.executed (input client hasDb c s cmd)
        ((CommandInvoker.inputName (input client hasDb c s cmd)).getD "")
        (candidates client hasDb c s cmd) := by
  rw [cmdPyRcon_of_asks h]
  obtain ⟨channelName, hchannel, hne⟩ := channel_str c
  cases hname : CommandInvoker.inputName (input client hasDb c s cmd) with
  | none =>
    rw [CommandInvoker.handleInput_calls_nil, candidates, hname]
    · rfl
    · rintro ⟨name, -, hsome, -⟩
      rw [hname] at hsome
      cases hsome
  | some name =>
    rw [CommandInvoker.handleInput_exact s.commands hname hchannel h.2.2.2.2, candidates, hname,
      decide_eq_false hne]
    rfl

/-- What a candidate is. -/
theorem mem_candidates_iff {x : Command Pl H Channel × Nat} :
    x ∈ candidates client hasDb c s cmd ↔
      x ∈ (Levels.flatten s.commands).zipIdx ∧
        (∃ word, (Text.splitWhitespace cmd).head? = some word ∧
          x.1.CalledBy c.toLowercase (lookups client hasDb (storeAt client c s x.2))
            (c.toLowercase word)) ∧
        x.1.AllowedIn (channel c) ∧
        x.1.Permitted (lookups client hasDb (storeAt client c s x.2)) RconDummyPlayer.player
          false := by
  unfold candidates CommandInvoker.inputName
  show x ∈ (match (Text.splitWhitespace cmd).head?.map c.toLowercase with
    | none => []
    | some name => _) ↔ _
  cases (Text.splitWhitespace cmd).head? with
  | none => simp
  | some word =>
    show x ∈ CommandInvoker.attempts (input client hasDb c s cmd) (c.toLowercase word) false 0 _ ↔ _
    rw [CommandInvoker.attempts, List.mem_filter, CommandInvoker.eligible, Bool.and_eq_true,
      Bool.and_eq_true, Command.isEligibleName_iff, Command.isEligibleChannel_iff,
      Command.isEligiblePlayer_iff, and_assoc]
    constructor
    · rintro ⟨hmem, hcalled, hallowed, hpermitted⟩
      exact ⟨hmem, ⟨word, rfl, hcalled⟩, hallowed, hpermitted⟩
    · rintro ⟨hmem, ⟨word', hword, hcalled⟩, hallowed, hpermitted⟩
      obtain rfl := Option.some.inj hword
      exact ⟨hmem, hcalled, hallowed, hpermitted⟩

end calls

/-- **Commands from the console.**  The database begins with what `d` says and the registry empty.
After any run of calls to the registry and the database, changes of cvars and commands of clients,
and of the console before, a line on the console runs nothing unless the registry can be asked; and
then, in the order of the registry and until one of them ends the loop, exactly the commands that
it calls, that are allowed on the console and that, as long as no owner is configured, ask for no
permission or are granted to the steam id 0.  With an owner these are the ones that the owner could
run there. -/
theorem rcon_exact [PyCompare H] {content : S → String → Option String} (h : KeepsTexts client content)
    {d : PlayerData} {start : AccessState S Pl H} (hempty : start.commands = CommandInvoker.empty)
    (hstore : ∀ e : Entry, content start.store.data e.key = d.text e)
    (events : List (AccessEvent Pl H E)) (c : RconCall Pl H) :
    RconExact client hasDb d start events c := by
  have hfinal := CommandAccess.final_eq client hasDb start events
  have hcandidates : ∀ cmd x,
      x ∈ candidates client hasDb c (Run.final (CommandAccess.step client hasDb) start events) cmd ↔
        MayRun client hasDb d events c (Run.final (CommandAccess.step client hasDb) start events)
          cmd x := by
    intro cmd x
    have hlevel := CommandAccess.getPermission_final client h hstore (storeCalls events ++
      c.stored.take (c.storedBefore x.2))
      ⟨.player RconDummyPlayer.player, 0, rfl, by decide⟩
    dsimp only at hlevel
    rw [Run.final_append] at hlevel
    rw [mem_candidates_iff, permitted_iff, hfinal]
    have hstep : storeAt client c ⟨Run.final CommandInvoker.step start.commands
          (registryCalls events), Run.final (redisStep client) start.store (storeCalls events)⟩ x.2 =
        Run.final (redisStep client) (Run.final (redisStep client) start.store (storeCalls events))
          (c.stored.take (c.storedBefore x.2)) := rfl
    rw [hstep, hlevel]
    constructor
    · rintro ⟨hmem, hcalled, hallowed, hgranted⟩
      exact ⟨hmem, hcalled, hallowed, hgranted⟩
    · rintro ⟨hmem, hcalled, hallowed, hgranted⟩
      exact ⟨hmem, hcalled, hallowed, hgranted⟩
  refine ⟨cmdPyRcon_of_not_asks, ?_, ?_, ?_⟩
  · intro cmd hasks
    exact ⟨_, candidates_sublist, hcandidates cmd, calls_eq hasks⟩
  · intro x hx
    by_cases hasks : ∃ cmd, Asks c cmd
    · obtain ⟨cmd, hasks⟩ := hasks
      rw [cmdPyRcon_of_asks hasks] at hx
      have hregistered := List.fst_mem_of_mem_zipIdx
        (CommandInvoker.handler_calls_authorised _ _ x hx).registered
      rw [hfinal, hempty] at hregistered
      rcases CommandAccess.added_of_mem hregistered with hold | hadded
      · exact absurd hold CommandAccess.mem_flatten_empty
      · exact hadded
    · rw [cmdPyRcon_of_not_asks fun cmd hcmd => hasks ⟨cmd, hcmd⟩] at hx
      cases hx
  · intro answers cmd p s howner name
    apply List.filter_congr
    intro x _
    have hrcon := (Command.isEligiblePlayer_iff
      (lookups client hasDb (storeAt client c s x.2)) x.1 RconDummyPlayer.player false).mpr
      (permitted_of_owner (howner x.2) x.1 _ false)
    obtain ⟨value, hvalue, hparse, hid⟩ := (Command.owner_eq_some
      (CommandAccess.lookups client hasDb (storeAt client c s x.2) : Lookups Pl ServerPlayer)
      p.steamId).mp (howner x.2)
    have hplayer := (Command.isEligiblePlayer_iff
      (CommandAccess.lookups client hasDb (storeAt client c s x.2)) x.1 p false).mpr
      (.inl ⟨p.steamId, value, hvalue, hparse, hid, rfl⟩)
    show (_ && _ && x.1.isEligiblePlayer (lookups client hasDb (storeAt client c s x.2))
        RconDummyPlayer.player false) =
      (_ && _ && x.1.isEligiblePlayer
        (CommandAccess.lookups client hasDb (storeAt client c s x.2)) p false)
    rw [hrcon, hplayer]
    rfl

/-- The line `kick 3` on the console. -/
def consoleKick : RconCall Unit PyFunction where
  engine := true
  cmdArgs := some "kick 3"
  initialized := true
  commands := true
  consoleChannel := true
  dispatcher := true
  toLowercase := id
  answers := fun _ =>
    { getCvar := fun _ => .ok none
      db := fun _ => .ok none
      steamId := fun _ => .ok none
      commandEvent := fun _ => .ok (.bool true)
      logExecution := .ok ()
      call := fun _ _ _ _ => .ok .none
      reply := fun _ => .ok ()
      logUnknown := .ok () }
  stored := []
  storedBefore := fun _ => 0

/-- A command that asks for a permission is registered. -/
def registers : List (AccessEvent Unit PyFunction PyFunction) :=
  [.registry ⟨false, .ok none, .ok ()⟩ (.add CommandAccess.restricted 2)]

/-- An owner is configured, too. -/
def registersWithOwner : List (AccessEvent Unit PyFunction PyFunction) :=
  registers ++
    [.store (.cvars fun name => .ok (if name = "qlx_owner" then some "7" else none))]

theorem rcon_exact_kick :
    RconExact mapClient (fun _ => true) .empty CommandAccess.nothing registers consoleKick ∧
      RconExact mapClient (fun _ => true) .empty CommandAccess.nothing registersWithOwner
        consoleKick ∧
      (cmdPyRcon mapClient (fun _ => true) consoleKick
        (Run.final (CommandAccess.step mapClient fun _ => true) CommandAccess.nothing
          registers)).map (fun x => (x.1.name, x.2)) = [] ∧
      (cmdPyRcon mapClient (fun _ => true) consoleKick
        (Run.final (CommandAccess.step mapClient fun _ => true) CommandAccess.nothing
          registersWithOwner)).map (fun x => (x.1.name, x.2)) = [(["kick"], 0)] := by
  have hkeeps : KeepsTexts mapClient id :=
    ⟨fun _ _ => rfl, fun _ _ => rfl, fun _ _ _ => ⟨_, rfl, fun _ => rfl⟩⟩
  have hstore : ∀ e : Entry,
      (CommandAccess.nothing.store.data) e.key = PlayerData.empty.text e := by
    intro e
    cases e <;> rfl
  exact ⟨rcon_exact mapClient (fun _ => true) hkeeps rfl hstore registers consoleKick,
    rcon_exact mapClient (fun _ => true) hkeeps rfl hstore registersWithOwner consoleKick,
    by decide +kernel, by decide +kernel⟩

end RconAccess
end ShinQlx
