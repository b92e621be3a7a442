import ShinQlx.Assoc
import ShinQlx.ParsedVariables
import ShinQlx.Python
import ShinQlx.Regex

/-! # Client commands

When a client sends a command, the hook `shinqlx_execute_client_command` asks the Python
side for the command to execute.  Its handler dispatches `client_command`; what that lets
through is tried against six regular expressions, one after the other, and the first that
is found in it decides which further event is dispatched: `chat`, `vote_called`, `vote`,
`team_switch_attempt` or `userinfo`.  A handler of that event can stop the command.

The model keeps the events that were dispatched, and the caller that the dispatcher of
`vote_started` remembers.
-/
namespace ShinQlx

/-- The channels a chat message can be for. -/
inductive ChatChannel where
  | main
  | free
  | red
  | blue
  | spectator
  deriving DecidableEq, Repr

/-- The events derived from a client command, without the player. -/
inductive ClientEvent where
  | chat (msg : String) (channel : ChatChannel)
  | voteCalled (vote args : String)
  | vote (yes : Bool)
  | teamSwitchAttempt (oldTeam newTeam : String)
  | userinfo (changed : PyDict)
  deriving DecidableEq, Repr

/-- What a client command is found to be. -/
inductive ClientRequest where
  | say (msg : String)
  | sayTeam (msg : String)
  | callvote (vote args : String)
  | vote (arg : String)
  | team (arg : String)
  | userinfo (vars : String)
  | other
  deriving DecidableEq, Repr

/-- What a client command finds: the player, what the dispatch of `client_command` and of
the derived events returns, the dispatchers and channels that are there, the state of the
game, the choices of the lookups, and what Python makes of a dict. -/
structure ClientCommandWorld (P : Type) where
  initialized : Bool
  player : PyResult P
  userInfo : P → String
  registered : String → Bool
  dispatch : P → String → PyResult PyValue
  raise : P → ClientEvent → PyResult PyValue
  channel : ChatChannel → Bool
  isVoteActive : Bool
  team : P → PyResult String
  pick : Nat → Nat
  update : PyDict → PyDict → PyResult PyDict
  display : PyScalar → String

/-- What the handler did: its result, the derived events it dispatched, and the caller
that the dispatcher of `vote_started` is left with. -/
structure ClientCommandHandled (P : Type) where
  result : PyResult PyValue
  events : List ClientEvent
  caller : Option P

namespace ClientCommand
variable {P : Type}

/-! ## What a command is -/

section expressions
open Regex

/-- `.` -/
def isAny : Char → Bool := isNot '\n'

/-- `RE_SAY` and `RE_SAY_TEAM`. -/
def reChat (command : String) : Regex :=
  sequence [.lineStart, word true command, many1 true (· = ' '),
    .group "quote" (optional (only '"')), .group "msg" (many1 true isAny), .lineEnd]

/-- `RE_SAY`. -/
def reSay : Regex := reChat "say"

/-- `RE_SAY_TEAM`. -/
def reSayTeam : Regex := reChat "say_team"

/-- `RE_CALLVOTE`. -/
def reCallvote : Regex :=
  sequence [.lineStart, .alt (word true "cv") (word true "callvote"), many1 true (· = ' '),
    .group "cmd" (many1 true (isNot ' ')),
    optional (sequence [only ' ', optional (only '"'), .group "args" (many1 false isAny),
      optional (only '"')]),
    .lineEnd]

/-- `RE_VOTE` and `RE_TEAM`. -/
def reArg (command : String) : Regex :=
  sequence [.lineStart, word true command, many1 true (· = ' '), .group "arg" (.char isAny)]

/-- `RE_VOTE`. -/
def reVote : Regex := reArg "vote"

/-- `RE_TEAM`. -/
def reTeam : Regex := reArg "team"

/-- `RE_USERINFO`. -/
def reUserinfo : Regex :=
  sequence [.lineStart, word false "userinfo \"", .group "vars" (many1 true isAny), only '"',
    .lineEnd]

/-- The message of a chat command: without the quotes around it, and with others that do
not end it. -/
def reformattedMsg (m : Match) : Option String :=
  (m.name "msg").map fun msg =>
    let stripped :=
      match (m.name "quote").filter (· ≠ "") with
      | some quote => (Text.stripSuffix quote msg).getD msg
      | none => msg
    Text.replace '"' '\'' stripped

/-- The vote of a `callvote` command. -/
def votedFor (m : Match) : Option (String × String) :=
  (m.name "cmd").map fun vote => (vote, (m.name "args").getD "")

/-- The six expressions in the order in which they are tried. -/
def classify (cmd : String) : ClientRequest :=
  match (captures reSay cmd).bind reformattedMsg with
  | some msg => .say msg
  | none =>
    match (captures reSayTeam cmd).bind reformattedMsg with
    | some msg => .sayTeam msg
    | none =>
      match (captures reCallvote cmd).bind votedFor with
      | some (vote, args) => .callvote vote args
      | none =>
        match (captures reVote cmd).bind (·.name "arg") with
        | some arg => .vote arg
        | none =>
          match (captures reTeam cmd).bind (·.name "arg") with
          | some arg => .team arg
          | none =>
            match (captures reUserinfo cmd).bind (·.name "vars") with
            | some vars => .userinfo vars
            | none => .other

end expressions

/-! ## What it leads to -/

/-- The error of a dispatcher that is not there. -/
def noDispatcher (what : String) : PyErr :=
  .environmentError s!"could not get access to {what} dispatcher"

/-- Dispatches an event, if its dispatcher is there. -/
def raiseEvent (w : ClientCommandWorld P) (player : P) (name what : String) (event : ClientEvent) :
    PyResult PyValue × List ClientEvent :=
  if w.registered name then (w.raise player event, [event]) else (.error (noDispatcher what), [])

/-- A handler of the event stopped the command, or the text is passed on. -/
def passOn (text : String) : PyResult PyValue → PyResult PyValue
  | .error e => .error e
  | .ok result => if result.isFalse then .ok (.bool false) else .ok (.str text)

/-- The branch of a chat message, for a channel that is looked for under a name. -/
def chat (w : ClientCommandWorld P) (player : P) (command msg what : String)
    (channel : PyResult ChatChannel) (caller : Option P) : ClientCommandHandled P :=
  if !w.registered "chat" then ⟨.error (noDispatcher "chat"), [], caller⟩
  else
    match channel with
    | .error e => ⟨.error e, [], caller⟩
    | .ok channel =>
      if !w.channel channel then
        ⟨.error (.environmentError s!"could not get access to {what} chat channel"), [], caller⟩
      else
        let event := ClientEvent.chat msg channel
        ⟨passOn (command ++ " \"" ++ msg ++ "\"") (w.raise player event), [event], caller⟩

/-- The channel of the players of a team. -/
def teamChannel (team : String) : ChatChannel :=
  if team = "free" then .free
  else if team = "red" then .red
  else if team = "blue" then .blue
  else .spectator

/-- The branch of `RE_CALLVOTE`. -/
def callvote (w : ClientCommandWorld P) (player : P) (cmd vote args : String) (caller : Option P) :
    ClientCommandHandled P :=
  if w.isVoteActive then ⟨.ok (.str cmd), [], caller⟩
  else if !w.registered "vote_started" then ⟨.error (noDispatcher "vote started"), [], caller⟩
  else
    -- the caller is set before anybody is asked
    let (result, events) :=
      raiseEvent w player "vote_called" "vote called" (.voteCalled vote args)
    ⟨passOn cmd result, events, some player⟩

/-- The branch of `RE_VOTE`. -/
def vote (w : ClientCommandWorld P) (player : P) (cmd arg : String) (caller : Option P) :
    ClientCommandHandled P :=
  if !w.isVoteActive || arg ∉ ["y", "Y", "1", "n", "N", "2"] then ⟨.ok (.str cmd), [], caller⟩
  else
    let (result, events) := raiseEvent w player "vote" "vote" (.vote (arg ∈ ["y", "Y", "1"]))
    ⟨passOn cmd result, events, caller⟩

/-- The team an argument of `team` stands for. -/
def targetTeam (arg : String) : String :=
  if arg = "f" then "free"
  else if arg = "r" then "red"
  else if arg = "b" then "blue"
  else if arg = "s" then "spectator"
  else "any"

/-- The branch of `RE_TEAM`. -/
def team (w : ClientCommandWorld P) (player : P) (cmd arg : String) (caller : Option P) :
    ClientCommandHandled P :=
  match w.team player with
  | .error e => ⟨.error e, [], caller⟩
  | .ok currentTeam =>
    if arg ∉ ["f", "r", "b", "s", "a"] || (Text.stripPrefix arg currentTeam).isSome then
      ⟨.ok (.str cmd), [], caller⟩
    else
      let (result, events) := raiseEvent w player "team_switch_attempt" "team switch attempt"
        (.teamSwitchAttempt currentTeam (targetTeam arg))
      ⟨passOn cmd result, events, caller⟩

/-- `into_py_dict` of variables: the last value of a key, in the place of the first. -/
def intoPyDict (vars : ParsedVariables) : PyDict :=
  vars.foldl (fun d x => Assoc.insert (.str x.1) (.str x.2) d) []

/-- The variables that are new or have a new value. -/
def changed (pick : Nat → Nat) (newInfo oldInfo : ParsedVariables) : ParsedVariables :=
  (newInfo.zipIdx.filter fun x => oldInfo.get (pick x.2) x.1.1 ≠ some x.1.2).map (·.1)

/-- A userinfo as a command. -/
def userinfoCommand (display : PyScalar → String) (info : PyDict) : String :=
  let keyValues := info.map fun x => "\\" ++ display x.1 ++ "\\" ++ display x.2
  "userinfo \"" ++ String.join keyValues ++ "\""

/-- What becomes of a userinfo after its event: a returned dict is written over it. -/
def changedUserinfo (w : ClientCommandWorld P) (cmd : String) (newInfo : ParsedVariables) :
    PyResult PyValue → PyResult PyValue
  | .error e => .error e
  | .ok result =>
    if result.isFalse then .ok (.bool false)
    else
      match result.castDict with
      | none => .ok (.str cmd)
      | some changedValues =>
        (w.update (intoPyDict newInfo) changedValues).map fun info =>
          .str (userinfoCommand w.display info)

/-- The branch of `RE_USERINFO`. -/
def userinfo (w : ClientCommandWorld P) (player : P) (cmd vars : String) (caller : Option P) :
    ClientCommandHandled P :=
  let newInfo := parseVariables vars
  let changed := changed w.pick newInfo (parseVariables (w.userInfo player))
  if changed = [] then ⟨.ok (.str cmd), [], caller⟩
  else
    let (result, events) :=
      raiseEvent w player "userinfo" "userinfo" (.userinfo (intoPyDict changed))
    ⟨changedUserinfo w cmd newInfo result, events, caller⟩

/-- The branch of a request. -/
def act (w : ClientCommandWorld P) (player : P) (cmd : String) (caller : Option P) :
    ClientRequest → ClientCommandHandled P
  | .say msg => chat w player "say" msg "main" (.ok .main) caller
  | .sayTeam msg => chat w player "say_team" msg "team" ((w.team player).map teamChannel) caller
  | .callvote vote args => callvote w player cmd vote args caller
  | .vote arg => vote w player cmd arg caller
  | .team arg => team w player cmd arg caller
  | .userinfo vars => userinfo w player cmd vars caller
  | .other => ⟨.ok (.str cmd), [], caller⟩

/-- What is derived from a command that was let through. -/
def derive (w : ClientCommandWorld P) (player : P) (cmd : String) (caller : Option P) :
    ClientCommandHandled P :=
  act w player cmd caller (classify cmd)

/-- `try_handle_client_command`. -/
def tryHandleClientCommand (w : ClientCommandWorld P) (cmd : String) (caller : Option P) :
    ClientCommandHandled P :=
  match w.player with
  | .error e => ⟨.error e, [], caller⟩
  | .ok player =>
    if !w.registered "client_command" then ⟨.error (noDispatcher "client command"), [], caller⟩
    else
      match w.dispatch player cmd with
      | .error e => ⟨.error e, [], caller⟩
      | .ok returnValue =>
        if returnValue.isFalse then ⟨.ok (.bool false), [], caller⟩
        else derive w player (returnValue.extractString.getD cmd) caller

/-- `handle_client_command`: an exception is logged and passed over. -/
def handleClientCommand (w : ClientCommandWorld P) (cmd : String) (caller : Option P) : PyValue :=
  match (tryHandleClientCommand w cmd caller).result with
  | .error _ => .bool true
  | .ok result => result

/-- `client_command_dispatcher`: the command to execute, if any. -/
def clientCommandDispatcher (w : ClientCommandWorld P) (cmd : String) (caller : Option P) :
    Option String :=
  if !w.initialized then some cmd
  else
    let result := handleClientCommand w cmd caller
    if result.isFalse then none else some (result.extractString.getD cmd)

/-- `shinqlx_execute_client_command`: the command handed to the engine, if any.  Only for a
client that is ok and has an entity is anybody asked. -/
def shinqlxExecuteClientCommand (engine clientOk hasGentity : Bool) (w : ClientCommandWorld P)
    (cmd : String) (caller : Option P) : Option String :=
  if !engine then none
  else if cmd = "" then none
  else
    let passedOn :=
      if clientOk && hasGentity then clientCommandDispatcher w cmd caller else some cmd
    passedOn.filter (· ≠ "")

end ClientCommand
end ShinQlx
