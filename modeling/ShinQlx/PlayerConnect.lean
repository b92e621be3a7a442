import ShinQlx.ClientConnect
import ShinQlx.Dispatch

/-! # Who may connect

When a client connects for the first time, the event `player_connect` is dispatched.  A handler
lets the client in, turns it away with a message of its own or with the generic one, or leaves it
to the others.  Where Python cannot be asked, the engine decides, as it does for bots.

`connect_decided` says what becomes of a client, for every history of the registry and whatever
the handlers do.
-/
namespace ShinQlx

/-- What a connect finds on the side of Python: whether it is initialised, the handlers of
`player_connect` if there is a dispatcher, the object that is made for the player, what each handler
does, and what the handlers leave of the bits of the clients; and the function of the engine. -/
structure PlayerConnectWorld (H P I : Type) where
  pyshinqlxIsInitialized : Bool
  plugins : Option (Plugins H)
  player : ClientId → PyResult P
  call : Nat → H → P → PyResult PyValue
  during : FreeClients I → FreeClients I
  clientConnect : ClientId → Bool → Bool → Option String

/-- What the outcome of a handler says about the client. -/
inductive ConnectAnswer where
  | pass
  | letIn
  | stopEvent
  | ban
  | turnAway (msg : String)
  deriving DecidableEq

namespace PlayerConnect
open EventDispatcher (Reaction)
variable {H P I : Type}

/-- The class attributes of `PlayerConnectDispatcher`. -/
def playerConnect : DispatcherType := ⟨some "player_connect", some false⟩

/-- `PlayerConnectDispatcherMethods::handle_return`. -/
def handleReturn (handler : H) (value : PyValue) : PyResult PyValue :=
  match value.extractString with
  | some _ => .ok value
  | none => EventDispatcher.handleReturn playerConnect handler value

/-- The Python side of a dispatch of `player_connect`. -/
def interp (w : PlayerConnectWorld H P I) : Interp H P := ⟨w.call, fun _ => handleReturn⟩

/-- `try_handle_player_connect`. -/
def tryHandlePlayerConnect (w : PlayerConnectWorld H P I) (client : ClientId) :
    PyResult PyValue :=
  match w.plugins with
  | none => .error (.environmentError "could not get access to player connect dispatcher")
  | some plugins =>
    (w.player client).map fun player =>
      (EventDispatcher.dispatch playerConnect (interp w) player plugins).result

/-- `handle_player_connect`: an exception is logged, and lets the client in. -/
def handlePlayerConnect (w : PlayerConnectWorld H P I) (client : ClientId) : PyValue :=
  match tryHandlePlayerConnect w client with
  | .ok value => value
  | .error _ => .bool true

/-- What a connect of the engine finds. -/
def connectWorld (w : PlayerConnectWorld H P I) : ConnectWorld I where
  pyshinqlxIsInitialized := w.pyshinqlxIsInitialized
  handlePlayerConnect := fun client _ s => (handlePlayerConnect w client, w.during s)
  clientConnect := w.clientConnect

/-! ## What the handlers say -/

/-- The generic message. -/
def banned : String := "You are banned from this server."

/-- What the outcome of a handler says. -/
def answer : PyResult PyValue → ConnectAnswer
  | .error _ => .pass
  | .ok value =>
    match PythonReturnCodes.extract value with
    | some .retNone => .pass
    | some .retStop => .letIn
    | some .retStopEvent => .stopEvent
    | some .retStopAll => .ban
    | _ =>
      match value.extractString with
      | some msg => .turnAway msg
      | none => .pass

/-- What comes of the answers: the first that is definite, or else whether the event was
stopped. -/
def verdict : Bool → List ConnectAnswer → Option String
  | stopped, [] => if stopped then some banned else none
  | stopped, .pass :: answers => verdict stopped answers
  | _, .stopEvent :: answers => verdict true answers
  | _, .letIn :: _ => none
  | _, .ban :: _ => some banned
  | _, .turnAway msg :: _ => some msg

/-- The answers of handlers at consecutive positions, each called with the player. -/
def answers (w : PlayerConnectWorld H P I) (player : P) (k : Nat) (hs : List H) :
    List ConnectAnswer :=
  (hs.zipIdx k).map fun e => answer (w.call e.2 e.1 player)

/-- The message of the handlers, if Python can be asked and they turn the client away; `order` is
the order of dispatch. -/
def message (w : PlayerConnectWorld H P I) (order : List H) (client : ClientId) : Option String :=
  if w.pyshinqlxIsInitialized then
    match w.player client with
    | .error _ => none
    | .ok player => verdict false (answers w player 0 order)
  else none

/-- **What becomes of a client that connects**, where the handlers have some message for it: it
gets the message, if it connects for the first time, is no bot, and there is one; and otherwise the
engine decides. -/
structure Decided (w : PlayerConnectWorld H P I) (msg : Option String) (client : ClientId)
    (firstTime isBot : Bool) (s : FreeClients I × ConnectBuffers) : Prop where
  engine : firstTime = false ∨ isBot = true ∨ msg = none →
    (ClientConnect.shinqlxClientConnect (connectWorld w) client firstTime isBot s).1 =
        .engine (w.clientConnect client firstTime isBot) ∧
      (ClientConnect.shinqlxClientConnect (connectWorld w) client firstTime isBot s).2.2 = s.2
  refused : firstTime = true → isBot = false → ∀ text, msg = some text →
    ClientConnect.Fits text →
      ClientConnect.Reaches client text s.2
        ((ClientConnect.shinqlxClientConnect (connectWorld w) client firstTime isBot s).1,
          (ClientConnect.shinqlxClientConnect (connectWorld w) client firstTime isBot s).2.2)
  tooLong : firstTime = true → isBot = false → ∀ text, msg = some text →
    ¬ ClientConnect.Fits text →
      (ClientConnect.shinqlxClientConnect (connectWorld w) client firstTime isBot s).1 = .panicked
  unasked : firstTime = false →
    (ClientConnect.shinqlxClientConnect (connectWorld w) client firstTime isBot s).2.1 = s.1

/-! ## The dispatch -/

/-- The text that a result of the handlers turns a client away with. -/
def turnedAway (result : PyValue) : Option String :=
  if result.isFalse then some banned else result.extractString

/-- What an answer means to the dispatch. -/
def reactionOf : ConnectAnswer → Reaction
  | .pass => .proceed
  | .letIn => .stop (.bool true)
  | .stopEvent => .stopEvent
  | .ban => .stop (.bool false)
  | .turnAway msg => .stop (.str msg)

theorem reaction_eq (w : PlayerConnectWorld H P I) (player : P) (k : Nat) (handler : H) :
    EventDispatcher.reaction (interp w) player k handler =
      reactionOf (answer (w.call k handler player)) := by
  rw [EventDispatcher.reaction, answer.eq_def, show (interp w).call = w.call from rfl]
  cases w.call k handler player with
  | error e => rfl
  | ok value =>
    have hreturn : (interp w).handleReturn k handler value = handleReturn handler value := rfl
    simp only [hreturn, handleReturn]
    cases PythonReturnCodes.extract value with
    | some code =>
      cases code with
      | retUsage =>
        cases value with
        | dict d => rfl
        | scalar v => cases v <;> rfl
      | _ => rfl
    | none =>
      cases value with
      | dict d => rfl
      | scalar v => cases v <;> rfl

theorem reactions_eq (w : PlayerConnectWorld H P I) (player : P) (k : Nat) (hs : List H) :
    EventDispatcher.reactions (interp w) player k hs = (answers w player k hs).map reactionOf := by
  rw [EventDispatcher.reactions, answers, List.map_map]
  exact List.map_congr_left fun e _ => reaction_eq w player e.2 e.1

/-- The result of the dispatch is the verdict. -/
theorem turnedAway_reactions (stopped : Bool) (answers : List ConnectAnswer) :
    turnedAway (((answers.map reactionOf).findSome? (·.result?)).getD
      (if .stopEvent ∈ answers.map reactionOf then .bool false else .bool !stopped)) =
      verdict stopped answers := by
  induction answers generalizing stopped with
  | nil => cases stopped <;> rfl
  | cons a answers ih =>
    cases a with
    | pass =>
      rw [verdict, ← ih]
      simp [reactionOf, Reaction.result?]
    | stopEvent =>
      rw [verdict, ← ih]
      simp [reactionOf, Reaction.result?]
    | letIn => rfl
    | ban => rfl
    | turnAway msg => rfl

/-- What `handle_player_connect` returns is false, or a text, as the handlers say. -/
theorem turnedAway_handlePlayerConnect [PyCompare H] (w : PlayerConnectWorld H P I)
    (client : ClientId) (cs : List (CallEnv × HookCall H))
    (hplugins : w.plugins = some (Run.final (EventDispatcher.step playerConnect) [] cs)) :
    turnedAway (handlePlayerConnect w client) =
      match w.player client with
      | .error _ => none
      | .ok player => verdict false (answers w player 0 (Ledger.ofRun playerConnect cs).order) := by
  rw [handlePlayerConnect, tryHandlePlayerConnect, hplugins]
  cases w.player client with
  | error e => rfl
  | ok player =>
    have hhandlers : EventDispatcher.handlers (Run.final (EventDispatcher.step playerConnect) [] cs)
        = (Ledger.ofRun playerConnect cs).order :=
      Ledger.handlers_eq_order (Ledger.refines_run playerConnect cs)
    obtain ⟨-, hresult⟩ := EventDispatcher.run_dispatchBody (interp w) player
      (Ledger.ofRun playerConnect cs).order 0 (.bool true)
    simp only [EventDispatcher.dispatch, playerConnect, Except.map]
    rw [← playerConnect, hhandlers, hresult, reactions_eq]
    exact turnedAway_reactions false _

/-- What `client_connect_dispatcher` answers, for players and for bots. -/
theorem clientConnectDispatcher_eq [PyCompare H] (w : PlayerConnectWorld H P I)
    (client : ClientId) (isBot : Bool) (cs : List (CallEnv × HookCall H))
    (hplugins : w.plugins = some (Run.final (EventDispatcher.step playerConnect) [] cs))
    (s : FreeClients I) :
    (FreeClients.clientConnectDispatcher (connectWorld w).pyshinqlxIsInitialized
      (connectWorld w).handlePlayerConnect client isBot s).1 =
      message w (Ledger.ofRun playerConnect cs).order client := by
  rw [FreeClients.clientConnectDispatcher, message, ← turnedAway_handlePlayerConnect w client cs
    hplugins]
  cases hinit : w.pyshinqlxIsInitialized with
  | false => simp [connectWorld, hinit]
  | true => simp [connectWorld, hinit, FreeClients.bracket, turnedAway, banned]

/-- What becomes of a client follows from what the dispatcher answers. -/
theorem decided_of_answer {w : PlayerConnectWorld H P I} {client : ClientId} {isBot : Bool}
    {msg : Option String} {s : FreeClients I × ConnectBuffers}
    (h : (FreeClients.clientConnectDispatcher (connectWorld w).pyshinqlxIsInitialized
      (connectWorld w).handlePlayerConnect client isBot s.1).1 = msg) (firstTime : Bool) :
    Decided w msg client firstTime isBot s := by
  have hrefused : firstTime = true → isBot = false → ∀ text, msg = some text →
      ((ClientConnect.shinqlxClientConnect (connectWorld w) client firstTime isBot s).1,
        (ClientConnect.shinqlxClientConnect (connectWorld w) client firstTime isBot s).2.2) =
        ClientConnect.toReturnString client text s.2 := by
    rintro rfl rfl text rfl
    exact ClientConnect.shinqlxClientConnect_of_refusal h
  constructor
  case engine =>
    intro hengine
    cases firstTime with
    | false => exact ⟨rfl, rfl⟩
    | true =>
      rw [ClientConnect.shinqlxClientConnect, if_pos rfl]
      dsimp only
      rw [h]
      cases msg with
      | none => exact ⟨rfl, rfl⟩
      | some text =>
        cases isBot with
        | true => exact ⟨rfl, rfl⟩
        | false =>
          rcases hengine with hfirst | hbot | hnone
          · cases hfirst
          · cases hbot
          · cases hnone
  case refused =>
    intro hfirst hbot text hmsg hfits
    rw [hrefused hfirst hbot text hmsg]
    exact ClientConnect.reaches_of_fits hfits
  case tooLong =>
    intro hfirst hbot text hmsg hfits
    rw [congrArg Prod.fst (hrefused hfirst hbot text hmsg)]
    exact ClientConnect.panicked_of_not_fits hfits
  case unasked =>
    rintro rfl
    rfl

/-- **Who may connect.**  Whatever the history of the registry is and whatever the handlers do, a
client that is no bot is turned away, when it connects for the first time, with what the first
handler says that is definite, or with the generic message if some handler stopped the event and
none is definite; and otherwise, or where Python cannot be asked, the engine decides. -/
theorem connect_decided [PyCompare H] (w : PlayerConnectWorld H P I)
    (cs : List (CallEnv × HookCall H)) (client : ClientId) (firstTime isBot : Bool)
    (s : FreeClients I × ConnectBuffers) :
    Decided { w with plugins := none } none client firstTime isBot s ∧
      Decided { w with plugins := some (Run.final (EventDispatcher.step playerConnect) [] cs) }
        (message w (Ledger.ofRun playerConnect cs).order client) client firstTime isBot s := by
  constructor
  · refine decided_of_answer ?_ firstTime
    rw [FreeClients.clientConnectDispatcher]
    cases hinit : w.pyshinqlxIsInitialized with
    | false => simp [connectWorld]
    | true =>
      simp [connectWorld, FreeClients.bracket, handlePlayerConnect, tryHandlePlayerConnect,
        PyValue.extractString]
  · exact decided_of_answer (clientConnectDispatcher_eq
      { w with plugins := some (Run.final (EventDispatcher.step playerConnect) [] cs) } client
      isBot cs rfl s.1) firstTime

end PlayerConnect
end ShinQlx
