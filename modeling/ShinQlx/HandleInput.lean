import ShinQlx.CommandInvoker
import ShinQlx.Loop

/-! # Handling input

`CommandInvokerMethods::handle_input` goes through the registered commands by
priority and registration, and runs the handler of every one that its first word
calls, that is allowed in the channel and that the player may use, until one of
them stops it.  Everything it asks Python and the engine on the way, it asks anew
for each command; `InputWorld` holds the answers, one for each position in the
registry.

`handleInput_exact` says which handlers run and what comes back in terms of the
eligible commands and what becomes of each (`Verdict`).
-/
namespace ShinQlx

/-- What the world answers while one command is tried: the lookups of the
eligibility checks, the result of the `command` event, whether the execution
could be logged, the handlers, and the reply and the log entry that an unusual
result leads to. -/
structure InputWorld (Pl H C P : Type) extends Lookups Pl P where
  commandEvent : Command Pl H C → PyResult PyValue
  logExecution : PyResult Unit
  call : H → P → List String → C → PyResult PyValue
  reply : String → PyResult Unit
  logUnknown : PyResult Unit

/-- A call of `handle_input`: its arguments, the text of the channel, whether the
`command` dispatcher can be had, and the world. -/
structure Input (Pl H C P : Type) where
  player : P
  msg : String
  channel : C
  channelName : PyResult String
  dispatcher : Bool
  toLowercase : String → String
  world : Nat → InputWorld Pl H C P

/-- What `handle_input` did: its result, and the commands whose handlers it
called, each with its position in the registry. -/
structure Handled (Pl H C : Type) where
  result : PyResult Bool
  calls : List (Command Pl H C × Nat)

/-- The state of the loop: `pass_through`, and the handlers called so far. -/
structure InputState (Pl H C : Type) where
  passThrough : Bool
  calls : List (Command Pl H C × Nat)

namespace CommandInvoker
variable {Pl H C P : Type} [PyCompare C]

/-- `CommandMethods::execute`, and whether it got to the handler. -/
def execute (w : InputWorld Pl H C P) (c : Command Pl H C) (player : P) (msg : String)
    (channel : C) : PyResult PyValue × Bool :=
  match c.name.head? with
  | none => (.error (.keyError "command has no 'name'"), false)
  | some _ =>
    match w.logExecution with
    | .error e => (.error e, false)
    | .ok () => (w.call c.handler player (Text.split ' ' msg) channel, true)

/-- What `handle_input` says about a result that is none of the codes it acts on:
the usage to the channel, or a warning to the log. -/
def remark (w : InputWorld Pl H C P) (c : Command Pl H C) (name : String)
    (code : Option PythonReturnCodes) : PyResult Unit :=
  if code = some .retUsage ∧ c.usage ≠ "" then w.reply s!"^7Usage: ^6{name} {c.usage}"
  else w.logUnknown

/-- The body of the loop over the commands. -/
def inputBody (inp : Input Pl H C P) (name : String) (isClientCmd : Bool) (k : Nat)
    (c : Command Pl H C) (s : InputState Pl H C) :
    Loop.Control (InputState Pl H C) (Handled Pl H C) :=
  let w := inp.world k
  if !c.isEligibleName inp.toLowercase w.toLookups name then .next s
  else if !c.isEligibleChannel inp.channel then .next s
  else if !c.isEligiblePlayer w.toLookups inp.player isClientCmd then .next s
  else
    -- the last eligible command has the say, whatever the ones before asked for
    let passThrough := if isClientCmd then c.clientCmdPass else s.passThrough
    match w.commandEvent c with
    | .error e => .ret ⟨.error e, s.calls⟩
    | .ok value =>
      if value.isFalse then .ret ⟨.ok true, s.calls⟩
      else
        let (cmdResult, called) := execute w c inp.player inp.msg inp.channel
        let calls := if called then s.calls ++ [(c, k)] else s.calls
        match cmdResult with
        | .error e => .ret ⟨.error e, calls⟩
        | .ok res =>
          match PythonReturnCodes.extract res with
          | some .retNone => .next ⟨passThrough, calls⟩
          | some .retStop | some .retStopAll => .ret ⟨.ok false, calls⟩
          | some .retStopEvent => .next ⟨false, calls⟩
          | code =>
            match remark w c name code with
            | .error e => .ret ⟨.error e, calls⟩
            | .ok () => .next ⟨passThrough, calls⟩

/-- `CommandInvokerMethods::handle_input`. -/
def handleInput (inp : Input Pl H C P) (commands : Commands Pl H C) : Handled Pl H C :=
  match (Text.splitWhitespace inp.msg).head? with
  | none => ⟨.ok false, []⟩
  | some word =>
    let name := inp.toLowercase word
    match inp.channelName with
    | .error _ => ⟨.ok false, []⟩
    | .ok channelName =>
      if !inp.dispatcher then
        ⟨.error (.environmentError "could not get access to command dispatcher"), []⟩
      else
        (Loop.run (inputBody inp name (channelName = "client_command"))
          (fun s => ⟨.ok s.passThrough, s.calls⟩) 0 (Levels.flatten commands) ⟨true, []⟩).result

/-! ## Verdicts -/

/-- What becomes of an eligible command: something fails, before or after its
handler was called; a handler of the `command` event vetoes it; or its handler
stops the loop, suppresses the event, or does neither. -/
inductive Verdict where
  | failed (e : PyErr) (called : Bool)
  | veto
  | stop
  | stopEvent
  | proceed
  deriving DecidableEq, Repr

namespace Verdict

/-- The verdicts behind which no command is tried. -/
def ends : Verdict → Bool
  | .failed .. | .veto | .stop => true
  | _ => false

/-- The verdicts on a command whose handler was called. -/
def called : Verdict → Bool
  | .failed _ called => called
  | .veto => false
  | _ => true

end Verdict

/-- The command at a position passes the three checks. -/
def eligible (inp : Input Pl H C P) (name : String) (isClientCmd : Bool)
    (x : Command Pl H C × Nat) : Bool :=
  x.1.isEligibleName inp.toLowercase (inp.world x.2).toLookups name &&
    x.1.isEligibleChannel inp.channel &&
    x.1.isEligiblePlayer (inp.world x.2).toLookups inp.player isClientCmd

/-- What becomes of an eligible command at a position. -/
def verdict (inp : Input Pl H C P) (name : String) (x : Command Pl H C × Nat) : Verdict :=
  let w := inp.world x.2
  match w.commandEvent x.1 with
  | .error e => .failed e false
  | .ok value =>
    if value.isFalse then .veto
    else
      match execute w x.1 inp.player inp.msg inp.channel with
      | (.error e, called) => .failed e called
      | (.ok res, _) =>
        match PythonReturnCodes.extract res with
        | some .retNone => .proceed
        | some .retStop | some .retStopAll => .stop
        | some .retStopEvent => .stopEvent
        | code =>
          match remark w x.1 name code with
          | .error e => .failed e true
          | .ok () => .proceed

/-- The eligible commands of a list, with positions counted from `k`. -/
def attempts (inp : Input Pl H C P) (name : String) (isClientCmd : Bool) (k : Nat)
    (cs : List (Command Pl H C)) : List (Command Pl H C × Nat) :=
  (cs.zipIdx k).filter (eligible inp name isClientCmd)

/-- The eligible commands that are tried: up to the first whose verdict ends the
loop. -/
def tried (inp : Input Pl H C P) (name : String) (xs : List (Command Pl H C × Nat)) :
    List (Command Pl H C × Nat) :=
  Loop.through (fun x => (verdict inp name x).ends) xs

/-- The commands whose handlers are called. -/
def executed (inp : Input Pl H C P) (name : String) (xs : List (Command Pl H C × Nat)) :
    List (Command Pl H C × Nat) :=
  (tried inp name xs).filter fun x => (verdict inp name x).called

/-- The result of trying the eligible commands, from a value of `pass_through`. -/
def conclusion (inp : Input Pl H C P) (name : String) (isClientCmd : Bool) :
    Bool → List (Command Pl H C × Nat) → PyResult Bool
  | passThrough, [] => .ok passThrough
  | passThrough, x :: xs =>
    match verdict inp name x with
    | .failed e _ => .error e
    | .veto => .ok true
    | .stop => .ok false
    | .stopEvent => conclusion inp name isClientCmd false xs
    | .proceed =>
      conclusion inp name isClientCmd (if isClientCmd then x.1.clientCmdPass else passThrough) xs

theorem inputBody_of_not_eligible {inp : Input Pl H C P} {name : String} {isClientCmd : Bool}
    {k : Nat} {c : Command Pl H C} (h : eligible inp name isClientCmd (c, k) = false)
    (s : InputState Pl H C) : inputBody inp name isClientCmd k c s = .next s := by
  unfold inputBody
  simp only
  split
  · rfl
  · split
    · rfl
    · split
      · rfl
      · simp_all [eligible]

/-- What one eligible command does to the loop. -/
theorem inputBody_of_eligible {inp : Input Pl H C P} {name : String} {isClientCmd : Bool}
    {k : Nat} {c : Command Pl H C} (h : eligible inp name isClientCmd (c, k) = true)
    (s : InputState Pl H C) :
    inputBody inp name isClientCmd k c s =
      match verdict inp name (c, k) with
      | .failed e called => .ret ⟨.error e, if called then s.calls ++ [(c, k)] else s.calls⟩
      | .veto => .ret ⟨.ok true, s.calls⟩
      | .stop => .ret ⟨.ok false, s.calls ++ [(c, k)]⟩
      | .stopEvent => .next ⟨false, s.calls ++ [(c, k)]⟩
      | .proceed =>
        .next ⟨if isClientCmd then c.clientCmdPass else s.passThrough, s.calls ++ [(c, k)]⟩ := by
  simp only [eligible, Bool.and_eq_true] at h
  obtain ⟨⟨hname, hchannel⟩, hplayer⟩ := h
  unfold inputBody verdict
  simp only [hname, hchannel, hplayer, Bool.not_true, Bool.false_eq_true, if_false]
  cases (inp.world k).commandEvent c with
  | error e => rfl
  | ok value =>
    by_cases hveto : value.isFalse = true
    · simp [hveto]
    · simp only [if_neg hveto]
      unfold execute
      cases c.name.head? with
      | none => rfl
      | some first =>
        cases (inp.world k).logExecution with
        | error e => rfl
        | ok u =>
          cases hcall : (inp.world k).call c.handler inp.player (Text.split ' ' inp.msg)
              inp.channel with
          | error e => rfl
          | ok res =>
            simp only [if_true]
            cases PythonReturnCodes.extract res with
            | none => cases hr : remark (inp.world k) c name none <;> simp [hr]
            | some code =>
              cases code with
              | retNone | retStop | retStopEvent | retStopAll => rfl
              | retUsage => cases hr : remark (inp.world k) c name (some .retUsage) <;> simp [hr]

/-- **`handle_input`, exactly**: the handlers it calls are those of the eligible
commands, in order, up to the first verdict that ends the loop. -/
theorem run_inputBody (inp : Input Pl H C P) (name : String) (isClientCmd : Bool)
    (cs : List (Command Pl H C)) (k : Nat) (s : InputState Pl H C) :
    (Loop.run (inputBody inp name isClientCmd)
        (fun s => ⟨.ok s.passThrough, s.calls⟩) k cs s).result =
      ⟨conclusion inp name isClientCmd s.passThrough (attempts inp name isClientCmd k cs),
        s.calls ++ executed inp name (attempts inp name isClientCmd k cs)⟩ := by
  induction cs generalizing k s with
  | nil => simp [attempts, executed, tried, conclusion]
  | cons c cs ih =>
    cases he : eligible inp name isClientCmd (c, k) with
    | false =>
      have hattempts : attempts inp name isClientCmd k (c :: cs) =
          attempts inp name isClientCmd (k + 1) cs := by simp [attempts, List.zipIdx_cons, he]
      rw [Loop.run_cons_next (inputBody_of_not_eligible he s), hattempts]
      exact ih (k + 1) s
    | true =>
      have hattempts : attempts inp name isClientCmd k (c :: cs) =
          (c, k) :: attempts inp name isClientCmd (k + 1) cs := by
        simp [attempts, List.zipIdx_cons, he]
      have hbody := inputBody_of_eligible he s
      rw [hattempts, conclusion, executed, tried, Loop.through_cons]
      cases hv : verdict inp name (c, k) with
      | failed e called =>
        rw [hv] at hbody
        rw [Loop.run_cons_ret hbody]
        cases called <;> simp [Verdict.ends, Verdict.called, hv]
      | veto | stop =>
        rw [hv] at hbody
        rw [Loop.run_cons_ret hbody]
        simp [Verdict.ends, Verdict.called, hv]
      | stopEvent | proceed =>
        rw [hv] at hbody
        rw [Loop.run_cons_next hbody]
        simp only [ih]
        simp [Verdict.ends, Verdict.called, hv, executed, tried]

/-- The word a message calls a command by. -/
def inputName (inp : Input Pl H C P) : Option String :=
  (Text.splitWhitespace inp.msg).head?.map inp.toLowercase

theorem handleInput_exact {inp : Input Pl H C P} (commands : Commands Pl H C) {name : String}
    (hname : inputName inp = some name) {channelName : String}
    (hchannel : inp.channelName = .ok channelName) (hdispatcher : inp.dispatcher = true) :
    handleInput inp commands =
      ⟨conclusion inp name (channelName = "client_command") true
          (attempts inp name (channelName = "client_command") 0 (Levels.flatten commands)),
        executed inp name
          (attempts inp name (channelName = "client_command") 0 (Levels.flatten commands))⟩ := by
  obtain ⟨word, hword, rfl⟩ := Option.map_eq_some_iff.mp hname
  simp only [handleInput, hword, hchannel, hdispatcher, Bool.not_true, Bool.false_eq_true, if_false]
  rw [run_inputBody, List.nil_append]

/-- Without a word, a channel name or the `command` dispatcher no handler is
called. -/
theorem handleInput_calls_nil {inp : Input Pl H C P} (commands : Commands Pl H C)
    (h : ¬ ∃ name channelName, inputName inp = some name ∧ inp.channelName = .ok channelName ∧
      inp.dispatcher = true) : (handleInput inp commands).calls = [] := by
  unfold handleInput
  cases hword : (Text.splitWhitespace inp.msg).head? with
  | none => rfl
  | some word =>
    cases hchannel : inp.channelName with
    | error e => rfl
    | ok channelName =>
      cases hdispatcher : inp.dispatcher with
      | false => rfl
      | true =>
        exact absurd ⟨inp.toLowercase word, channelName, by simp [inputName, hword], hchannel,
          hdispatcher⟩ h

/-! ## A small input -/

/-- A command of everybody, under the name `kick`. -/
def kick (clientCmdPass : Bool) : Command Unit PyFunction PyFunction :=
  ⟨(), ["kick"], ⟨0⟩, 0, [], [], clientCmdPass, 0, false, ""⟩

/-- The client command `kick`, in a world where every handler returns `None` and
the `command` event is as given. -/
def kickInput (commandEvent : Nat → PyValue) : Input Unit PyFunction PyFunction Unit where
  player := ()
  msg := "kick 7"
  channel := ⟨0⟩
  channelName := .ok "client_command"
  dispatcher := true
  toLowercase := id
  world := fun k =>
    { getCvar := fun _ => .ok none
      db := fun _ => .ok none
      steamId := fun _ => .ok none
      commandEvent := fun _ => .ok (commandEvent k)
      logExecution := .ok ()
      call := fun _ _ _ _ => .ok .none
      reply := fun _ => .ok ()
      logUnknown := .ok () }

end CommandInvoker
end ShinQlx
