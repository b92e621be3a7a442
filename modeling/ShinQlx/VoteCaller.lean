import ShinQlx.Run
import ShinQlx.VoteString

/-! # Who called a vote

The handlers of `vote_started` are called with the player whose vote it is.  The vote
string does not say who that is, so the dispatcher remembers a caller: the branch of
`callvote` commands sets it to the player, before the handlers of `vote_called` are asked,
and `Plugin.callvote` sets it to `None`.  Nothing else sets it, neither a vote that is
stopped or refused, nor `shinqlx.callvote`, nor a vote that has started.

A command goes from its handlers to the engine, which may start a vote for it; a vote
string goes through its handlers, is dispatched to those of `vote_started`, and is stored.
Handlers and other threads can do anything in between, so that a step of the machine below
is what happens without a pause, and what has not come through yet is part of its state.
The state also keeps who called the votes that were taken down while none was active.
`attributed_iff` says in these terms when every vote is reported with its caller.
-/
namespace ShinQlx

/-- Who starts a vote: a client whose command the engine follows, one of the two functions
for plugins, or the server. -/
inductive VoteOrigin (P : Type) where
  | client (player : P)
  | pluginCallvote
  | shinqlxCallvote
  | server
  deriving DecidableEq, Repr

/-- The caller of a vote. -/
def VoteOrigin.caller {P : Type} : VoteOrigin P → Option P
  | .client player => some player
  | .pluginCallvote | .shinqlxCallvote | .server => none

/-- A dispatch of `vote_started`: who started the vote, and what the handlers are called
with. -/
structure VoteStarted (P : Type) where
  origin : VoteOrigin P
  caller : Option P
  vote : String
  args : String
  deriving DecidableEq, Repr

/-- The caller that the dispatcher of `vote_started` remembers and the stored vote string;
the commands that the engine has been handed, the vote strings that are with the handlers
of `set_configstring`, and those that are about to be stored; and who called the votes that
were taken down, the last one first. -/
structure VoteServer (P : Type) where
  caller : Option P
  voteString : String
  commands : List (P × String)
  updates : List (VoteOrigin P × String)
  values : List String
  called : List (VoteOrigin P)

/-- What happens: a client sends a command, the engine executes one and starts a vote or
not, a plugin calls one of the two functions, the server sets the vote string, or a vote
string comes through its handlers or is stored. -/
inductive VoteCall (P : Type) where
  | clientCommand (client : P) (clientOk hasGentity : Bool) (w : ClientCommandWorld P)
      (cmd : String)
  | execute (k : Nat) (vote : Option String)
  | pluginCallvote (registered level : Bool) (vote display : String)
  | shinqlxCallvote (level : Bool) (vote display : String)
  | setVoteString (value : String)
  | setConfigstring (k : Nat) (w : ConfigstringWorld) (ad : Int)
  | store (k : Nat)

namespace VoteServer
open ClientCommand (tryHandleClientCommand shinqlxExecuteClientCommand classify noDispatcher)
open SetConfigstring (tryHandleSetConfigstring shinqlxSetConfigstring)
open VoteString (Sets startedVotes)
variable {P : Type}

/-- A server on which nobody has called a vote. -/
def start (voteString : String) : VoteServer P := ⟨none, voteString, [], [], [], []⟩

/-- `is_vote_active` -/
def isVoteActive (s : VoteServer P) : Bool := s.voteString ≠ ""

/-- What a command of a client finds. -/
def clientWorld (s : VoteServer P) (client : P) (w : ClientCommandWorld P) :
    ClientCommandWorld P :=
  { w with
    player := .ok client
    isVoteActive := s.isVoteActive }

/-- Anybody is asked about a command. -/
def asked (clientOk hasGentity : Bool) (w : ClientCommandWorld P) (cmd : String) : Bool :=
  cmd ≠ "" && clientOk && hasGentity && w.initialized

/-- The caller that is remembered behind a command. -/
def callerAfter (clientOk hasGentity : Bool) (w : ClientCommandWorld P) (cmd : String)
    (caller : Option P) : Option P :=
  if asked clientOk hasGentity w cmd then (tryHandleClientCommand w cmd caller).caller else caller

/-- The text that the handlers of `client_command` let through. -/
def letThrough (w : ClientCommandWorld P) (client : P) (cmd : String) : Option String :=
  match w.dispatch client cmd with
  | .error _ => none
  | .ok returnValue =>
    if returnValue.isFalse then none else some (returnValue.extractString.getD cmd)

/-- A request for a vote. -/
def isCallvote : ClientRequest → Bool
  | .callvote _ _ => true
  | _ => false

/-- A command calls a vote, and it is taken down: no vote is active. -/
def takenDown (clientOk hasGentity : Bool) (w : ClientCommandWorld P) (client : P)
    (cmd : String) : Bool :=
  asked clientOk hasGentity w cmd && w.registered "client_command" &&
    (letThrough w client cmd).any (fun text => isCallvote (classify text)) &&
    !w.isVoteActive && w.registered "vote_started"

/-- `CurrentLevel::callvote`, if there is a level: the vote string to set.  A text that does
not fit into its buffer is a panic. -/
def levelCallvote (level : Bool) (vote display : String) : Outcome (Option String) :=
  if !level then .ok none
  else if vote.utf8ByteSize ≤ 1024 ∧ display.utf8ByteSize ≤ 1024 then .ok (some display)
  else .panic

/-- The vote strings that a call sets. -/
def updatesOf (origin : VoteOrigin P) : Outcome (Option String) → List (VoteOrigin P × String)
  | .ok (some value) => [(origin, value)]
  | _ => []

/-- `pyshinqlx_callvote` -/
def pyshinqlxCallvote (origin : VoteOrigin P) (level : Bool) (vote display : String)
    (s : VoteServer P) : Outcome Unit × VoteServer P :=
  let called := levelCallvote level vote display
  (match called with
    | .ok _ => .ok ()
    | .err e => .err e
    | .panic => .panic,
    { s with updates := s.updates ++ updatesOf origin called })

/-- `Plugin::callvote` -/
def callvote (registered level : Bool) (vote display : String) (s : VoteServer P) :
    Outcome Bool × VoteServer P :=
  if s.isVoteActive then (.ok false, s)
  else if !registered then (.err (noDispatcher "vote started"), s)
  else
    let s' := { s with
      caller := none
      called := .pluginCallvote :: s.called }
    match pyshinqlxCallvote .pluginCallvote level vote display s' with
    | (.ok (), s'') => (.ok true, s'')
    | (.err e, s'') => (.err e, s'')
    | (.panic, s'') => (.panic, s'')

/-- The dispatch of `vote_started`, if a vote string comes to it. -/
def voteStarted (s : VoteServer P) (w : ConfigstringWorld) (ad : Int) (origin : VoteOrigin P)
    (value : String) : Option (VoteStarted P) :=
  if w.engine.isSome && w.initialized then
    (startedVotes (tryHandleSetConfigstring w csVoteString value ad)).head?.map fun vote =>
      ⟨origin, s.caller, vote.1, vote.2⟩
  else none

/-- One step: the dispatch of `vote_started` it makes, if any, and the state it leaves. -/
def step (s : VoteServer P) : VoteCall P → Option (VoteStarted P) × VoteServer P
  | .clientCommand client clientOk hasGentity w cmd =>
    let w := s.clientWorld client w
    let passedOn := shinqlxExecuteClientCommand true clientOk hasGentity w cmd s.caller
    (none, { s with
      caller := callerAfter clientOk hasGentity w cmd s.caller
      commands := s.commands ++ passedOn.toList.map fun text => (client, text)
      called := if takenDown clientOk hasGentity w client cmd then .client client :: s.called
        else s.called })
  | .execute k vote =>
    match s.commands[k]? with
    | none => (none, s)
    | some (client, _) =>
      (none, { s with
        commands := s.commands.eraseIdx k
        updates := s.updates ++ vote.toList.map fun value => (.client client, value) })
  | .pluginCallvote registered level vote display =>
    (none, (callvote registered level vote display s).2)
  | .shinqlxCallvote level vote display =>
    (none, (pyshinqlxCallvote .shinqlxCallvote level vote display s).2)
  | .setVoteString value => (none, { s with updates := s.updates ++ [(.server, value)] })
  | .setConfigstring k w ad =>
    match s.updates[k]? with
    | none => (none, s)
    | some (origin, value) =>
      (s.voteStarted w ad origin value, { s with
        updates := s.updates.eraseIdx k
        values := s.values ++ (shinqlxSetConfigstring w csVoteString value ad).toList })
  | .store k =>
    match s.values[k]? with
    | none => (none, s)
    | some value =>
      (none, { s with
        voteString := value
        values := s.values.eraseIdx k })

/-! ## The caller that is remembered -/

theorem chat_caller (w : ClientCommandWorld P) (client : P) (command msg what : String)
    (channel : PyResult ChatChannel) (caller : Option P) :
    (ClientCommand.chat w client command msg what channel caller).caller = caller := by
  unfold ClientCommand.chat
  split
  · rfl
  · split
    · rfl
    · split <;> rfl

theorem vote_caller (w : ClientCommandWorld P) (client : P) (cmd arg : String)
    (caller : Option P) : (ClientCommand.vote w client cmd arg caller).caller = caller := by
  unfold ClientCommand.vote
  split <;> rfl

theorem team_caller (w : ClientCommandWorld P) (client : P) (cmd arg : String)
    (caller : Option P) : (ClientCommand.team w client cmd arg caller).caller = caller := by
  unfold ClientCommand.team
  split
  · rfl
  · split <;> rfl

theorem userinfo_caller (w : ClientCommandWorld P) (client : P) (cmd vars : String)
    (caller : Option P) : (ClientCommand.userinfo w client cmd vars caller).caller = caller := by
  unfold ClientCommand.userinfo
  dsimp only
  split <;> rfl

/-- Of all branches only that of `callvote` commands sets the caller. -/
theorem act_caller (w : ClientCommandWorld P) (client : P) (cmd : String) (caller : Option P)
    (request : ClientRequest) :
    (ClientCommand.act w client cmd caller request).caller =
      if isCallvote request && !w.isVoteActive && w.registered "vote_started" then some client
      else caller := by
  cases request with
  | say msg => exact chat_caller w client _ _ _ _ caller
  | sayTeam msg => exact chat_caller w client _ _ _ _ caller
  | callvote vote args =>
    unfold ClientCommand.act ClientCommand.callvote isCallvote
    cases w.isVoteActive with
    | true => rfl
    | false => cases w.registered "vote_started" <;> rfl
  | vote arg => exact vote_caller w client cmd arg caller
  | team arg => exact team_caller w client cmd arg caller
  | userinfo vars => exact userinfo_caller w client cmd vars caller
  | other => rfl

/-- **Only a call that is taken down is remembered**, whatever becomes of it. -/
theorem tryHandleClientCommand_caller {w : ClientCommandWorld P} {client : P}
    (hplayer : w.player = .ok client) (cmd : String) (caller : Option P) :
    (tryHandleClientCommand w cmd caller).caller =
      if w.registered "client_command" &&
          (letThrough w client cmd).any (fun text => isCallvote (classify text)) &&
          !w.isVoteActive && w.registered "vote_started" then some client
      else caller := by
  unfold tryHandleClientCommand letThrough
  simp only [hplayer]
  cases w.registered "client_command" with
  | false => rfl
  | true =>
    cases w.dispatch client cmd with
    | error e => rfl
    | ok returnValue =>
      cases hfalse : returnValue.isFalse with
      | true => simp [hfalse]
      | false =>
        simp only [hfalse, Bool.not_true, Bool.false_eq_true, if_false, Option.any_some,
          Bool.true_and]
        exact act_caller w client _ caller _

theorem callerAfter_eq {w : ClientCommandWorld P} {client : P} (hplayer : w.player = .ok client)
    (clientOk hasGentity : Bool) (cmd : String) (caller : Option P) :
    callerAfter clientOk hasGentity w cmd caller =
      if takenDown clientOk hasGentity w client cmd then some client else caller := by
  unfold callerAfter takenDown
  cases asked clientOk hasGentity w cmd with
  | false => rfl
  | true => simp only [if_true, tryHandleClientCommand_caller hplayer, Bool.true_and]

/-- The caller that is remembered is that of the last vote that was taken down. -/
def Remembers (s : VoteServer P) : Prop := s.caller = s.called.head?.bind VoteOrigin.caller

theorem remembers_start (voteString : String) : (start voteString : VoteServer P).Remembers := rfl

theorem remembers_callvote {s : VoteServer P} (hs : s.Remembers) (registered level : Bool)
    (vote display : String) : (callvote registered level vote display s).2.Remembers := by
  unfold callvote
  split
  · exact hs
  · split
    · exact hs
    · cases hcalled : levelCallvote level vote display with
      | ok value => simp [pyshinqlxCallvote, hcalled, Remembers, VoteOrigin.caller]
      | err e => simp [pyshinqlxCallvote, hcalled, Remembers, VoteOrigin.caller]
      | panic => simp [pyshinqlxCallvote, hcalled, Remembers, VoteOrigin.caller]

/-- **What is remembered** is the caller of the last vote that was taken down, after every
step. -/
theorem remembers_step (s : VoteServer P) (call : VoteCall P) (hs : s.Remembers) :
    (s.step call).2.Remembers := by
  cases call with
  | clientCommand client clientOk hasGentity w cmd =>
    show callerAfter clientOk hasGentity (s.clientWorld client w) cmd s.caller = _
    rw [callerAfter_eq rfl]
    simp only [step]
    cases takenDown clientOk hasGentity (s.clientWorld client w) client cmd with
    | false => exact hs
    | true => rfl
  | execute k vote =>
    unfold step
    dsimp only
    split <;> exact hs
  | pluginCallvote registered level vote display => exact remembers_callvote hs _ _ _ _
  | shinqlxCallvote level vote display => exact hs
  | setVoteString value => exact hs
  | setConfigstring k w ad =>
    unfold step
    dsimp only
    split <;> exact hs
  | store k =>
    unfold step
    dsimp only
    split <;> exact hs

/-! ## Votes that start -/

/-- The handlers of `set_configstring` let a vote string through, and it is not empty. -/
def Starts (w : ConfigstringWorld) (value : String) : Prop :=
  w.engine.isSome = true ∧ w.initialized = true ∧ ∃ vote, vote ≠ "" ∧ Sets w value vote

theorem sets_of_startedVotes {w : ConfigstringWorld} {value : String} {ad : Int}
    (h : startedVotes (tryHandleSetConfigstring w csVoteString value ad) ≠ []) :
    ∃ vote, Sets w value vote := by
  unfold tryHandleSetConfigstring at h
  cases hdispatch : w.dispatch csVoteString value with
  | error e => simp [hdispatch, startedVotes] at h
  | ok result =>
    cases hfalse : result.isFalse with
    | true => simp [hdispatch, hfalse, startedVotes] at h
    | false => exact ⟨_, result, hdispatch, hfalse, rfl⟩

/-- **The dispatch of a vote string** happens exactly if it starts a vote, and reports the
caller that is remembered. -/
theorem voteStarted_cases (s : VoteServer P) (w : ConfigstringWorld) (ad : Int)
    (origin : VoteOrigin P) (value : String) :
    (Starts w value ∧ ∃ vote args,
        s.voteStarted w ad origin value = some ⟨origin, s.caller, vote, args⟩) ∨
      (¬ Starts w value ∧ s.voteStarted w ad origin value = none) := by
  unfold voteStarted
  cases hengine : w.engine.isSome with
  | false => exact .inr ⟨fun ⟨h, _⟩ => absurd (hengine.symm.trans h) Bool.false_ne_true, rfl⟩
  | true =>
    cases hinit : w.initialized with
    | false => exact .inr ⟨fun ⟨_, h, _⟩ => absurd (hinit.symm.trans h) Bool.false_ne_true, rfl⟩
    | true =>
      rw [Bool.and_self, if_pos rfl]
      by_cases hstarts : ∃ vote, vote ≠ "" ∧ Sets w value vote
      · obtain ⟨vote, hne, hsets⟩ := hstarts
        refine .inl ⟨⟨hengine, hinit, vote, hne, hsets⟩, ?_⟩
        rw [VoteString.startedVotes_eq hsets ad, if_neg hne]
        exact ⟨_, _, rfl⟩
      · refine .inr ⟨fun ⟨_, _, h⟩ => hstarts h, ?_⟩
        have hnone : startedVotes (tryHandleSetConfigstring w csVoteString value ad) = [] := by
          by_contra hsome
          obtain ⟨vote, hsets⟩ := sets_of_startedVotes hsome
          rw [VoteString.startedVotes_eq hsets ad] at hsome
          exact hstarts ⟨vote, fun h => hsome (if_pos h), hsets⟩
        rw [hnone]
        rfl

/-- The last vote that was taken down was called by the client who starts one, or, if no
client does, not by a client. -/
def CalledLast (s : VoteServer P) : VoteOrigin P → Prop
  | .client player => s.called.head? = some (.client player)
  | .pluginCallvote | .shinqlxCallvote | .server =>
    ∀ player, s.called.head? ≠ some (.client player)

/-- A vote that starts is the last one that was taken down. -/
def FollowsCall (s : VoteServer P) : VoteCall P → Prop
  | .setConfigstring k w _ => ∀ origin value, s.updates[k]? = some (origin, value) →
      Starts w value → s.CalledLast origin
  | _ => True

/-- A vote is reported with the caller it has. -/
def Attributed (st : Run.Step (VoteServer P) (VoteCall P) (Option (VoteStarted P))) : Prop :=
  ∀ started ∈ st.result, started.caller = started.origin.caller

theorem caller_eq_iff {s : VoteServer P} (hs : s.Remembers) (origin : VoteOrigin P) :
    s.caller = origin.caller ↔ s.CalledLast origin := by
  rw [hs]
  cases hlast : s.called.head? with
  | none => cases origin <;> simp [CalledLast, hlast, VoteOrigin.caller]
  | some last =>
    cases last <;> cases origin <;> simp [CalledLast, hlast, VoteOrigin.caller]

theorem attributed_take_iff (s : VoteServer P) (call : VoteCall P) (hs : s.Remembers) :
    Attributed (Run.take step s call) ↔ s.FollowsCall call := by
  cases call with
  | setConfigstring k w ad =>
    show (∀ started ∈ (s.step (.setConfigstring k w ad)).1, _) ↔
      ∀ origin value, s.updates[k]? = some (origin, value) → Starts w value →
        s.CalledLast origin
    cases hupdate : s.updates[k]? with
    | none => simp [step, hupdate]
    | some update =>
      obtain ⟨origin, value⟩ := update
      have hresult : (s.step (.setConfigstring k w ad)).1 = s.voteStarted w ad origin value := by
        simp only [step, hupdate]
      rw [hresult]
      rcases s.voteStarted_cases w ad origin value with
        ⟨hstarts, vote, args, hstarted⟩ | ⟨hnot, hstarted⟩
      · rw [hstarted]
        constructor
        · rintro h origin' value' ⟨⟩ -
          exact (caller_eq_iff hs origin).mp (h _ rfl)
        · rintro h started ⟨⟩
          exact (caller_eq_iff hs origin).mpr (h origin value rfl hstarts)
      · rw [hstarted]
        constructor
        · rintro - origin' value' ⟨⟩ hstarts
          exact absurd hstarts hnot
        · rintro - started ⟨⟩
  | execute k vote =>
    refine iff_of_true ?_ trivial
    show ∀ started ∈ (s.step (.execute k vote)).1, _
    unfold step
    dsimp only
    split <;> rintro started ⟨⟩
  | store k =>
    refine iff_of_true ?_ trivial
    show ∀ started ∈ (s.step (.store k)).1, _
    unfold step
    dsimp only
    split <;> rintro started ⟨⟩
  | clientCommand | pluginCallvote | shinqlxCallvote | setVoteString =>
    refine iff_of_true ?_ trivial
    rintro started ⟨⟩

/-- **Votes are reported with their callers** along a run exactly if each vote that starts
follows the last call that was taken down while no vote was active: a client's vote that
client's call, and a vote of a plugin or of the server no client's call. -/
theorem attributed_iff (voteString : String) (calls : List (VoteCall P)) :
    (∀ st ∈ Run.steps step (start voteString) calls, Attributed st) ↔
      ∀ st ∈ Run.steps step (start voteString) calls, st.before.FollowsCall st.call :=
  Run.forall_steps_iff Remembers attributed_take_iff (fun s call hs _ => remembers_step s call hs)
    (remembers_start voteString) calls

/-- A server that lets every command through, but for what the handlers of `vote_called`
answer. -/
def answering (client : P) (answer : PyValue) : ClientCommandWorld P where
  initialized := true
  player := .ok client
  userInfo := fun _ => ""
  registered := fun _ => true
  dispatch := fun _ _ => .ok .none
  raise := fun _ _ => .ok answer
  channel := fun _ => true
  isVoteActive := false
  team := fun _ => .ok "free"
  pick := fun _ => 0
  update := fun _ _ => .ok []
  display := fun _ => ""

/-- After a call that the handlers of `vote_called` stopped, a vote by `shinqlx.callvote` is
reported as that client's; and after a client's vote the next one of the server is. -/
theorem caller_stays :
    (Run.steps step (start "")
      [.clientCommand "sarge" true true (answering "sarge" (.bool false)) "callvote map aerowalk",
        .shinqlxCallvote true "kick doom" "kick doom",
        .setConfigstring 0 VoteString.setting 0]).map (·.result) =
      [none, none, some ⟨.shinqlxCallvote, some "sarge", "kick", "doom"⟩] ∧
    (Run.steps step (start "")
      [.clientCommand "sarge" true true (answering "sarge" .none) "callvote map aerowalk",
        .execute 0 (some "map aerowalk"), .setConfigstring 0 VoteString.setting 0, .store 0,
        .setVoteString "", .setConfigstring 0 VoteString.setting 0, .store 0,
        .setVoteString "map ztn", .setConfigstring 0 VoteString.setting 0]).map (·.result) =
      [none, none, some ⟨.client "sarge", some "sarge", "map", "aerowalk"⟩, none, none, none, none,
        none, some ⟨.server, some "sarge", "map", "ztn"⟩] := by
  decide +kernel

end VoteServer
end ShinQlx
