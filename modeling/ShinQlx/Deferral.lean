import ShinQlx.Deferred
import ShinQlx.RegistryCalls

/-! # Registry changes made while a dispatch runs

A handler that changes a registry while a dispatch holds it has its call queued for a
later frame, where it is made again.  `Dispatching` is a server that takes calls, some of
them made by handlers, and runs frames in between; it numbers the calls and notes how
each one came out, at once or when its task ran.

The registry promises that this comes to the same as making the calls one after the
other with nothing held.  It keeps that promise for runs of `Deferrable` calls
(`deferral`): hook changes are only checked when their task runs, but `add_command` and
`remove_command` are checked against the registry as it is when they are queued, and a
call made outside overtakes the tasks that wait for the same registry.
-/
namespace ShinQlx

/-- The registry that a call goes to: the dispatcher of an event, or the commands. -/
def Task.registry {H C : Type} : Task H C → Option String
  | .hook task => some task.event
  | .command _ => none

/-- The registry that a call goes to is held. -/
def Env.held {H C : Type} (env : Env) : Task H C → Bool
  | .hook task => env.heldEvent task.event
  | .command _ => env.heldCommands

/-- `add_command` and `remove_command` refuse the call at once, held or not. -/
def CommandInvoker.refuses {Pl H C : Type} [PyCompare H] (commands : Commands Pl H C) :
    CommandCall Pl H C → Bool
  | .add command _ => isRegistered command commands
  | .remove command => !isRegistered command commands

namespace Registries
variable {H C : Type} [PyCompare H]

/-- Makes a call and tells how it came out; `none` if its registry cannot be had. -/
def issue (env : Env) (r : Registries H C) (call : Task H C) :
    Option (Outcome Unit) × Registries H C :=
  (match call with
    | .hook task => (r.callHook env task.event task.call).map Prod.fst
    | .command call => (r.callCommand env call).map Prod.fst, r.perform env call)

/-- Runs the first `n` tasks that wait, the ones that were handed to the frame. -/
def runTasks (zmqStatsEnable : PyResult (Option String)) (n : Nat) (r : Registries H C) :
    Registries H C :=
  (r.tasks.take n).foldl (perform (Env.idle zmqStatsEnable)) { r with tasks := r.tasks.drop n }

/-! ## Calls outside of every dispatch -/

variable {zmqStatsEnable : PyResult (Option String)}

theorem issue_of_callHook {env : Env} {event : String} {call : HookCall H} {o : Outcome Unit}
    {r r' : Registries H C} (h : r.callHook env event call = some (o, r')) :
    r.issue env (.hook ⟨event, call⟩) = (some o, r') := by
  rw [issue, perform, h]
  rfl

theorem issue_of_callCommand {env : Env} {call : CommandCall String H C} {o : Outcome Unit}
    {r r' : Registries H C} (h : r.callCommand env call = some (o, r')) :
    r.issue env (.command call) = (some o, r') := by
  rw [issue, perform, h]
  rfl

theorem issue_hook_none {event : String} {r : Registries H C} (h : r.dispatcher event = none)
    (env : Env) (call : HookCall H) : r.issue env (.hook ⟨event, call⟩) = (none, r) := by
  rw [issue, perform, callHook_of_none h]
  rfl

theorem issue_hook_free {env : Env} {event : String} {r : Registries H C} {d : Dispatcher H}
    (h : r.dispatcher event = some d) (hheld : env.heldEvent event = false) (call : HookCall H) :
    r.issue env (.hook ⟨event, call⟩) =
      let reply :=
        EventDispatcher.applyCall d.type ⟨false, env.zmqStatsEnable, .ok ()⟩ d.plugins call
      (some reply.outcome, r.setPlugins event reply.state) := by
  rw [issue, perform, callHook_free hheld, h]
  rfl

theorem issue_command_none {r : Registries H C} (h : r.commands = none) (env : Env)
    (call : CommandCall String H C) : r.issue env (.command call) = (none, r) := by
  rw [issue, perform, callCommand, h]
  rfl

theorem issue_command_free {env : Env} {r : Registries H C} {commands : Commands String H C}
    (h : r.commands = some commands) (hheld : env.heldCommands = false)
    (call : CommandCall String H C) :
    r.issue env (.command call) =
      let reply := CommandInvoker.applyCall ⟨false, .ok none, .ok ()⟩ commands call
      (some reply.outcome, r.setCommands reply.state) := by
  rw [issue, perform, callCommand_free hheld, h]
  rfl

/-- A call that is refused leaves the registries alone, and the answer to it does not
depend on what is held. -/
theorem issue_refused (call : CommandCall String H C) :
    ∃ e, ∀ (env : Env) {r : Registries H C} {commands : Commands String H C},
      r.commands = some commands → CommandInvoker.refuses commands call = true →
      r.issue env (.command call) = (some (.err e), r) := by
  cases call with
  | add command priority =>
    refine ⟨CommandInvoker.alreadyRegistered, fun env r commands h hrefused => ?_⟩
    have hreply := CommandInvoker.addCommand_of_registered hrefused env.command priority
    exact issue_of_callCommand (callCommand_of_state h hreply)
  | remove command =>
    refine ⟨CommandInvoker.neverAdded, fun env r commands h hrefused => ?_⟩
    have hnew : CommandInvoker.isRegistered command commands = false := by
      simpa [CommandInvoker.refuses] using hrefused
    have hreply := CommandInvoker.removeCommand_of_unregistered hnew env.command
    exact issue_of_callCommand (callCommand_of_state h hreply)

/-- What becomes of a call on commands that a dispatch holds. -/
theorem issue_command_held {env : Env} {r : Registries H C} {commands : Commands String H C}
    (h : r.commands = some commands) (hheld : env.heldCommands = true)
    (call : CommandCall String H C) :
    CommandInvoker.refuses commands call = true ∨
    (∃ e, env.nextFrame = .error e ∧ r.issue env (.command call) = (some (.err e), r)) ∨
    r.issue env (.command call) = (some (.ok ()), r.queue (.command call)) := by
  cases hrefused : CommandInvoker.refuses commands call with
  | true => exact .inl rfl
  | false =>
    have hreply : CommandInvoker.applyCall env.command commands call =
        CommandInvoker.deferCommand env.command call commands := by
      cases call with
      | add command priority =>
        rcases CommandInvoker.addCommand_of_new hrefused env.command priority with
          ⟨-, hs⟩ | ⟨hfree, -⟩ | ⟨hfree, -⟩
        · exact hs
        · exact absurd (hheld.symm.trans hfree) (by simp)
        · exact absurd (hheld.symm.trans hfree) (by simp)
      | remove command =>
        have hreg : CommandInvoker.isRegistered command commands = true := by
          simpa [CommandInvoker.refuses] using hrefused
        exact (CommandInvoker.removeCommand_of_registered hreg env.command).trans (if_pos hheld)
    rcases callCommand_of_deferred h hreply with ⟨e, he, hcall⟩ | ⟨-, hcall⟩
    · exact .inr (.inl ⟨e, he, issue_of_callCommand hcall⟩)
    · exact .inr (.inr (issue_of_callCommand hcall))

/-- A call on a registry that a dispatch holds at most leaves a task. -/
theorem issue_held {env : Env} {call : Task H C} (h : env.held call = true)
    (r : Registries H C) : ∃ tasks, (r.issue env call).2 = { r with tasks := tasks } := by
  cases call with
  | hook task =>
    obtain ⟨event, call⟩ := task
    have hheld : env.heldEvent event = true := h
    cases hd : r.dispatcher event with
    | none => exact ⟨r.tasks, congrArg Prod.snd (issue_hook_none hd env call)⟩
    | some d =>
      cases call with
      | add plugin handler priority =>
        rcases callHook_add_cases hd env plugin handler priority with
          ⟨e, hcall⟩ | ⟨name, -, -, hcall⟩ | ⟨hfree, -⟩
        · exact ⟨r.tasks, congrArg Prod.snd (issue_of_callHook hcall)⟩
        · exact ⟨_, congrArg Prod.snd (issue_of_callHook hcall)⟩
        · exact absurd (hheld.symm.trans hfree) (by simp)
      | remove plugin handler priority =>
        rcases callHook_remove_cases hd env plugin handler priority with
          ⟨o, -, hcall, -⟩ | ⟨name, -, -, hcall⟩ | ⟨hfree, -⟩
        · exact ⟨r.tasks, congrArg Prod.snd (issue_of_callHook hcall)⟩
        · exact ⟨_, congrArg Prod.snd (issue_of_callHook hcall)⟩
        · exact absurd (hheld.symm.trans hfree) (by simp)
  | command call =>
    have hheld : env.heldCommands = true := h
    rcases Option.eq_none_or_eq_some r.commands with hcmd | ⟨commands, hcmd⟩
    · exact ⟨r.tasks, congrArg Prod.snd (issue_command_none hcmd env call)⟩
    · rcases issue_command_held hcmd hheld call with hrefused | ⟨e, -, hissue⟩ | hissue
      · obtain ⟨e, he⟩ := issue_refused call
        exact ⟨r.tasks, congrArg Prod.snd (he env hcmd hrefused)⟩
      · exact ⟨r.tasks, congrArg Prod.snd hissue⟩
      · exact ⟨_, congrArg Prod.snd hissue⟩

omit [PyCompare H] in
theorem setPlugins_comm {event event' : String} (h : event ≠ event') (plugins plugins' : Plugins H)
    (r : Registries H C) :
    (r.setPlugins event plugins).setPlugins event' plugins' =
      (r.setPlugins event' plugins').setPlugins event plugins := by
  unfold setPlugins
  cases r.dispatchers with
  | none => rfl
  | some ds =>
    simp only [Option.map_some]
    rw [Assoc.modify_comm h.symm]

/-- **Calls on different registries do not see each other.** -/
theorem independent {a b : Task H C} (h : a.registry ≠ b.registry) :
    Deferred.Independent (issue (Env.idle zmqStatsEnable)) a b := by
  have hook_command : ∀ (task : HookTask H) (call : CommandCall String H C),
      Deferred.Independent (issue (Env.idle zmqStatsEnable)) (.hook task) (.command call) := by
    rintro ⟨event, hookCall⟩ call r
    cases hd : r.dispatcher event with
    | none =>
      have hd' : ∀ state, (r.setCommands state).dispatcher event = none := fun _ => hd
      rw [issue_hook_none hd]
      cases hcmd : r.commands with
      | none =>
        rw [issue_command_none hcmd, issue_hook_none hd]
        exact ⟨rfl, rfl, rfl⟩
      | some commands =>
        rw [issue_command_free hcmd rfl, issue_hook_none (hd' _)]
        exact ⟨rfl, rfl, rfl⟩
    | some d =>
      have hd' : ∀ state, (r.setCommands state).dispatcher event = some d := fun _ => hd
      rw [issue_hook_free hd rfl]
      cases hcmd : r.commands with
      | none =>
        rw [issue_command_none hcmd, issue_hook_free hd rfl,
          issue_command_none (r := r.setPlugins event _) hcmd]
        exact ⟨rfl, rfl, rfl⟩
      | some commands =>
        rw [issue_command_free hcmd rfl, issue_hook_free (hd' _) rfl,
          issue_command_free (r := r.setPlugins event _) hcmd rfl]
        exact ⟨rfl, rfl, rfl⟩
  cases a with
  | hook task =>
    cases b with
    | command call => exact hook_command task call
    | hook task' =>
      obtain ⟨event, call⟩ := task
      obtain ⟨event', call'⟩ := task'
      have hne : event ≠ event' := fun he => h (congrArg some he)
      intro r
      cases hd : r.dispatcher event with
      | none =>
        rw [issue_hook_none hd]
        cases hd' : r.dispatcher event' with
        | none =>
          rw [issue_hook_none hd', issue_hook_none hd]
          exact ⟨rfl, rfl, rfl⟩
        | some d' =>
          have hkeep : ∀ plugins, (r.setPlugins event' plugins).dispatcher event = none := by
            intro plugins
            rw [dispatcher_setPlugins hd', if_neg hne, hd]
          rw [issue_hook_free hd' rfl, issue_hook_none (hkeep _)]
          exact ⟨rfl, rfl, rfl⟩
      | some d =>
        have hkeep : ∀ plugins, (r.setPlugins event plugins).dispatcher event' =
            r.dispatcher event' := by
          intro plugins
          rw [dispatcher_setPlugins hd, if_neg hne.symm]
        rw [issue_hook_free hd rfl]
        cases hd' : r.dispatcher event' with
        | none =>
          rw [issue_hook_none hd', issue_hook_free hd rfl, issue_hook_none ((hkeep _).trans hd')]
          exact ⟨rfl, rfl, rfl⟩
        | some d' =>
          have hkeep' : ∀ plugins, (r.setPlugins event' plugins).dispatcher event = some d := by
            intro plugins
            rw [dispatcher_setPlugins hd', if_neg hne, hd]
          rw [issue_hook_free hd' rfl, issue_hook_free (hkeep' _) rfl,
            issue_hook_free ((hkeep _).trans hd') rfl]
          exact ⟨rfl, rfl, setPlugins_comm hne _ _ r⟩
  | command call =>
    cases b with
    | hook task =>
      intro r
      obtain ⟨hb, ha, hcomm⟩ := hook_command task call r
      exact ⟨ha, hb, hcomm.symm⟩
    | command call' => exact absurd rfl h

theorem foldl_perform_eq_final (tasks : List (Task H C)) (r : Registries H C) :
    tasks.foldl (perform (Env.idle zmqStatsEnable)) r =
      Run.final (issue (Env.idle zmqStatsEnable)) r tasks := by
  induction tasks generalizing r with
  | nil => rfl
  | cons task tasks ih => exact ih (r.perform (Env.idle zmqStatsEnable) task)

/-- Tasks run as calls outside of every dispatch. -/
theorem drain_eq_final (r : Registries H C) :
    r.drain zmqStatsEnable =
      Run.final (issue (Env.idle zmqStatsEnable)) { r with tasks := [] } r.tasks :=
  foldl_perform_eq_final _ _

/-- Outside of every dispatch the tasks that wait make no difference. -/
theorem issue_idle_tasks (r : Registries H C) (tasks : List (Task H C)) (call : Task H C) :
    issue (Env.idle zmqStatsEnable) { r with tasks := tasks } call =
      ((r.issue (Env.idle zmqStatsEnable) call).1,
        { (r.issue (Env.idle zmqStatsEnable) call).2 with tasks := tasks }) := by
  cases call with
  | hook task =>
    obtain ⟨event, call⟩ := task
    cases hd : r.dispatcher event with
    | none =>
      rw [issue_hook_none hd, issue_hook_none (r := { r with tasks := tasks }) hd]
    | some d =>
      rw [issue_hook_free hd rfl, issue_hook_free (r := { r with tasks := tasks }) hd rfl]
      rfl
  | command call =>
    rcases Option.eq_none_or_eq_some r.commands with hcmd | ⟨commands, hcmd⟩
    · rw [issue_command_none hcmd, issue_command_none (r := { r with tasks := tasks }) hcmd]
    · rw [issue_command_free hcmd rfl, issue_command_free (r := { r with tasks := tasks }) hcmd rfl]
      rfl

theorem final_idle_tasks (r : Registries H C) (tasks : List (Task H C)) (calls : List (Task H C)) :
    Run.final (issue (Env.idle zmqStatsEnable)) { r with tasks := tasks } calls =
      { Run.final (issue (Env.idle zmqStatsEnable)) r calls with tasks := tasks } := by
  induction calls generalizing r with
  | nil => rfl
  | cons call calls ih => rw [Run.final_cons, issue_idle_tasks, Run.final_cons, ih]

/-- Running tasks keeps the dispatchers and whether there are commands. -/
theorem issue_idle_frame (zmqStatsEnable : PyResult (Option String)) (r : Registries H C)
    (call : Task H C) :
    (∀ event, ((r.issue (Env.idle zmqStatsEnable) call).2.dispatcher event).map (·.type) =
        (r.dispatcher event).map (·.type)) ∧
      ((r.issue (Env.idle zmqStatsEnable) call).2.commands.isSome = r.commands.isSome) := by
  cases call with
  | hook task =>
    obtain ⟨event, call⟩ := task
    cases hd : r.dispatcher event with
    | none =>
      rw [issue_hook_none hd]
      exact ⟨fun _ => rfl, rfl⟩
    | some d =>
      rw [issue_hook_free hd rfl]
      refine ⟨fun event' => ?_, rfl⟩
      rw [dispatcher_setPlugins hd]
      by_cases he : event' = event
      · rw [if_pos he, he, hd, Option.map_some, Option.map_some]
      · rw [if_neg he]
  | command call =>
    cases hcmd : r.commands with
    | none =>
      rw [issue_command_none hcmd, hcmd]
      exact ⟨fun _ => rfl, rfl⟩
    | some commands =>
      rw [issue_command_free hcmd rfl]
      exact ⟨fun _ => rfl, rfl⟩

theorem final_idle_frame (zmqStatsEnable : PyResult (Option String)) (r : Registries H C)
    (calls : List (Task H C)) :
    (∀ event, ((Run.final (issue (Env.idle zmqStatsEnable)) r calls).dispatcher event).map
        (·.type) = (r.dispatcher event).map (·.type)) ∧
      ((Run.final (issue (Env.idle zmqStatsEnable)) r calls).commands.isSome =
        r.commands.isSome) := by
  refine Run.invariant
    (fun r' : Registries H C =>
      (∀ event, (r'.dispatcher event).map (·.type) = (r.dispatcher event).map (·.type)) ∧
        r'.commands.isSome = r.commands.isSome)
    (fun r' call h => ?_) (s := r) ⟨fun _ => rfl, rfl⟩ calls
  obtain ⟨htypes, hsome⟩ := issue_idle_frame zmqStatsEnable r' call
  exact ⟨fun event => (htypes event).trans (h.1 event), hsome.trans h.2⟩

theorem drain_frame (zmqStatsEnable : PyResult (Option String)) (r : Registries H C) :
    (∀ event, ((r.drain zmqStatsEnable).dispatcher event).map (·.type) =
        (r.dispatcher event).map (·.type)) ∧
      ((r.drain zmqStatsEnable).commands.isSome = r.commands.isSome) := by
  rw [drain_eq_final]
  exact final_idle_frame zmqStatsEnable { r with tasks := [] } r.tasks

theorem drain_idle {r : Registries H C} (h : r.tasks = []) : r.drain zmqStatsEnable = r := by
  rw [drain, h, List.foldl_nil, ← h]

/-- What a frame does with its tasks, and the tasks it leaves. -/
theorem runTasks_eq_final (n : Nat) (r : Registries H C) :
    r.runTasks zmqStatsEnable n =
      { Run.final (issue (Env.idle zmqStatsEnable)) { r with tasks := [] } (r.tasks.take n) with
        tasks := r.tasks.drop n } := by
  rw [runTasks, foldl_perform_eq_final, ← final_idle_tasks]

theorem runTasks_without_tasks (n : Nat) (r : Registries H C) :
    { r.runTasks zmqStatsEnable n with tasks := [] } =
      Run.final (issue (Env.idle zmqStatsEnable)) { r with tasks := [] } (r.tasks.take n) := by
  rw [runTasks_eq_final]
  exact (final_idle_tasks { r with tasks := [] } [] (r.tasks.take n)).symm

end Registries

/-! ## A server that takes calls and runs frames -/

/-- The registries, how many calls were issued, the numbers of those whose tasks wait,
and how the others came out. -/
structure Dispatching (H C : Type) where
  registries : Registries H C
  issued : Nat
  waiting : List Nat
  answers : List (Nat × Option (Outcome Unit))

/-- What can happen: somebody makes a call, or a frame runs the first of the tasks that
wait. -/
inductive Action (H C : Type) where
  | call (env : Env) (call : Task H C)
  | frame (tasks : Nat)

namespace Dispatching
variable {H C : Type} [PyCompare H] (zmqStatsEnable : PyResult (Option String))

/-- The server before the first call. -/
def start (r : Registries H C) : Dispatching H C := ⟨r, 0, [], []⟩

/-- What an action does.  A call was put off if it left a task. -/
def step (s : Dispatching H C) : Action H C → Unit × Dispatching H C
  | .call env call =>
    let (answer, r) := s.registries.issue env call
    if r.tasks.length = s.registries.tasks.length then
      ((), ⟨r, s.issued + 1, s.waiting, s.answers ++ [(s.issued, answer)]⟩)
    else ((), ⟨r, s.issued + 1, s.waiting ++ [s.issued], s.answers⟩)
  | .frame n =>
    ((), ⟨s.registries.runTasks zmqStatsEnable n, s.issued, s.waiting.drop n,
      s.answers ++ Deferred.answersFrom (Registries.issue (Env.idle zmqStatsEnable))
        { s.registries with tasks := [] } ((s.waiting.zip s.registries.tasks).take n)⟩)

end Dispatching

namespace Action
variable {H C : Type}

/-- The same action with nothing held. -/
def undeferred (zmqStatsEnable : PyResult (Option String)) : Action H C → Action H C
  | .call _ task => .call (Env.idle zmqStatsEnable) task
  | .frame n => .frame n

/-- The action is a call, made while a dispatch holds the hooks of an event. -/
def duringEvent (event : String) : Action H C → Bool
  | .call env _ => env.heldEvent event
  | .frame _ => false

/-- The action is a call, made while `handle_input` holds the commands. -/
def duringInput : Action H C → Bool
  | .call env _ => env.heldCommands
  | .frame _ => false

end Action

/-- A call that comes to the same in a later frame: while its registry is held it can be
queued, and is only refused at once if it would be refused after the waiting tasks too;
else no task waits for its registry. -/
structure Deferrable {H C : Type} [PyCompare H] (zmqStatsEnable : PyResult (Option String))
    (r : Registries H C) (env : Env) (call : Task H C) : Prop where
  cvar : ∀ event plugin handler priority, call = .hook ⟨event, .add plugin handler priority⟩ →
    env.zmqStatsEnable = zmqStatsEnable
  queued : env.held call = true → env.nextFrame = .ok ()
  checked : ∀ c commands commands', call = .command c → env.heldCommands = true →
    r.commands = some commands → (r.drain zmqStatsEnable).commands = some commands' →
    CommandInvoker.refuses commands c = true → CommandInvoker.refuses commands' c = true
  ordered : env.held call = false → ∀ waiting ∈ r.tasks, waiting.registry ≠ call.registry

namespace Registries
variable {H C : Type} [PyCompare H] {zmqStatsEnable : PyResult (Option String)}
  {r : Registries H C} {env : Env}

theorem drain_dispatcher (zmqStatsEnable : PyResult (Option String)) {event : String}
    {d : Dispatcher H} (h : r.dispatcher event = some d) :
    ∃ d', (r.drain zmqStatsEnable).dispatcher event = some d' ∧ d'.type = d.type := by
  have htype := (drain_frame zmqStatsEnable r).1 event
  rw [h, Option.map_some] at htype
  exact Option.map_eq_some_iff.mp htype

theorem drain_dispatcher_none {event : String} (h : r.dispatcher event = none) :
    (r.drain zmqStatsEnable).dispatcher event = none := by
  have htype := (drain_frame zmqStatsEnable r).1 event
  rw [h, Option.map_none] at htype
  exact Option.map_eq_none_iff.mp htype

/-- What becomes of a `Deferrable` call: it is refused, as it would be in the next frame;
it is made at once, as it would be with nothing held; or it is queued. -/
theorem issue_cases (hr : r.Named) {call : Task H C} (h : Deferrable zmqStatsEnable r env call) :
    (∃ answer, r.issue env call = (answer, r) ∧
      (r.drain zmqStatsEnable).issue (Env.idle zmqStatsEnable) call =
        (answer, r.drain zmqStatsEnable)) ∨
    (env.held call = false ∧ r.issue env call = r.issue (Env.idle zmqStatsEnable) call) ∨
    r.issue env call = (some (.ok ()), r.queue call) := by
  cases call with
  | hook task =>
    obtain ⟨event, call⟩ := task
    cases hd : r.dispatcher event with
    | none =>
      refine .inl ⟨none, issue_hook_none hd env call, ?_⟩
      exact issue_hook_none (drain_dispatcher_none hd) _ call
    | some d =>
      have hname := hr event d hd
      cases hheld : env.heldEvent event with
      | false =>
        refine .inr (.inl ⟨hheld, ?_⟩)
        rw [issue_hook_free hd hheld, issue_hook_free hd rfl]
        cases call with
        | add plugin handler priority => rw [h.cvar event plugin handler priority rfl, Env.idle]
        | remove plugin handler priority => rfl
      | true =>
        have hframe : env.nextFrame = .ok () := h.queued hheld
        cases call with
        | add plugin handler priority =>
          have henv : env.hook event = ⟨true, zmqStatsEnable, .ok ()⟩ := by
            rw [Env.hook, hheld, hframe, h.cvar event plugin handler priority rfl]
          rcases EventDispatcher.addHook_checks d.type zmqStatsEnable plugin handler priority with
            ⟨e, hs⟩ | ⟨i, name, -, hname', hs⟩
          · obtain ⟨d', hd', htype⟩ := drain_dispatcher zmqStatsEnable hd
            refine .inl ⟨some (.err e), issue_of_callHook (callHook_of_state hd ?_),
              issue_of_callHook (callHook_of_state hd' ?_)⟩
            · rw [henv]
              exact hs true (.ok ()) d.plugins
            · rw [htype]
              exact hs false (.ok ()) d'.plugins
          · cases Option.some.inj (hname.symm.trans hname')
            refine .inr (.inr (issue_of_callHook (callHook_of_queued hd ?_)))
            rw [henv]
            exact (hs true (.ok ())).2 d.plugins
        | remove plugin handler priority =>
          rcases callHook_remove_cases hd env plugin handler priority with
            ⟨o, -, -, hwhy⟩ | ⟨name, hname', -, hcall⟩ | ⟨hfree, -⟩
          · exact absurd hframe ((hwhy (by simp [hname])).1 hheld)
          · cases Option.some.inj (hname.symm.trans hname')
            exact .inr (.inr (issue_of_callHook hcall))
          · exact absurd (hheld.symm.trans hfree) (by simp)
  | command call =>
    cases hcmd : r.commands with
    | none =>
      have hnone : (r.drain zmqStatsEnable).commands = none := by
        have hsome := (drain_frame zmqStatsEnable r).2
        rw [hcmd] at hsome
        exact Option.not_isSome_iff_eq_none.mp (by simp [hsome])
      exact .inl ⟨none, issue_command_none hcmd env call, issue_command_none hnone _ call⟩
    | some commands =>
      cases hheld : env.heldCommands with
      | false =>
        refine .inr (.inl ⟨hheld, ?_⟩)
        rw [issue_command_free hcmd hheld, issue_command_free hcmd rfl]
      | true =>
        have hframe : env.nextFrame = .ok () := h.queued hheld
        have hsome := (drain_frame zmqStatsEnable r).2
        rw [hcmd, Option.isSome_some] at hsome
        obtain ⟨commands', hcmd'⟩ := Option.isSome_iff_exists.mp hsome
        rcases issue_command_held hcmd hheld call with hrefused | ⟨e, he, -⟩ | hissue
        · -- the next frame refuses it as well
          have hagain := h.checked call commands commands' rfl hheld hcmd hcmd' hrefused
          obtain ⟨e, he⟩ := issue_refused call
          exact .inl ⟨_, he env hcmd hrefused, he _ hcmd' hagain⟩
        · exact absurd (hframe.symm.trans he) (by simp)
        · exact .inr (.inr hissue)

end Registries

/-! ## Runs -/

namespace Dispatching
variable {H C : Type} [PyCompare H] {zmqStatsEnable : PyResult (Option String)}

/-- The server as a front end to the registries without tasks. -/
def front (s : Dispatching H C) :
    Deferred.Front (Registries H C) (Task H C) (Option (Outcome Unit)) :=
  ⟨{ s.registries with tasks := [] }, s.waiting.zip s.registries.tasks, s.answers⟩

/-- `s'` is where `s` gets with its tasks run. -/
structure Follows (zmqStatsEnable : PyResult (Option String)) (s s' : Dispatching H C) : Prop where
  named : s.registries.Named
  waiting : s.waiting.length = s.registries.tasks.length
  issued : s'.issued = s.issued
  idle : s'.registries.tasks = []
  settled : s'.waiting = []
  registries : s'.registries = s.registries.drain zmqStatsEnable
  answers : (Deferred.flush (Registries.issue (Env.idle zmqStatsEnable)) s.front).answers.Perm
    s'.answers

theorem flush_front {s : Dispatching H C} (h : s.waiting.length = s.registries.tasks.length) :
    (Deferred.flush (Registries.issue (Env.idle zmqStatsEnable)) s.front).state =
      s.registries.drain zmqStatsEnable := by
  rw [Registries.drain_eq_final, Deferred.flush, front, List.map_snd_zip h.ge]

theorem flush_of_idle {s : Dispatching H C} (h : s.registries.tasks = []) :
    (Deferred.flush (Registries.issue (Env.idle zmqStatsEnable)) s.front).answers = s.answers := by
  rw [Deferred.flush, front, h, List.zip_nil_right, Deferred.answersFrom, List.append_nil]

theorem step_call_registries (s : Dispatching H C) (env : Env) (call : Task H C) :
    (step zmqStatsEnable s (.call env call)).2.registries = (s.registries.issue env call).2 := by
  simp only [step]
  split <;> rfl

/-- A deferrable call is a sound decision of the front end. -/
theorem step_call {s : Dispatching H C} (hnamed : s.registries.Named)
    (hwaiting : s.waiting.length = s.registries.tasks.length) {env : Env} {call : Task H C}
    (h : Deferrable zmqStatsEnable s.registries env call) :
    ∃ d, Deferred.Sound (Registries.issue (Env.idle zmqStatsEnable)) s.front call d ∧
      (step zmqStatsEnable s (.call env call)).2.front =
        Deferred.issue (Registries.issue (Env.idle zmqStatsEnable)) s.front s.issued call d ∧
      (step zmqStatsEnable s (.call env call)).2.registries.Named ∧
      (step zmqStatsEnable s (.call env call)).2.waiting.length =
        (step zmqStatsEnable s (.call env call)).2.registries.tasks.length ∧
      (step zmqStatsEnable s (.call env call)).2.issued = s.issued + 1 := by
  -- whether a task was left tells the third case from the other two
  rcases Registries.issue_cases hnamed h with ⟨answer, hs, hagain⟩ | ⟨hheld, hs⟩ | hs
  · refine ⟨.refuse answer, ?_, ?_⟩
    · rw [Deferred.Sound, flush_front hwaiting]
      exact hagain
    · simp only [step, hs, if_true]
      exact ⟨rfl, hnamed, hwaiting, trivial⟩
  · have htasks : (s.registries.issue (Env.idle zmqStatsEnable) call).2.tasks =
        s.registries.tasks :=
      Registries.perform_idle_tasks zmqStatsEnable s.registries call
    refine ⟨.now, fun waiting hmem => ?_, ?_⟩
    · have hother := h.ordered hheld waiting.2 (List.of_mem_zip hmem).2
      exact Registries.independent (Ne.symm hother)
    · simp only [step, hs, htasks, if_true]
      refine ⟨?_, hnamed.of_types (Registries.issue_idle_frame zmqStatsEnable _ call).1, hwaiting,
        trivial⟩
      unfold front Deferred.issue
      simp only [htasks, Registries.issue_idle_tasks]
  · have hlonger : ¬ (s.registries.queue call).tasks.length = s.registries.tasks.length := by
      simp [Registries.queue]
    refine ⟨.later, trivial, ?_⟩
    simp only [step, hs, if_neg hlonger]
    refine ⟨?_, hnamed, by simp [Registries.queue, hwaiting], trivial⟩
    unfold front Deferred.issue
    simp only [Registries.queue, List.zip_append hwaiting, List.zip_cons_cons, List.zip_nil_right]

/-- **One call** keeps the two servers in step. -/
theorem Follows.call {s s' : Dispatching H C} (h : Follows zmqStatsEnable s s') {env : Env}
    {call : Task H C} (hcall : Deferrable zmqStatsEnable s.registries env call) :
    Follows zmqStatsEnable (step zmqStatsEnable s (.call env call)).2
      (step zmqStatsEnable s' (.call (Env.idle zmqStatsEnable) call)).2 := by
  obtain ⟨d, hsound, hfront, hnamed, hwaiting, hissued⟩ := step_call h.named h.waiting hcall
  obtain ⟨hstate, hanswers⟩ := Deferred.flush_issue hsound s.issued
  rw [← hfront, flush_front hwaiting, flush_front h.waiting, ← h.registries] at hstate
  rw [← hfront, flush_front h.waiting, ← h.registries] at hanswers
  have htasks : (s'.registries.issue (Env.idle zmqStatsEnable) call).2.tasks =
      s'.registries.tasks :=
    Registries.perform_idle_tasks zmqStatsEnable s'.registries call
  have hstep : (step zmqStatsEnable s' (.call (Env.idle zmqStatsEnable) call)).2 =
      ⟨(s'.registries.issue (Env.idle zmqStatsEnable) call).2, s'.issued + 1, s'.waiting,
        s'.answers ++ [(s'.issued, (s'.registries.issue (Env.idle zmqStatsEnable) call).1)]⟩ := by
    simp only [step, htasks, if_true]
  rw [hstep]
  refine
    { named := hnamed
      waiting := hwaiting
      issued := ?_
      idle := htasks.trans h.idle
      settled := h.settled
      registries := hstate.symm
      answers := ?_ }
  · rw [hissued, h.issued]
  · rw [h.issued]
    exact hanswers.trans (h.answers.append_right _)

/-- A frame runs the tasks that were handed to it. -/
theorem front_frame {s : Dispatching H C} (h : s.waiting.length = s.registries.tasks.length)
    (n : Nat) :
    (step zmqStatsEnable s (.frame n)).2.front =
      Deferred.runDue (Registries.issue (Env.idle zmqStatsEnable)) s.front n := by
  have hzip : (s.waiting.drop n).zip (s.registries.tasks.drop n) =
      (s.waiting.zip s.registries.tasks).drop n := by
    simp only [List.zip, List.drop_zipWith]
  have hdue : ((s.waiting.zip s.registries.tasks).take n).map Prod.snd =
      s.registries.tasks.take n := by
    rw [List.map_take, List.map_snd_zip h.ge]
  have hleft : (s.registries.runTasks zmqStatsEnable n).tasks = s.registries.tasks.drop n := by
    rw [Registries.runTasks_eq_final]
  rw [Deferred.runDue, front, front, hdue, ← hzip, ← Registries.runTasks_without_tasks]
  simp only [step, hleft]

/-- A frame keeps the two servers in step. -/
theorem Follows.frame {s s' : Dispatching H C} (h : Follows zmqStatsEnable s s') (n : Nat) :
    Follows zmqStatsEnable (step zmqStatsEnable s (.frame n)).2
      (step zmqStatsEnable s' (.frame n)).2 := by
  -- the sequential server has no task to run
  have hstep : (step zmqStatsEnable s' (.frame n)).2 = s' := by
    have hrun : s'.registries.runTasks zmqStatsEnable n = s'.registries := by
      rw [Registries.runTasks, h.idle, List.take_nil, List.drop_nil, List.foldl_nil, ← h.idle]
    simp only [step, hrun, h.settled, List.drop_nil, List.zip_nil_left, List.take_nil,
      Deferred.answersFrom, List.append_nil]
    rw [← h.settled]
  have hwaiting : (step zmqStatsEnable s (.frame n)).2.waiting.length =
      (step zmqStatsEnable s (.frame n)).2.registries.tasks.length := by
    simp [step, Registries.runTasks_eq_final, h.waiting]
  have hflush := Deferred.flush_runDue (Registries.issue (Env.idle zmqStatsEnable)) s.front n
  rw [← front_frame h.waiting] at hflush
  rw [hstep]
  refine
    { named := ?_
      waiting := hwaiting
      issued := h.issued
      idle := h.idle
      settled := h.settled
      registries := ?_
      answers := ?_ }
  · refine h.named.of_types (fun event => ?_)
    show ((s.registries.runTasks zmqStatsEnable n).dispatcher event).map _ = _
    rw [Registries.runTasks_eq_final]
    exact (Registries.final_idle_frame zmqStatsEnable { s.registries with tasks := [] } _).1 event
  · rw [← flush_front hwaiting, hflush, flush_front h.waiting]
    exact h.registries
  · rw [hflush]
    exact h.answers

/-- A whole run keeps the two servers in step. -/
theorem Follows.run {s s' : Dispatching H C} (h : Follows zmqStatsEnable s s')
    {actions : List (Action H C)}
    (hgood : ∀ st ∈ Run.steps (step zmqStatsEnable) s actions, ∀ env call,
      st.call = .call env call → Deferrable zmqStatsEnable st.before.registries env call) :
    Follows zmqStatsEnable (Run.final (step zmqStatsEnable) s actions)
      (Run.final (step zmqStatsEnable) s' (actions.map (Action.undeferred zmqStatsEnable))) := by
  induction actions generalizing s s' with
  | nil => exact h
  | cons action actions ih =>
    rw [Run.steps_cons, List.forall_mem_cons] at hgood
    cases action with
    | call env call => exact ih (h.call (hgood.1 env call rfl)) hgood.2
    | frame n => exact ih (h.frame n) hgood.2

theorem follows_start {r : Registries H C} (hnamed : r.Named) (hidle : r.tasks = []) :
    Follows zmqStatsEnable (start r) (start r) where
  named := hnamed
  waiting := by simp [start, hidle]
  issued := rfl
  idle := hidle
  settled := rfl
  registries := (Registries.drain_idle hidle).symm
  answers := by
    rw [flush_of_idle hidle]

theorem undisturbed_call (s : Dispatching H C) (env : Env) (call : Task H C) :
    (∀ event, env.heldEvent event = true →
      (s.registries.issue env call).2.dispatcher event = s.registries.dispatcher event) ∧
    (env.heldCommands = true →
      (s.registries.issue env call).2.commands = s.registries.commands) := by
  cases hheld : env.held call with
  | true =>
    obtain ⟨tasks, hs⟩ := Registries.issue_held hheld s.registries
    rw [hs]
    exact ⟨fun _ _ => rfl, fun _ => rfl⟩
  | false =>
    -- the call changes one registry, and nobody holds that one
    cases call with
    | hook task =>
      obtain ⟨event, call⟩ := task
      cases hd : s.registries.dispatcher event with
      | none =>
        rw [Registries.issue_hook_none hd]
        exact ⟨fun _ _ => rfl, fun _ => rfl⟩
      | some d =>
        rw [Registries.issue_hook_free hd hheld]
        refine ⟨fun event' hheld' => ?_, fun _ => rfl⟩
        rw [Registries.dispatcher_setPlugins hd, if_neg]
        rintro rfl
        exact absurd (hheld'.symm.trans hheld) (by simp)
    | command call =>
      have hfree : env.heldCommands = false := hheld
      rcases Option.eq_none_or_eq_some s.registries.commands with hcmd | ⟨commands, hcmd⟩
      · rw [Registries.issue_command_none hcmd]
        exact ⟨fun _ _ => rfl, fun _ => rfl⟩
      · rw [Registries.issue_command_free hcmd hfree]
        exact ⟨fun _ _ => rfl, by simp [hfree]⟩

/-- Calls that are made while a dispatch holds the hooks of an event leave them alone. -/
theorem undisturbed_event (s : Dispatching H C) {event : String} {during : List (Action H C)}
    (h : ∀ action ∈ during, action.duringEvent event = true) :
    (Run.final (step zmqStatsEnable) s during).registries.dispatcher event =
      s.registries.dispatcher event := by
  induction during generalizing s with
  | nil => rfl
  | cons action during ih =>
    rw [List.forall_mem_cons] at h
    rw [Run.final_cons, ih _ h.2]
    cases action with
    | call env call =>
      rw [step_call_registries]
      exact (undisturbed_call s env call).1 event h.1
    | frame n => cases h.1

/-- Calls that are made while `handle_input` holds the commands leave them alone. -/
theorem undisturbed_input (s : Dispatching H C) {during : List (Action H C)}
    (h : ∀ action ∈ during, action.duringInput = true) :
    (Run.final (step zmqStatsEnable) s during).registries.commands = s.registries.commands := by
  induction during generalizing s with
  | nil => rfl
  | cons action during ih =>
    rw [List.forall_mem_cons] at h
    rw [Run.final_cons, ih _ h.2]
    cases action with
    | call env call =>
      rw [step_call_registries]
      exact (undisturbed_call s env call).2 h.1
    | frame n => cases h.1

/-- **Registry changes made while a dispatch runs.**  Whatever is called during a
dispatch, or during `handle_input`, it goes through the registry as it was when it
began.  And in a run of deferrable calls from registries with no task waiting, once all
tasks have run the registries are what the same calls make of them one after the other,
with nothing held; and every call comes out as it does there, at once or when its task
runs. -/
theorem deferral {r : Registries H C} (hnamed : r.Named) (hidle : r.tasks = []) :
    (∀ (pre during : List (Action H C)) (event : String),
      (∀ action ∈ during, action.duringEvent event = true) →
      (Run.final (step zmqStatsEnable) (start r) (pre ++ during)).registries.dispatcher event =
        (Run.final (step zmqStatsEnable) (start r) pre).registries.dispatcher event) ∧
    (∀ pre during : List (Action H C), (∀ action ∈ during, action.duringInput = true) →
      (Run.final (step zmqStatsEnable) (start r) (pre ++ during)).registries.commands =
        (Run.final (step zmqStatsEnable) (start r) pre).registries.commands) ∧
    ∀ actions : List (Action H C),
      (∀ st ∈ Run.steps (step zmqStatsEnable) (start r) actions, ∀ env call,
        st.call = .call env call → Deferrable zmqStatsEnable st.before.registries env call) →
      let deferring := Run.final (step zmqStatsEnable) (start r) actions
      let sequential := Run.final (step zmqStatsEnable) (start r)
        (actions.map (Action.undeferred zmqStatsEnable))
      deferring.registries.tasks = [] →
        deferring.registries = sequential.registries ∧
          deferring.answers.Perm sequential.answers := by
  refine ⟨fun pre during event h => ?_, fun pre during h => ?_, fun actions hgood => ?_⟩
  · rw [Run.final_append]
    exact undisturbed_event _ h
  · rw [Run.final_append]
    exact undisturbed_input _ h
  · intro deferring sequential hran
    have hrun : Follows zmqStatsEnable deferring sequential :=
      (follows_start hnamed hidle).run hgood
    have hanswers := hrun.answers
    rw [flush_of_idle hran] at hanswers
    exact ⟨(hrun.registries.trans (Registries.drain_idle hran)).symm, hanswers⟩

/-- While a dispatch holds all registries. -/
def dispatching : Env := ⟨fun _ => true, true, .ok none, .ok ()⟩

/-- Handlers that hook the chat and add a command while a dispatch runs; the hook is
removed after the frame that runs both tasks. -/
def chatActions : List (Action PyFunction Unit) :=
  [.call dispatching (.hook ⟨"chat", .add "fun" ⟨0⟩ 2⟩),
    .call dispatching (.command (.add (kick ["kick"] "fun") 2)), .frame 2,
    .call (Env.idle (.ok none)) (.hook ⟨"chat", .remove "fun" ⟨0⟩ 2⟩)]

theorem deferral_chat :
    let deferring := Run.final (step (.ok none)) (start (smallRegistries [] [])) chatActions
    let sequential := Run.final (step (.ok none)) (start (smallRegistries [] []))
      (chatActions.map (Action.undeferred (.ok none)))
    deferring.registries = sequential.registries ∧
      deferring.answers.Perm sequential.answers := by
  refine (deferral (smallRegistries_named [] []) rfl).2.2 chatActions ?_ (by decide)
  simp only [chatActions, Run.steps_cons, Run.steps_nil, List.forall_mem_cons]
  refine ⟨?_, ?_, ?_, ?_, by simp⟩
  · rintro env call ⟨⟩
    exact ⟨fun _ _ _ _ _ => rfl, fun _ => rfl, by simp, by simp [Env.held, dispatching]⟩
  · rintro env call ⟨⟩
    refine ⟨by simp, fun _ => rfl, ?_, by simp [Env.held, dispatching]⟩
    rintro c commands commands' ⟨⟩ - ⟨⟩ - hrefused
    exact absurd hrefused (by decide)
  · rintro env call ⟨⟩
  · rintro env call ⟨⟩
    refine ⟨fun _ _ _ _ _ => rfl, by simp [Env.held, Env.idle], by simp, fun _ => ?_⟩
    rintro waiting ⟨⟩

/-- The registries that actions lead to from small ones. -/
def after (commands : List (Command String PyFunction Unit))
    (actions : List (Action PyFunction Unit)) : Registries PyFunction Unit :=
  (Run.final (step (.ok none)) (start (smallRegistries [] commands)) actions).registries

/-- A handler that removes a command and adds it again leaves it unregistered, and a
hook that is removed right after the dispatch that added it stays. -/
theorem deferral_broken :
    (let actions : List (Action PyFunction Unit) :=
      [.call dispatching (.command (.remove (kick ["kick"] "fun"))),
        .call dispatching (.command (.add (kick ["kick"] "fun") 2)), .frame 1]
    (after [kick ["kick"] "fun"] actions).tasks = [] ∧
      (after [kick ["kick"] "fun"] actions).allCommands = [] ∧
      (after [kick ["kick"] "fun"] (actions.map (Action.undeferred (.ok none)))).allCommands =
        [kick ["kick"] "fun"]) ∧
    (let actions : List (Action PyFunction Unit) :=
      [.call dispatching (.hook ⟨"chat", .add "fun" ⟨0⟩ 2⟩),
        .call (Env.idle (.ok none)) (.hook ⟨"chat", .remove "fun" ⟨0⟩ 2⟩), .frame 1]
    (after [] actions).tasks = [] ∧ (after [] actions).hooksOf "chat" "fun" 2 = [⟨0⟩] ∧
      (after [] (actions.map (Action.undeferred (.ok none)))).hooksOf "chat" "fun" 2 = []) := by
  decide

end Dispatching
end ShinQlx
