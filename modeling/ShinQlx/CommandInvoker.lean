import ShinQlx.Command
import ShinQlx.EventDispatcher

/-! # The command registry

A `CommandInvoker` keeps five lists of commands, one for each priority.
`addCommand` refuses a command that is registered already and `removeCommand` one
that is not; like the hook registry, both queue the call for the next frame while
somebody reads the registry.  Unlike there, the check comes first.

`isRegistered` and the removal disagree on what the same command is.  The check
wants the stored names among the given ones and the handlers equal, the removal
wants the given names among the stored ones and the handlers not different
(`isMatch`, `isDropped`).  `commandSpec_run_iff` says when the registry keeps its
promise all the same.
-/
namespace ShinQlx

/-- The `commands` field of the invoker. -/
abbrev Commands (Pl H C : Type) := Fin 5 → List (Command Pl H C)

/-- A call of `add_command` or `remove_command`. -/
inductive CommandCall (Pl H C : Type) where
  | add (command : Command Pl H C) (priority : Nat)
  | remove (command : Command Pl H C)
  deriving DecidableEq, Repr

namespace Command
variable {Pl H C : Type} [PyCompare H]

/-- A stored command counts as the given one. -/
def isMatch (given stored : Command Pl H C) : Bool :=
  stored.name.length = given.name.length && stored.name.all (given.name.contains ·) &&
    PyCompare.equals stored.handler given.handler

/-- A stored command goes when the given one is removed. -/
def isDropped (given stored : Command Pl H C) : Bool :=
  !(stored.name.length ≠ given.name.length || !given.name.all (stored.name.contains ·) ||
    PyCompare.maybeDiffers stored.handler given.handler)

end Command

namespace CommandInvoker
variable {Pl H C : Type} [PyCompare H]

/-- The error of adding a command twice. -/
def alreadyRegistered : PyErr :=
  .valueError "Attempted to add an already registered command."

/-- The error of removing a command that is not registered. -/
def neverAdded : PyErr :=
  .valueError "Attempted to remove a command that was never added."

/-- `CommandInvokerMethods::is_registered`. -/
def isRegistered (command : Command Pl H C) (commands : Commands Pl H C) : Bool :=
  (Levels.flatten commands).any (Command.isMatch command)

/-- Queues `call` for the next frame, through a Python function built for it. -/
def deferCommand (env : CallEnv) (call : CommandCall Pl H C) (commands : Commands Pl H C) :
    Reply (Commands Pl H C) (CommandCall Pl H C) :=
  match env.nextFrame with
  | .error e => ⟨.err e, commands, []⟩
  | .ok () => ⟨.ok (), commands, [call]⟩

/-- `CommandInvokerMethods::add_command`.  The priority is an index that nothing
has checked. -/
def addCommand (env : CallEnv) (command : Command Pl H C) (priority : Nat)
    (commands : Commands Pl H C) : Reply (Commands Pl H C) (CommandCall Pl H C) :=
  if isRegistered command commands then ⟨.err alreadyRegistered, commands, []⟩
  else if env.held then deferCommand env (.add command priority) commands
  else if h : priority < 5 then ⟨.ok (), Levels.push ⟨priority, h⟩ command commands, []⟩
  else ⟨.panic, commands, []⟩

/-- `CommandInvokerMethods::remove_command`. -/
def removeCommand (env : CallEnv) (command : Command Pl H C) (commands : Commands Pl H C) :
    Reply (Commands Pl H C) (CommandCall Pl H C) :=
  if !isRegistered command commands then ⟨.err neverAdded, commands, []⟩
  else if env.held then deferCommand env (.remove command) commands
  else ⟨.ok (), Levels.keep (!Command.isDropped command ·) commands, []⟩

/-- One call on the registry. -/
def applyCall (env : CallEnv) (commands : Commands Pl H C) :
    CommandCall Pl H C → Reply (Commands Pl H C) (CommandCall Pl H C)
  | .add command priority => addCommand env command priority commands
  | .remove command => removeCommand env command commands

/-- The registry as a machine for `Run`. -/
def step (commands : Commands Pl H C) (c : CallEnv × CommandCall Pl H C) :
    Reply (Commands Pl H C) (CommandCall Pl H C) × Commands Pl H C :=
  let reply := applyCall c.1 commands c.2
  (reply, reply.state)

/-- The empty registry. -/
def empty : Commands Pl H C := fun _ => []

/-! ## What a call can do -/

theorem addCommand_of_registered {command : Command Pl H C} {commands : Commands Pl H C}
    (h : isRegistered command commands = true) (env : CallEnv) (priority : Nat) :
    addCommand env command priority commands = ⟨.err alreadyRegistered, commands, []⟩ :=
  if_pos h

/-- Adding a command that is not registered: it is queued, stored, or out of
range. -/
theorem addCommand_of_new {command : Command Pl H C} {commands : Commands Pl H C}
    (h : isRegistered command commands = false) (env : CallEnv) (priority : Nat) :
    (env.held = true ∧
      addCommand env command priority commands =
        deferCommand env (.add command priority) commands) ∨
    (env.held = false ∧ ∃ i : Fin 5, priority = i ∧
      addCommand env command priority commands = ⟨.ok (), Levels.push i command commands, []⟩) ∨
    (env.held = false ∧ 5 ≤ priority ∧
      addCommand env command priority commands = ⟨.panic, commands, []⟩) := by
  unfold addCommand
  rw [if_neg (Bool.eq_false_iff.mp h)]
  cases hheld : env.held with
  | true => exact .inl ⟨rfl, if_pos rfl⟩
  | false =>
    rw [if_neg Bool.false_ne_true]
    by_cases hp : priority < 5
    · exact .inr (.inl ⟨rfl, ⟨priority, hp⟩, rfl, dif_pos hp⟩)
    · exact .inr (.inr ⟨rfl, Nat.le_of_not_lt hp, dif_neg hp⟩)

theorem removeCommand_of_unregistered {command : Command Pl H C} {commands : Commands Pl H C}
    (h : isRegistered command commands = false) (env : CallEnv) :
    removeCommand env command commands = ⟨.err neverAdded, commands, []⟩ :=
  if_pos (by rw [h]; rfl)

theorem removeCommand_of_registered {command : Command Pl H C} {commands : Commands Pl H C}
    (h : isRegistered command commands = true) (env : CallEnv) :
    removeCommand env command commands =
      if env.held then deferCommand env (.remove command) commands
      else ⟨.ok (), Levels.keep (!Command.isDropped command ·) commands, []⟩ :=
  if_neg (by simp [h])

theorem isRegistered_eq_false_iff {command : Command Pl H C} {commands : Commands Pl H C} :
    isRegistered command commands = false ↔
      ∀ stored ∈ Levels.flatten commands, Command.isMatch command stored = false := by
  simp [isRegistered]

/-- A registered command is of no use as a pushed one: only new commands are
stored. -/
theorem isRegistered_push {command : Command Pl H C} {commands : Commands Pl H C}
    (h : isRegistered command commands = false) (i : Fin 5) :
    isRegistered command (Levels.push i command commands) = Command.isMatch command command := by
  rw [Bool.eq_iff_iff, isRegistered, List.any_eq_true]
  constructor
  · rintro ⟨stored, hmem, hm⟩
    rcases Levels.mem_flatten_push.mp hmem with hold | rfl
    · exact absurd (hm.symm.trans (isRegistered_eq_false_iff.mp h stored hold)) (by simp)
    · exact hm
  · exact fun hm => ⟨command, Levels.mem_flatten_push.mpr (.inr rfl), hm⟩

end CommandInvoker
end ShinQlx
