import ShinQlx.CommandInvoker

/-! # Consistency of the command registry

What a user of the invoker may expect of `add_command` and `remove_command`
(`CommandSpec`): no call panics, invalid input is an error that changes nothing,
an accepted `remove_command` removes exactly the commands that `is_registered`
finds, and it undoes an accepted `add_command`.

The code meets it as long as every call is `CommandGood`: the priority of a new
command indexes one of the five lists, and on the commands at hand `is_registered`
and the removal agree about what the same command is.
-/
namespace ShinQlx
namespace CommandInvoker
variable {Pl H C : Type} [PyCompare H]

/-- A step of the registry. -/
abbrev CommandStep (Pl H C : Type) :=
  Run.Step (Commands Pl H C) (CallEnv × CommandCall Pl H C)
    (Reply (Commands Pl H C) (CommandCall Pl H C))

/-- What a call on the command registry promises. -/
structure CommandSpec (st : CommandStep Pl H C) : Prop where
  no_panic : st.result.outcome ≠ .panic
  unchanged : ∀ e, st.result.outcome = .err e → st.after = st.before
  reported : ∀ command priority, st.call.2 = .add command priority → 5 ≤ priority →
    ∃ e, st.result.outcome = .err e
  deferred : st.call.1.held = true → st.after = st.before
  removed : ∀ command, st.call.2 = .remove command → st.call.1.held = false →
    st.result.outcome = .ok () →
      isRegistered command st.after = false ∧
        st.after = Levels.keep (!Command.isMatch command ·) st.before
  restored : ∀ command priority, st.call.2 = .add command priority → st.call.1.held = false →
    st.result.outcome = .ok () →
      removeCommand st.call.1 command st.after = ⟨.ok (), st.before, []⟩

/-- The calls that keep the promise, in the registry they find. -/
def CommandGood (commands : Commands Pl H C) (c : CallEnv × CommandCall Pl H C) : Prop :=
  match c.2 with
  | .add command priority => isRegistered command commands = false →
    (c.1.held = true → c.1.nextFrame = .ok () → priority < 5) ∧
    (c.1.held = false → priority < 5 ∧
      Command.isMatch command command = true ∧ Command.isDropped command command = true ∧
      ∀ stored ∈ Levels.flatten commands, Command.isDropped command stored = false)
  | .remove command => isRegistered command commands = true → c.1.held = false →
    ∀ stored ∈ Levels.flatten commands,
      Command.isDropped command stored = Command.isMatch command stored

/-- A call that is refused keeps the promise. -/
theorem commandSpec_of_err {commands : Commands Pl H C} {c : CallEnv × CommandCall Pl H C}
    {e : PyErr} {queued : List (CommandCall Pl H C)} :
    CommandSpec ⟨commands, c, ⟨.err e, commands, queued⟩, commands⟩ where
  no_panic := by simp
  unchanged := fun _ _ => rfl
  reported := fun _ _ _ _ => ⟨e, rfl⟩
  deferred := fun _ => rfl
  removed := by simp
  restored := by simp

/-- A call that is queued keeps the promise, if the priority it will be made with
is in range. -/
theorem commandSpec_of_queued {commands : Commands Pl H C} {c : CallEnv × CommandCall Pl H C}
    (hheld : c.1.held = true) {queued : List (CommandCall Pl H C)} :
    CommandSpec ⟨commands, c, ⟨.ok (), commands, queued⟩, commands⟩ ↔
      ∀ command priority, c.2 = .add command priority → priority < 5 := by
  constructor
  · intro h command priority hc
    by_contra hp
    obtain ⟨e, he⟩ := h.reported command priority hc (Nat.le_of_not_lt hp)
    cases he
  · intro h
    refine ⟨by simp, fun _ _ => rfl, fun command priority hc hp => ?_, fun _ => rfl, ?_, ?_⟩
    · exact absurd (h command priority hc) (Nat.not_lt.mpr hp)
    · exact fun _ _ hfree => absurd (hheld.symm.trans hfree) (by simp)
    · exact fun _ _ _ hfree => absurd (hheld.symm.trans hfree) (by simp)

/-- Removing a command that was just stored restores the registry iff the
command matches itself, is dropped itself, and nothing else is dropped. -/
theorem restored_iff {commands : Commands Pl H C} {command : Command Pl H C}
    (hnew : isRegistered command commands = false) {env : CallEnv} (hheld : env.held = false)
    (i : Fin 5) :
    removeCommand env command (Levels.push i command commands) = ⟨.ok (), commands, []⟩ ↔
      Command.isMatch command command = true ∧ Command.isDropped command command = true ∧
        ∀ stored ∈ Levels.flatten commands, Command.isDropped command stored = false := by
  have hpush := isRegistered_push hnew i
  cases hm : Command.isMatch command command with
  | false =>
    rw [removeCommand_of_unregistered (hpush.trans hm)]
    simp
  | true =>
    have hfresh : command ∉ Levels.flatten commands := fun hmem =>
      absurd (hm.symm.trans (isRegistered_eq_false_iff.mp hnew command hmem)) (by simp)
    rw [removeCommand_of_registered (hpush.trans hm), if_neg (Bool.eq_false_iff.mp hheld)]
    rw [Reply.mk.injEq, Levels.keep_push_eq_self_iff hfresh]
    simp

theorem add_iff (env : CallEnv) (command : Command Pl H C) (priority : Nat)
    (commands : Commands Pl H C) :
    CommandSpec (Run.take step commands (env, .add command priority)) ↔
      CommandGood commands (env, .add command priority) := by
  show CommandSpec ⟨commands, _, addCommand env command priority commands,
    (addCommand env command priority commands).state⟩ ↔ _
  cases hreg : isRegistered command commands with
  | true =>
    rw [addCommand_of_registered hreg]
    refine iff_of_true commandSpec_of_err ?_
    exact fun hnew => absurd (hreg.symm.trans hnew) (by simp)
  | false =>
    have hgood : CommandGood commands (env, .add command priority) ↔
        (env.held = true → env.nextFrame = .ok () → priority < 5) ∧
        (env.held = false → priority < 5 ∧
          Command.isMatch command command = true ∧ Command.isDropped command command = true ∧
          ∀ stored ∈ Levels.flatten commands, Command.isDropped command stored = false) :=
      ⟨fun h => h hreg, fun h _ => h⟩
    rw [hgood]
    rcases addCommand_of_new hreg env priority with
      ⟨hheld, hs⟩ | ⟨hheld, i, rfl, hs⟩ | ⟨hheld, hp, hs⟩
    · -- queued: only its priority can still go wrong
      rw [hs, deferCommand]
      cases hframe : env.nextFrame with
      | error e => exact iff_of_true commandSpec_of_err ⟨by simp, by simp [hheld]⟩
      | ok u =>
        rw [commandSpec_of_queued hheld]
        constructor
        · exact fun h => ⟨fun _ _ => h command priority rfl, by simp [hheld]⟩
        · rintro ⟨h, -⟩ _ _ ⟨⟩
          exact h hheld rfl
    · -- stored: a removal has to find the command and nothing else
      have hrestored := restored_iff hreg hheld i
      rw [hs]
      constructor
      · intro h
        have hback := hrestored.mp (h.restored command i rfl hheld rfl)
        exact ⟨by simp [hheld], fun _ => ⟨i.isLt, hback⟩⟩
      · rintro ⟨-, h⟩
        refine ⟨by simp, by simp, ?_, by simp [hheld], by simp, ?_⟩
        · rintro _ _ ⟨⟩ hp
          exact absurd i.isLt (Nat.not_lt.mpr hp)
        · rintro _ _ ⟨⟩ - -
          exact hrestored.mpr (h hheld).2
    · rw [hs]
      refine iff_of_false (fun h => h.no_panic rfl) ?_
      rintro ⟨-, h⟩
      exact absurd (h hheld).1 (Nat.not_lt.mpr hp)

theorem remove_iff (env : CallEnv) (command : Command Pl H C) (commands : Commands Pl H C) :
    CommandSpec (Run.take step commands (env, .remove command)) ↔
      CommandGood commands (env, .remove command) := by
  show CommandSpec ⟨commands, _, removeCommand env command commands,
    (removeCommand env command commands).state⟩ ↔ _
  cases hreg : isRegistered command commands with
  | false =>
    rw [removeCommand_of_unregistered hreg]
    refine iff_of_true commandSpec_of_err ?_
    exact fun hold => absurd (hreg.symm.trans hold) (by simp)
  | true =>
    rw [removeCommand_of_registered hreg]
    cases hheld : env.held with
    | true =>
      refine iff_of_true ?_ fun _ hfree => absurd (hheld.symm.trans hfree) (by simp)
      rw [if_pos rfl, deferCommand]
      cases env.nextFrame with
      | error e => exact commandSpec_of_err
      | ok u => exact (commandSpec_of_queued hheld).mpr (by simp)
    | false =>
      rw [if_neg Bool.false_ne_true]
      have hkeep : Levels.keep (!Command.isDropped command ·) commands =
          Levels.keep (!Command.isMatch command ·) commands ↔
          ∀ stored ∈ Levels.flatten commands,
            Command.isDropped command stored = Command.isMatch command stored := by
        simp [Levels.keep_eq_keep_iff]
      constructor
      · intro h _ _
        exact hkeep.mp (h.removed command rfl hheld rfl).2
      · intro h
        have hsame := hkeep.mpr (h hreg hheld)
        refine ⟨by simp, by simp, by simp, by simp [hheld], ?_, by simp⟩
        rintro _ ⟨⟩ - -
        refine ⟨isRegistered_eq_false_iff.mpr fun stored hmem => ?_, hsame⟩
        rw [hsame, Levels.flatten_keep] at hmem
        simpa using (List.mem_filter.mp hmem).2

theorem commandSpec_iff (commands : Commands Pl H C) (c : CallEnv × CommandCall Pl H C) :
    CommandSpec (Run.take step commands c) ↔ CommandGood commands c := by
  obtain ⟨env, call⟩ := c
  cases call with
  | add command priority => exact add_iff env command priority commands
  | remove command => exact remove_iff env command commands

/-- **When the command registry keeps its promise.**  Along any run of calls from
the empty registry, every call keeps it iff every call is `CommandGood` in the
registry it finds. -/
theorem commandSpec_run_iff (cs : List (CallEnv × CommandCall Pl H C)) :
    (∀ st ∈ Run.steps step empty cs, CommandSpec st) ↔
      ∀ st ∈ Run.steps step empty cs, CommandGood st.before st.call :=
  Run.forall_steps_iff (fun _ => True) (fun s c _ => commandSpec_iff s c) (fun _ _ _ _ => trivial)
    trivial cs

/-- A command with some names and otherwise plain attributes. -/
def named (names : List String) : Command Unit PyFunction Unit :=
  ⟨(), names, ⟨0⟩, 0, [], [], true, 0, true, ""⟩

/-- A new command with priority 5 panics, and a command registered under one name
twice is found but not removed under two names. -/
theorem commandSpec_run_broken :
    (¬ ∀ st ∈ Run.steps step empty
        [(⟨false, .ok none, .ok ()⟩, .add (named ["kick"]) 5)], CommandSpec st) ∧
      ¬ ∀ st ∈ Run.steps step empty
        [(⟨false, .ok none, .ok ()⟩, .add (named ["kick", "kick"]) 2),
          (⟨false, .ok none, .ok ()⟩, .remove (named ["kick", "k"]))], CommandSpec st := by
  constructor
  · intro h
    have hlast := h _ (List.mem_cons_self ..)
    exact hlast.no_panic (by decide)
  · intro h
    have hlast := h _ (List.mem_cons_of_mem _ (List.mem_cons_self ..))
    exact absurd (hlast.removed (named ["kick", "k"]) rfl rfl (by decide)).1 (by decide)

end CommandInvoker
end ShinQlx
