import ShinQlx.HandleInput

/-! # Suppression of client commands

A command of a client is kept from the engine if some handler that ran for it
asked for that, by its return code or by being registered with
`client_cmd_pass = False`.  `handle_input` keeps the answer in `pass_through`,
which every further eligible command overwrites, and a veto of a `command` event
handler returns `True` whatever it holds.  So a suppression survives exactly when
the last handler that ran suppresses too and no veto followed
(`suppression_sticky_iff`).
-/
namespace ShinQlx
namespace CommandInvoker
variable {Pl H C P : Type} [PyCompare C]

/-- The handler of a command asks to keep the event from the engine. -/
def suppresses (inp : Input Pl H C P) (x : Command Pl H C × Nat) : Bool :=
  !x.1.clientCmdPass ||
    match (inp.world x.2).call x.1.handler inp.player (Text.split ' ' inp.msg) inp.channel with
    | .error _ => false
    | .ok res =>
      match PythonReturnCodes.extract res with
      | some .retStopEvent | some .retStop | some .retStopAll => true
      | _ => false

/-- **What suppression promises** of a client command handled with result `b`:
the eligible commands are tried in order up to the first that is vetoed or stops,
and the engine is kept from seeing the command iff some handler asked for it. -/
structure SuppressionSpec (inp : Input Pl H C P) (commands : Commands Pl H C) (name : String)
    (b : Bool) : Prop where
  in_order : (handleInput inp commands).calls =
    executed inp name (attempts inp name true 0 (Levels.flatten commands))
  sticky : b = false ↔ ∃ x ∈ (handleInput inp commands).calls, suppresses inp x = true

/-- The inputs that keep the promise: if a handler suppresses, then the last one
that runs does, and no command is vetoed. -/
def SuppressionGood (inp : Input Pl H C P) (name : String) (xs : List (Command Pl H C × Nat)) :
    Prop :=
  (∃ x ∈ executed inp name xs, suppresses inp x = true) →
    (∃ x, (executed inp name xs).getLast? = some x ∧ suppresses inp x = true) ∧
      ∀ x ∈ tried inp name xs, verdict inp name x ≠ .veto

omit [PyCompare C] in
/-- What the verdict on a command says about its handler. -/
theorem suppresses_of_verdict (inp : Input Pl H C P) (name : String) (x : Command Pl H C × Nat) :
    (verdict inp name x = .stop → suppresses inp x = true) ∧
    (verdict inp name x = .stopEvent → suppresses inp x = true) ∧
    (verdict inp name x = .proceed → suppresses inp x = !x.1.clientCmdPass) := by
  unfold verdict suppresses
  dsimp only
  cases (inp.world x.2).commandEvent x.1 with
  | error e => simp
  | ok value =>
    by_cases hveto : value.isFalse = true
    · simp [hveto]
    · simp only [if_neg hveto]
      unfold execute
      cases x.1.name.head? with
      | none => simp
      | some first =>
        cases (inp.world x.2).logExecution with
        | error e => simp
        | ok u =>
          cases hcall : (inp.world x.2).call x.1.handler inp.player (Text.split ' ' inp.msg)
              inp.channel with
          | error e => simp
          | ok res =>
            simp only
            cases PythonReturnCodes.extract res with
            | none => cases hr : remark (inp.world x.2) x.1 name none <;> simp [hr]
            | some code =>
              cases code with
              | retNone | retStop | retStopEvent | retStopAll => simp
              | retUsage =>
                cases hr : remark (inp.world x.2) x.1 name (some .retUsage) <;> simp [hr]

omit [PyCompare C] in
/-- A command that is called, and behind which others are tried. -/
theorem tried_cons_of_called {inp : Input Pl H C P} {name : String} {x : Command Pl H C × Nat}
    (hends : (verdict inp name x).ends = false) (hcalled : (verdict inp name x).called = true)
    (xs : List (Command Pl H C × Nat)) :
    tried inp name (x :: xs) = x :: tried inp name xs ∧
      executed inp name (x :: xs) = x :: executed inp name xs := by
  have htried : tried inp name (x :: xs) = x :: tried inp name xs := by
    simp [tried, Loop.through_cons, hends]
  exact ⟨htried, by simp [executed, htried, hcalled]⟩

omit [PyCompare C] in
/-- The result of a client command, exactly: `True` after a veto, otherwise what
the last handler that ran makes of it. -/
theorem conclusion_eq {inp : Input Pl H C P} {name : String} {xs : List (Command Pl H C × Nat)}
    {passThrough b : Bool} (h : conclusion inp name true passThrough xs = .ok b) :
    b = if (tried inp name xs).any (verdict inp name · = .veto) then true
      else ((executed inp name xs).getLast?).elim passThrough (!suppresses inp ·) := by
  induction xs generalizing passThrough with
  | nil => simpa [conclusion, tried, executed, eq_comm] using h
  | cons x xs ih =>
    obtain ⟨hstop, hstopEvent, hproceed⟩ := suppresses_of_verdict inp name x
    rw [conclusion] at h
    cases hv : verdict inp name x with
    | failed e called =>
      rw [hv] at h
      cases h
    | veto =>
      rw [hv] at h
      cases h
      simp [tried, Loop.through_cons, hv, Verdict.ends]
    | stop =>
      rw [hv] at h
      cases h
      simp [tried, executed, Loop.through_cons, hv, Verdict.ends, Verdict.called, hstop hv]
    | stopEvent =>
      rw [hv] at h
      obtain ⟨htried, hexecuted⟩ := tried_cons_of_called (by rw [hv]; rfl) (by rw [hv]; rfl) xs
      have hveto : decide (verdict inp name x = .veto) = false := by rw [hv]; rfl
      rw [ih h, htried, hexecuted, List.getLast?_cons, List.any_cons, hveto, Bool.false_or]
      -- this command counts only if no handler runs after it
      cases (executed inp name xs).getLast? with
      | none => simp [hstopEvent hv]
      | some y => rfl
    | proceed =>
      rw [hv] at h
      obtain ⟨htried, hexecuted⟩ := tried_cons_of_called (by rw [hv]; rfl) (by rw [hv]; rfl) xs
      have hveto : decide (verdict inp name x = .veto) = false := by rw [hv]; rfl
      rw [ih h, htried, hexecuted, List.getLast?_cons, List.any_cons, hveto, Bool.false_or]
      cases (executed inp name xs).getLast? with
      | none => simp [hproceed hv]
      | some y => rfl

/-- **When a suppressed client command stays suppressed**: for every registry,
every message with a word in it and every world, a call that returns keeps the
promise iff the last handler that suppresses is the last that runs and no veto
follows. -/
theorem suppression_sticky_iff {inp : Input Pl H C P} (commands : Commands Pl H C) {name : String}
    (hname : inputName inp = some name) (hclient : inp.channelName = .ok "client_command")
    {b : Bool}
    (hok : (handleInput inp commands).result = .ok b) :
    SuppressionSpec inp commands name b ↔
      SuppressionGood inp name (attempts inp name true 0 (Levels.flatten commands)) := by
  have hdispatcher : inp.dispatcher = true := by
    obtain ⟨word, hword, -⟩ := Option.map_eq_some_iff.mp hname
    cases hd : inp.dispatcher with
    | true => rfl
    | false => simp [handleInput, hword, hclient, hd] at hok
  have hexact := handleInput_exact commands hname hclient hdispatcher
  rw [decide_eq_true rfl] at hexact
  generalize hxs : attempts inp name true 0 (Levels.flatten commands) = xs at hexact ⊢
  have hcalls : (handleInput inp commands).calls = executed inp name xs := by rw [hexact]
  have hb := conclusion_eq (h := by rw [hexact] at hok; exact hok)
  have hspec : SuppressionSpec inp commands name b ↔
      (b = false ↔ ∃ x ∈ executed inp name xs, suppresses inp x = true) := by
    rw [← hcalls]
    exact ⟨fun h => h.sticky, fun h => ⟨by rw [hcalls, hxs], h⟩⟩
  rw [hspec]
  unfold SuppressionGood
  by_cases hveto : (tried inp name xs).any (verdict inp name · = .veto) = true
  · rw [if_pos hveto] at hb
    obtain ⟨x, hx, hv⟩ := List.any_eq_true.mp hveto
    rw [decide_eq_true_eq] at hv
    subst hb
    constructor
    · exact fun h hsome => absurd (h.mpr hsome) (by simp)
    · exact fun h => ⟨by simp, fun hsome => absurd hv ((h hsome).2 x hx)⟩
  · rw [if_neg hveto] at hb
    have hnoVeto : ∀ x ∈ tried inp name xs, verdict inp name x ≠ .veto := fun x hx hv =>
      hveto (List.any_eq_true.mpr ⟨x, hx, decide_eq_true hv⟩)
    cases hlast : (executed inp name xs).getLast? with
    | none =>
      rw [hlast] at hb
      have hnil : executed inp name xs = [] := List.getLast?_eq_none_iff.mp hlast
      subst hb
      simp [hnil]
    | some x =>
      have hmem : x ∈ executed inp name xs := List.mem_of_getLast? hlast
      rw [hlast] at hb
      cases hsup : suppresses inp x with
      | true =>
        simp only [Option.elim, hsup, Bool.not_true] at hb
        subst hb
        exact iff_of_true ⟨fun _ => ⟨x, hmem, hsup⟩, fun _ => rfl⟩
          fun _ => ⟨⟨x, rfl, hsup⟩, hnoVeto⟩
      | false =>
        simp only [Option.elim, hsup, Bool.not_false] at hb
        subst hb
        constructor
        · exact fun h hsome => absurd (h.mpr hsome) (by simp)
        · intro h
          refine ⟨by simp, fun hsome => ?_⟩
          obtain ⟨⟨y, hy, hsy⟩, -⟩ := h hsome
          cases hy
          exact absurd (hsup.symm.trans hsy) (by simp)

/-- Two commands of which the last suppresses. -/
def lastSuppresses : Commands Unit PyFunction PyFunction :=
  fun i => if i.val = 1 then [kick true] else if i.val = 3 then [kick false] else []

/-- Two commands of which only the first suppresses. -/
def firstSuppresses : Commands Unit PyFunction PyFunction :=
  fun i => if i.val = 1 then [kick false] else if i.val = 3 then [kick true] else []

theorem suppression_sticky_kick :
    SuppressionSpec (kickInput fun _ => .bool true) lastSuppresses "kick" false ↔
      SuppressionGood (kickInput fun _ => .bool true) "kick"
        (attempts (kickInput fun _ => .bool true) "kick" true 0 (Levels.flatten lastSuppresses)) :=
  suppression_sticky_iff lastSuppresses (by decide) (by decide) (by decide)

/-- A later command with the same name, or a veto of it, lets a suppressed
command through to the engine. -/
theorem suppression_not_sticky :
    (∀ b, (handleInput (kickInput fun _ => .bool true) firstSuppresses).result = .ok b →
      ¬ SuppressionSpec (kickInput fun _ => .bool true) firstSuppresses "kick" b) ∧
    ∀ b, (handleInput (kickInput fun k => .bool (k = 0)) firstSuppresses).result = .ok b →
      ¬ SuppressionSpec (kickInput fun k => .bool (k = 0)) firstSuppresses "kick" b := by
  constructor
  · intro b hb h
    have hfalse := h.sticky.mpr (by decide)
    subst hfalse
    exact absurd hb (by decide)
  · intro b hb h
    have hfalse := h.sticky.mpr (by decide)
    subst hfalse
    exact absurd hb (by decide)

end CommandInvoker
end ShinQlx
