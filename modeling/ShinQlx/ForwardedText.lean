import ShinQlx.FirstLine
import ShinQlx.RewritingDispatch

/-! # The text of a client command

A handler of `client_command` can replace the text of a command.  Two texts are around
then: the one that the client sent, and the last replacement.  `ClientCommandChain` is a
registry of handlers with a command invoker; its `dispatch` also keeps what the invoker was
asked about.  `commands_consulted` says when it is asked, with what text, and what becomes
of the command.
-/
namespace ShinQlx

/-- The handlers of `client_command` with what they do, and what `COMMANDS.handle_input`
answers for the player in the channel of client commands. -/
structure ClientCommandChain (H P : Type) where
  repr : P → String
  plugins : Plugins H
  call : Nat → H → P × String → PyResult PyValue
  handleInput : P → String → PyResult Bool

namespace ClientCommandChain
open EventDispatcher
variable {H P : Type} (chain : ClientCommandChain H P)

/-- `ClientCommandDispatcherMethods::dispatch`, with the texts that were given to
`handle_input`. -/
def dispatch (player : P) (cmd : String) : PyResult PyValue × List String :=
  let body := rewriteBody chain.call (clientCommandRewriter player)
  match (Loop.run (Loop.early body) .inr 0 (handlers chain.plugins) ⟨cmd, .bool true⟩).result with
  | .inl result => (result, [])
  | .inr s =>
    if s.returnValue.isFalse then (.ok (.bool false), [])
    else
      match chain.handleInput player cmd with
      | .error _ => (.ok s.returnValue, [cmd])
      | .ok false => (.ok (.bool false), [cmd])
      | .ok true => (.ok s.returnValue, [cmd])

/-- What the handlers that were called did. -/
def effects (player : P) (cmd : String) : List (Effect String) :=
  EventDispatcher.effects chain.call (clientCommandRewriter player)
    (clientCommandDispatch (fun p => .ok (chain.repr p)) chain.handleInput chain.call player cmd
      chain.plugins).calls

/-- Only the last effect can end the chain. -/
theorem effects_going (player : P) (cmd : String) :
    ∀ e ∈ (chain.effects player cmd).dropLast, e.ends = false :=
  (rewrite_exact chain.call (clientCommandRewriter player)
    (consultCommands (chain.handleInput player cmd)) chain.plugins cmd).1.going

/-- Either the loop returned early, with what any rewriting dispatch of the chain returns, or
the chain went through and left its standing value. -/
theorem loop_cases (player : P) (cmd : String) :
    ((chain.effects player cmd).any Effect.ends = true ∧
      (Loop.run (Loop.early (rewriteBody chain.call (clientCommandRewriter player))) .inr 0
        (handlers chain.plugins) ⟨cmd, .bool true⟩).result =
          .inl (Effect.conclusion id PyValue.str (chain.effects player cmd))) ∨
    ((chain.effects player cmd).any Effect.ends = false ∧
      ∃ s, (Loop.run (Loop.early (rewriteBody chain.call (clientCommandRewriter player))) .inr 0
        (handlers chain.plugins) ⟨cmd, .bool true⟩).result = .inr s ∧
          s.returnValue = Effect.standing PyValue.str (chain.effects player cmd)) := by
  have heffects : chain.effects player cmd = EventDispatcher.effects chain.call
      (clientCommandRewriter player) ((Loop.run (Loop.early (rewriteBody chain.call
        (clientCommandRewriter player))) .inr 0 (handlers chain.plugins)
          ⟨cmd, .bool true⟩).visited.map fun v =>
            (v.1, (clientCommandRewriter player).args v.2.forwarded)) := by
    simp only [effects, clientCommandDispatch, rewrite]
    rw [Loop.run_eq_early]
  have hexact : ∀ after : PyValue → PyValue,
      ((Loop.run (Loop.early (rewriteBody chain.call (clientCommandRewriter player))) .inr 0
        (handlers chain.plugins) ⟨cmd, .bool true⟩).result).elim id (fun s =>
          .ok (after s.returnValue)) =
        Effect.conclusion after PyValue.str (chain.effects player cmd) := by
    intro after
    have h := (rewrite_exact chain.call (clientCommandRewriter player) after chain.plugins cmd).2
    simp only [rewrite] at h
    rw [Loop.run_eq_early, ← heffects] at h
    exact h
  have hgoing := chain.effects_going player cmd
  -- what is done behind the loop tells an early return from the end of the chain
  cases hresult : (Loop.run (Loop.early (rewriteBody chain.call (clientCommandRewriter player)))
    .inr 0 (handlers chain.plugins) ⟨cmd, .bool true⟩).result with
  | inl r =>
    rw [hresult] at hexact
    cases hends : (chain.effects player cmd).any Effect.ends with
    | true => exact .inl ⟨rfl, congrArg _ (hexact id)⟩
    | false =>
      have htrue := hexact fun _ => .bool true
      have hfalse := hexact fun _ => .bool false
      rw [Effect.conclusion_of_any_ends _ _ hends] at htrue hfalse
      exact absurd (htrue.symm.trans hfalse) (by simp)
  | inr s =>
    rw [hresult] at hexact
    cases hends : (chain.effects player cmd).any Effect.ends with
    | true =>
      have htrue := hexact fun _ => .bool true
      have hfalse := hexact fun _ => .bool false
      rw [Effect.conclusion_of_ends hgoing hends _ fun _ => .bool false, ← hfalse] at htrue
      exact absurd htrue (by simp)
    | false =>
      have h := hexact id
      rw [Effect.conclusion_of_any_ends _ _ hends] at h
      exact .inr ⟨rfl, s, rfl, Except.ok.inj h⟩

/-- The dispatch is the one of the rewriting dispatchers. -/
theorem dispatch_fst (player : P) (cmd : String) :
    (chain.dispatch player cmd).1 =
      (clientCommandDispatch (fun p => .ok (chain.repr p)) chain.handleInput chain.call player cmd
        chain.plugins).result := by
  simp only [clientCommandDispatch, rewrite]
  rw [Loop.run_eq_early, dispatch]
  cases (Loop.run (Loop.early (rewriteBody chain.call (clientCommandRewriter player))) .inr 0
    (handlers chain.plugins) ⟨cmd, .bool true⟩).result with
  | inl result => rfl
  | inr s =>
    simp only [Sum.elim_inr, consultCommands]
    split
    · rfl
    · cases chain.handleInput player cmd with
      | error e => rfl
      | ok answer => cases answer <;> rfl

/-- A world whose `client_command` is dispatched to the chain. -/
def world (w : ClientCommandWorld P) : ClientCommandWorld P :=
  { w with dispatch := fun player cmd => (chain.dispatch player cmd).1 }

/-- The handlers stopped the event. -/
def Stopped (es : List (Effect String)) : Prop :=
  .stopAll ∈ es ∨ es.any Effect.ends = false ∧ (Effect.standing PyValue.str es).isFalse = true

instance (es : List (Effect String)) : Decidable (Stopped es) :=
  inferInstanceAs (Decidable (_ ∨ _))

/-- The last replacement, or the command as it was sent. -/
def lastText (es : List (Effect String)) (cmd : String) : String :=
  (Effect.lastReplacement es).getD cmd

/-- The handlers of a chain that went through left a replacement, nothing, or a stop. -/
theorem standing_str (es : List (Effect String)) :
    Effect.standing PyValue.str es = .bool false ∨
      Effect.standing PyValue.str es =
        ((Effect.lastReplacement es).map PyValue.str).getD (.bool true) := by
  induction es using List.reverseRecOn with
  | nil => exact .inr rfl
  | append_singleton es e ih =>
    rw [Effect.standing_concat, Effect.lastReplacement_concat]
    cases e with
    | stopEvent => exact .inl rfl
    | replace value => exact .inr rfl
    | proceed | stop | stopAll | fail =>
      simpa [Effect.mark, Effect.replacement?] using ih

/-- A handler of `client_command` does not make the dispatch fail. -/
theorem fail_notMem_effects (player : P) (cmd : String) (e : PyErr) :
    .fail e ∉ chain.effects player cmd := by
  intro h
  obtain ⟨c, -, hc⟩ := List.mem_map.mp h
  generalize chain.call c.2 c.1.1 c.1.2 = r at hc
  cases r with
  | error e => cases hc
  | ok res =>
    simp only [Effect.ofResult] at hc
    split at hc
    · cases hc
    · cases hc
    · cases hc
    · cases hc
    · split at hc <;> cases hc

theorem any_ends_of_mem {es : List (Effect String)} {e : Effect String} (he : e ∈ es)
    (hends : e.ends = true) : es.any Effect.ends = true := List.any_eq_true.mpr ⟨e, he, hends⟩

/-- A stopped event asks nobody. -/
theorem dispatch_of_stopped {player : P} {cmd : String}
    (h : Stopped (chain.effects player cmd)) :
    chain.dispatch player cmd = (.ok (.bool false), []) := by
  rcases chain.loop_cases player cmd with ⟨hends, hloop⟩ | ⟨hends, s, hloop, hstanding⟩
  · rcases h with h | ⟨hnot, -⟩
    · have hlast := Effect.getLast?_of_ends (chain.effects_going player cmd) h rfl
      simp [dispatch, hloop, Effect.conclusion, hlast]
    · rw [hends] at hnot
      cases hnot
  · rcases h with h | ⟨-, hfalse⟩
    · rw [any_ends_of_mem h rfl] at hends
      cases hends
    · simp [dispatch, hloop, hstanding, hfalse]

/-- `RET_STOP` ends the chain before anybody is asked. -/
theorem dispatch_of_stop {player : P} {cmd : String} (h : .stop ∈ chain.effects player cmd) :
    chain.dispatch player cmd = (.ok (.bool true), []) := by
  rcases chain.loop_cases player cmd with ⟨-, hloop⟩ | ⟨hends, -⟩
  · have hlast := Effect.getLast?_of_ends (chain.effects_going player cmd) h rfl
    simp [dispatch, hloop, Effect.conclusion, hlast]
  · rw [any_ends_of_mem h rfl] at hends
    cases hends

/-- Otherwise the invoker is asked, once, about the command as it was sent. -/
theorem dispatch_of_consulted {player : P} {cmd : String}
    (hstopped : ¬ Stopped (chain.effects player cmd))
    (hstop : .stop ∉ chain.effects player cmd) :
    chain.dispatch player cmd = (.ok (consultCommands (chain.handleInput player cmd)
      (((Effect.lastReplacement (chain.effects player cmd)).map PyValue.str).getD (.bool true))),
        [cmd]) := by
  rcases chain.loop_cases player cmd with ⟨hends, -⟩ | ⟨hends, s, hloop, hstanding⟩
  · -- what ends a chain is a stop
    obtain ⟨e, he, hends⟩ := List.any_eq_true.mp hends
    cases e with
    | stop => exact absurd he hstop
    | stopAll => exact absurd (.inl he) hstopped
    | fail e => exact absurd he (chain.fail_notMem_effects player cmd e)
    | proceed | stopEvent | replace => cases hends
  · have hfalse : (Effect.standing PyValue.str (chain.effects player cmd)).isFalse = false := by
      rw [← Bool.not_eq_true]
      exact fun hfalse => hstopped (.inr ⟨hends, hfalse⟩)
    have hreplaced := (standing_str (chain.effects player cmd)).resolve_left fun hstands => by
      rw [hstands] at hfalse
      cases hfalse
    rw [hreplaced] at hstanding hfalse
    simp only [dispatch, hloop, hstanding, consultCommands, hfalse]
    cases chain.handleInput player cmd with
    | error e => rfl
    | ok answer => cases answer <;> rfl

theorem consultCommands_of_ne {answer : PyResult Bool} {value : PyValue}
    (hvalue : value.isFalse = false) (hanswer : answer ≠ .ok false) :
    consultCommands answer value = value := by
  simp only [consultCommands, hvalue]
  cases answer with
  | error e => rfl
  | ok answer =>
    cases answer with
    | true => rfl
    | false => exact absurd rfl hanswer

section commands
variable {chain} {w : ClientCommandWorld P} {player : P} {cmd : String} {caller : Option P}

/-- The handler of a client command, after a dispatch that lets the command through. -/
theorem handle_of_text (hplayer : w.player = .ok player)
    (hregistered : w.registered "client_command" = true) (value : PyValue) {text : String}
    (hdispatch : (chain.dispatch player cmd).1 = .ok value) (hfalse : value.isFalse = false)
    (htext : value.extractString.getD cmd = text) :
    ClientCommand.tryHandleClientCommand (chain.world w) cmd caller =
      ClientCommand.derive (chain.world w) player text caller := by
  have hw : (chain.world w).player = .ok player := hplayer
  have hr : (chain.world w).registered "client_command" = true := hregistered
  have hd : (chain.world w).dispatch player cmd = .ok value := hdispatch
  simp only [ClientCommand.tryHandleClientCommand, hw, hr, hd, hfalse, htext]
  rfl

/-- The handler of a client command that is stopped. -/
theorem handle_of_false (hplayer : w.player = .ok player)
    (hregistered : w.registered "client_command" = true)
    (hdispatch : (chain.dispatch player cmd).1 = .ok (.bool false)) :
    ClientCommand.tryHandleClientCommand (chain.world w) cmd caller =
      ⟨.ok (.bool false), [], caller⟩ := by
  have hw : (chain.world w).player = .ok player := hplayer
  have hr : (chain.world w).registered "client_command" = true := hregistered
  have hd : (chain.world w).dispatch player cmd = .ok (.bool false) := hdispatch
  simp [ClientCommand.tryHandleClientCommand, hw, hr, hd]

theorem execute_of_false (hinit : w.initialized = true)
    (h : ClientCommand.tryHandleClientCommand (chain.world w) cmd caller =
      ⟨.ok (.bool false), [], caller⟩) :
    ClientCommand.shinqlxExecuteClientCommand true true true (chain.world w) cmd caller = none := by
  have hi : (chain.world w).initialized = true := hinit
  simp [ClientCommand.shinqlxExecuteClientCommand, ClientCommand.clientCommandDispatcher, hi,
    ClientCommand.handleClientCommand, h]

/-- The invoker is asked, once, about the text that is processed, unless the event was
stopped; and if it refuses, nothing is executed. -/
def MatchedOnForwarded (chain : ClientCommandChain H P) (w : ClientCommandWorld P) (player : P)
    (cmd : String) (caller : Option P) : Prop :=
  let text := lastText (chain.effects player cmd) cmd
  ¬ Stopped (chain.effects player cmd) →
    (chain.dispatch player cmd).2 = [text] ∧
    (chain.handleInput player text ≠ .ok false →
      ClientCommand.tryHandleClientCommand (chain.world w) cmd caller =
        ClientCommand.derive (chain.world w) player text caller) ∧
    (chain.handleInput player text = .ok false →
      ClientCommand.shinqlxExecuteClientCommand true true true (chain.world w) cmd caller = none)

/-- **When the invoker is asked.**  A stopped event and a chain ended by `RET_STOP` ask
nobody; the one is dropped, the other goes on as it was sent.  Otherwise the invoker is
asked once, and where no handler changed the text, about the text that is processed; what
it refuses is not executed. -/
theorem commands_consulted (chain : ClientCommandChain H P) (w : ClientCommandWorld P)
    (hplayer : w.player = .ok player) (hregistered : w.registered "client_command" = true)
    (hinit : w.initialized = true) (cmd : String) (caller : Option P) :
    let es := chain.effects player cmd
    let asked := (chain.dispatch player cmd).2
    let handled := ClientCommand.tryHandleClientCommand (chain.world w) cmd caller
    let executed :=
      ClientCommand.shinqlxExecuteClientCommand true true true (chain.world w) cmd caller
    (Stopped es → asked = [] ∧ executed = none) ∧
    (.stop ∈ es → asked = [] ∧ handled = ClientCommand.derive (chain.world w) player cmd caller) ∧
    (¬ Stopped es → .stop ∉ es → ∃ text, asked = [text] ∧
      (lastText es cmd = cmd → text = lastText es cmd) ∧
      (chain.handleInput player text ≠ .ok false →
        handled = ClientCommand.derive (chain.world w) player (lastText es cmd) caller) ∧
      (chain.handleInput player text = .ok false → executed = none)) := by
  refine ⟨fun hstopped => ?_, fun hstop => ?_, fun hstopped hstop => ?_⟩
  · have hd := chain.dispatch_of_stopped hstopped
    refine ⟨congrArg Prod.snd hd, execute_of_false hinit ?_⟩
    exact handle_of_false hplayer hregistered (congrArg Prod.fst hd)
  · have hd := chain.dispatch_of_stop hstop
    refine ⟨congrArg Prod.snd hd, ?_⟩
    exact handle_of_text hplayer hregistered _ (congrArg Prod.fst hd) rfl rfl
  · have hd := chain.dispatch_of_consulted hstopped hstop
    refine ⟨cmd, congrArg Prod.snd hd, fun h => h.symm, fun hanswer => ?_, fun hanswer => ?_⟩
    · -- the value that the handlers left is passed on
      rw [lastText]
      cases hlast : Effect.lastReplacement (chain.effects player cmd) with
      | none =>
        rw [hlast] at hd
        refine handle_of_text hplayer hregistered (.bool true) ?_ rfl rfl
        rw [hd]
        exact congrArg Except.ok (consultCommands_of_ne rfl hanswer)
      | some value =>
        rw [hlast] at hd
        refine handle_of_text hplayer hregistered (.str value) ?_ rfl rfl
        rw [hd]
        exact congrArg Except.ok (consultCommands_of_ne rfl hanswer)
    · have hfalse : (chain.dispatch player cmd).1 = .ok (.bool false) := by
        rw [hd, hanswer]
        simp only [consultCommands]
        split <;> rfl
      exact execute_of_false hinit (handle_of_false hplayer hregistered hfalse)

end commands

/-- Two handlers that answer by a script, with an invoker that knows the command `kick`. -/
def kickChain (answers : List PyValue) : ClientCommandChain PyFunction Unit :=
  ⟨fun _ => "Player", twoHandlers, scripted answers, fun _ msg => .ok (msg ≠ "kick 7")⟩

/-- The invoker is asked about a command that the handlers leave alone, and refuses it. -/
theorem commands_consulted_kick :
    ∃ text, ((kickChain []).dispatch () "kick 7").2 = [text] ∧ text = "kick 7" ∧
      ClientCommand.shinqlxExecuteClientCommand true true true
        ((kickChain []).world (ClientCommand.openWorld false)) "kick 7" none = none := by
  obtain ⟨text, hasked, htext, -, hrefused⟩ := (commands_consulted (kickChain [])
    (ClientCommand.openWorld false) rfl rfl rfl "kick 7" none).2.2 (by decide) (by decide)
  have htext : text = "kick 7" := htext rfl
  refine ⟨text, hasked, htext, hrefused ?_⟩
  rw [htext]
  rfl

/-- A replacement is processed that the invoker was not asked about, and `RET_STOP` keeps it
from being asked at all. -/
theorem commands_not_matched :
    ¬ MatchedOnForwarded (kickChain [.str "kick 7"]) (ClientCommand.openWorld false) () "scores"
      none ∧
    ¬ MatchedOnForwarded (kickChain [.int 1]) (ClientCommand.openWorld false) () "kick 7" none := by
  refine ⟨fun h => ?_, fun h => ?_⟩
  · exact absurd (h (by decide)).1 (by decide)
  · exact absurd (h (by decide)).1 (by decide)

end ClientCommandChain
end ShinQlx
