import Mathlib.Data.List.Induction
import ShinQlx.Dispatch

/-! # The rewriting dispatchers

Five dispatchers let a handler replace what the next handlers and the engine get
to see: `client_command`, `server_command`, `set_configstring` and
`console_print` a string, `userinfo` a dict.  Each has its own copy of the loop
of `EventDispatcher::dispatch`; `rewrite` is that loop, and the five dispatchers
are instances of it.

One variable, `return_value`, holds both the flag of `RET_STOP_EVENT` and the
replacement, so what is written last wins, and an early return forgets it.
`FollowsProtocol` says what remains of the return-value protocol: which handlers
are called and with what, the result wherever flag, replacement and early return
do not compete for it, and the agreement with the base dispatch on chains that
replace nothing.  `userinfo` forwards a copy of the dict it got, and what making it
raises ends the chain.
-/
namespace ShinQlx

/-- What the outcome of a handler means to a rewriting dispatch. -/
inductive Effect (V : Type) where
  | proceed
  | stop
  | stopEvent
  | stopAll
  | replace (value : V)
  | fail (e : PyErr)
  deriving DecidableEq, Repr

/-- The two variables of the loop. -/
structure Rewriting (V : Type) where
  forwarded : V
  returnValue : PyValue

/-- How a rewriting dispatcher treats the value it forwards: the handler
arguments made of it, the replacement read off a handler's result, whether a copy of
it can be made to be forwarded, and the replacement as a result. -/
structure Rewriter (V A : Type) where
  args : V → A
  read : PyValue → Option V
  copy : V → PyResult Unit
  wrap : V → PyValue

namespace Effect
variable {V A : Type}

/-- The effects that end the chain. -/
def ends : Effect V → Bool
  | .stop | .stopAll | .fail _ => true
  | _ => false

/-- The replacement an effect asks for. -/
def replacement? : Effect V → Option V
  | .replace value => some value
  | _ => none

/-- The effect of a handler's outcome. -/
def ofResult (rw : Rewriter V A) : PyResult PyValue → Effect V
  | .error _ => .proceed
  | .ok res =>
    match PythonReturnCodes.extract res with
    | some .retNone => .proceed
    | some .retStop => .stop
    | some .retStopEvent => .stopEvent
    | some .retStopAll => .stopAll
    | _ =>
      match rw.read res with
      | none => .proceed
      | some value =>
        match rw.copy value with
        | .error e => .fail e
        | .ok () => .replace value

/-- The last replacement among some effects. -/
def lastReplacement (es : List (Effect V)) : Option V := (es.filterMap replacement?).getLast?

/-- What an effect writes to `return_value`. -/
def mark (wrap : V → PyValue) : Effect V → Option PyValue
  | .stopEvent => some (.bool false)
  | .replace value => some (wrap value)
  | _ => none

/-- `return_value` after some effects. -/
def standing (wrap : V → PyValue) (es : List (Effect V)) : PyValue :=
  ((es.filterMap (mark wrap)).getLast?).getD (.bool true)

/-- The result of a dispatch whose handlers had the given effects, where `after`
is applied to `return_value` if no handler ended the chain. -/
def conclusion (after : PyValue → PyValue) (wrap : V → PyValue) (es : List (Effect V)) :
    PyResult PyValue :=
  match es.getLast? with
  | some .stop => .ok (.bool true)
  | some .stopAll => .ok (.bool false)
  | some (.fail e) => .error e
  | _ => .ok (after (standing wrap es))

theorem lastReplacement_concat (es : List (Effect V)) (e : Effect V) :
    lastReplacement (es ++ [e]) = e.replacement?.or (lastReplacement es) := by
  rw [lastReplacement, List.filterMap_append, List.getLast?_append]
  cases h : e.replacement? with
  | none => simp [h, lastReplacement]
  | some value => simp [h]

theorem standing_concat (wrap : V → PyValue) (es : List (Effect V)) (e : Effect V) :
    standing wrap (es ++ [e]) = (mark wrap e).getD (standing wrap es) := by
  rw [standing, List.filterMap_append, List.getLast?_append]
  cases h : mark wrap e with
  | none => simp [h, standing]
  | some value => simp [h]

/-- A `RET_STOP_EVENT` stands until something is replaced. -/
theorem standing_of_stopEvent (wrap : V → PyValue) (pre post : List (Effect V))
    (h : lastReplacement post = none) :
    standing wrap (pre ++ .stopEvent :: post) = .bool false := by
  induction post using List.reverseRecOn with
  | nil => rw [standing_concat]; rfl
  | append_singleton post e ih =>
    rw [lastReplacement_concat, Option.or_eq_none_iff] at h
    have hstep := standing_concat wrap (pre ++ .stopEvent :: post) e
    rw [ih h.2] at hstep
    rw [← List.cons_append, ← List.append_assoc, hstep]
    cases e with
    | proceed | stop | stopEvent | stopAll | fail => rfl
    | replace value => exact absurd h.1 (by simp [replacement?])

/-- Without `RET_STOP_EVENT` the last replacement stands. -/
theorem standing_of_notMem (wrap : V → PyValue) (es : List (Effect V)) (h : .stopEvent ∉ es) :
    standing wrap es = ((lastReplacement es).map wrap).getD (.bool true) := by
  have hmarks : es.filterMap (mark wrap) = (es.filterMap replacement?).map wrap := by
    rw [List.map_filterMap]
    refine List.filterMap_congr fun e he => ?_
    cases e with
    | proceed | stop | stopAll | replace | fail => rfl
    | stopEvent => exact absurd he h
  rw [standing, hmarks, List.getLast?_map, lastReplacement]

/-- Where only the last effect may end the chain, one that does is the last. -/
theorem getLast?_of_ends {es : List (Effect V)} (hgoing : ∀ e ∈ es.dropLast, e.ends = false)
    {e : Effect V} (he : e ∈ es) (hends : e.ends = true) : es.getLast? = some e := by
  have hne : es ≠ [] := List.ne_nil_of_mem he
  rw [← List.dropLast_append_getLast hne, List.mem_append, List.mem_singleton] at he
  rcases he with he | he
  · exact absurd (hends.symm.trans (hgoing e he)) (by simp)
  · rw [he, List.getLast?_eq_some_getLast hne]

theorem conclusion_of_any_ends (after : PyValue → PyValue) (wrap : V → PyValue)
    {es : List (Effect V)} (h : es.any ends = false) :
    conclusion after wrap es = .ok (after (standing wrap es)) := by
  have hlast : ∀ e, es.getLast? = some e → e.ends = false := fun e he =>
    Bool.eq_false_iff.mpr (List.any_eq_false.mp h e (List.mem_of_getLast? he))
  unfold conclusion
  split
  · rename_i he
    exact absurd (hlast _ he) (by simp [ends])
  · rename_i he
    exact absurd (hlast _ he) (by simp [ends])
  · rename_i he
    exact absurd (hlast _ he) (by simp [ends])
  · rfl

/-- Where the chain was ended, nothing is done to the result. -/
theorem conclusion_of_ends {wrap : V → PyValue} {es : List (Effect V)}
    (hgoing : ∀ e ∈ es.dropLast, e.ends = false) (h : es.any ends = true)
    (after after' : PyValue → PyValue) : conclusion after wrap es = conclusion after' wrap es := by
  obtain ⟨e, he, hends⟩ := List.any_eq_true.mp h
  have hlast := getLast?_of_ends hgoing he hends
  unfold conclusion
  rw [hlast]
  cases e with
  | proceed | stopEvent | replace => cases hends
  | stop | stopAll | fail => rfl

end Effect

namespace EventDispatcher
variable {H V A P : Type}

/-- The body of the rewriting loop. -/
def rewriteBody (call : Nat → H → A → PyResult PyValue) (rw : Rewriter V A) (k : Nat) (handler : H)
    (s : Rewriting V) : Loop.Control (Rewriting V) (PyResult PyValue) :=
  match call k handler (rw.args s.forwarded) with
  | .error _ => .next s
  | .ok res =>
    match PythonReturnCodes.extract res with
    | some .retNone => .next s
    | some .retStop => .ret (.ok (.bool true))
    | some .retStopEvent => .next { s with returnValue := .bool false }
    | some .retStopAll => .ret (.ok (.bool false))
    | _ =>
      match rw.read res with
      | none => .next s
      | some value =>
        match rw.copy value with
        | .error e => .ret (.error e)
        | .ok () => .next ⟨value, rw.wrap value⟩

/-- The rewriting loop over the handlers of a registry; `after` is what the
dispatcher does with `return_value` behind the loop. -/
def rewrite (call : Nat → H → A → PyResult PyValue) (rw : Rewriter V A) (after : PyValue → PyValue)
    (plugins : Plugins H) (value : V) : Dispatched (PyResult PyValue) H A :=
  let trace := Loop.run (rewriteBody call rw) (fun s => .ok (after s.returnValue)) 0
    (handlers plugins) ⟨value, .bool true⟩
  ⟨trace.result, trace.visited.map fun v => (v.1, rw.args v.2.forwarded)⟩

/-! ## The dispatchers -/

/-- The class attributes of the rewriting dispatchers. -/
def clientCommand : DispatcherType := ⟨some "client_command", some false⟩

def serverCommand : DispatcherType := ⟨some "server_command", some false⟩

def setConfigstring : DispatcherType := ⟨some "set_configstring", some false⟩

def consolePrint : DispatcherType := ⟨some "console_print", some false⟩

def userinfo : DispatcherType := ⟨some "userinfo", some false⟩

/-- The handlers of `client_command` get the player and the command. -/
def clientCommandRewriter (player : P) : Rewriter String (P × String) :=
  ⟨(player, ·), PyValue.extractString, fun _ => .ok (), PyValue.str⟩

def serverCommandRewriter (player : P) : Rewriter String (P × String) :=
  ⟨(player, ·), PyValue.extractString, fun _ => .ok (), PyValue.str⟩

def setConfigstringRewriter (index : Nat) : Rewriter String (Nat × String) :=
  ⟨(index, ·), PyValue.extractString, fun _ => .ok (), PyValue.str⟩

def consolePrintRewriter : Rewriter String String :=
  ⟨id, PyValue.extractString, fun _ => .ok (), PyValue.str⟩

/-- `userinfo` forwards a copy of a returned dict, for which its keys are hashed
again. -/
def userinfoRewriter (intoPyDict : PyDict → PyResult Unit) (player : P) :
    Rewriter PyDict (P × PyDict) :=
  ⟨(player, ·), PyValue.castDict, intoPyDict, PyValue.dict⟩

/-- `client_command` asks the command invoker about every command the handlers
let through, and passes on its refusal.  An exception is only logged. -/
def consultCommands (answer : PyResult Bool) (returnValue : PyValue) : PyValue :=
  if returnValue.isFalse then .bool false
  else
    match answer with
    | .error _ => returnValue
    | .ok false => .bool false
    | .ok true => returnValue

/-- `ClientCommandDispatcherMethods::dispatch`.  The invoker gets the command as
the client sent it. -/
def clientCommandDispatch (repr : P → PyResult String) (handleInput : P → String → PyResult Bool)
    (call : Nat → H → P × String → PyResult PyValue) (player : P) (cmd : String)
    (plugins : Plugins H) : Dispatched (PyResult PyValue) H (P × String) :=
  match repr player with
  | .error e => ⟨.error e, []⟩
  | .ok _ =>
    rewrite call (clientCommandRewriter player) (consultCommands (handleInput player cmd)) plugins
      cmd

/-- `ServerCommandDispatcherMethods::dispatch`. -/
def serverCommandDispatch (call : Nat → H → P × String → PyResult PyValue) (player : P)
    (cmd : String) (plugins : Plugins H) : Dispatched (PyResult PyValue) H (P × String) :=
  rewrite call (serverCommandRewriter player) id plugins cmd

/-- `SetConfigstringDispatcherMethods::dispatch`. -/
def setConfigstringDispatch (call : Nat → H → Nat × String → PyResult PyValue) (index : Nat)
    (value : String) (plugins : Plugins H) : Dispatched (PyResult PyValue) H (Nat × String) :=
  rewrite call (setConfigstringRewriter index) id plugins value

/-- `ConsolePrintDispatcherMethods::dispatch`. -/
def consolePrintDispatch (call : Nat → H → String → PyResult PyValue) (text : String)
    (plugins : Plugins H) : Dispatched (PyResult PyValue) H String :=
  rewrite call consolePrintRewriter id plugins text

/-- `UserinfoDispatcherMethods::dispatch`. -/
def userinfoDispatch (repr : P → PyResult String) (reprDict : PyDict → PyResult String)
    (intoPyDict : PyDict → PyResult Unit) (call : Nat → H → P × PyDict → PyResult PyValue)
    (player : P) (changed : PyDict) (plugins : Plugins H) :
    Dispatched (PyResult PyValue) H (P × PyDict) :=
  match repr player, reprDict changed with
  | .error e, _ | .ok _, .error e => ⟨.error e, []⟩
  | .ok _, .ok _ => rewrite call (userinfoRewriter intoPyDict player) id plugins changed

/-! ## The protocol -/

/-- The effects of a list of calls made at consecutive positions. -/
def effects (call : Nat → H → A → PyResult PyValue) (rw : Rewriter V A)
    (calls : List (H × A)) : List (Effect V) :=
  calls.zipIdx.map fun c => Effect.ofResult rw (call c.2 c.1.1 c.1.2)

/-- The calls of a rewriting dispatch: the handlers in order up to the first one
that ends the chain, each with the latest replacement. -/
structure Chained (call : Nat → H → A → PyResult PyValue) (rw : Rewriter V A) (hs : List H)
    (value : V) (calls : List (H × A)) : Prop where
  in_order : calls.map Prod.fst <+: hs
  latest : ∀ pre c post, calls = pre ++ c :: post →
    c.2 = rw.args ((Effect.lastReplacement (effects call rw pre)).getD value)
  going : ∀ e ∈ (effects call rw calls).dropLast, e.ends = false
  complete : (effects call rw calls).any Effect.ends = false → calls.map Prod.fst = hs

/-- A handler outcome that is a return code, `None` or an exception. -/
def CodeOnly (r : PyResult PyValue) : Prop :=
  ∀ res, r = .ok res → PythonReturnCodes.extract res ≠ none

/-- **The return-value protocol of a rewriting dispatch.**  The result is
promised where the flag of `RET_STOP_EVENT`, a replacement and `RET_STOP` do not
compete for it. -/
structure FollowsProtocol (t : DispatcherType) (call : Nat → H → A → PyResult PyValue)
    (rw : Rewriter V A) (after : PyValue → PyValue) (plugins : Plugins H) (value : V)
    (out : Dispatched (PyResult PyValue) H A) : Prop where
  chained : Chained call rw (handlers plugins) value out.calls
  stop_all : .stopAll ∈ effects call rw out.calls → out.result = .ok (.bool false)
  stop : .stop ∈ effects call rw out.calls →
    Effect.lastReplacement (effects call rw out.calls) = none → out.result = .ok (.bool true)
  failed : ∀ e, .fail e ∈ effects call rw out.calls → out.result = .error e
  stop_event : (effects call rw out.calls).any Effect.ends = false → ∀ pre post,
    effects call rw out.calls = pre ++ .stopEvent :: post →
      Effect.lastReplacement post = none → out.result = .ok (after (.bool false))
  replaced : (effects call rw out.calls).any Effect.ends = false →
    .stopEvent ∉ effects call rw out.calls →
      out.result = .ok (after
        (((Effect.lastReplacement (effects call rw out.calls)).map rw.wrap).getD (.bool true)))
  base : (∀ k h, CodeOnly (call k h (rw.args value))) →
    let plain := dispatch t ⟨call, fun _ => handleReturn t⟩ (rw.args value) plugins
    out.calls = plain.calls ∧ out.result = .ok
      (if (effects call rw out.calls).any Effect.ends then plain.result else after plain.result)

theorem effects_concat (call : Nat → H → A → PyResult PyValue) (rw : Rewriter V A)
    (calls : List (H × A)) (c : H × A) :
    effects call rw (calls ++ [c]) =
      effects call rw calls ++ [Effect.ofResult rw (call calls.length c.1 c.2)] := by
  simp [effects, List.zipIdx_append]

theorem rewriteBody_eq (call : Nat → H → A → PyResult PyValue) (rw : Rewriter V A) (k : Nat)
    (handler : H) (s : Rewriting V) :
    rewriteBody call rw k handler s =
      match Effect.ofResult rw (call k handler (rw.args s.forwarded)) with
      | .proceed => .next s
      | .stop => .ret (.ok (.bool true))
      | .stopEvent => .next { s with returnValue := .bool false }
      | .stopAll => .ret (.ok (.bool false))
      | .replace value => .next ⟨value, rw.wrap value⟩
      | .fail e => .ret (.error e) := by
  unfold rewriteBody Effect.ofResult
  cases call k handler (rw.args s.forwarded) with
  | error e => rfl
  | ok res =>
    simp only
    split
    · rfl
    · rfl
    · rfl
    · rfl
    · cases rw.read res with
      | none => rfl
      | some value =>
        simp only
        cases rw.copy value with
        | error e => rfl
        | ok u => rfl

/-- On a code the base dispatch does what a rewriting dispatch does. -/
theorem dispatchBody_of_codeOnly {t : DispatcherType} (hname : t.name ≠ none)
    {call : Nat → H → A → PyResult PyValue} {rw : Rewriter V A}
    (hread : ∀ i, rw.read (.int i) = none)
    {args : A} {k : Nat} {handler : H} (hcode : CodeOnly (call k handler args)) (rv : PyValue) :
    (∀ value, Effect.ofResult rw (call k handler args) ≠ .replace value) ∧
      (∀ e, Effect.ofResult rw (call k handler args) ≠ .fail e) ∧
      dispatchBody ⟨call, fun _ => handleReturn t⟩ args k handler rv =
        match Effect.ofResult rw (call k handler args) with
        | .proceed => .next rv
        | .stop => .ret (.bool true)
        | .stopEvent => .next (.bool false)
        | .stopAll => .ret (.bool false)
        | .replace value => .next (rw.wrap value)
        | .fail _ => .next rv := by
  obtain ⟨name, hname⟩ := Option.ne_none_iff_exists'.mp hname
  unfold dispatchBody Effect.ofResult
  simp only
  cases hcall : call k handler args with
  | error e => simp
  | ok res =>
    have hsome := hcode res hcall
    cases hc : PythonReturnCodes.extract res with
    | none => exact absurd hc hsome
    | some c =>
      cases c with
      | retNone | retStop | retStopEvent | retStopAll => simp [hc]
      | retUsage =>
        have hint : ∃ i, res = .int i := by
          cases res with
          | dict d => cases hc
          | scalar v =>
            cases v with
            | int i => exact ⟨i, rfl⟩
            | none | bool | str | other => cases hc
        obtain ⟨i, rfl⟩ := hint
        simp [hc, hread, handleReturn, hname]

/-- The calls a loop over the handlers has made. -/
def callsOf (rw : Rewriter V A) (visited : List (H × Rewriting V)) : List (H × A) :=
  visited.map fun v => (v.1, rw.args v.2.forwarded)

theorem callsOf_concat (rw : Rewriter V A) (vs : List (H × Rewriting V)) (handler : H)
    (s : Rewriting V) :
    callsOf rw (vs ++ [(handler, s)]) = callsOf rw vs ++ [(handler, rw.args s.forwarded)] := by
  simp [callsOf]

theorem map_fst_callsOf (rw : Rewriter V A) (vs : List (H × Rewriting V)) :
    (callsOf rw vs).map Prod.fst = vs.map Prod.fst := by
  simp [callsOf]

theorem effects_callsOf_concat (call : Nat → H → A → PyResult PyValue) (rw : Rewriter V A)
    (vs : List (H × Rewriting V)) (handler : H) (s : Rewriting V) :
    effects call rw (callsOf rw (vs ++ [(handler, s)])) = effects call rw (callsOf rw vs) ++
      [Effect.ofResult rw (call vs.length handler (rw.args s.forwarded))] := by
  have hlength : (callsOf rw vs).length = vs.length := List.length_map _
  rw [callsOf_concat, effects_concat, hlength]

/-- What holds while the rewriting loop goes on. -/
structure Going (call : Nat → H → A → PyResult PyValue) (rw : Rewriter V A) (value : V)
    (calls : List (H × A)) (s : Rewriting V) : Prop where
  forwarded : s.forwarded = (Effect.lastReplacement (effects call rw calls)).getD value
  returnValue : s.returnValue = Effect.standing rw.wrap (effects call rw calls)
  going : ∀ e ∈ effects call rw calls, e.ends = false
  latest : ∀ pre c post, calls = pre ++ c :: post →
    c.2 = rw.args ((Effect.lastReplacement (effects call rw pre)).getD value)

theorem Going.latest_concat {call : Nat → H → A → PyResult PyValue} {rw : Rewriter V A} {value : V}
    {calls : List (H × A)} {s : Rewriting V} (h : Going call rw value calls s) (handler : H) :
    ∀ pre c post, calls ++ [(handler, rw.args s.forwarded)] = pre ++ c :: post →
      c.2 = rw.args ((Effect.lastReplacement (effects call rw pre)).getD value) := by
  intro pre c post hsplit
  rcases List.eq_nil_or_concat post with rfl | ⟨post, d, rfl⟩
  · obtain ⟨rfl, hc⟩ := List.append_inj' hsplit rfl
    rw [← (List.cons.inj hc).1, h.forwarded]
  · rw [List.concat_eq_append, ← List.cons_append, ← List.append_assoc] at hsplit
    exact h.latest pre c post (List.append_inj' hsplit rfl).1

/-- **The rewriting loop, exactly**: the calls it makes, and its result from their
effects. -/
theorem rewrite_exact (call : Nat → H → A → PyResult PyValue) (rw : Rewriter V A)
    (after : PyValue → PyValue) (plugins : Plugins H) (value : V) :
    let out := rewrite call rw after plugins value
    Chained call rw (handlers plugins) value out.calls ∧
      out.result = Effect.conclusion after rw.wrap (effects call rw out.calls) := by
  refine Loop.rule (I := fun vs s => Going call rw value (callsOf rw vs) s)
    (Q := fun vs r => Chained call rw (handlers plugins) value (callsOf rw vs) ∧
      r = Effect.conclusion after rw.wrap (effects call rw (callsOf rw vs)))
    ⟨rfl, rfl, by simp [effects, callsOf], by simp [callsOf]⟩ ?_ ?_ ?_
  · -- one more call, and the loop goes on
    intro vs handler s s' _ hI hbody
    rw [rewriteBody_eq] at hbody
    have hlatest := hI.latest_concat handler
    rw [← callsOf_concat] at hlatest
    have hes := effects_callsOf_concat call rw vs handler s
    cases he : Effect.ofResult rw (call vs.length handler (rw.args s.forwarded)) with
    | stop | stopAll | fail =>
      rw [he] at hbody
      cases hbody
    | proceed | stopEvent | replace =>
      rw [he] at hbody hes
      cases hbody
      refine ⟨?_, ?_, ?_, hlatest⟩
      · rw [hes, Effect.lastReplacement_concat]
        simp [Effect.replacement?, hI.forwarded]
      · rw [hes, Effect.standing_concat]
        simp [Effect.mark, hI.returnValue]
      · rw [hes]
        simpa [Effect.ends, or_imp, forall_and] using hI.going
  · -- the last call ends the chain
    intro vs handler s r hpre hI hbody
    rw [rewriteBody_eq] at hbody
    have hlatest := hI.latest_concat handler
    rw [← callsOf_concat] at hlatest
    have hes := effects_callsOf_concat call rw vs handler s
    cases he : Effect.ofResult rw (call vs.length handler (rw.args s.forwarded)) with
    | proceed | stopEvent | replace =>
      rw [he] at hbody
      cases hbody
    | stop | stopAll | fail =>
      rw [he] at hbody hes
      cases hbody
      refine ⟨⟨by simpa [map_fst_callsOf] using hpre, hlatest, ?_, ?_⟩, ?_⟩
      · rw [hes, List.dropLast_concat]
        exact hI.going
      · rw [hes]
        simp [Effect.ends]
      · rw [hes]
        simp [Effect.conclusion]
  · -- every handler was called
    intro vs s hall hI
    have hhandlers : (callsOf rw vs).map Prod.fst = handlers plugins :=
      (map_fst_callsOf rw vs).trans hall
    have hnone : (effects call rw (callsOf rw vs)).any Effect.ends = false :=
      List.any_eq_false.mpr fun e he => Bool.eq_false_iff.mp (hI.going e he)
    refine ⟨⟨hhandlers ▸ List.prefix_rfl, hI.latest, fun e he => ?_, fun _ => hhandlers⟩, ?_⟩
    · exact hI.going e (List.dropLast_subset _ he)
    · rw [Effect.conclusion_of_any_ends _ _ hnone, hI.returnValue]

/-- The first handler is called, with the value as it is. -/
theorem Chained.head {call : Nat → H → A → PyResult PyValue} {rw : Rewriter V A} {hs : List H}
    {value : V} {calls : List (H × A)} (h : Chained call rw hs value calls) :
    calls.head? = hs.head?.map fun handler => (handler, rw.args value) := by
  cases calls with
  | nil =>
    have hnone : hs = [] := (h.complete rfl).symm
    rw [hnone]
    rfl
  | cons c post =>
    obtain ⟨rest, hrest⟩ := h.in_order
    have hargs : c.2 = rw.args value := h.latest [] c post rfl
    rw [← hrest, ← hargs]
    rfl

/-! ## Chains that replace nothing -/

theorem effects_plain_concat (call : Nat → H → A → PyResult PyValue) (rw : Rewriter V A) (args : A)
    {S : Type} (vs : List (H × S)) (handler : H) (s : S) :
    effects call rw ((vs ++ [(handler, s)]).map fun v => (v.1, args)) =
      effects call rw (vs.map fun v => (v.1, args)) ++
        [Effect.ofResult rw (call vs.length handler args)] := by
  rw [List.map_append, List.map_singleton, effects_concat, List.length_map]

/-- The base dispatch on return codes, exactly. -/
theorem dispatch_codeOnly {t : DispatcherType} (hname : t.name ≠ none)
    {call : Nat → H → A → PyResult PyValue} {rw : Rewriter V A}
    (hread : ∀ i, rw.read (.int i) = none)
    {args : A} (hcode : ∀ k h, CodeOnly (call k h args)) (plugins : Plugins H) :
    let plain := dispatch t ⟨call, fun _ => handleReturn t⟩ args plugins
    Effect.conclusion id rw.wrap (effects call rw plain.calls) = .ok plain.result := by
  obtain ⟨name, hsome⟩ := Option.ne_none_iff_exists'.mp hname
  simp only [dispatch, hsome]
  refine Loop.rule
    (I := fun vs rv => rv = Effect.standing rw.wrap
        (effects call rw (vs.map fun v => (v.1, args))) ∧
      ∀ e ∈ effects call rw (vs.map fun v => (v.1, args)), e.ends = false)
    (Q := fun vs r => Effect.conclusion id rw.wrap
      (effects call rw (vs.map fun v => (v.1, args))) = .ok r)
    ⟨rfl, by simp [effects]⟩ ?_ ?_ ?_
  · rintro vs handler rv rv' _ ⟨hrv, hgoing⟩ hbody
    obtain ⟨hreplace, hfail, heq⟩ :=
      dispatchBody_of_codeOnly hname hread (hcode vs.length handler) rv
    rw [heq] at hbody
    rw [effects_plain_concat]
    cases he : Effect.ofResult rw (call vs.length handler args) with
    | replace value => exact absurd he (hreplace value)
    | fail e => exact absurd he (hfail e)
    | stop | stopAll =>
      rw [he] at hbody
      cases hbody
    | proceed | stopEvent =>
      rw [he] at hbody
      cases hbody
      refine ⟨?_, ?_⟩
      · rw [Effect.standing_concat]
        simp [Effect.mark, hrv]
      · simpa [Effect.ends, or_imp, forall_and] using hgoing
  · rintro vs handler rv r _ ⟨hrv, hgoing⟩ hbody
    obtain ⟨hreplace, hfail, heq⟩ :=
      dispatchBody_of_codeOnly hname hread (hcode vs.length handler) rv
    rw [heq] at hbody
    rw [effects_plain_concat]
    cases he : Effect.ofResult rw (call vs.length handler args) with
    | replace value => exact absurd he (hreplace value)
    | fail e => exact absurd he (hfail e)
    | proceed | stopEvent =>
      rw [he] at hbody
      cases hbody
    | stop | stopAll =>
      rw [he] at hbody
      cases hbody
      simp [Effect.conclusion]
  · rintro vs rv _ ⟨hrv, hgoing⟩
    have hnone : (effects call rw (vs.map fun v => (v.1, args))).any Effect.ends = false :=
      List.any_eq_false.mpr fun e he => Bool.eq_false_iff.mp (hgoing e he)
    rw [Effect.conclusion_of_any_ends _ _ hnone, hrv]

/-- On return codes a rewriting dispatch makes the calls of the base dispatch. -/
theorem rewrite_calls_of_codeOnly {t : DispatcherType} (hname : t.name ≠ none)
    {call : Nat → H → A → PyResult PyValue} {rw : Rewriter V A}
    (hread : ∀ i, rw.read (.int i) = none)
    {value : V} (hcode : ∀ k h, CodeOnly (call k h (rw.args value))) (after : PyValue → PyValue)
    (plugins : Plugins H) :
    (rewrite call rw after plugins value).calls =
      (dispatch t ⟨call, fun _ => handleReturn t⟩ (rw.args value) plugins).calls := by
  obtain ⟨name, hsome⟩ := Option.ne_none_iff_exists'.mp hname
  simp only [dispatch, hsome, rewrite]
  refine Loop.visited_of_simulates (fun s _ => s.forwarded = value) _ _ ?_ ?_ rfl 0 _
  · rintro k handler ⟨_, rv⟩ rv' rfl
    obtain ⟨hreplace, hfail, heq⟩ := dispatchBody_of_codeOnly hname hread (hcode k handler) rv'
    rw [rewriteBody_eq, heq]
    cases he : Effect.ofResult rw (call k handler (rw.args _)) with
    | replace value => exact absurd he (hreplace value)
    | fail e => exact absurd he (hfail e)
    | proceed | stopEvent => exact .inl ⟨_, _, rfl, rfl, rfl⟩
    | stop | stopAll => exact .inr ⟨_, _, rfl, rfl⟩
  · rintro handler ⟨_, rv⟩ rv' rfl
    rfl

/-! ## The five dispatchers -/

/-- **Every rewriting dispatcher follows the protocol.** -/
theorem rewrite_follows {t : DispatcherType} (hname : t.name ≠ none) {rw : Rewriter V A}
    (hread : ∀ i, rw.read (.int i) = none) (call : Nat → H → A → PyResult PyValue)
    (after : PyValue → PyValue) (plugins : Plugins H) (value : V) :
    FollowsProtocol t call rw after plugins value (rewrite call rw after plugins value) := by
  obtain ⟨hchained, hresult⟩ := rewrite_exact call rw after plugins value
  refine ⟨hchained, fun h => ?_, fun h hnone => ?_, fun e h => ?_,
    fun hends pre post hsplit hnone => ?_, fun hends hnotMem => ?_, fun hcode => ⟨?_, ?_⟩⟩
  · rw [hresult, Effect.conclusion, Effect.getLast?_of_ends hchained.going h rfl]
  · rw [hresult, Effect.conclusion, Effect.getLast?_of_ends hchained.going h rfl]
  · rw [hresult, Effect.conclusion, Effect.getLast?_of_ends hchained.going h rfl]
  · rw [hresult, Effect.conclusion_of_any_ends _ _ hends, hsplit,
      Effect.standing_of_stopEvent _ _ _ hnone]
  · rw [hresult, Effect.conclusion_of_any_ends _ _ hends, Effect.standing_of_notMem _ _ hnotMem]
  · exact rewrite_calls_of_codeOnly hname hread hcode after plugins
  · have hcalls := rewrite_calls_of_codeOnly hname hread hcode after plugins
    have hplain := dispatch_codeOnly hname hread hcode plugins
    simp only [← hcalls] at hplain
    rw [hresult]
    split
    · rename_i hends
      rw [← hplain]
      exact Effect.conclusion_of_ends hchained.going hends after id
    · rename_i hends
      rw [Bool.not_eq_true] at hends
      rw [Effect.conclusion_of_any_ends _ _ hends] at hplain
      rw [Effect.conclusion_of_any_ends _ _ hends, ← Except.ok.inj hplain]
      rfl

/-- **The rewriting dispatchers follow the return-value protocol**, for every
registry and every behaviour of their handlers.  Two of them can raise before
the first handler, when the text of an argument cannot be made. -/
theorem rewriting_dispatchers_follow (plugins : Plugins H) :
    (∀ repr handleInput call (player : P) cmd,
      let out := clientCommandDispatch repr handleInput call player cmd plugins
      match repr player with
      | .error e => out = ⟨.error e, []⟩
      | .ok _ => FollowsProtocol clientCommand call (clientCommandRewriter player)
          (consultCommands (handleInput player cmd)) plugins cmd out) ∧
    (∀ call (player : P) cmd,
      FollowsProtocol serverCommand call (serverCommandRewriter player) id plugins cmd
        (serverCommandDispatch call player cmd plugins)) ∧
    (∀ call index value,
      FollowsProtocol setConfigstring call (setConfigstringRewriter index) id plugins value
        (setConfigstringDispatch call index value plugins)) ∧
    (∀ call text,
      FollowsProtocol consolePrint call consolePrintRewriter id plugins text
        (consolePrintDispatch call text plugins)) ∧
    ∀ repr reprDict intoPyDict call (player : P) changed,
      let out := userinfoDispatch repr reprDict intoPyDict call player changed plugins
      match repr player, reprDict changed with
      | .error e, _ | .ok _, .error e => out = ⟨.error e, []⟩
      | .ok _, .ok _ =>
        FollowsProtocol userinfo call (userinfoRewriter intoPyDict player) id plugins changed
          out := by
  refine ⟨?_, ?_, ?_, ?_, ?_⟩
  · intro repr handleInput call player cmd
    unfold clientCommandDispatch
    cases repr player with
    | error e => rfl
    | ok text => exact rewrite_follows (by simp [clientCommand]) (fun _ => rfl) _ _ _ _
  · exact fun call player cmd => rewrite_follows (by simp [serverCommand]) (fun _ => rfl) _ _ _ _
  · exact fun call index value =>
      rewrite_follows (by simp [setConfigstring]) (fun _ => rfl) _ _ _ _
  · exact fun call text => rewrite_follows (by simp [consolePrint]) (fun _ => rfl) _ _ _ _
  · intro repr reprDict intoPyDict call player changed
    unfold userinfoDispatch
    cases repr player with
    | error e => rfl
    | ok text =>
      cases reprDict changed with
      | error e => rfl
      | ok text => exact rewrite_follows (by simp [userinfo]) (fun _ => rfl) _ _ _ _

/-- The result the return codes promise by their names: the event is stopped iff
some handler asked for it, and otherwise the last replacement comes back. -/
def NominalResult (wrap : V → PyValue) (es : List (Effect V)) (r : PyResult PyValue) : Prop :=
  (r = .ok (.bool false) ↔ .stopEvent ∈ es ∨ .stopAll ∈ es) ∧
    (.stopEvent ∉ es → .stopAll ∉ es →
      r = .ok (((Effect.lastReplacement es).map wrap).getD (.bool true)))

/-- Handlers that answer by a script. -/
def scripted (answers : List PyValue) (k : Nat) (_handler : H) (_args : A) : PyResult PyValue :=
  .ok (answers.getD k .none)

/-- Two plain functions hooked by one plugin. -/
def twoHandlers : Plugins PyFunction := [("fun", fun i => if i = 2 then [⟨0⟩, ⟨1⟩] else [])]

/-- A console line dispatched to `twoHandlers` has the nominal result. -/
def ConsolePrintNominal (answers : List PyValue) : Prop :=
  let out := consolePrintDispatch (scripted answers) "line" twoHandlers
  NominalResult .str (effects (scripted answers) consolePrintRewriter out.calls) out.result

/-- A client command dispatched to `twoHandlers` has the nominal result. -/
def ClientCommandNominal (answers : List PyValue) (answer : PyResult Bool) : Prop :=
  let out := clientCommandDispatch (fun _ => .ok "player") (fun _ _ => answer) (scripted answers) ()
    "say" twoHandlers
  NominalResult .str (effects (scripted answers) (clientCommandRewriter ()) out.calls) out.result

/-- `RET_STOP` forgets the flag of `RET_STOP_EVENT`, as in the base dispatch, and
a replacement; a replacement forgets the flag; and `client_command` stops a
command that the invoker refuses. -/
theorem rewriting_not_nominal :
    ¬ ConsolePrintNominal [.int 2, .int 1] ∧ ¬ ConsolePrintNominal [.str "new", .int 1] ∧
      ¬ ConsolePrintNominal [.int 2, .str "new"] ∧ ¬ ClientCommandNominal [] (.ok false) := by
  refine ⟨fun h => ?_, fun h => ?_, fun h => ?_, fun h => ?_⟩
  · exact absurd (h.1.mpr (by decide)) (by decide)
  · exact absurd (h.2 (by decide) (by decide)) (by decide)
  · exact absurd (h.1.mpr (by decide)) (by decide)
  · exact absurd (h.1.mp (by decide)) (by decide)

end EventDispatcher
end ShinQlx
