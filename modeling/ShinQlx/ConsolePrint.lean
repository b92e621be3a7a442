import ShinQlx.PrintRedirection
import ShinQlx.RewritingDispatch

/-! # What is printed to the console

The hook `shinqlx_com_printf` asks the Python side about each text that the server prints.
The handler dispatches `console_print`, appends the text to the active redirection unless
the event was stopped, and returns the text that the handlers made of it.  The hook prints
the text it was called with, if it got any text back.

So a handler can keep a text from being printed, but not change it: neither the hook nor
the redirection looks at a replacement.  `controlled_iff` says when this makes no
difference.
-/
namespace ShinQlx

/-- What a call of the hook finds: the engine, whether the Python side is initialised, what
becomes of the log record, whether the dispatcher is there, its handlers with the outcome of
their calls, and what they do to the redirection. -/
structure ConsolePrint (R H : Type) where
  engine : Bool
  initialized : Bool
  log : PyResult Unit
  registered : Bool
  plugins : Plugins H
  call : Nat → H → String → PyResult PyValue
  during : PrintRedirection R → PrintRedirection R

namespace Effect
variable {V : Type}

/-- The handlers stopped the event: the last one that was called did, or one did whose flag
no replacement was written over. -/
def Stopped (es : List (Effect V)) : Prop :=
  es.getLast? = some .stopAll ∨ es.any ends = false ∧
    ∃ pre post, es = pre ++ .stopEvent :: post ∧ lastReplacement post = none

/-- The flag of a handler stands if nothing is replaced behind it. -/
theorem isFalse_standing_iff {wrap : V → PyValue} (hwrap : ∀ v, (wrap v).isFalse = false)
    (es : List (Effect V)) :
    (standing wrap es).isFalse = true ↔
      ∃ pre post, es = pre ++ .stopEvent :: post ∧ lastReplacement post = none := by
  constructor
  · intro h
    induction es using List.reverseRecOn with
    | nil => cases h
    | append_singleton es e ih =>
      rw [standing_concat] at h
      cases e with
      | stopEvent => exact ⟨es, [], rfl, rfl⟩
      | replace value => exact absurd h (by simp [mark, hwrap])
      | proceed | stop | stopAll | fail =>
        obtain ⟨pre, post, rfl, hpost⟩ := ih h
        refine ⟨pre, post ++ [_], List.append_assoc _ _ _, ?_⟩
        rw [lastReplacement_concat, hpost]
        rfl
  · rintro ⟨pre, post, rfl, hpost⟩
    rw [standing_of_stopEvent wrap pre post hpost]
    rfl

/-- A dispatch that raises nothing results in `False` if the event was stopped, and only
then. -/
theorem conclusion_stopped {wrap : V → PyValue} (hwrap : ∀ v, (wrap v).isFalse = false)
    {es : List (Effect V)} (hgoing : ∀ e ∈ es.dropLast, e.ends = false)
    (hfail : ∀ e, .fail e ∉ es) :
    ∃ result, conclusion id wrap es = .ok result ∧ (result.isFalse = true ↔ Stopped es) := by
  cases hends : es.any ends with
  | false =>
    refine ⟨standing wrap es, conclusion_of_any_ends id wrap hends, ?_⟩
    have hlast : es.getLast? ≠ some .stopAll := fun h =>
      absurd (List.any_eq_false.mp hends _ (List.mem_of_getLast? h)) (by simp [ends])
    rw [isFalse_standing_iff hwrap]
    simp [Stopped, hends, hlast]
  | true =>
    obtain ⟨e, he, hended⟩ := List.any_eq_true.mp hends
    have hlast := getLast?_of_ends hgoing he hended
    simp only [conclusion, Stopped, hlast, hends]
    cases e with
    | proceed | stopEvent | replace => cases hended
    | fail e => exact absurd he (hfail e)
    | stop => exact ⟨.bool true, rfl, by simp⟩
    | stopAll => exact ⟨.bool false, rfl, by simp⟩

end Effect

namespace ConsolePrint
variable {R H : Type} [DecidableEq R]

/-- The error of a dispatcher that is not there. -/
def noDispatcher : PyErr :=
  .environmentError "could not get access to console print dispatcher"

/-- The dispatch of `console_print` by the handler. -/
def dispatch (p : ConsolePrint R H) (text : String) (w : PrintRedirection R) :
    PyResult PyValue × PrintRedirection R :=
  if !p.registered then (.error noDispatcher, w)
  else ((EventDispatcher.consolePrintDispatch p.call text p.plugins).result, p.during w)

/-- `console_print_dispatcher`: the text to print, if any. -/
def consolePrintDispatcher (p : ConsolePrint R H) (text : String) (w : PrintRedirection R) :
    Option String × PrintRedirection R :=
  if !p.initialized then (some text, w)
  else
    let (result, w) := w.handleConsolePrint p.log (p.dispatch text) text
    (if result.isFalse then none else some (result.extractString.getD text), w)

/-- `shinqlx_com_printf`: the text that the engine prints, if any. -/
def shinqlxComPrintf (p : ConsolePrint R H) (msg : String) (w : PrintRedirection R) :
    Option String × PrintRedirection R :=
  if !p.engine then (none, w)
  else
    match p.consolePrintDispatcher msg w with
    | (none, w) => (none, w)
    | (some _, w) => (some msg, w)

/-! ## What the handlers ask for -/

/-- The handlers are asked about a text. -/
def Asked (p : ConsolePrint R H) (text : String) : Prop :=
  p.engine = true ∧ p.initialized = true ∧ text ≠ "" ∧ p.log = .ok () ∧ p.registered = true

instance (p : ConsolePrint R H) (text : String) : Decidable (p.Asked text) :=
  inferInstanceAs (Decidable (_ ∧ _ ∧ _ ∧ _ ∧ _))

/-- The effects of the handlers that were called. -/
def effects (p : ConsolePrint R H) (text : String) : List (Effect String) :=
  if p.Asked text then
    EventDispatcher.effects p.call EventDispatcher.consolePrintRewriter
      (EventDispatcher.consolePrintDispatch p.call text p.plugins).calls
  else []

/-- The text the handlers want printed, if any: the last replacement, or the text as it
was. -/
def Wanted (p : ConsolePrint R H) (text : String) (wanted : Option String) : Prop :=
  (Effect.Stopped (p.effects text) → wanted = none) ∧
    (¬ Effect.Stopped (p.effects text) →
      wanted = some ((Effect.lastReplacement (p.effects text)).getD text))

/-- The redirection as the handlers leave it. -/
def handled (p : ConsolePrint R H) (text : String) (w : PrintRedirection R) :
    PrintRedirection R :=
  if p.Asked text then p.during w else w

/-- An active redirection receives a text. -/
def receive (w : PrintRedirection R) (text : Option String) : PrintRedirection R :=
  match w.redirection, text with
  | some r, some text => w.append r text
  | _, _ => w

/-- The engine prints the text that the handlers want, and an active redirection receives
it. -/
def Controlled (p : ConsolePrint R H) (w : PrintRedirection R) (text : String) : Prop :=
  ∃ wanted, p.Wanted text wanted ∧
    p.shinqlxComPrintf text w = (wanted, receive (p.handled text w) wanted)

theorem receive_none (w : PrintRedirection R) : receive w none = w := by
  cases hr : w.redirection <;> simp [receive, hr]

/-- Receiving a text changes nothing where it is empty or there is no redirection. -/
theorem receive_some_eq_self (w : PrintRedirection R) (text : String) :
    receive w (some text) = w ↔ text = "" ∨ w.redirection = none := by
  cases hr : w.redirection with
  | none => simp [receive, hr]
  | some r =>
    simp only [receive, hr, PrintRedirection.append]
    constructor
    · intro h
      have hbuffer := congrFun (congrArg PrintRedirection.printBuffer h) r
      simp only [Function.update_self] at hbuffer
      have hlist := congrArg String.toList hbuffer
      rw [String.toList_append, List.append_right_eq_self, String.toList_eq_nil_iff] at hlist
      exact .inl hlist
    · rintro (rfl | h)
      · simp only [String.append_empty, Function.update_eq_self]
        rw [← hr]
      · cases h

omit [DecidableEq R] in
/-- The result of the dispatch, where the handlers are asked. -/
theorem dispatch_result (p : ConsolePrint R H) (text : String) :
    ∃ result, (EventDispatcher.consolePrintDispatch p.call text p.plugins).result = .ok result ∧
      (result.isFalse = true ↔ Effect.Stopped (EventDispatcher.effects p.call
        EventDispatcher.consolePrintRewriter
        (EventDispatcher.consolePrintDispatch p.call text p.plugins).calls)) := by
  obtain ⟨hchained, hresult⟩ := EventDispatcher.rewrite_exact p.call
    EventDispatcher.consolePrintRewriter id p.plugins text
  have hfail : ∀ e, .fail e ∉ EventDispatcher.effects p.call EventDispatcher.consolePrintRewriter
      (EventDispatcher.consolePrintDispatch p.call text p.plugins).calls := by
    intro e he
    obtain ⟨c, -, hc⟩ := List.mem_map.mp he
    simp only [Effect.ofResult, EventDispatcher.consolePrintRewriter] at hc
    grind
  have htext : ∀ v, (PyValue.str v).isFalse = false := fun _ => rfl
  obtain ⟨result, hconclusion, hstopped⟩ :=
    Effect.conclusion_stopped htext hchained.going hfail
  exact ⟨result, hresult.trans hconclusion, hstopped⟩

/-- The hook where the handlers are not asked. -/
theorem shinqlxComPrintf_of_not_asked {p : ConsolePrint R H} (hengine : p.engine = true)
    {text : String} (hasked : ¬ p.Asked text) (w : PrintRedirection R) :
    p.shinqlxComPrintf text w = (some text, w) := by
  have hdispatcher : p.consolePrintDispatcher text w = (some text, w) := by
    simp only [consolePrintDispatcher, PrintRedirection.handleConsolePrint,
      PrintRedirection.tryHandleConsolePrint, dispatch]
    by_cases hinit : p.initialized = true
    · by_cases htext : text = ""
      · simp [hinit, htext, PyValue.isFalse, PyValue.extractString]
      · cases hlog : p.log with
        | error e => simp [hinit, htext, PyValue.extractString]
        | ok u =>
          have hregistered : p.registered = false :=
            Bool.eq_false_iff.mpr fun h => hasked ⟨hengine, hinit, htext, hlog, h⟩
          simp [hinit, htext, hregistered, PyValue.extractString]
    · simp [hinit]
  simp [shinqlxComPrintf, hengine, hdispatcher]

/-- The hook where the handlers are asked: it prints the text unless they stopped the
event, and so does the redirection that they leave. -/
theorem shinqlxComPrintf_of_asked {p : ConsolePrint R H} {text : String} (hasked : p.Asked text)
    (w : PrintRedirection R) :
    (Effect.Stopped (p.effects text) → p.shinqlxComPrintf text w = (none, p.during w)) ∧
      (¬ Effect.Stopped (p.effects text) →
        p.shinqlxComPrintf text w = (some text, receive (p.during w) (some text))) := by
  obtain ⟨hengine, hinit, htext, hlog, hregistered⟩ := id hasked
  obtain ⟨result, hresult, hstopped⟩ := p.dispatch_result text
  rw [effects, if_pos hasked, ← hstopped]
  have hdispatch : p.dispatch text w = (.ok result, p.during w) := by
    simp [dispatch, hregistered, hresult]
  have hhandle : w.handleConsolePrint p.log (p.dispatch text) text =
      if result.isFalse then (.bool false, p.during w)
      else (.str (result.extractString.getD text), receive (p.during w) (some text)) := by
    simp only [PrintRedirection.handleConsolePrint, if_neg htext,
      PrintRedirection.tryHandleConsolePrint, hlog, hdispatch, receive]
    cases result.isFalse with
    | true => rfl
    | false => cases (p.during w).redirection <;> rfl
  simp only [shinqlxComPrintf, consolePrintDispatcher, hengine, hinit, hhandle]
  cases result.isFalse <;> simp

/-- **The handlers control what is printed** exactly where they stop the event, or none of
them wants another text and an active redirection has them asked. -/
theorem controlled_iff (p : ConsolePrint R H) (w : PrintRedirection R) (text : String) :
    p.Controlled w text ↔ p.engine = true ∧
      (Effect.Stopped (p.effects text) ∨
        (Effect.lastReplacement (p.effects text)).getD text = text ∧
          (p.Asked text ∨ text = "" ∨ w.redirection = none)) := by
  by_cases hasked : p.Asked text
  · obtain ⟨hstop, hgo⟩ := shinqlxComPrintf_of_asked hasked w
    have hhandled : p.handled text w = p.during w := if_pos hasked
    by_cases hstopped : Effect.Stopped (p.effects text)
    · -- nothing is printed, and nothing is wanted
      have hnone : p.Controlled w text :=
        ⟨none, ⟨fun _ => rfl, fun h => absurd hstopped h⟩,
          by rw [hstop hstopped, hhandled, receive_none]⟩
      exact ⟨fun _ => ⟨hasked.1, .inl hstopped⟩, fun _ => hnone⟩
    · -- the text itself is printed
      constructor
      · rintro ⟨wanted, hwanted, heq⟩
        rw [hgo hstopped, hwanted.2 hstopped] at heq
        have htext := Option.some.inj (congrArg Prod.fst heq)
        exact ⟨hasked.1, .inr ⟨htext.symm, .inl hasked⟩⟩
      · rintro ⟨-, h⟩
        obtain ⟨htext, -⟩ := h.resolve_left hstopped
        refine ⟨some text, ⟨fun h => absurd h hstopped, fun _ => by rw [htext]⟩, ?_⟩
        rw [hgo hstopped, hhandled]
  · have heffects : p.effects text = [] := if_neg hasked
    have hhandled : p.handled text w = w := if_neg hasked
    have hstopped : ¬ Effect.Stopped (p.effects text) := by simp [heffects, Effect.Stopped]
    have hlast : (Effect.lastReplacement (p.effects text)).getD text = text := by
      simp [heffects, Effect.lastReplacement]
    by_cases hengine : p.engine = true
    · -- nobody is asked, and only the engine prints the text
      have hprints := shinqlxComPrintf_of_not_asked hengine hasked w
      have hsame : (∃ wanted, p.Wanted text wanted ∧ (some text, w) = (wanted, receive w wanted)) ↔
          receive w (some text) = w := by
        constructor
        · rintro ⟨wanted, hwanted, heq⟩
          obtain ⟨rfl, hw⟩ := Prod.mk.inj heq
          exact hw.symm
        · intro h
          exact ⟨some text, ⟨fun h => absurd h hstopped, fun _ => by rw [hlast]⟩, by rw [h]⟩
      rw [Controlled, hprints, hhandled, hsame, receive_some_eq_self]
      simp [hengine, hstopped, hlast, hasked]
    · -- nothing is printed
      constructor
      · rintro ⟨wanted, hwanted, heq⟩
        rw [shinqlxComPrintf, if_pos (by simpa using hengine), hwanted.2 hstopped] at heq
        cases congrArg Prod.fst heq
      · rintro ⟨h, -⟩
        exact absurd h hengine

/-- A handler that returns `replacement`, while a redirection is active. -/
def replacing (replacement : String) : ConsolePrint Unit PyFunction where
  engine := true
  initialized := true
  log := .ok ()
  registered := true
  plugins := [("fun", fun i => if i.val = 2 then [⟨0⟩] else [])]
  call := fun _ _ _ => .ok (.str replacement)
  during := id

/-- The console shows what the handler replaced, and so does the redirection. -/
theorem not_controlled_replacing :
    ¬ (replacing "new").Controlled (PrintRedirection.start.contextManagerEnter ()) "old" := by
  have heffects : (replacing "new").effects "old" = [.replace "new"] := by decide +kernel
  have hprinted : ((replacing "new").shinqlxComPrintf "old"
      (PrintRedirection.start.contextManagerEnter ())).1 = some "old" := by decide +kernel
  have hstopped : ¬ Effect.Stopped ((replacing "new").effects "old") := by
    simp [heffects, Effect.Stopped, Effect.ends, List.cons_eq_append_iff]
  rintro ⟨wanted, hwanted, heq⟩
  have hnew : wanted = some "new" := (hwanted.2 hstopped).trans (by rw [heffects]; rfl)
  rw [heq, hnew] at hprinted
  exact absurd hprinted (by decide)

end ConsolePrint
end ShinQlx
