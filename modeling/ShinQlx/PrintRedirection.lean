import Mathlib.Logic.Function.Basic
import ShinQlx.Python

/-! # Console output that is redirected

A `PrintRedirector` is used as a context manager: while it is entered, what the server
prints to the console is also appended to its buffer, and on the way out the buffer is
handed to the `reply` of a channel.  The active redirector is kept in the one slot
`PRINT_REDIRECTION`.

A `RedirectScript` is what Python does, with its `with` statements nested, and with what
the replies and the handlers of `console_print` do in turn.  In a run that meets the
conditions of `Good` every `with` statement leaves the redirection as it found it, with
an empty buffer, and with everything delivered that was printed (`redirection_of_good`).
Without them it may not: entering does not keep the redirector that was active before,
and a reply that raises keeps `__exit__` from coming to its end.
-/
namespace ShinQlx

/-- How a `with` statement ended: the redirection that was active before it and the one
that is active after it, what is left in the buffer, and the text that was printed and
delivered so far. -/
structure RedirectorExit (R : Type) where
  before : Option R
  after : Option R
  left : String
  printed : String
  delivered : String
  deriving DecidableEq

/-- The slot and the buffers; and, to tell what happened, the redirectors that are
entered, the innermost first, what was printed to the console while each was innermost,
what was delivered to its channel, and the ends of the `with` statements. -/
structure PrintRedirection (R : Type) where
  redirection : Option R
  printBuffer : R → String
  innermost : List R
  printed : R → String
  delivered : R → String
  exits : List (RedirectorExit R)

/-- What is expected of a context manager. -/
def RedirectorExit.Conforms {R : Type} (e : RedirectorExit R) : Prop :=
  e.after = e.before ∧ e.left = "" ∧ e.delivered = e.printed

instance {R : Type} [DecidableEq R] (e : RedirectorExit R) : Decidable e.Conforms :=
  inferInstanceAs (Decidable (_ ∧ _ ∧ _))

/-- A call of `reply`: what it does, and whether it raises. -/
structure ReplyCall (W : Type) where
  during : W → W
  raised : Option PyErr

namespace PrintRedirection
variable {R : Type} [DecidableEq R]

/-- No redirector was ever entered. -/
def start : PrintRedirection R := ⟨none, fun _ => "", [], fun _ => "", fun _ => "", []⟩

/-- `PrintRedirector::context_manager_enter`. -/
def contextManagerEnter (w : PrintRedirection R) (r : R) : PrintRedirection R :=
  { w with redirection := some r
           innermost := r :: w.innermost }

/-- `PrintRedirector::append`. -/
def append (w : PrintRedirection R) (r : R) (text : String) : PrintRedirection R :=
  { w with printBuffer := Function.update w.printBuffer r (w.printBuffer r ++ text) }

/-- The state in which `flush` calls `reply`: the buffer is empty, and what was in it is
delivered unless the reply raises. -/
def clear (w : PrintRedirection R) (r : R) (raised : Option PyErr) : PrintRedirection R :=
  { w with
    printBuffer := Function.update w.printBuffer r ""
    delivered :=
      match raised with
      | none => Function.update w.delivered r (w.delivered r ++ w.printBuffer r)
      | some _ => w.delivered }

/-- `PrintRedirector::flush`. -/
def flush (w : PrintRedirection R) (r : R) (reply : ReplyCall (PrintRedirection R)) :
    PyResult Unit × PrintRedirection R :=
  let w := reply.during (w.clear r reply.raised)
  match reply.raised with
  | none => (.ok (), w)
  | some e => (.error e, w)

/-- `PrintRedirector::context_manager_exit`. -/
def contextManagerExit (w : PrintRedirection R) (r : R)
    (reply : ReplyCall (PrintRedirection R)) : PyResult Unit × PrintRedirection R :=
  match w.flush r reply with
  | (.error e, w) => (.error e, w)
  | (.ok (), w) => (.ok (), { w with redirection := none })

/-- `try_handle_console_print`, with what becomes of the log record and of the dispatch
of the event. -/
def tryHandleConsolePrint (w : PrintRedirection R) (log : PyResult Unit)
    (dispatch : PrintRedirection R → PyResult PyValue × PrintRedirection R) (text : String) :
    PyResult PyValue × PrintRedirection R :=
  match log with
  | .error e => (.error e, w)
  | .ok () =>
    match dispatch w with
    | (.error e, w) => (.error e, w)
    | (.ok result, w) =>
      if result.isFalse then (.ok (.bool false), w)
      else
        (.ok (.str (result.extractString.getD text)),
          match w.redirection with
          | none => w
          | some r => w.append r text)

/-- `handle_console_print`. -/
def handleConsolePrint (w : PrintRedirection R) (log : PyResult Unit)
    (dispatch : PrintRedirection R → PyResult PyValue × PrintRedirection R) (text : String) :
    PyValue × PrintRedirection R :=
  if text = "" then (.none, w)
  else
    match w.tryHandleConsolePrint log dispatch text with
    | (.ok result, w) => (result, w)
    | (.error _, w) => (.bool true, w)

/-- A text has been printed to the console. -/
def notePrinted (w : PrintRedirection R) (text : String) : PrintRedirection R :=
  match w.innermost with
  | [] => w
  | r :: _ => { w with printed := Function.update w.printed r (w.printed r ++ text) }

/-- The server prints a text to the console, unless the event says not to. -/
def print (w : PrintRedirection R) (text : String) (log : PyResult Unit)
    (during : PrintRedirection R → PrintRedirection R) (dispatched : PyResult PyValue) :
    PrintRedirection R :=
  let (result, w) := w.handleConsolePrint log (fun w => (dispatched, during w)) text
  if result.isFalse then w else w.notePrinted text

/-- A `with` statement. -/
def redirect (w : PrintRedirection R) (r : R) (body : PrintRedirection R → PrintRedirection R)
    (reply : ReplyCall (PrintRedirection R)) : PrintRedirection R :=
  let w' := (body (w.contextManagerEnter r)).contextManagerExit r reply |>.2
  { w' with
    innermost := w.innermost
    exits := w'.exits ++
      [⟨w.redirection, w'.redirection, w'.printBuffer r, w'.printed r, w'.delivered r⟩] }

end PrintRedirection

/-- What Python does until it returns: texts that it has printed, with what the logger
makes of them, what the handlers do and return; `with` statements, with what their body
does and the reply of `__exit__`; and calls of `flush`, with their reply. -/
inductive RedirectScript (R : Type) where
  | done
  | print (text : String) (log : PyResult Unit) (during : RedirectScript R)
    (dispatched : PyResult PyValue) (next : RedirectScript R)
  | redirect (r : R) (body reply : RedirectScript R) (raised : Option PyErr)
    (next : RedirectScript R)
  | flush (r : R) (reply : RedirectScript R) (raised : Option PyErr) (next : RedirectScript R)

namespace RedirectScript
open PrintRedirection
variable {R : Type} [DecidableEq R]

/-- The run of a script. -/
def run : RedirectScript R → PrintRedirection R → PrintRedirection R
  | done, w => w
  | print text log during dispatched next, w => next.run (w.print text log during.run dispatched)
  | redirect r body reply raised next, w =>
    next.run (w.redirect r body.run ⟨reply.run, raised⟩)
  | flush r reply raised next, w => next.run (w.flush r ⟨reply.run, raised⟩).2

/-- Nothing is printed, and no redirector is entered. -/
def Silent : RedirectScript R → Prop
  | done => True
  | print text log during dispatched next =>
    (text = "" ∨ log = .ok () ∧ during.Silent ∧ dispatched = .ok (.bool false)) ∧ next.Silent
  | redirect .. => False
  | flush _ reply _ next => reply.Silent ∧ next.Silent

/-- No redirector is entered while one is active; what is printed while one is active is
logged and dispatched without an exception; a reply does not raise, unless to a `flush`
with nothing in the buffer; and the reply of `__exit__` prints nothing. -/
def Good : RedirectScript R → PrintRedirection R → Prop
  | done, _ => True
  | print text log during dispatched next, w =>
    (text = "" ∨
      match log with
      | .error _ => w.redirection = none
      | .ok () => during.Good w ∧ (w.redirection = none ∨ ∃ value, dispatched = .ok value)) ∧
    next.Good (w.print text log during.run dispatched)
  | redirect r body reply raised next, w =>
    w.redirection = none ∧ body.Good (w.contextManagerEnter r) ∧ reply.Silent ∧ raised = none ∧
      next.Good (w.redirect r body.run ⟨reply.run, raised⟩)
  | flush r reply raised next, w =>
    (raised = none ∨ w.printBuffer r = "") ∧ reply.Good (w.clear r raised) ∧
      next.Good (w.flush r ⟨reply.run, raised⟩).2

end RedirectScript

namespace PrintRedirection
variable {R : Type}

/-- **The invariant of the redirection**: the active redirector is the innermost one, all
other buffers are empty, and what was printed is delivered but for what is in the
buffer. -/
structure Sound (w : PrintRedirection R) : Prop where
  slot : w.redirection = w.innermost.head?
  buffers : ∀ r, w.redirection ≠ some r → w.printBuffer r = ""
  texts : ∀ r, w.printed r = w.delivered r ++ w.printBuffer r
  exits : ∀ e ∈ w.exits, e.Conforms

/-- The same redirectors are entered, and the same one is active. -/
structure Keeps (w w' : PrintRedirection R) : Prop where
  redirection : w'.redirection = w.redirection
  innermost : w'.innermost = w.innermost

theorem Keeps.refl (w : PrintRedirection R) : Keeps w w := ⟨rfl, rfl⟩

theorem Keeps.trans {w w' w'' : PrintRedirection R} (h : Keeps w w') (h' : Keeps w' w'') :
    Keeps w w'' :=
  ⟨h'.redirection.trans h.redirection, h'.innermost.trans h.innermost⟩

theorem Sound.innermost_of_none {w : PrintRedirection R} (h : w.Sound)
    (hnone : w.redirection = none) : w.innermost = [] :=
  List.head?_eq_none_iff.mp (h.slot.symm.trans hnone)

theorem Sound.innermost_of_some {w : PrintRedirection R} (h : w.Sound) {r : R}
    (hsome : w.redirection = some r) : ∃ outer, w.innermost = r :: outer :=
  List.head?_eq_some_iff.mp (h.slot.symm.trans hsome)

variable [DecidableEq R]

/-! ## One step -/

omit [DecidableEq R] in
theorem sound_start : (start : PrintRedirection R).Sound where
  slot := rfl
  buffers _ _ := rfl
  texts _ := rfl
  exits := by simp [start]

/-- A text that is printed to the console and appended to the buffer. -/
theorem Sound.appendPrinted {w : PrintRedirection R} (h : w.Sound) {r : R}
    (hactive : w.redirection = some r) (text : String) :
    ({ w.append r text with
      printed := Function.update w.printed r (w.printed r ++ text) } :
    PrintRedirection R).Sound where
  slot := h.slot
  buffers other hother := by
    have hne : other ≠ r := by
      rintro rfl
      exact hother hactive
    exact (Function.update_of_ne hne _ _).trans (h.buffers other hother)
  texts other := by
    simp only [append]
    by_cases heq : other = r
    · subst heq
      rw [Function.update_self, Function.update_self, h.texts other, String.append_assoc]
    · rw [Function.update_of_ne heq, Function.update_of_ne heq, h.texts other]
  exits := h.exits

theorem notePrinted_of_nil {w : PrintRedirection R} (h : w.innermost = []) (text : String) :
    w.notePrinted text = w := by
  rw [notePrinted, h]

theorem print_empty (w : PrintRedirection R) (log : PyResult Unit)
    (during : PrintRedirection R → PrintRedirection R) (dispatched : PyResult PyValue) :
    w.print "" log during dispatched = w := by
  have hnote : w.notePrinted "" = w := by
    unfold notePrinted
    split
    · rfl
    · rw [String.append_empty, Function.update_eq_self]
  rw [print, handleConsolePrint, if_pos rfl]
  exact hnote

section Print
variable {text : String} {w : PrintRedirection R}
  {during : PrintRedirection R → PrintRedirection R}

/-- What is not logged or not dispatched is printed all the same. -/
theorem print_error (htext : text ≠ "") (e : PyErr) (dispatched : PyResult PyValue) :
    w.print text (.error e) during dispatched = w.notePrinted text ∧
      w.print text (.ok ()) during (.error e) = (during w).notePrinted text := by
  constructor <;> simp [print, handleConsolePrint, htext, tryHandleConsolePrint]

/-- What an event handler keeps from the console. -/
theorem print_false (htext : text ≠ "") {value : PyValue} (hvalue : value.isFalse = true) :
    w.print text (.ok ()) during (.ok value) = during w := by
  simp [print, handleConsolePrint, htext, tryHandleConsolePrint, hvalue]

theorem print_inactive (htext : text ≠ "") {value : PyValue} (hvalue : value.isFalse = false)
    (hactive : (during w).redirection = none) :
    w.print text (.ok ()) during (.ok value) = (during w).notePrinted text := by
  simp [print, handleConsolePrint, htext, tryHandleConsolePrint, hvalue, hactive]

theorem print_active (htext : text ≠ "") {value : PyValue} (hvalue : value.isFalse = false)
    {r : R} {outer : List R} (hactive : (during w).redirection = some r)
    (hinnermost : (during w).innermost = r :: outer) :
    w.print text (.ok ()) during (.ok value) =
      { (during w).append r text with
        printed := Function.update (during w).printed r ((during w).printed r ++ text) } := by
  simp [print, handleConsolePrint, htext, tryHandleConsolePrint, hvalue, hactive, notePrinted,
    append, hinnermost]

/-- **Printing** a text that is logged and dispatched, or with no redirector active. -/
theorem Sound.print (hw : w.Sound) (htext : text ≠ "") {log : PyResult Unit}
    {dispatched : PyResult PyValue}
    (h : match log with
      | .error _ => w.redirection = none
      | .ok () => (during w).Sound ∧ Keeps w (during w) ∧
        (w.redirection = none ∨ ∃ value, dispatched = .ok value)) :
    (w.print text log during dispatched).Sound ∧ Keeps w (w.print text log during dispatched) := by
  cases log with
  | error e =>
    rw [(print_error htext e dispatched).1, notePrinted_of_nil (hw.innermost_of_none h)]
    exact ⟨hw, Keeps.refl w⟩
  | ok u =>
    obtain ⟨hduring, hkeeps, hcases⟩ := h
    cases dispatched with
    | error e =>
      have hinactive : w.redirection = none := by
        rcases hcases with hinactive | ⟨value, ⟨⟩⟩
        exact hinactive
      rw [(print_error htext e (.error e)).2,
        notePrinted_of_nil (hduring.innermost_of_none (hkeeps.redirection.trans hinactive))]
      exact ⟨hduring, hkeeps⟩
    | ok value =>
      cases hvalue : value.isFalse with
      | true =>
        rw [print_false htext hvalue]
        exact ⟨hduring, hkeeps⟩
      | false =>
        cases hactive : (during w).redirection with
        | none =>
          rw [print_inactive htext hvalue hactive,
            notePrinted_of_nil (hduring.innermost_of_none hactive)]
          exact ⟨hduring, hkeeps⟩
        | some r =>
          obtain ⟨outer, houter⟩ := hduring.innermost_of_some hactive
          rw [print_active htext hvalue hactive houter]
          exact ⟨hduring.appendPrinted hactive text, hkeeps.trans ⟨rfl, rfl⟩⟩

end Print

/-- What `flush` does, whether or not it raises. -/
theorem flush_snd (w : PrintRedirection R) (r : R) (reply : ReplyCall (PrintRedirection R)) :
    (w.flush r reply).2 = reply.during (w.clear r reply.raised) := by
  rw [flush]
  split <;> rfl

/-- **Flushing**: the state in which the reply is called. -/
theorem Sound.clear {w : PrintRedirection R} (hw : w.Sound) {r : R} {raised : Option PyErr}
    (h : raised = none ∨ w.printBuffer r = "") : (w.clear r raised).Sound where
  slot := hw.slot
  buffers other hother := by
    by_cases heq : other = r
    · subst heq
      exact Function.update_self ..
    · exact (Function.update_of_ne heq _ _).trans (hw.buffers other hother)
  texts other := by
    have htexts := hw.texts other
    cases raised with
    | none =>
      show w.printed other =
        Function.update w.delivered r (w.delivered r ++ w.printBuffer r) other ++
        Function.update w.printBuffer r "" other
      by_cases heq : other = r
      · subst heq
        rw [Function.update_self, Function.update_self, String.append_empty, htexts]
      · rw [Function.update_of_ne heq, Function.update_of_ne heq, htexts]
    | some e =>
      -- the reply raises, but there is nothing to be lost
      have hempty : w.printBuffer r = "" := by
        rcases h with ⟨⟨⟩⟩ | hempty
        exact hempty
      show w.printed other = w.delivered other ++ Function.update w.printBuffer r "" other
      rw [htexts, ← hempty, Function.update_eq_self]
  exits := hw.exits

omit [DecidableEq R] in
theorem Sound.contextManagerEnter {w : PrintRedirection R} (hw : w.Sound)
    (hnone : w.redirection = none) (r : R) : (w.contextManagerEnter r).Sound where
  slot := rfl
  buffers other _ := hw.buffers other (by simp [hnone])
  texts := hw.texts
  exits := hw.exits

/-- **A `with` statement** that is not inside another one, and whose reply neither raises
nor prints. -/
theorem Sound.redirect {w : PrintRedirection R} (hw : w.Sound) (hnone : w.redirection = none)
    {r : R} {body during : PrintRedirection R → PrintRedirection R}
    (hbody : (body (w.contextManagerEnter r)).Sound ∧
      Keeps (w.contextManagerEnter r) (body (w.contextManagerEnter r)))
    (hreply : ∀ w', w'.Sound → (∀ other, w'.printBuffer other = "") →
      (during w').Sound ∧ Keeps w' (during w') ∧ ∀ other, (during w').printBuffer other = "") :
    (w.redirect r body ⟨during, none⟩).Sound ∧ Keeps w (w.redirect r body ⟨during, none⟩) := by
  obtain ⟨hsound, hkeeps⟩ := hbody
  have hactive : (body (w.contextManagerEnter r)).redirection = some r := hkeeps.redirection
  have hempty (other : R) :
      ((body (w.contextManagerEnter r)).clear r none).printBuffer other = "" := by
    by_cases heq : other = r
    · subst heq
      exact Function.update_self ..
    · have hother : (body (w.contextManagerEnter r)).redirection ≠ some other := by
        rw [hactive]
        exact fun h => heq (Option.some.inj h).symm
      exact (Function.update_of_ne heq _ _).trans (hsound.buffers other hother)
  obtain ⟨hafter, -, hleft⟩ := hreply _ (hsound.clear (.inl rfl)) hempty
  generalize hw' : during ((body (w.contextManagerEnter r)).clear r none) = w' at hafter hleft
  have hredirect : w.redirect r body ⟨during, none⟩ =
      { w' with
        redirection := none
        innermost := w.innermost
        exits := w'.exits ++
          [⟨w.redirection, none, w'.printBuffer r, w'.printed r, w'.delivered r⟩] } := by
    subst hw'
    rfl
  rw [hredirect]
  refine ⟨⟨hnone ▸ hw.slot, fun other _ => hleft other, hafter.texts, ?_⟩, ⟨hnone.symm, rfl⟩⟩
  intro e he
  rcases List.mem_append.mp he with he | he
  · exact hafter.exits e he
  · rw [List.mem_singleton.mp he]
    have htexts := hafter.texts r
    rw [hleft r, String.append_empty] at htexts
    exact ⟨hnone.symm, hleft r, htexts.symm⟩

end PrintRedirection

/-! ## Whole runs -/

namespace RedirectScript
open PrintRedirection
variable {R : Type} [DecidableEq R]

/-- A silent script leaves empty buffers empty. -/
theorem sound_of_silent {script : RedirectScript R} (hsilent : script.Silent)
    {w : PrintRedirection R} (hw : w.Sound) (hempty : ∀ r, w.printBuffer r = "") :
    (script.run w).Sound ∧ Keeps w (script.run w) ∧ ∀ r, (script.run w).printBuffer r = "" := by
  induction script generalizing w with
  | done => exact ⟨hw, Keeps.refl w, hempty⟩
  | redirect r body reply raised next => exact hsilent.elim
  | print text log during dispatched next ihDuring ihNext =>
    obtain ⟨htext, hnext⟩ := hsilent
    by_cases hnonempty : text = ""
    · subst hnonempty
      rw [run, print_empty]
      exact ihNext hnext hw hempty
    · obtain ⟨rfl, hduring, rfl⟩ := htext.resolve_left hnonempty
      obtain ⟨hsound, hkeeps, hstill⟩ := ihDuring hduring hw hempty
      obtain ⟨hsound', hkeeps', hstill'⟩ := ihNext hnext hsound hstill
      rw [run, print_false hnonempty rfl]
      exact ⟨hsound', hkeeps.trans hkeeps', hstill'⟩
  | flush r reply raised next ihReply ihNext =>
    obtain ⟨hreply, hnext⟩ := hsilent
    have hclear (other : R) : (w.clear r raised).printBuffer other = "" := by
      show Function.update w.printBuffer r "" other = ""
      rw [← hempty r, Function.update_eq_self, hempty, hempty]
    obtain ⟨hsound, hkeeps, hstill⟩ := ihReply hreply (hw.clear (.inr (hempty r))) hclear
    obtain ⟨hsound', hkeeps', hstill'⟩ := ihNext hnext hsound hstill
    rw [run, flush_snd]
    exact ⟨hsound', Keeps.trans ⟨hkeeps.redirection, hkeeps.innermost⟩ hkeeps', hstill'⟩

/-- **The run of a good script** keeps the redirection sound. -/
theorem sound_of_good {script : RedirectScript R} {w : PrintRedirection R}
    (hgood : script.Good w) (hw : w.Sound) : (script.run w).Sound ∧ Keeps w (script.run w) := by
  induction script generalizing w with
  | done => exact ⟨hw, Keeps.refl w⟩
  | print text log during dispatched next ihDuring ihNext =>
    obtain ⟨htext, hnext⟩ := hgood
    have hprint : (w.print text log during.run dispatched).Sound ∧
        Keeps w (w.print text log during.run dispatched) := by
      by_cases hnonempty : text = ""
      · subst hnonempty
        rw [print_empty]
        exact ⟨hw, Keeps.refl w⟩
      · refine hw.print hnonempty ?_
        have hcases := htext.resolve_left hnonempty
        cases log with
        | error e => exact hcases
        | ok u =>
          obtain ⟨hduring, hdispatched⟩ := hcases
          obtain ⟨hsound, hkeeps⟩ := ihDuring hduring hw
          exact ⟨hsound, hkeeps, hdispatched⟩
    obtain ⟨hsound, hkeeps⟩ := ihNext hnext hprint.1
    exact ⟨hsound, hprint.2.trans hkeeps⟩
  | redirect r body reply raised next ihBody ihReply ihNext =>
    obtain ⟨hnone, hbody, hsilent, rfl, hnext⟩ := hgood
    obtain ⟨hredirect, hkeeps⟩ := hw.redirect hnone
      (ihBody hbody (hw.contextManagerEnter hnone r))
      (fun w' hw' hempty => sound_of_silent hsilent hw' hempty)
    obtain ⟨hsound, hkeeps'⟩ := ihNext hnext hredirect
    exact ⟨hsound, hkeeps.trans hkeeps'⟩
  | flush r reply raised next ihReply ihNext =>
    obtain ⟨hraised, hreply, hnext⟩ := hgood
    obtain ⟨hsound, hkeeps⟩ := ihReply hreply (hw.clear hraised)
    rw [flush_snd] at hnext
    obtain ⟨hsound', hkeeps'⟩ := ihNext hnext hsound
    rw [run, flush_snd]
    exact ⟨hsound', Keeps.trans ⟨hkeeps.redirection, hkeeps.innermost⟩ hkeeps'⟩

/-- **Redirected console output.**  In a good run from the start, after every `with`
statement the redirection is what it was before it, the buffer is empty, and what was
printed to the console while its redirector was the innermost one has been delivered,
once and in order. -/
theorem redirection_of_good {script : RedirectScript R} (h : script.Good start) :
    ∀ e ∈ (script.run start).exits, e.Conforms :=
  (sound_of_good h sound_start).1.exits

/-- A handler that prints. -/
def echo (text : String) (next : RedirectScript Nat) : RedirectScript Nat :=
  .print text (.ok ()) .done (.ok .none) next

/-- Two `with` statements, one after the other; in the first one the buffer is flushed in
between, and the reply to that prints itself. -/
def twoRedirections : RedirectScript Nat :=
  .redirect 1 (echo "map" (.flush 1 (echo "sent" .done) none (echo "status" .done))) .done none
    (.redirect 2 (echo "users" .done) .done none .done)

theorem redirection_twoRedirections :
    (∀ e ∈ (twoRedirections.run start).exits, e.Conforms) ∧
      (twoRedirections.run start).exits =
        [⟨none, none, "", "mapsentstatus", "mapsentstatus"⟩,
          ⟨none, none, "", "users", "users"⟩] := by
  refine ⟨redirection_of_good ?_, by decide⟩
  have hecho {text : String} {next : RedirectScript Nat} {w : PrintRedirection Nat}
      (hnext : next.Good (w.print text (.ok ()) RedirectScript.done.run (.ok .none))) :
      (echo text next).Good w :=
    ⟨.inr ⟨trivial, .inr ⟨.none, rfl⟩⟩, hnext⟩
  refine ⟨rfl, hecho ⟨.inl rfl, hecho trivial, hecho trivial⟩, trivial, rfl, ?_⟩
  exact ⟨rfl, hecho trivial, trivial, rfl, trivial⟩

/-- A `with` statement inside another one, and one whose reply raises. -/
theorem redirection_broken :
    (let script : RedirectScript Nat :=
      .redirect 1 (.redirect 2 .done .done none (echo "status" .done)) .done none .done
    ∃ e ∈ (script.run start).exits, ¬e.Conforms) ∧
    (let script : RedirectScript Nat :=
      .redirect 1 (echo "status" .done) .done (some (.raised "reply")) .done
    ∃ e ∈ (script.run start).exits, ¬e.Conforms) := by
  decide

end RedirectScript
end ShinQlx
