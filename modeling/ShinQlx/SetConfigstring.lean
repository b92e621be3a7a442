import Mathlib.Algebra.Group.Nat.Defs
import ShinQlx.ParsedVariables

/-! # Setting a configstring

When the engine sets a configstring, the hook `shinqlx_set_configstring` asks the
Python side for the value to set.  Its handler dispatches `set_configstring`,
then looks at the value of the vote string, the server info and the round status
to derive further events from it, and finally returns what the hook gets to see.

Only `False` and a string mean something to the hook.  The branches that derive
events mostly end in `None` or an exception, and then the hook sets the value it
was called with, whatever replacement the handlers returned.  `handed_iff` says
for which values a replacement survives.
-/
namespace ShinQlx

/-- The indices whose value is looked at. -/
def csServerinfo : Nat := 0

def csVoteString : Nat := 9

def csRoundStatus : Nat := 661

/-- The events derived from a configstring. -/
inductive DerivedEvent where
  | voteStarted (vote args : String)
  | gameCountdown
  | roundCountdown (roundNumber : Int)
  | roundStart (roundNumber : Int)
  deriving DecidableEq, Repr

/-- What a call of the hook finds around it: the engine, which knows the current
configstrings, whether the Python side is initialised, the outcome of the
`set_configstring` dispatch and of the dispatch of a derived event, whether a
warning can be logged, and the choices of the lookups. -/
structure ConfigstringWorld where
  engine : Option (Nat → String)
  initialized : Bool
  dispatch : Nat → String → PyResult PyValue
  raise : DerivedEvent → PyResult Unit
  logWarning : String → PyResult Unit
  pick : Nat → Nat

/-- What the handler did: its result, the derived events it dispatched, and what
it left in `AD_ROUND_NUMBER`. -/
structure ConfigstringHandled where
  result : PyResult PyValue
  events : List DerivedEvent
  adRoundNumber : Int

namespace SetConfigstring

/-- The branch of `CS_VOTE_STRING`. -/
def voteString (w : ConfigstringWorld) (value : String) (ad : Int) : ConfigstringHandled :=
  let (vote, args) := (Text.splitOnce ' ' value).getD (value, "")
  let event := DerivedEvent.voteStarted vote args
  ⟨(w.raise event).map fun _ => .none, [event], ad⟩

/-- The game states that follow each other in a match. -/
def knownStates : List (String × String) :=
  [("PRE_GAME", "IN_PROGRESS"), ("PRE_GAME", "COUNT_DOWN"), ("COUNT_DOWN", "IN_PROGRESS"),
    ("IN_PROGRESS", "PRE_GAME"), ("COUNT_DOWN", "PRE_GAME")]

/-- The game state in a server info. -/
def gameState (pick : Nat) (serverinfo : String) : String :=
  ((parseVariables serverinfo).get pick "g_gameState").getD ""

/-- The branch of `CS_SERVERINFO`. -/
def serverinfo (w : ConfigstringWorld) (value : String) (ad : Int) : ConfigstringHandled :=
  match w.engine with
  | none => ⟨.ok .none, [], ad⟩
  | some getConfigstring =>
    let oldConfigstring := getConfigstring csServerinfo
    if oldConfigstring = "" then ⟨.ok .none, [], ad⟩
    else
      let oldState := gameState (w.pick 0) oldConfigstring
      let newState := gameState (w.pick 1) value
      if oldState = newState then ⟨.ok (.str value), [], ad⟩
      else
        let starts : Bool := (oldState, newState) = ("PRE_GAME", "COUNT_DOWN")
        let events := if starts then [DerivedEvent.gameCountdown] else []
        let ad := if starts then 1 else ad
        match if starts then w.raise .gameCountdown else .ok () with
        | .error e => ⟨.error e, events, ad⟩
        | .ok () =>
          match if (oldState, newState) ∉ knownStates then
            w.logWarning s!"UNKNOWN GAME STATES: {oldState} - {newState}" else .ok () with
          | .error e => ⟨.error e, events, ad⟩
          | .ok () => ⟨.ok (.str value), events, ad⟩

/-- The event of a round: its countdown if the status has a time, or its
start. -/
def roundEvent (w : ConfigstringWorld) (cvars : ParsedVariables) (roundNumber ad : Int) :
    ConfigstringHandled :=
  let event := if cvars.contains "time" then DerivedEvent.roundCountdown roundNumber
    else DerivedEvent.roundStart roundNumber
  ⟨(w.raise event).map fun _ => .none, [event], ad⟩

/-- The branch of `CS_ROUND_STATUS`.  The number of an attack and defence round
is computed in 32 bits. -/
def roundStatus (w : ConfigstringWorld) (value : String) (ad : Int) : ConfigstringHandled :=
  let cvars := parseVariables value
  if cvars = [] then ⟨.ok (.str value), [], ad⟩
  else
    match cvars.getInt (w.pick 0) "round" with
    | .error e => ⟨.error e, [], ad⟩
    | .ok csRoundNumber =>
      if cvars.contains "turn" then
        match cvars.getInt (w.pick 1) "state" with
        | .error e => ⟨.error e, [], ad⟩
        | .ok csState =>
          if csState = 0 then ⟨.ok .none, [], ad⟩
          else
            match cvars.getInt (w.pick 2) "turn" with
            | .error e => ⟨.error e, [], ad⟩
            | .ok csTurn =>
              let adRoundNumber := (csRoundNumber * 2 + 1 + csTurn).bmod (2 ^ 32)
              roundEvent w cvars adRoundNumber adRoundNumber
      else if csRoundNumber = 0 then ⟨.ok (.str value), [], ad⟩
      else roundEvent w cvars csRoundNumber ad

/-- `try_handle_set_configstring`. -/
def tryHandleSetConfigstring (w : ConfigstringWorld) (index : Nat) (value : String) (ad : Int) :
    ConfigstringHandled :=
  match w.dispatch index value with
  | .error e => ⟨.error e, [], ad⟩
  | .ok result =>
    if result.isFalse then ⟨.ok (.bool false), [], ad⟩
    else
      let configstringValue := result.extractString.getD value
      if index = csVoteString ∧ configstringValue ≠ "" then voteString w configstringValue ad
      else if index = csServerinfo then serverinfo w configstringValue ad
      else if index = csRoundStatus then roundStatus w configstringValue ad
      else ⟨.ok (.str configstringValue), [], ad⟩

/-- `handle_set_configstring`: an exception is logged and passed over. -/
def handleSetConfigstring (w : ConfigstringWorld) (index : Nat) (value : String) (ad : Int) :
    PyValue :=
  match (tryHandleSetConfigstring w index value ad).result with
  | .error _ => .bool true
  | .ok result => result

/-- `set_configstring_dispatcher`: the value to set, if any. -/
def setConfigstringDispatcher (w : ConfigstringWorld) (index : Nat) (value : String) (ad : Int) :
    Option String :=
  if !w.initialized then some value
  else
    let result := handleSetConfigstring w index value ad
    if result.isFalse then none else some (result.extractString.getD value)

/-- The indices that the hook passes on without asking anybody. -/
def bypassed (index : Nat) : Prop := index = 16 ∨ 662 ≤ index ∧ index < 670

instance (index : Nat) : Decidable (bypassed index) := by unfold bypassed; infer_instance

/-- `shinqlx_set_configstring`: the value handed to the engine, if any. -/
def shinqlxSetConfigstring (w : ConfigstringWorld) (index : Nat) (value : String) (ad : Int) :
    Option String :=
  match w.engine with
  | none => none
  | some _ =>
    if index < 2 ^ 31 then
      if bypassed index then some value else setConfigstringDispatcher w index value ad
    else none

/-! ## What the engine gets -/

/-- The value that the `set_configstring` handlers ask for: none if they stopped
the event, the replacement if they returned one, and otherwise the value as it
was. -/
def requested (w : ConfigstringWorld) (index : Nat) (value : String) : Option String :=
  if !w.initialized then some value
  else
    match w.dispatch index value with
    | .error _ => some value
    | .ok result => if result.isFalse then none else some (result.extractString.getD value)

/-- Neither the event nor the warning of a change of the game state raises. -/
def StateChangeReturns (w : ConfigstringWorld) (oldState newState : String) : Prop :=
  oldState ≠ newState →
    ((oldState, newState) = ("PRE_GAME", "COUNT_DOWN") → w.raise .gameCountdown = .ok ()) ∧
    ((oldState, newState) ∉ knownStates →
      w.logWarning s!"UNKNOWN GAME STATES: {oldState} - {newState}" = .ok ())

/-- The branch for the value of an index ends in that value: the vote string is
empty; the current server info is not, and a change of its game state does not
raise; the round status holds nothing, or no turn and round 0. -/
def Survives (w : ConfigstringWorld) (index : Nat) (value : String) : Prop :=
  (index = csVoteString → value = "") ∧
  (index = csServerinfo → ∃ getConfigstring, w.engine = some getConfigstring ∧
    getConfigstring csServerinfo ≠ "" ∧
    StateChangeReturns w (gameState (w.pick 0) (getConfigstring csServerinfo))
      (gameState (w.pick 1) value)) ∧
  (index = csRoundStatus → parseVariables value = [] ∨
    (parseVariables value).contains "turn" = false ∧
      (parseVariables value).getInt (w.pick 0) "round" = .ok 0)

/-- A branch that returns the value exactly if `P`, and otherwise nothing that
means anything to the hook. -/
def Returns (out : ConfigstringHandled) (value : String) (P : Prop) : Prop :=
  (P ∧ out.result = .ok (.str value)) ∨
    (¬ P ∧ (out.result = .ok .none ∨ ∃ e, out.result = .error e))

theorem returns_of_raise (w : ConfigstringWorld) (event : DerivedEvent) (value : String) (ad : Int)
    {P : Prop} (hP : ¬ P) : Returns ⟨(w.raise event).map fun _ => .none, [event], ad⟩ value P := by
  refine .inr ⟨hP, ?_⟩
  cases w.raise event with
  | error e => exact .inr ⟨e, rfl⟩
  | ok u => exact .inl rfl

theorem voteString_returns (w : ConfigstringWorld) (value : String) (ad : Int) :
    Returns (voteString w value ad) value False :=
  returns_of_raise w _ value ad not_false

theorem roundEvent_returns (w : ConfigstringWorld) (cvars : ParsedVariables) (roundNumber ad : Int)
    (value : String) {P : Prop} (hP : ¬ P) : Returns (roundEvent w cvars roundNumber ad) value P :=
  returns_of_raise w _ value ad hP

theorem serverinfo_returns {w : ConfigstringWorld} {getConfigstring : Nat → String}
    (hengine : w.engine = some getConfigstring) (value : String) (ad : Int) :
    Returns (serverinfo w value ad) value
      (getConfigstring csServerinfo ≠ "" ∧
        StateChangeReturns w (gameState (w.pick 0) (getConfigstring csServerinfo))
          (gameState (w.pick 1) value)) := by
  unfold serverinfo
  simp only [hengine]
  by_cases hold : getConfigstring csServerinfo = ""
  · rw [if_pos hold]
    exact .inr ⟨fun h => h.1 hold, .inl rfl⟩
  · rw [if_neg hold]
    by_cases hsame :
        gameState (w.pick 0) (getConfigstring csServerinfo) = gameState (w.pick 1) value
    · rw [if_pos hsame]
      exact .inl ⟨⟨hold, fun h => absurd hsame h⟩, rfl⟩
    · rw [if_neg hsame]
      generalize gameState (w.pick 0) (getConfigstring csServerinfo) = oldState at hsame ⊢
      generalize gameState (w.pick 1) value = newState at hsame ⊢
      unfold StateChangeReturns
      by_cases hstarts : (oldState, newState) = ("PRE_GAME", "COUNT_DOWN")
      · -- the one change that raises an event
        obtain ⟨rfl, rfl⟩ := Prod.mk.inj hstarts
        have hknown : ("PRE_GAME", "COUNT_DOWN") ∈ knownStates := by decide
        cases w.raise .gameCountdown with
        | error e =>
          refine .inr ⟨fun h => ?_, .inr ⟨e, rfl⟩⟩
          exact absurd ((h.2 hsame).1 rfl) (by simp)
        | ok u =>
          refine .inl ⟨⟨hold, fun _ => ⟨fun _ => rfl, fun h => absurd hknown h⟩⟩, ?_⟩
          simp [hknown]
      · by_cases hknown : (oldState, newState) ∈ knownStates
        · refine .inl ⟨⟨hold, fun _ => ⟨fun h => absurd h hstarts, fun h => absurd hknown h⟩⟩, ?_⟩
          simp [hstarts, hknown]
        · -- an unknown change is worth a warning, which can raise
          simp only [decide_eq_false hstarts, Bool.false_eq_true, if_false, if_pos hknown]
          cases w.logWarning s!"UNKNOWN GAME STATES: {oldState} - {newState}" with
          | error e =>
            refine .inr ⟨fun h => ?_, .inr ⟨e, rfl⟩⟩
            exact absurd ((h.2 hsame).2 hknown) (by simp)
          | ok u =>
            exact .inl ⟨⟨hold, fun _ => ⟨fun h => absurd h hstarts, fun _ => rfl⟩⟩, rfl⟩

theorem roundStatus_returns (w : ConfigstringWorld) (value : String) (ad : Int) :
    Returns (roundStatus w value ad) value
      (parseVariables value = [] ∨ (parseVariables value).contains "turn" = false ∧
        (parseVariables value).getInt (w.pick 0) "round" = .ok 0) := by
  unfold roundStatus
  dsimp only
  generalize parseVariables value = cvars
  by_cases hnil : cvars = []
  · rw [if_pos hnil]
    exact .inl ⟨.inl hnil, rfl⟩
  · rw [if_neg hnil]
    cases hround : cvars.getInt (w.pick 0) "round" with
    | error e => exact .inr ⟨by simp [hnil], .inr ⟨e, rfl⟩⟩
    | ok csRoundNumber =>
      dsimp only
      cases hturn : cvars.contains "turn" with
      | true =>
        have hP : ¬ (cvars = [] ∨
            true = false ∧ (Except.ok csRoundNumber : PyResult Int) = .ok 0) := by
          simp [hnil]
        rw [if_pos rfl]
        cases cvars.getInt (w.pick 1) "state" with
        | error e => exact .inr ⟨hP, .inr ⟨e, rfl⟩⟩
        | ok csState =>
          dsimp only
          by_cases hstate : csState = 0
          · rw [if_pos hstate]
            exact .inr ⟨hP, .inl rfl⟩
          · rw [if_neg hstate]
            cases cvars.getInt (w.pick 2) "turn" with
            | error e => exact .inr ⟨hP, .inr ⟨e, rfl⟩⟩
            | ok csTurn => exact roundEvent_returns w cvars _ _ value hP
      | false =>
        rw [if_neg Bool.false_ne_true]
        by_cases hzero : csRoundNumber = 0
        · rw [if_pos hzero]
          exact .inl ⟨.inr ⟨rfl, by rw [hzero]⟩, rfl⟩
        · rw [if_neg hzero]
          exact roundEvent_returns w cvars _ _ value (by simp [hnil, hzero])

/-- What a dispatch that neither raises nor stops the event comes to. -/
theorem tryHandleSetConfigstring_returns {w : ConfigstringWorld} {engine : Nat → String}
    (hengine : w.engine = some engine) {index : Nat} {value : String} {result : PyValue}
    (hdispatch : w.dispatch index value = .ok result) (hfalse : result.isFalse = false) (ad : Int) :
    Returns (tryHandleSetConfigstring w index value ad) (result.extractString.getD value)
      (Survives w index (result.extractString.getD value)) := by
  unfold tryHandleSetConfigstring
  simp only [hdispatch, hfalse, Bool.false_eq_true, if_false]
  generalize result.extractString.getD value = s
  by_cases hvote : index = csVoteString
  · subst hvote
    by_cases hs : s = ""
    · rw [if_neg (fun h => h.2 hs), if_neg (by decide), if_neg (by decide)]
      refine .inl ⟨⟨fun _ => hs, ?_, ?_⟩, rfl⟩
      · simp [csVoteString, csServerinfo]
      · simp [csVoteString, csRoundStatus]
    · rw [if_pos ⟨rfl, hs⟩]
      rcases voteString_returns w s ad with ⟨h, -⟩ | ⟨-, h⟩
      · exact h.elim
      · exact .inr ⟨fun hsur => hs (hsur.1 rfl), h⟩
  · rw [if_neg (fun h => hvote h.1)]
    by_cases hinfo : index = csServerinfo
    · subst hinfo
      rw [if_pos rfl]
      rcases serverinfo_returns hengine s ad with ⟨hP, h⟩ | ⟨hP, h⟩
      · exact .inl ⟨⟨fun h => absurd h hvote, fun _ => ⟨engine, hengine, hP⟩,
          by simp [csServerinfo, csRoundStatus]⟩, h⟩
      · refine .inr ⟨fun hsur => hP ?_, h⟩
        obtain ⟨engine', hengine', hP'⟩ := hsur.2.1 rfl
        cases hengine.symm.trans hengine'
        exact hP'
    · rw [if_neg hinfo]
      by_cases hround : index = csRoundStatus
      · rw [if_pos hround]
        rcases roundStatus_returns w s ad with ⟨hP, h⟩ | ⟨hP, h⟩
        · exact .inl ⟨⟨fun h => absurd h hvote, fun h => absurd h hinfo, fun _ => hP⟩, h⟩
        · exact .inr ⟨fun hsur => hP (hsur.2.2 hround), h⟩
      · rw [if_neg hround]
        refine .inl ⟨⟨?_, ?_, ?_⟩, rfl⟩
        · exact fun h => absurd h hvote
        · exact fun h => absurd h hinfo
        · exact fun h => absurd h hround

/-- What the hook makes of a branch that returns the value `s` exactly if `P`. -/
theorem dispatched_iff {w : ConfigstringWorld} {index : Nat} {value s : String} {ad : Int}
    {P : Prop}
    (h : Returns (tryHandleSetConfigstring w index value ad) s P) :
    (if (handleSetConfigstring w index value ad).isFalse then none
      else some ((handleSetConfigstring w index value ad).extractString.getD value)) = some s ↔
      s = value ∨ P := by
  unfold handleSetConfigstring
  rcases h with ⟨hP, hres⟩ | ⟨hP, hres | ⟨e, hres⟩⟩
  · rw [hres]
    simp [hP]
  · rw [hres]
    simp [PyValue.extractString, PyValue.isFalse, hP, eq_comm]
  · rw [hres]
    simp [PyValue.extractString, hP, eq_comm]

theorem extractString_eq_none {v : PyValue} (h : ∀ s, v ≠ .str s) : v.extractString = none := by
  cases v with
  | dict d => rfl
  | scalar v =>
    cases v with
    | str s => exact absurd rfl (h s)
    | none | bool | int | other => rfl

/-- **When the engine stores what the handlers asked for**: for every index that
the hook does not bypass, every value and every outcome of the dispatch, the
value handed to the engine is the requested one iff a replacement, if the
handlers returned one, changes nothing or survives the branch of the index. -/
theorem handed_iff {w : ConfigstringWorld} {engine : Nat → String}
    (hengine : w.engine = some engine) {index : Nat} (hindex : index < 2 ^ 31)
    (hbypass : ¬ bypassed index) (value : String) (ad : Int) :
    shinqlxSetConfigstring w index value ad = requested w index value ↔
      (w.initialized = true → ∀ replacement, w.dispatch index value = .ok (.str replacement) →
        replacement = value ∨ Survives w index replacement) := by
  simp only [shinqlxSetConfigstring, hengine, if_pos hindex, if_neg hbypass,
    setConfigstringDispatcher, requested]
  cases hinit : w.initialized with
  | false => simp
  | true =>
    simp only [Bool.not_true, Bool.false_eq_true, if_false, forall_const]
    cases hdispatch : w.dispatch index value with
    | error e =>
      simp [handleSetConfigstring, tryHandleSetConfigstring, hdispatch, PyValue.extractString]
    | ok result =>
      cases hfalse : result.isFalse with
      | true =>
        have hnot : ∀ s, result ≠ .str s := by
          rintro s rfl
          cases hfalse
        simp [handleSetConfigstring, tryHandleSetConfigstring, hdispatch, hfalse, hnot]
      | false =>
        have hreturns := tryHandleSetConfigstring_returns hengine hdispatch hfalse ad
        have hstring : ∀ s, result = .str s → result.extractString.getD value = s := by
          rintro s rfl
          rfl
        have hplain : (∀ s, result ≠ .str s) → result.extractString.getD value = value := by
          intro hnot
          rw [extractString_eq_none hnot, Option.getD_none]
        dsimp only
        rw [hfalse, if_neg Bool.false_ne_true, dispatched_iff hreturns]
        constructor
        · intro h replacement hreplacement
          rw [← hstring replacement (Except.ok.inj hreplacement)]
          exact h
        · intro h
          by_cases hstr : ∃ r, result = .str r
          · obtain ⟨r, hr⟩ := hstr
            rw [hstring r hr]
            exact h r (by rw [hr])
          · exact .inl (hplain fun r hr => hstr ⟨r, hr⟩)

/-- Handlers that replace the value by `replacement`, on a warm-up server. -/
def replacing (replacement : String) : ConfigstringWorld where
  engine := some fun _ => "\\g_gameState\\PRE_GAME"
  initialized := true
  dispatch := fun _ _ => .ok (.str replacement)
  raise := fun _ => .ok ()
  logWarning := fun _ => .ok ()
  pick := fun _ => 0

/-- Handlers that let the countdown begin. -/
def countdown : ConfigstringWorld := replacing "\\g_gameState\\COUNT_DOWN"

theorem handed_iff_countdown :
    shinqlxSetConfigstring countdown csServerinfo "" 0 = requested countdown csServerinfo "" ↔
      (countdown.initialized = true → ∀ replacement,
        countdown.dispatch csServerinfo "" = .ok (.str replacement) →
          replacement = "" ∨ Survives countdown csServerinfo replacement) :=
  handed_iff rfl (by decide) (by decide) "" 0

/-- The vote string and the round status are set as if the handlers had not
replaced them, and so is the server info while there is none. -/
theorem replacement_not_handed :
    shinqlxSetConfigstring (replacing "kick sarge") csVoteString "map aerowalk" 0 ≠
        requested (replacing "kick sarge") csVoteString "map aerowalk" ∧
      shinqlxSetConfigstring (replacing "\\round\\2") csRoundStatus "\\round\\1" 0 ≠
        requested (replacing "\\round\\2") csRoundStatus "\\round\\1" ∧
      shinqlxSetConfigstring { replacing "\\sv_hostname\\new" with engine := some fun _ => "" }
          csServerinfo "\\sv_hostname\\old" 0 ≠
        requested { replacing "\\sv_hostname\\new" with engine := some fun _ => "" }
          csServerinfo "\\sv_hostname\\old" := by
  decide

end SetConfigstring
end ShinQlx
