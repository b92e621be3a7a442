import ShinQlx.PlayerView

/-! # The flight of a player

`Player.flight` reads the state of the player, gives it the holdable if it holds something else,
and then reads keyword arguments and sets the numbers of the flight: up to four calls of the
bindings, each going on with what the one before has answered.

`flight_called` says what a call leaves in every case.  An argument that is no integer raises after
the holdable was given, so that such a call fails and still takes away what the player held.
-/
namespace ShinQlx

/-- What a method of a `Player` does with the bindings. -/
abbrev Method (F A : Type) := KeyedRun.Program (ControlEnv F × Control) Controlled (Outcome A)

/-- What `flight` answers: the numbers, or whether they were set. -/
inductive FlightAnswer where
  | flight (flight : Flight)
  | set (done : Bool)

namespace Player
variable {F A B : Type} (extract : PyScalar → PyResult Int32) (env : ControlEnv F)

/-- `?`: what raises ends the method. -/
def andThen (m : Method F A) (next : A → Method F B) : Method F B :=
  m.bind fun
    | .ok a => next a
    | .err e => .ret (.err e)
    | .panic => .ret .panic

/-- A call of the bindings that answers whether it was done. -/
def does (control : Control) : Method F Bool :=
  .call (env, control) fun r =>
    .ret (match r.1 with
      | .ok (.done found) => .ok found
      | .ok _ => .panic
      | .err e => .err e
      | .panic => .panic)

/-- `pyshinqlx_player_state`. -/
def state : Method F (Option PlayerState) :=
  .call (env, .playerState) fun r =>
    .ret (match r.1 with
      | .ok (.state state) => .ok state
      | .ok _ => .panic
      | .err e => .err e
      | .panic => .panic)

/-- `Holdable::from` a text. -/
def holdableFrom (holdable : Option String) : Holdable :=
  match holdable with
  | none => .none
  | some "none" => .none
  | some "teleporter" => .teleporter
  | some "medkit" => .medKit
  | some "kamikaze" => .kamikaze
  | some "portal" => .portal
  | some "invulnerability" => .invulnerability
  | some "flight" => .flight
  | some _ => .unknown

/-- The numbers of a new flight. -/
def newFlight : Flight := ⟨16000, 16000, 1200, 0⟩

/-- `set_holdable`. -/
def setHoldable (holdable : Option String) : Method F Unit :=
  match holdableFrom holdable with
  | .unknown => .ret (.err (.valueError "Invalid holdable item."))
  | .flight =>
    andThen (does env (.setHoldable Holdable.flight.toInt)) fun _ =>
      andThen (does env (.setFlight newFlight)) fun _ => .ret (.ok ())
  | value => andThen (does env (.setHoldable value.toInt)) fun _ => .ret (.ok ())

/-- The keyword arguments in the place of the numbers of a flight. -/
def mergeFlight (kwargs : PyDict) (flight : Flight) : PyResult Flight := do
  let fuel ← keywordArgument extract kwargs "fuel" flight.fuel
  let maxFuel ← keywordArgument extract kwargs "max_fuel" flight.maxFuel
  let thrust ← keywordArgument extract kwargs "thrust" flight.thrust
  let refuel ← keywordArgument extract kwargs "refuel" flight.refuel
  return ⟨fuel, maxFuel, thrust, refuel⟩

/-- What `flight` does with the numbers it begins with. -/
def finishFlight (kwargs : Option PyDict) (flight : Flight) : Method F FlightAnswer :=
  match kwargs with
  | none => .ret (.ok (.flight flight))
  | some kwargs =>
    match mergeFlight extract kwargs flight with
    | .error e => .ret (.err e)
    | .ok flight => andThen (does env (.setFlight flight)) fun found => .ret (.ok (.set found))

/-- `flight`. -/
def flight (reset : Bool) (kwargs : Option PyDict) : Method F FlightAnswer :=
  andThen (state env) fun optState =>
    if optState.any (·.holdable = .flight) then
      finishFlight extract env kwargs
        (if reset then newFlight else (optState.map (·.flight)).getD newFlight)
    else
      andThen (setHoldable env (some "flight")) fun _ => finishFlight extract env kwargs newFlight

/-! ## What a call leaves -/

variable (f : FloatCasts F)

/-- A player once it is seen to that it holds the flight. -/
def holding (v : PlayerView F) : PlayerView F :=
  if Holdable.ofInt v.holdable = .flight then v
  else { v with holdable := Holdable.flight.toInt, kamikaze := false, flight := newFlight }

/-- The numbers that a call begins with. -/
def begun (reset : Bool) (v : PlayerView F) : Flight :=
  if Holdable.ofInt v.holdable = .flight ∧ reset = false then v.flight else newFlight

/-- What a call answers and what it leaves of a player. -/
def left (reset : Bool) (kwargs : Option PyDict) (v : PlayerView F) :
    Outcome FlightAnswer × PlayerView F :=
  match kwargs.map fun kwargs => mergeFlight extract kwargs (begun reset v) with
  | none => (.ok (.flight (begun reset v)), holding v)
  | some (.error e) => (.err e, holding v)
  | some (.ok flight) => (.ok (.set true), { holding v with flight := flight })

variable {env} {clientId : Int}

theorem own_of_valid (hvalid : PlayerControls.validateClientId env clientId = .ok ())
    (e : Option (EntityView F)) (control : Control) :
    PlayerView.own f clientId e (env, control) = PlayerView.act f env control e := by
  rw [PlayerView.own, hvalid]

theorem run_andThen (m : Method F A) (next : A → Method F B) (e : Option (EntityView F))
    {a : A} {e' : Option (EntityView F)}
    (h : m.run (PlayerView.own f clientId) e = (.ok a, e')) :
    (andThen m next).run (PlayerView.own f clientId) e =
      (next a).run (PlayerView.own f clientId) e' := by
  rw [andThen, KeyedRun.Program.run_bind, h]

theorem run_set (hvalid : PlayerControls.validateClientId env clientId = .ok ()) (health : Int32)
    (v : PlayerView F) (control : Control) (change : PlayerView F → PlayerView F)
    (h : ∀ e, PlayerView.act f env control e = PlayerView.set change e) :
    (does env control).run (PlayerView.own f clientId) (some ⟨health, some v⟩) =
      (.ok true, some ⟨health, some (change v)⟩) := by
  rw [does, KeyedRun.Program.run, own_of_valid f hvalid, h]
  rfl

theorem run_finishFlight (hvalid : PlayerControls.validateClientId env clientId = .ok ())
    (health : Int32) (v : PlayerView F) (kwargs : Option PyDict) (flight : Flight) :
    (finishFlight extract env kwargs flight).run (PlayerView.own f clientId)
        (some ⟨health, some v⟩) =
      match kwargs.map fun kwargs => mergeFlight extract kwargs flight with
      | none => (.ok (.flight flight), some ⟨health, some v⟩)
      | some (.error e) => (.err e, some ⟨health, some v⟩)
      | some (.ok flight) => (.ok (.set true), some ⟨health, some { v with flight := flight }⟩) := by
  cases kwargs with
  | none => rfl
  | some kwargs =>
    rw [finishFlight, Option.map_some]
    cases mergeFlight extract kwargs flight with
    | error e => rfl
    | ok flight =>
      have hset := run_set f hvalid health v (.setFlight flight) _ fun e => rfl
      exact run_andThen f _ _ _ hset

theorem run_state (hvalid : PlayerControls.validateClientId env clientId = .ok ()) (health : Int32)
    (v : PlayerView F) :
    (state env).run (PlayerView.own f clientId) (some ⟨health, some v⟩) =
      (.ok (some (v.state f env health)), some ⟨health, some v⟩) := by
  rw [state, KeyedRun.Program.run, own_of_valid f hvalid]
  rfl

theorem run_setHoldable_flight (hvalid : PlayerControls.validateClientId env clientId = .ok ())
    (health : Int32) (v : PlayerView F) :
    (setHoldable env (some "flight")).run (PlayerView.own f clientId) (some ⟨health, some v⟩) =
      (.ok (), some ⟨health, some { v with
        holdable := Holdable.flight.toInt, kamikaze := false, flight := newFlight }⟩) := by
  have hholdable := run_set f hvalid health v (.setHoldable Holdable.flight.toInt) _ fun e => rfl
  have hflight := run_set f hvalid health { v with
    holdable := Holdable.flight.toInt, kamikaze := false } (.setFlight newFlight) _ fun e => rfl
  exact (run_andThen f _ _ _ hholdable).trans (run_andThen f _ _ _ hflight)

/-- What `flight` does to a record, in one step. -/
theorem run_flight (hvalid : PlayerControls.validateClientId env clientId = .ok ())
    (health : Int32) (v : PlayerView F) (reset : Bool) (kwargs : Option PyDict) :
    (flight extract env reset kwargs).run (PlayerView.own f clientId) (some ⟨health, some v⟩) =
      ((left extract reset kwargs v).1, some ⟨health, some (left extract reset kwargs v).2⟩) := by
  have hheld : (some (v.state f env health)).any (·.holdable = .flight) =
      decide (Holdable.ofInt v.holdable = .flight) := rfl
  rw [flight, run_andThen f _ _ _ (run_state f hvalid health v), hheld, left]
  by_cases hflight : Holdable.ofInt v.holdable = .flight
  · have hbegun : (if reset = true then newFlight
        else ((some (v.state f env health)).map (·.flight)).getD newFlight) = begun reset v := by
      rw [begun, hflight]
      cases reset <;> rfl
    rw [if_pos (decide_eq_true hflight), run_finishFlight extract f hvalid, hbegun, holding,
      if_pos hflight]
    cases kwargs.map fun kwargs => mergeFlight extract kwargs (begun reset v) with
    | none => rfl
    | some merged => cases merged <;> rfl
  · have hbegun : begun reset v = newFlight := if_neg fun h => hflight h.1
    rw [if_neg (by simpa using hflight),
      run_andThen f _ _ _ (run_setHoldable_flight f hvalid health v),
      run_finishFlight extract f hvalid, hbegun, holding, if_neg hflight]
    cases kwargs.map fun kwargs => mergeFlight extract kwargs newFlight with
    | none => rfl
    | some merged => cases merged <;> rfl

/-! ## Every call -/

/-- A number of a flight. -/
inductive FlightItem where
  | fuel
  | maxFuel
  | thrust
  | refuel
  deriving DecidableEq

/-- The keyword of a number. -/
def FlightItem.keyword : FlightItem → String
  | .fuel => "fuel"
  | .maxFuel => "max_fuel"
  | .thrust => "thrust"
  | .refuel => "refuel"

/-- A number of a flight. -/
def FlightItem.get (flight : Flight) : FlightItem → Int32
  | .fuel => flight.fuel
  | .maxFuel => flight.maxFuel
  | .thrust => flight.thrust
  | .refuel => flight.refuel

theorem mergeFlight_ok_iff (kwargs : PyDict) (old new : Flight) :
    mergeFlight extract kwargs old = .ok new ↔
      ∀ item : FlightItem,
        keywordArgument extract kwargs item.keyword (item.get old) = .ok (item.get new) := by
  constructor
  · intro h
    obtain ⟨fuel, hfuel, h⟩ := PyResult.bind_eq_ok.mp h
    obtain ⟨maxFuel, hmaxFuel, h⟩ := PyResult.bind_eq_ok.mp h
    obtain ⟨thrust, hthrust, h⟩ := PyResult.bind_eq_ok.mp h
    obtain ⟨refuel, hrefuel, h⟩ := PyResult.bind_eq_ok.mp h
    cases h
    intro item
    cases item <;> assumption
  · intro h
    exact PyResult.bind_eq_ok.mpr ⟨new.fuel, h .fuel, PyResult.bind_eq_ok.mpr
      ⟨new.maxFuel, h .maxFuel, PyResult.bind_eq_ok.mpr ⟨new.thrust, h .thrust,
        PyResult.bind_eq_ok.mpr ⟨new.refuel, h .refuel, rfl⟩⟩⟩⟩

/-- Every argument that names a number is an integer. -/
def Extracted (kwargs : PyDict) : Prop :=
  ∀ (item : FlightItem) (value : PyScalar), Assoc.lookup (.str item.keyword) kwargs = some value →
    ∃ x, extract value = .ok x

theorem extracted_of_mergeFlight {kwargs : PyDict} {old new : Flight}
    (h : mergeFlight extract kwargs old = .ok new) : Extracted extract kwargs := by
  intro item value hvalue
  have hitem := (mergeFlight_ok_iff extract kwargs old new).mp h item
  rw [keywordArgument, hvalue] at hitem
  exact ⟨_, hitem⟩

theorem exists_mergeFlight {kwargs : PyDict} (h : Extracted extract kwargs) (old : Flight) :
    ∃ new, mergeFlight extract kwargs old = .ok new := by
  have hread : ∀ item : FlightItem, ∃ x,
      keywordArgument extract kwargs item.keyword (item.get old) = .ok x := by
    intro item
    rw [keywordArgument]
    cases hvalue : Assoc.lookup (.str item.keyword) kwargs with
    | none => exact ⟨_, rfl⟩
    | some value => exact h item value hvalue
  choose value hvalue using hread
  refine ⟨⟨value .fuel, value .maxFuel, value .thrust, value .refuel⟩, ?_⟩
  rw [mergeFlight_ok_iff]
  intro item
  cases item <;> exact hvalue _

/-- What a call has done to a player in the game, `v`, and what it answers. -/
structure FlightCalled (reset : Bool) (kwargs : Option PyDict) (v after : PlayerView F)
    (answer : Outcome FlightAnswer) : Prop where
  holds : Holdable.ofInt after.holdable = .flight
  frame : after = { v with
    holdable := after.holdable, kamikaze := after.kamikaze, flight := after.flight }
  raises : (∃ e, answer = .err e) ↔ ∃ given, kwargs = some given ∧ ¬ Extracted extract given
  tells : kwargs = none → answer = .ok (.flight (begun reset v))
  sets : ∀ given, kwargs = some given → Extracted extract given → answer = .ok (.set true) ∧
    ∀ item : FlightItem,
      keywordArgument extract given item.keyword (item.get (begun reset v)) =
        .ok (item.get after.flight)
  otherwise : answer ≠ .ok (.set true) → after = holding v

theorem holds_holding (v : PlayerView F) : Holdable.ofInt (holding v).holdable = .flight := by
  rw [holding]
  split
  · assumption
  · rfl

theorem frame_holding (v : PlayerView F) : holding v = { v with
    holdable := (holding v).holdable, kamikaze := (holding v).kamikaze,
    flight := (holding v).flight } := by
  rw [holding]
  split <;> rfl

theorem flightCalled_left (reset : Bool) (kwargs : Option PyDict) (v : PlayerView F) :
    FlightCalled extract reset kwargs v (left extract reset kwargs v).2
      (left extract reset kwargs v).1 := by
  rw [left]
  cases kwargs with
  | none =>
    exact ⟨holds_holding v, frame_holding v, by simp, fun _ => rfl, nofun, fun _ => rfl⟩
  | some given =>
    rw [Option.map_some]
    cases hmerge : mergeFlight extract given (begun reset v) with
    | error e =>
      have hnot : ¬ Extracted extract given := fun h => by
        obtain ⟨new, hnew⟩ := exists_mergeFlight extract h (begun reset v)
        rw [hmerge] at hnew
        cases hnew
      refine ⟨holds_holding v, frame_holding v, ?_, nofun, ?_, fun _ => rfl⟩
      · exact iff_of_true ⟨e, rfl⟩ ⟨given, rfl, hnot⟩
      · intro given' hgiven hextracted
        cases hgiven
        exact absurd hextracted hnot
    | ok new =>
      have hextracted := extracted_of_mergeFlight extract hmerge
      refine ⟨holds_holding v, ?_, ?_, nofun, ?_, fun h => absurd rfl h⟩
      · show { holding v with flight := new } = _
        rw [frame_holding v]
      · refine iff_of_false nofun ?_
        rintro ⟨given', hgiven, hnot⟩
        cases hgiven
        exact hnot hextracted
      · intro given' hgiven _
        cases hgiven
        exact ⟨rfl, (mergeFlight_ok_iff extract given (begun reset v) new).mp hmerge⟩

/-- **Every call of `flight` about a player in the game**: the player holds the flight after it,
also if it raises, and only the holdable, its flag and the numbers of the flight have changed. -/
theorem flight_called (env : ControlEnv F) (w : PlayerEntities F) (clientId : Int)
    (hvalid : PlayerControls.validateClientId env clientId = .ok ()) {health : Int32}
    {v : PlayerView F} (hplayer : PlayerControls.part clientId w = some ⟨health, some v⟩)
    (reset : Bool) (kwargs : Option PyDict) :
    ∃ answer w' after,
      KeyedRun.programStep (PlayerControls.step f) w
        (clientId, flight extract env reset kwargs) = (answer, w') ∧
      PlayerControls.part clientId w' = some ⟨health, some after⟩ ∧
      (∀ j, j ≠ clientId → PlayerControls.part j w' = PlayerControls.part j w) ∧
      FlightCalled extract reset kwargs v after answer := by
  have hlocal := (PlayerControls.local_step f).programs (A := Outcome FlightAnswer)
  have hrun := run_flight extract f hvalid health v reset kwargs
  have hresult := hlocal.result w clientId (flight extract env reset kwargs)
  have hsame := hlocal.same w clientId (flight extract env reset kwargs)
  have hothers := hlocal.others w clientId (flight extract env reset kwargs)
  rw [hplayer, hrun] at hresult hsame
  generalize KeyedRun.programStep (PlayerControls.step f) w
    (clientId, flight extract env reset kwargs) = call at hresult hsame hothers ⊢
  refine ⟨call.1, call.2, _, rfl, hsame, hothers, ?_⟩
  rw [hresult]
  exact flightCalled_left extract reset kwargs v

/-- The extraction of a small integer. -/
def smallInt : PyScalar → PyResult Int32
  | .int i => .ok (Int32.ofInt i)
  | .bool b => .ok (if b then 1 else 0)
  | _ => .error (.typeError "object cannot be interpreted as an integer")

/-- One of the two gets the flight with a text for a number: the call fails. -/
theorem flight_called_twoFlagged :
    ∃ answer w' after,
      KeyedRun.programStep (PlayerControls.step ⟨fun _ => (), fun _ => 0⟩)
        PlayerControls.twoFlagged (0, flight smallInt PlayerControls.twoSlots false
          (some [(.str "fuel", .str "full")])) = (answer, w') ∧
      PlayerControls.part 0 w' = some ⟨100, some after⟩ ∧
      (∀ j, j ≠ 0 → PlayerControls.part j w' =
        PlayerControls.part j PlayerControls.twoFlagged) ∧
      FlightCalled smallInt false (some [(.str "fuel", .str "full")])
        PlayerControls.flaggedClient.view after answer :=
  flight_called smallInt _ PlayerControls.twoSlots PlayerControls.twoFlagged 0 (by decide) rfl
    false _

end Player
end ShinQlx
