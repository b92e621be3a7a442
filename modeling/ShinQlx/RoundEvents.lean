import ShinQlx.SetConfigstring

/-! # The events of the game and of its rounds

A game goes into its countdown when the server info does, and a round begins when the round
status says so.  `try_handle_set_configstring` reads both off the info strings: the game
state in the stored and in the new server info; and in the round status the fields `round`,
`turn`, `state` and `time`.  With a turn, the number of a round is computed from both, in 32
bits.

`Follows` says which events are dispatched for which fields.  `follows_iff` shows that this
is what the handler does, as long as the number of a round can be computed.
-/
namespace ShinQlx
namespace SetConfigstring

/-- The handlers of `set_configstring` let a value through, as `v`. -/
def LetsThrough (w : ConfigstringWorld) (index : Nat) (value v : String) : Prop :=
  ∃ result, w.dispatch index value = .ok result ∧ result.isFalse = false ∧
    result.extractString.getD value = v

/-- A 32-bit integer. -/
def Fits32 (i : Int) : Prop := -2 ^ 31 ≤ i ∧ i < 2 ^ 31

instance (i : Int) : Decidable (Fits32 i) := inferInstanceAs (Decidable (_ ∧ _))

/-- The round status has a round, and no turn. -/
def HasRound (w : ConfigstringWorld) (v : String) (round : Int) : Prop :=
  (parseVariables v).contains "turn" = false ∧
    (parseVariables v).getInt (w.pick 0) "round" = .ok round ∧ round ≠ 0

/-- The round status has a round, a state and a turn. -/
def HasTurn (w : ConfigstringWorld) (v : String) (round turn : Int) : Prop :=
  (parseVariables v).contains "turn" = true ∧
    (parseVariables v).getInt (w.pick 0) "round" = .ok round ∧
    (∃ state, (parseVariables v).getInt (w.pick 1) "state" = .ok state ∧ state ≠ 0) ∧
    (parseVariables v).getInt (w.pick 2) "turn" = .ok turn

/-- The event of a round with a number. -/
def numbered (v : String) (number : Int) : DerivedEvent :=
  if (parseVariables v).contains "time" then .roundCountdown number else .roundStart number

/-- The events follow the configstrings.  A server info that is let through as `v` leads to
`game_countdown` iff the game goes from the warm-up into the countdown, and to nothing else.
A round status that is let through as `v` leads to one event if it has a round, with the
number of that, or a turn, with the number of both; and to none otherwise.  The number is
computed without an overflow. -/
structure Follows (w : ConfigstringWorld) (v : String) : Prop where
  countdown : ∀ stored value ad, w.engine = some stored → LetsThrough w csServerinfo value v →
    (tryHandleSetConfigstring w csServerinfo value ad).events =
      if gameState (w.pick 0) (stored csServerinfo) = "PRE_GAME" ∧
        gameState (w.pick 1) v = "COUNT_DOWN" then [.gameCountdown] else []
  round : ∀ value ad n, LetsThrough w csRoundStatus value v → HasRound w v n →
    (tryHandleSetConfigstring w csRoundStatus value ad).events = [numbered v n]
  turn : ∀ value ad n turn, LetsThrough w csRoundStatus value v → HasTurn w v n turn →
    (tryHandleSetConfigstring w csRoundStatus value ad).events = [numbered v (2 * n + 1 + turn)]
  nothing : ∀ value ad, LetsThrough w csRoundStatus value v → (∀ n, ¬ HasRound w v n) →
    (∀ n turn, ¬ HasTurn w v n turn) →
    (tryHandleSetConfigstring w csRoundStatus value ad).events = []
  computed : ∀ n turn, HasTurn w v n turn →
    Fits32 (n * 2) ∧ Fits32 (n * 2 + 1) ∧ Fits32 (n * 2 + 1 + turn)

/-! ## What the branches dispatch -/

/-- The branch of an index gets the value that the handlers let through. -/
theorem tryHandle_of_letsThrough {w : ConfigstringWorld} {index : Nat} {value v : String}
    (h : LetsThrough w index value v) (hvote : index ≠ csVoteString) (ad : Int) :
    tryHandleSetConfigstring w index value ad =
      if index = csServerinfo then serverinfo w v ad
      else if index = csRoundStatus then roundStatus w v ad
      else ⟨.ok (.str v), [], ad⟩ := by
  obtain ⟨result, hdispatch, hfalse, rfl⟩ := h
  simp only [tryHandleSetConfigstring, hdispatch, hfalse, Bool.false_eq_true, if_false, hvote,
    false_and]

theorem gameState_empty (pick : Nat) : gameState pick "" = "" := rfl

theorem serverinfo_events {w : ConfigstringWorld} {stored : Nat → String}
    (hengine : w.engine = some stored) (v : String) (ad : Int) :
    (serverinfo w v ad).events =
      if gameState (w.pick 0) (stored csServerinfo) = "PRE_GAME" ∧
        gameState (w.pick 1) v = "COUNT_DOWN" then [.gameCountdown] else [] := by
  simp only [serverinfo, hengine]
  by_cases hempty : stored csServerinfo = ""
  · simp [hempty, gameState_empty]
  · rw [if_neg hempty]
    generalize gameState (w.pick 0) (stored csServerinfo) = oldState
    generalize gameState (w.pick 1) v = newState
    by_cases hsame : oldState = newState
    · subst hsame
      have hno : ¬ (oldState = "PRE_GAME" ∧ oldState = "COUNT_DOWN") := by
        rintro ⟨rfl, h⟩
        exact absurd h (by decide)
      rw [if_pos rfl, if_neg hno]
    · -- of the changes from one state to another, only this one is dispatched
      rw [if_neg hsame]
      by_cases hstarts : oldState = "PRE_GAME" ∧ newState = "COUNT_DOWN"
      · obtain ⟨rfl, rfl⟩ := hstarts
        have hknown : ("PRE_GAME", "COUNT_DOWN") ∈ knownStates := by decide
        cases w.raise .gameCountdown <;> simp [hknown]
      · have hpair : ¬ (oldState, newState) = ("PRE_GAME", "COUNT_DOWN") := by
          rwa [Prod.mk.injEq]
        simp only [hpair, hstarts, decide_false, Bool.false_eq_true, if_false]
        split <;> rfl

theorem roundEvent_events (w : ConfigstringWorld) (v : String) (roundNumber ad : Int) :
    (roundEvent w (parseVariables v) roundNumber ad).events = [numbered v roundNumber] := rfl

/-- A string without items has no fields. -/
theorem ne_nil_of_getInt {vars : ParsedVariables} {pick : Nat} {item : String} {i : Int}
    (h : vars.getInt pick item = .ok i) : vars ≠ [] := by
  rintro rfl
  cases h

theorem roundStatus_of_hasRound {w : ConfigstringWorld} {v : String} {n : Int}
    (h : HasRound w v n) (ad : Int) : (roundStatus w v ad).events = [numbered v n] := by
  obtain ⟨hturn, hround, hzero⟩ := h
  rw [roundStatus, if_neg (ne_nil_of_getInt hround), hround]
  simp only [hturn, hzero, Bool.false_eq_true, if_false]
  exact roundEvent_events w v n ad

/-- The number is the one that is left of the computation in 32 bits. -/
theorem roundStatus_of_hasTurn {w : ConfigstringWorld} {v : String} {n turn : Int}
    (h : HasTurn w v n turn) (ad : Int) :
    (roundStatus w v ad).events = [numbered v ((n * 2 + 1 + turn).bmod (2 ^ 32))] := by
  obtain ⟨hturn, hround, ⟨state, hstate, hzero⟩, hnumber⟩ := h
  rw [roundStatus, if_neg (ne_nil_of_getInt hround), hround]
  simp only [hturn, hstate, hnumber, hzero, if_true, if_false]
  exact roundEvent_events w v _ _

theorem roundStatus_of_neither {w : ConfigstringWorld} {v : String}
    (hround : ∀ n, ¬ HasRound w v n) (hturn : ∀ n turn, ¬ HasTurn w v n turn) (ad : Int) :
    (roundStatus w v ad).events = [] := by
  unfold HasRound at hround
  unfold HasTurn at hturn
  unfold roundStatus
  generalize parseVariables v = vars at hround hturn
  by_cases hnil : vars = []
  · simp [hnil]
  · rw [if_neg hnil]
    cases hr : vars.getInt (w.pick 0) "round" with
    | error e => rfl
    | ok n =>
      cases ht : vars.contains "turn" with
      | false =>
        have hzero : n = 0 := by
          by_contra h
          exact hround n ⟨ht, hr, h⟩
        simp [hzero]
      | true =>
        simp only [if_true]
        cases hs : vars.getInt (w.pick 1) "state" with
        | error e => rfl
        | ok state =>
          by_cases hzero : state = 0
          · simp [hzero]
          · cases hn : vars.getInt (w.pick 2) "turn" with
            | error e => simp [hzero]
            | ok turn => exact absurd ⟨ht, hr, ⟨state, hs, hzero⟩, hn⟩ (hturn n turn)

/-! ## The numbers of the rounds -/

/-- The number of every round with a turn can be computed in 32 bits. -/
def Computable (w : ConfigstringWorld) (v : String) : Prop :=
  ∀ n turn, HasTurn w v n turn → -2 ^ 30 ≤ n ∧ n < 2 ^ 30 ∧ Fits32 (2 * n + 1 + turn)

/-- No step of the computation overflows. -/
theorem fits32_steps_iff (n turn : Int) :
    (Fits32 (n * 2) ∧ Fits32 (n * 2 + 1) ∧ Fits32 (n * 2 + 1 + turn)) ↔
      -2 ^ 30 ≤ n ∧ n < 2 ^ 30 ∧ Fits32 (2 * n + 1 + turn) := by
  unfold Fits32
  omega

/-- The events of two round statuses with a turn, of the numbers `n` and `n'`, where the
second round is a later one, or the second turn of the same. -/
def Increasing (w w' : ConfigstringWorld) (v v' : String) : Prop :=
  ∀ round round' turn turn' value value' ad ad', LetsThrough w csRoundStatus value v →
    LetsThrough w' csRoundStatus value' v' → HasTurn w v round turn →
    HasTurn w' v' round' turn' → turn ∈ [0, 1] → turn' ∈ [0, 1] →
    (round < round' ∨ round = round' ∧ turn < turn') →
    ∃ n n', (tryHandleSetConfigstring w csRoundStatus value ad).events = [numbered v n] ∧
      (tryHandleSetConfigstring w' csRoundStatus value' ad').events = [numbered v' n'] ∧ n < n'

theorem increasing_of_follows {w w' : ConfigstringWorld} {v v' : String} (h : Follows w v)
    (h' : Follows w' v') : Increasing w w' v v' := by
  intro round round' turn turn' value value' ad ad' hset hset' hturn hturn' h01 h01' hlater
  refine ⟨_, _, h.turn value ad round turn hset hturn,
    h'.turn value' ad' round' turn' hset' hturn', ?_⟩
  simp only [List.mem_cons, List.not_mem_nil, or_false] at h01 h01'
  omega

/-- **The events follow the configstrings** exactly where the number of a round can be
computed; and then the numbers increase with the round and the turn. -/
theorem follows_iff (w : ConfigstringWorld) (v : String) :
    (Follows w v ↔ Computable w v) ∧
      ∀ w' v', Follows w v → Follows w' v' → Increasing w w' v v' := by
  refine ⟨⟨fun h n turn hturn => (fits32_steps_iff n turn).mp (h.computed n turn hturn), ?_⟩,
    fun w' v' => increasing_of_follows⟩
  intro h
  have hround {value : String} (hset : LetsThrough w csRoundStatus value v) (ad : Int) :
      tryHandleSetConfigstring w csRoundStatus value ad = roundStatus w v ad :=
    tryHandle_of_letsThrough hset (by decide) ad
  constructor
  case countdown =>
    intro stored value ad hengine hset
    rw [tryHandle_of_letsThrough hset (by decide) ad, if_pos rfl, serverinfo_events hengine]
  case round =>
    intro value ad n hset hn
    rw [hround hset, roundStatus_of_hasRound hn]
  case turn =>
    intro value ad n turn hset hturn
    -- within the bounds, nothing is lost in 32 bits
    obtain ⟨-, -, hlow, hhigh⟩ := h n turn hturn
    rw [hround hset, roundStatus_of_hasTurn hturn, Int.bmod_eq_of_le (by omega) (by omega),
      mul_comm]
  case nothing =>
    intro value ad hset hnone hnone'
    rw [hround hset, roundStatus_of_neither hnone hnone']
  case computed =>
    intro n turn hturn
    exact (fits32_steps_iff n turn).mpr (h n turn hturn)

/-- A round status with a turn. -/
def turnStatus (round turn : String) : String :=
  "\\round\\" ++ round ++ "\\state\\1\\turn\\" ++ turn

theorem hasTurn_turnStatus {round turn : String} {n m : Int}
    (hround : (parseVariables (turnStatus round turn)).getInt 0 "round" = .ok n)
    (hstate : (parseVariables (turnStatus round turn)).getInt 0 "state" = .ok 1)
    (hturn : (parseVariables (turnStatus round turn)).getInt 0 "turn" = .ok m)
    (hcontains : (parseVariables (turnStatus round turn)).contains "turn" = true) :
    HasTurn (replacing (turnStatus round turn)) (turnStatus round turn) n m :=
  ⟨hcontains, hround, ⟨1, hstate, by decide⟩, hturn⟩

/-- The second turn of a round has the next number. -/
theorem follows_iff_turns :
    Increasing (replacing (turnStatus "3" "0")) (replacing (turnStatus "3" "1"))
      (turnStatus "3" "0") (turnStatus "3" "1") := by
  have hone : ∀ turn m, HasTurn (replacing (turnStatus "3" turn)) (turnStatus "3" turn) 3 m →
      Fits32 (2 * 3 + 1 + m) →
      Computable (replacing (turnStatus "3" turn)) (turnStatus "3" turn) := by
    rintro turn m ⟨-, hround, -, hturn⟩ hfits n m' ⟨-, hround', -, hturn'⟩
    obtain rfl := Except.ok.inj (hround.symm.trans hround')
    obtain rfl := Except.ok.inj (hturn.symm.trans hturn')
    exact ⟨by decide, by decide, hfits⟩
  exact (follows_iff _ _).2 _ _
    ((follows_iff _ _).1.mpr (hone "0" 0 (hasTurn_turnStatus (by decide +kernel)
      (by decide +kernel) (by decide +kernel) (by decide +kernel)) (by decide)))
    ((follows_iff _ _).1.mpr (hone "1" 1 (hasTurn_turnStatus (by decide +kernel)
      (by decide +kernel) (by decide +kernel) (by decide +kernel)) (by decide)))

/-- The round 2³⁰ gets a negative number. -/
theorem not_follows_overflowing :
    ¬ Follows (replacing (turnStatus "1073741824" "0")) (turnStatus "1073741824" "0") := by
  intro h
  have hturn := h.turn "" 0 1073741824 0 ⟨.str (turnStatus "1073741824" "0"), rfl, rfl, rfl⟩
    (hasTurn_turnStatus (by decide +kernel) (by decide +kernel) (by decide +kernel)
      (by decide +kernel))
  exact absurd hturn (by decide +kernel)

end SetConfigstring
end ShinQlx
