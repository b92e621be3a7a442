import Mathlib.Order.Basic
import ShinQlx.CBuffer
import ShinQlx.SetConfigstring

/-! # Calling a vote

`CurrentLevel::callvote` copies the vote and what is shown of it into two buffers of the
level, sets the time and the counts, resets the votes of the clients, and announces the vote.
Nothing is checked before, so that a string that is too long panics, the second one when the
first has been copied, a string may lose its end, and a vote may start at a time at which none
is active.

`callvote_iff` says which calls start a vote or change nothing.
-/
namespace ShinQlx

/-- The size of the buffers of a vote. -/
def voteStringSize : Nat := 1024

/-- `voteState_t`. -/
inductive VoteState where
  | none
  | pending
  | yes
  | no
  | forcePass
  | forceFail
  | expired
  deriving DecidableEq

/-- What is modelled of `level_locals_t`. -/
@[ext]
structure LevelLocals where
  time : Int32
  voteString : Fin voteStringSize → UInt8
  voteDisplayString : Fin voteStringSize → UInt8
  voteTime : Int32
  voteYes : Int32
  voteNo : Int32

/-- The game: whether the level can be found, the number of clients, if there is an engine,
the level, the votes of the clients that have a player in the game, and the configstrings that
were handed to `shinqlx_set_configstring`. -/
structure VoteGame where
  levelFound : Bool
  maxClients : Option Int
  level : LevelLocals
  voteState : Int → Option VoteState
  configstrings : List (Nat × String)

/-- How a call ends: whether a number has wrapped around, where a build with overflow checks
panics, or with a panic. -/
inductive CallvoteEnd where
  | returned (overflowed : Bool)
  | panicked
  deriving DecidableEq

/-- `str::bytes`. -/
def utf8Bytes (s : String) : List UInt8 := s.toUTF8.data.toList

/-- A sum, and whether it wrapped around. -/
def overflowingAdd (a b : Int32) : Int32 × Bool := (a + b, (a + b).toInt ≠ a.toInt + b.toInt)

/-- A difference, and whether it wrapped around. -/
def overflowingSub (a b : Int32) : Int32 × Bool := (a - b, (a - b).toInt ≠ a.toInt - b.toInt)

/-- A product, and whether it wrapped around. -/
def overflowingMul (a b : Int32) : Int32 × Bool := (a * b, (a * b).toInt ≠ a.toInt * b.toInt)

namespace CurrentLevel

/-- `get_vote_time`. -/
def getVoteTime (level : LevelLocals) : Option Int32 :=
  if level.voteTime ≤ 0 then none else some level.voteTime

/-- `self.level.time - 30000 + actual_vote_time * 1000`. -/
def voteTimeFrom (time actualVoteTime : Int32) : Int32 × Bool :=
  let (start, o) := overflowingSub time 30000
  let (duration, o') := overflowingMul actualVoteTime 1000
  let (voteTime, o'') := overflowingAdd start duration
  (voteTime, o || o' || o'')

/-- `set_vote_pending` of all clients. -/
def setVotesPending (maxclients : Int) (voteState : Int → Option VoteState) :
    Int → Option VoteState :=
  fun clientId =>
    if 0 ≤ clientId ∧ clientId < maxclients then (voteState clientId).map fun _ => .pending
    else voteState clientId

/-- `callvote`. -/
def callvote (vote voteDisp : String) (voteTime : Option Int32) (g : VoteGame) :
    CallvoteEnd × VoteGame :=
  match g.maxClients with
  | none => (.returned false, g)
  | some maxclients =>
    let actualVoteTime := voteTime.getD 30
    match CBuffer.copy voteStringSize (utf8Bytes vote) with
    | none => (.panicked, g)
    | some voteString =>
      let g := { g with level := { g.level with voteString := voteString } }
      match CBuffer.copy voteStringSize (utf8Bytes voteDisp) with
      | none => (.panicked, g)
      | some voteDisplayString =>
        let (voteTime, overflowed) := voteTimeFrom g.level.time actualVoteTime
        (.returned overflowed, { g with
          level := { g.level with
            voteDisplayString := voteDisplayString
            voteTime := voteTime
            voteYes := 0
            voteNo := 0 }
          voteState := setVotesPending maxclients g.voteState
          configstrings := g.configstrings ++
            [(csVoteString, voteDisp), (8, toString voteTime.toInt), (10, "0"), (11, "0")] })

/-- `pyshinqlx_callvote`. -/
def pyshinqlxCallvote (vote voteDisp : String) (voteTime : Option Int32) (g : VoteGame) :
    CallvoteEnd × VoteGame :=
  if g.levelFound then callvote vote voteDisp voteTime g else (.returned false, g)

/-! ## What a call should do -/

/-- A vote has been started. -/
structure Started (vote voteDisp : String) (before after : VoteGame) : Prop where
  voteString : CBuffer.read after.level.voteString = some (utf8Bytes vote)
  voteDisplayString : CBuffer.read after.level.voteDisplayString = some (utf8Bytes voteDisp)
  active : (getVoteTime after.level).isSome
  voteYes : after.level.voteYes = 0
  voteNo : after.level.voteNo = 0
  pending : ∀ maxclients, before.maxClients = some maxclients →
    ∀ clientId, 0 ≤ clientId → clientId < maxclients → (before.voteState clientId).isSome →
      after.voteState clientId = some .pending

/-- **What a call should do**: it neither panics nor overflows, and it has started a vote or
left the level as it was. -/
structure StartsOrNothing (vote voteDisp : String) (before : VoteGame)
    (call : CallvoteEnd × VoteGame) : Prop where
  ended : call.1 = .returned false
  done : Started vote voteDisp before call.2 ∨ call.2.level = before.level

/-- The time of the vote in full. -/
def wholeVoteTime (level : LevelLocals) (voteTime : Option Int32) : Int :=
  level.time.toInt - 30000 + (voteTime.getD 30).toInt * 1000

/-- A number of 32 bits. -/
def InRange (x : Int) : Prop := -2 ^ 31 ≤ x ∧ x < 2 ^ 31

/-- A string that fits a buffer with its end, and has none before. -/
def IsCString (s : String) : Prop := (utf8Bytes s).length < voteStringSize ∧ 0 ∉ utf8Bytes s

/-- The level is that of the same vote already. -/
structure AlreadyCalled (vote voteDisp : String) (voteTime : Option Int32) (level : LevelLocals) :
    Prop where
  voteString : level.voteString = CBuffer.fill voteStringSize (utf8Bytes vote)
  voteDisplayString : level.voteDisplayString = CBuffer.fill voteStringSize (utf8Bytes voteDisp)
  voteTime : level.voteTime.toInt = wholeVoteTime level voteTime
  voteYes : level.voteYes = 0
  voteNo : level.voteNo = 0

/-- The strings are not longer than their buffers, and the numbers stay in range; then either
the strings can be read again and the time is positive, or nothing is new. -/
structure CanCall (vote voteDisp : String) (voteTime : Option Int32) (level : LevelLocals) :
    Prop where
  voteFits : (utf8Bytes vote).length ≤ voteStringSize
  voteDispFits : (utf8Bytes voteDisp).length ≤ voteStringSize
  start : InRange (level.time.toInt - 30000)
  duration : InRange ((voteTime.getD 30).toInt * 1000)
  whole : InRange (wholeVoteTime level voteTime)
  readable : IsCString vote ∧ IsCString voteDisp ∧ 0 < wholeVoteTime level voteTime ∨
    AlreadyCalled vote voteDisp voteTime level

/-! ## The time of a vote -/

theorem bmod_eq_self_iff {x : Int} : x.bmod (2 ^ 32) = x ↔ InRange x := by
  rw [Int.bmod_eq_iff (by decide), InRange]
  omega

theorem overflowingAdd_eq_false_iff {a b : Int32} :
    (overflowingAdd a b).2 = false ↔ InRange (a.toInt + b.toInt) := by
  rw [overflowingAdd, decide_eq_false_iff_not, not_not, Int32.toInt_add, bmod_eq_self_iff]

theorem overflowingSub_eq_false_iff {a b : Int32} :
    (overflowingSub a b).2 = false ↔ InRange (a.toInt - b.toInt) := by
  rw [overflowingSub, decide_eq_false_iff_not, not_not, Int32.toInt_sub, bmod_eq_self_iff]

theorem overflowingMul_eq_false_iff {a b : Int32} :
    (overflowingMul a b).2 = false ↔ InRange (a.toInt * b.toInt) := by
  rw [overflowingMul, decide_eq_false_iff_not, not_not, Int32.toInt_mul, bmod_eq_self_iff]

section voteTime
variable {level : LevelLocals} {voteTime : Option Int32}

theorem toInt_start (h : InRange (level.time.toInt - 30000)) :
    (level.time - 30000).toInt = level.time.toInt - 30000 := by
  rw [Int32.toInt_sub]
  exact bmod_eq_self_iff.mpr h

theorem toInt_duration (h : InRange ((voteTime.getD 30).toInt * 1000)) :
    (voteTime.getD 30 * 1000).toInt = (voteTime.getD 30).toInt * 1000 := by
  rw [Int32.toInt_mul]
  exact bmod_eq_self_iff.mpr h

/-- No number wraps around iff all of them stay in range. -/
theorem voteTimeFrom_eq_false_iff :
    (voteTimeFrom level.time (voteTime.getD 30)).2 = false ↔
      InRange (level.time.toInt - 30000) ∧ InRange ((voteTime.getD 30).toInt * 1000) ∧
        InRange (wholeVoteTime level voteTime) := by
  have hsplit : (voteTimeFrom level.time (voteTime.getD 30)).2 = false ↔
      ((overflowingSub level.time 30000).2 = false ∧
        (overflowingMul (voteTime.getD 30) 1000).2 = false) ∧
        (overflowingAdd (level.time - 30000) (voteTime.getD 30 * 1000)).2 = false := by
    rw [← Bool.or_eq_false_iff, ← Bool.or_eq_false_iff]
    rfl
  rw [hsplit, overflowingSub_eq_false_iff, overflowingMul_eq_false_iff,
    overflowingAdd_eq_false_iff, and_assoc]
  refine and_congr_right fun hstart => and_congr_right fun hduration => ?_
  rw [toInt_start hstart, toInt_duration hduration, wholeVoteTime]

theorem toInt_voteTimeFrom (hstart : InRange (level.time.toInt - 30000))
    (hduration : InRange ((voteTime.getD 30).toInt * 1000))
    (hwhole : InRange (wholeVoteTime level voteTime)) :
    (voteTimeFrom level.time (voteTime.getD 30)).1.toInt = wholeVoteTime level voteTime := by
  have hsum : (voteTimeFrom level.time (voteTime.getD 30)).1 =
      level.time - 30000 + voteTime.getD 30 * 1000 := rfl
  rw [hsum, Int32.toInt_add, toInt_start hstart, toInt_duration hduration]
  exact bmod_eq_self_iff.mpr hwhole

end voteTime

theorem getVoteTime_isSome_iff {level : LevelLocals} :
    (getVoteTime level).isSome ↔ 0 < level.voteTime.toInt := by
  have hle : level.voteTime ≤ 0 ↔ level.voteTime.toInt ≤ 0 := Int32.le_iff_toInt_le
  rw [getVoteTime]
  by_cases h : level.voteTime ≤ 0
  · rw [if_pos h]
    simpa using hle.mp h
  · rw [if_neg h]
    simpa using mt hle.mpr h

/-! ## The call -/

section call
variable {vote voteDisp : String} {voteTime : Option Int32} {g : VoteGame} {maxclients : Int}

/-- The level that a call leaves. -/
def calledLevel (vote voteDisp : String) (voteTime : Option Int32) (level : LevelLocals) :
    LevelLocals :=
  { level with
    voteString := CBuffer.fill voteStringSize (utf8Bytes vote)
    voteDisplayString := CBuffer.fill voteStringSize (utf8Bytes voteDisp)
    voteTime := (voteTimeFrom level.time (voteTime.getD 30)).1
    voteYes := 0
    voteNo := 0 }

/-- A string that is longer than its buffer panics. -/
theorem callvote_of_long (hengine : g.maxClients = some maxclients)
    (h : ¬ ((utf8Bytes vote).length ≤ voteStringSize ∧
      (utf8Bytes voteDisp).length ≤ voteStringSize)) :
    (callvote vote voteDisp voteTime g).1 = .panicked := by
  rw [callvote, hengine]
  dsimp only
  rw [CBuffer.copy]
  by_cases hvote : (utf8Bytes vote).length ≤ voteStringSize
  · rw [if_pos hvote]
    dsimp only
    rw [CBuffer.copy, if_neg fun hdisp => h ⟨hvote, hdisp⟩]
  · rw [if_neg hvote]

variable (voteTime) in
/-- Otherwise all is written. -/
theorem callvote_of_fits (hengine : g.maxClients = some maxclients)
    (hvote : (utf8Bytes vote).length ≤ voteStringSize)
    (hdisp : (utf8Bytes voteDisp).length ≤ voteStringSize) :
    (callvote vote voteDisp voteTime g).1 =
        .returned (voteTimeFrom g.level.time (voteTime.getD 30)).2 ∧
      (callvote vote voteDisp voteTime g).2.level =
        calledLevel vote voteDisp voteTime g.level ∧
      (callvote vote voteDisp voteTime g).2.voteState =
        setVotesPending maxclients g.voteState := by
  rw [callvote, hengine]
  dsimp only
  rw [CBuffer.copy, if_pos hvote]
  dsimp only
  rw [CBuffer.copy, if_pos hdisp]
  exact ⟨rfl, rfl, rfl⟩

theorem setVotesPending_of_isSome {voteState : Int → Option VoteState} {clientId : Int}
    (hnonneg : 0 ≤ clientId) (hlt : clientId < maxclients) (h : (voteState clientId).isSome) :
    setVotesPending maxclients voteState clientId = some .pending := by
  obtain ⟨state, hstate⟩ := Option.isSome_iff_exists.mp h
  rw [setVotesPending, if_pos ⟨hnonneg, hlt⟩, hstate]
  rfl

/-- The level is as it was iff the same vote had been called. -/
theorem calledLevel_eq_iff {level : LevelLocals} (hstart : InRange (level.time.toInt - 30000))
    (hduration : InRange ((voteTime.getD 30).toInt * 1000))
    (hwhole : InRange (wholeVoteTime level voteTime)) :
    calledLevel vote voteDisp voteTime level = level ↔
      AlreadyCalled vote voteDisp voteTime level := by
  have htime := toInt_voteTimeFrom hstart hduration hwhole
  constructor
  · intro h
    refine ⟨?_, ?_, ?_, ?_, ?_⟩
    · exact (congrArg LevelLocals.voteString h).symm
    · exact (congrArg LevelLocals.voteDisplayString h).symm
    · rw [← htime]
      exact (congrArg (·.voteTime.toInt) h).symm
    · exact (congrArg LevelLocals.voteYes h).symm
    · exact (congrArg LevelLocals.voteNo h).symm
  · intro h
    have hvoteTime : (voteTimeFrom level.time (voteTime.getD 30)).1 = level.voteTime :=
      Int32.toInt_inj.mp (htime.trans h.voteTime.symm)
    exact LevelLocals.ext rfl h.voteString.symm h.voteDisplayString.symm hvoteTime h.voteYes.symm
      h.voteNo.symm

/-- What the call has started, if the numbers stay in range. -/
theorem started_callvote_iff (hengine : g.maxClients = some maxclients)
    (hvote : (utf8Bytes vote).length ≤ voteStringSize)
    (hdisp : (utf8Bytes voteDisp).length ≤ voteStringSize)
    (hstart : InRange (g.level.time.toInt - 30000))
    (hduration : InRange ((voteTime.getD 30).toInt * 1000))
    (hwhole : InRange (wholeVoteTime g.level voteTime)) :
    Started vote voteDisp g (callvote vote voteDisp voteTime g).2 ↔
      IsCString vote ∧ IsCString voteDisp ∧ 0 < wholeVoteTime g.level voteTime := by
  obtain ⟨-, hlevel, hstates⟩ := callvote_of_fits voteTime hengine hvote hdisp
  have htime : (calledLevel vote voteDisp voteTime g.level).voteTime.toInt =
      wholeVoteTime g.level voteTime := toInt_voteTimeFrom hstart hduration hwhole
  constructor
  · intro h
    have hread := h.voteString
    have hreadDisp := h.voteDisplayString
    have hactive := getVoteTime_isSome_iff.mp h.active
    rw [hlevel] at hread hreadDisp hactive
    rw [htime] at hactive
    exact ⟨(CBuffer.read_fill hvote).mp hread, (CBuffer.read_fill hdisp).mp hreadDisp, hactive⟩
  · rintro ⟨hread, hreadDisp, hactive⟩
    refine ⟨?_, ?_, ?_, ?_, ?_, fun m hm clientId hnonneg hlt hclient => ?_⟩
    · rw [hlevel]
      exact (CBuffer.read_fill hvote).mpr hread
    · rw [hlevel]
      exact (CBuffer.read_fill hdisp).mpr hreadDisp
    · rw [hlevel, getVoteTime_isSome_iff, htime]
      exact hactive
    · rw [hlevel]
      rfl
    · rw [hlevel]
      rfl
    · obtain rfl : maxclients = m := Option.some.inj (hengine.symm.trans hm)
      rw [hstates]
      exact setVotesPending_of_isSome hnonneg hlt hclient

theorem startsOrNothing_iff_of_engine (hengine : g.maxClients = some maxclients) :
    StartsOrNothing vote voteDisp g (callvote vote voteDisp voteTime g) ↔
      CanCall vote voteDisp voteTime g.level := by
  by_cases hfits : (utf8Bytes vote).length ≤ voteStringSize ∧
      (utf8Bytes voteDisp).length ≤ voteStringSize
  · obtain ⟨hvote, hdisp⟩ := hfits
    obtain ⟨hended, hlevel, -⟩ := callvote_of_fits voteTime hengine hvote hdisp
    have hrange : (callvote vote voteDisp voteTime g).1 = .returned false ↔
        InRange (g.level.time.toInt - 30000) ∧ InRange ((voteTime.getD 30).toInt * 1000) ∧
          InRange (wholeVoteTime g.level voteTime) := by
      rw [hended, CallvoteEnd.returned.injEq, voteTimeFrom_eq_false_iff]
    constructor
    · intro h
      obtain ⟨hstart, hduration, hwhole⟩ := hrange.mp h.ended
      refine ⟨hvote, hdisp, hstart, hduration, hwhole, h.done.imp ?_ ?_⟩
      · exact (started_callvote_iff hengine hvote hdisp hstart hduration hwhole).mp
      · rw [hlevel]
        exact (calledLevel_eq_iff hstart hduration hwhole).mp
    · intro h
      refine ⟨hrange.mpr ⟨h.start, h.duration, h.whole⟩, h.readable.imp ?_ ?_⟩
      · exact (started_callvote_iff hengine hvote hdisp h.start h.duration h.whole).mpr
      · rw [hlevel]
        exact (calledLevel_eq_iff h.start h.duration h.whole).mpr
  · constructor
    · intro h
      have hended := h.ended
      rw [callvote_of_long hengine hfits] at hended
      cases hended
    · intro h
      exact absurd ⟨h.voteFits, h.voteDispFits⟩ hfits

theorem startsOrNothing_callvote_iff :
    StartsOrNothing vote voteDisp g (callvote vote voteDisp voteTime g) ↔
      (g.maxClients.isSome → CanCall vote voteDisp voteTime g.level) := by
  cases hengine : g.maxClients with
  | none =>
    have hcall : callvote vote voteDisp voteTime g = (.returned false, g) := by
      rw [callvote, hengine]
    rw [hcall]
    exact ⟨fun _ h => absurd h Bool.false_ne_true, fun _ => ⟨rfl, .inr rfl⟩⟩
  | some maxclients =>
    rw [startsOrNothing_iff_of_engine hengine]
    exact ⟨fun h _ => h, fun h => h rfl⟩

end call

/-- **A call starts a vote or changes nothing iff** there is no engine, or the strings fit
their buffers and can be read again, no number wraps around and the time is positive, unless
the level is that of the same vote already. -/
theorem callvote_iff (vote voteDisp : String) (voteTime : Option Int32) (g : VoteGame) :
    (StartsOrNothing vote voteDisp g (callvote vote voteDisp voteTime g) ↔
      (g.maxClients.isSome → CanCall vote voteDisp voteTime g.level)) ∧
    (StartsOrNothing vote voteDisp g (pyshinqlxCallvote vote voteDisp voteTime g) ↔
      (g.levelFound → g.maxClients.isSome → CanCall vote voteDisp voteTime g.level)) := by
  refine ⟨startsOrNothing_callvote_iff, ?_⟩
  rw [pyshinqlxCallvote]
  by_cases hfound : g.levelFound = true
  · rw [if_pos hfound, startsOrNothing_callvote_iff]
    exact ⟨fun h _ => h, fun h => h hfound⟩
  · rw [if_neg hfound]
    exact ⟨fun _ h => absurd h hfound, fun _ => ⟨rfl, .inr rfl⟩⟩

/-- A level ten seconds after its start. -/
def tenSeconds : VoteGame where
  levelFound := true
  maxClients := some 16
  level := ⟨10000, fun _ => 0, fun _ => 0, 0, 0, 0⟩
  voteState := fun _ => some .none
  configstrings := []

/-- A vote of ten seconds is announced there, but none is active. -/
theorem not_startsOrNothing_tenSeconds :
    ¬ StartsOrNothing "cointoss" "cointoss" tenSeconds
      (callvote "cointoss" "cointoss" (some 10) tenSeconds) := by
  intro h
  have htime : (callvote "cointoss" "cointoss" (some 10) tenSeconds).2.level.voteTime = -10000 := by
    decide +kernel
  rcases h.done with hstarted | hsame
  · have hactive := getVoteTime_isSome_iff.mp hstarted.active
    rw [htime] at hactive
    exact absurd hactive (by decide)
  · rw [hsame] at htime
    exact absurd htime (by decide +kernel)

end CurrentLevel
end ShinQlx
