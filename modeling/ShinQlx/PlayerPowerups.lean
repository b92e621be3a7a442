import Mathlib.Tactic.FinCases
import ShinQlx.GameClient

/-! # The powerups of a player

`Player.powerups` reads how long the powerups of a player last from now, and writes all of
them back.  What is read counts from the level time, and what is written from the start of
its second, so that a call takes away from the other powerups what has passed of the
second, and takes it away again when it is repeated.

`powerups_frame_iff` says when the powerups that are not named keep their time.
-/
namespace ShinQlx

/-- `Powerups`. -/
structure Powerups where
  quad : Int32
  battlesuit : Int32
  haste : Int32
  invisibility : Int32
  regeneration : Int32
  invulnerability : Int32
  deriving DecidableEq

namespace Powerups

/-- `Powerups::from` an array. -/
def ofArray (value : Fin 6 → Int32) : Powerups :=
  { quad := value ⟨0, by decide⟩, battlesuit := value ⟨1, by decide⟩,
    haste := value ⟨2, by decide⟩, invisibility := value ⟨3, by decide⟩,
    regeneration := value ⟨4, by decide⟩, invulnerability := value ⟨5, by decide⟩ }

/-- An array from `Powerups`. -/
def toArray (p : Powerups) : Fin 6 → Int32 := fun i =>
  match i.val with
  | 0 => p.quad
  | 1 => p.battlesuit
  | 2 => p.haste
  | 3 => p.invisibility
  | 4 => p.regeneration
  | _ => p.invulnerability

/-- No powerups. -/
def zero : Powerups := ⟨0, 0, 0, 0, 0, 0⟩

/-- The powerups in the order of their positions. -/
def keyword (i : Fin 6) : String :=
  match i.val with
  | 0 => "quad"
  | 1 => "battlesuit"
  | 2 => "haste"
  | 3 => "invisibility"
  | 4 => "regeneration"
  | _ => "invulnerability"

/-- The keyword arguments of `Player.powerups`. -/
def merge (named : String → Int32 → PyResult Int32) (powerups : Powerups) : PyResult Powerups := do
  let quad ← named "quad" powerups.quad
  let bs ← named "battlesuit" powerups.battlesuit
  let haste ← named "haste" powerups.haste
  let invis ← named "invisibility" powerups.invisibility
  let regen ← named "regeneration" powerups.regeneration
  let invul ← named "invulnerability" powerups.invulnerability
  return ⟨quad, bs, haste, invis, regen, invul⟩

theorem toArray_ofArray (value : Fin 6 → Int32) : toArray (ofArray value) = value := by
  funext i
  fin_cases i <;> rfl

theorem merge_ok (named : String → Int32 → PyResult Int32) (old new : Powerups) :
    merge named old = .ok new ↔
      ∀ i, named (keyword i) (toArray old i) = .ok (toArray new i) := by
  obtain ⟨quad, bs, haste, invis, regen, invul⟩ := new
  simp only [merge, PyResult.bind_eq_ok, pure, Except.pure, Except.ok.injEq, Powerups.mk.injEq]
  constructor
  · rintro ⟨_, hquad, _, hbs, _, hhaste, _, hinvis, _, hregen, _, hinvul, rfl, rfl, rfl, rfl, rfl,
      rfl⟩ i
    fin_cases i <;> assumption
  · intro h
    exact ⟨quad, h 0, bs, h 1, haste, h 2, invis, h 3, regen, h 4, invul, h 5, rfl, rfl, rfl, rfl,
      rfl, rfl⟩

/-- The entries with their keywords. -/
def entries : KeywordEntries Powerups 6 where
  zero := zero
  ofArray := ofArray
  toArray := toArray
  keyword := keyword
  merge := merge
  toArray_zero := by decide
  toArray_ofArray := toArray_ofArray
  merge_ok := merge_ok

/-- The time that is stored for an entry. -/
def expiry (levelTime item : Int32) : Int32 :=
  if item = 0 then 0 else levelTime - levelTime % 1000 + item

/-- The time that is read of what is stored. -/
def remaining (levelTime powerupTime : Int32) : Int32 :=
  if powerupTime = 0 then 0 else powerupTime - levelTime

theorem read_write (levelTime : Int32) (powerups : Fin 6 → Int32) (c : GameClient) (i : Fin 6) :
    GameClient.getPowerups levelTime (GameClient.setPowerups levelTime powerups c) i =
      remaining levelTime (expiry levelTime (powerups i)) := by
  have hstored :
      (GameClient.setPowerups levelTime powerups c).powerups (GameClient.powerupIndex i) =
      expiry levelTime (powerups i) :=
    Entries.writeAll_apply (fun i => expiry levelTime (powerups i)) c.powerups
      GameClient.powerupIndex_injective i
  rw [GameClient.getPowerups, hstored]
  rfl

end Powerups

/-- `Player.powerups`. -/
def PlayerObject.powerups : KeywordMethod Powerups 6 where
  toKeywordEntries := Powerups.entries
  read := GameClient.getPowerups
  write := GameClient.setPowerups
  shown levelTime item := Powerups.remaining levelTime (Powerups.expiry levelTime item)
  read_write := Powerups.read_write

namespace Powerups
open GameClient (powerupIndex getPowerups)

variable (extract : PyScalar → PyResult Int32)

/-- How long a powerup of a client lasts. -/
def left (g : PlayersInGame) (clientId : Int) (i : Fin 6) : Option Int32 :=
  (g.client clientId).map fun c => getPowerups g.time c i

/-- The game after a call without `reset` that is made again and again. -/
def repeated (clientId : Int) (kwargs : PyDict) (n : Nat) (g : PlayersInGame) : PlayersInGame :=
  (fun g => (PlayerObject.powerups.call extract g clientId false (some kwargs)).2)^[n] g

/-- What a call of `Player.powerups` should come to for the powerups that are not named: they
keep the time that they have left, however often the call is made, and with `reset` they are
inactive. -/
structure Frame (g : PlayersInGame) (clientId : Int) (kwargs : PyDict) : Prop where
  kept : ∀ n i, ¬ PlayerObject.powerups.Named kwargs i →
    left (repeated extract clientId kwargs n g) clientId i = left g clientId i
  without : ∀ n i, ¬ PlayerObject.powerups.Named kwargs i → left g clientId i = some 0 →
    left (repeated extract clientId kwargs n g) clientId i = some 0
  reset : PlayerObject.powerups.Ready extract g clientId kwargs →
    ∀ i, ¬ PlayerObject.powerups.Named kwargs i →
      ((PlayerObject.powerups.call extract g clientId true (some kwargs)).2.client clientId).map
        (fun c => c.powerups (powerupIndex i)) = some 0

/-- Each powerup that is not named is inactive or ends right now, or it is the start of a
second. -/
def KeepsTime (g : PlayersInGame) (clientId : Int) (kwargs : PyDict) : Prop :=
  PlayerObject.powerups.Ready extract g clientId kwargs → ∀ c, g.client clientId = some c →
    ∀ i, ¬ PlayerObject.powerups.Named kwargs i →
      c.powerups (powerupIndex i) = 0 ∨ c.powerups (powerupIndex i) = g.time ∨ g.time % 1000 = 0

/-- A time is the same after it was written back iff nothing has passed of the second. -/
theorem remaining_expiry_iff (levelTime powerupTime : Int32) :
    remaining levelTime (expiry levelTime (remaining levelTime powerupTime)) =
        remaining levelTime powerupTime ↔
      powerupTime = 0 ∨ powerupTime = levelTime ∨ levelTime % 1000 = 0 := by
  rw [remaining, remaining, expiry]
  by_cases hnone : powerupTime = 0
  · simp [hnone]
  · simp only [hnone, if_false, false_or]
    grind

variable {extract} {g : PlayersInGame} {clientId : Int} {kwargs : PyDict}

/-- What a call makes of the time that a powerup has left. -/
def rewritten (levelTime item : Int32) : Int32 := remaining levelTime (expiry levelTime item)

/-- A call leaves the level time as it is, and it can be made again. -/
theorem call_ready (h : PlayerObject.powerups.Ready extract g clientId kwargs) :
    let after := (PlayerObject.powerups.call extract g clientId false (some kwargs)).2
    after.time = g.time ∧ PlayerObject.powerups.Ready extract after clientId kwargs ∧
      ∀ i, ¬ PlayerObject.powerups.Named kwargs i →
        left after clientId i = (left g clientId i).map (rewritten g.time) := by
  obtain ⟨before, after, hclient, hcall, hchanged⟩ :=
    (PlayerObject.powerups.called extract g clientId false kwargs).client h
  rw [hcall]
  refine ⟨rfl, ⟨h.valid, by simp, h.extracted⟩, fun i hi => ?_⟩
  simp only [left, Function.update_self, hclient, Option.map_some]
  exact congrArg some (hchanged.others hi)

theorem repeated_of_not_ready (h : ¬ PlayerObject.powerups.Ready extract g clientId kwargs)
    (n : Nat) : repeated extract clientId kwargs n g = g :=
  Function.iterate_fixed
    ((PlayerObject.powerups.called extract g clientId false kwargs).otherwise h) n

/-- What a powerup that is not named has left after `n` calls. -/
theorem left_repeated (h : PlayerObject.powerups.Ready extract g clientId kwargs) (n : Nat)
    {i : Fin 6} (hi : ¬ PlayerObject.powerups.Named kwargs i) :
    left (repeated extract clientId kwargs n g) clientId i =
      (left g clientId i).map (rewritten g.time)^[n] := by
  induction n generalizing g with
  | zero => simp [repeated]
  | succ n ih =>
    obtain ⟨htime, hready, hleft⟩ := call_ready h
    rw [repeated, Function.iterate_succ_apply, ← repeated, ih hready, htime, hleft i hi,
      Option.map_map, Function.iterate_succ]

theorem kept_iff : (∀ n i, ¬ PlayerObject.powerups.Named kwargs i →
      left (repeated extract clientId kwargs n g) clientId i = left g clientId i) ↔
    KeepsTime extract g clientId kwargs := by
  by_cases h : PlayerObject.powerups.Ready extract g clientId kwargs
  · constructor
    · intro hkept _ c hclient i hi
      have hone := hkept 1 i hi
      rw [left_repeated h 1 hi, left, hclient] at hone
      exact (remaining_expiry_iff g.time _).mp (Option.some.inj hone)
    · intro hkeeps n i hi
      rw [left_repeated h n hi]
      cases hclient : g.client clientId with
      | none => simp [left, hclient]
      | some c =>
        have hfixed := (remaining_expiry_iff g.time _).mpr (hkeeps h c hclient i hi)
        rw [left, hclient]
        exact congrArg some (Function.iterate_fixed hfixed n)
  · exact iff_of_true (fun n i _ => by rw [repeated_of_not_ready h]) fun hready => absurd hready h

/-- A powerup that has no time left gets none. -/
theorem stays_without (n : Nat) {i : Fin 6} (hi : ¬ PlayerObject.powerups.Named kwargs i)
    (hnone : left g clientId i = some 0) :
    left (repeated extract clientId kwargs n g) clientId i = some 0 := by
  by_cases h : PlayerObject.powerups.Ready extract g clientId kwargs
  · rw [left_repeated h n hi, hnone]
    exact congrArg some (Function.iterate_fixed (f := rewritten g.time) rfl n)
  · rw [repeated_of_not_ready h, hnone]

/-- With `reset` the powerups that are not named are inactive. -/
theorem reset_inactive (h : PlayerObject.powerups.Ready extract g clientId kwargs) {i : Fin 6}
    (hi : ¬ PlayerObject.powerups.Named kwargs i) :
    ((PlayerObject.powerups.call extract g clientId true (some kwargs)).2.client clientId).map
      (fun c => c.powerups (powerupIndex i)) = some 0 := by
  obtain ⟨before, after, hclient, hcall, value, rfl, -, hothers⟩ :=
    (PlayerObject.powerups.called extract g clientId true kwargs).client h
  have hstored := Entries.writeAll_apply (fun i => expiry g.time (value i)) before.powerups
    GameClient.powerupIndex_injective i
  rw [hothers i hi] at hstored
  rw [hcall]
  simp only [Function.update_self, Option.map_some]
  exact congrArg some hstored

/-- **The powerups that are not named keep their time iff nothing has passed of the second**,
or they have no time to lose. -/
theorem powerups_frame_iff (extract : PyScalar → PyResult Int32) (g : PlayersInGame)
    (clientId : Int) (kwargs : PyDict) :
    Frame extract g clientId kwargs ↔ KeepsTime extract g clientId kwargs :=
  ⟨fun h => kept_iff.mp h.kept, fun h => ⟨kept_iff.mpr h, fun n _ hi => stays_without n hi,
    fun hready _ hi => reset_inactive hready hi⟩⟩

/-- The extraction of a number of seconds. -/
def seconds : PyScalar → PyResult Int32
  | .int i => .ok (Int32.ofInt (i * 1000))
  | _ => .error (.typeError "must be real number")

/-- A game at a time, with one player who has a powerup until another time. -/
def oneQuad (levelTime powerupTime : Int32) : PlayersInGame :=
  { maxClients := some 1
    levelTime := some levelTime
    client := fun clientId =>
      if clientId = 0 then
        some ⟨fun _ => 0, fun i => if i.val = 4 then powerupTime else 0, fun _ => 0⟩
      else none }

/-- A call for another powerup at one and a half seconds. -/
theorem not_frame_haste : ¬ Frame seconds (oneQuad 1500 31500) 0 [(.str "haste", .int 30)] :=
  fun h => absurd (h.kept 1 0 (by decide)) (by decide +kernel)

end Powerups
end ShinQlx
