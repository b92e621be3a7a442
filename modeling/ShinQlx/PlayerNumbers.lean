import ShinQlx.CurrentLevel
import ShinQlx.PlayerPowerups

/-! # Times and damages of a player

The time of a powerup and of the invulnerability count from the level time, and the damage
that slays a player from its health.  All of them are computed with 32-bit numbers from what a
plugin has passed, and nothing is checked before, so that a result may wrap around, or panic in
a build with overflow checks.

`numbers_iff` says for which numbers nothing wraps around and the results are exact.
-/
namespace ShinQlx

/-- What is computed, and whether a number has wrapped around. -/
structure Computed (α : Type) where
  value : α
  overflowed : Bool

/-- Nothing has wrapped around, and what is computed is exact, or what a request that is
rejected leaves. -/
structure Computed.Sound {α : Type} (c : Computed α) (exact rejected : α → Prop) : Prop where
  noOverflow : c.overflowed = false
  result : exact c.value ∨ rejected c.value

/-- What is modelled of a `gclient_s`. -/
structure TimedClient extends GameClient where
  invulnerabilityTime : Int32

/-- A `meansOfDeath_t`. -/
structure MeansOfDeath where
  value : Int
  valid : 0 ≤ value ∧ value ≤ 33

/-- A call of `register_damage` on the player itself. -/
structure Damage where
  damage : Int32
  dflags : Int
  mod : Int

/-- The client of an entity that is slain, if it has one, and the damage that is registered. -/
structure Slain where
  client : Option GameClient
  damage : Option Damage

namespace MeansOfDeath

/-- `meansOfDeath_t::try_from`. -/
def tryFrom (value : Int) : Option MeansOfDeath :=
  if h : 0 ≤ value ∧ value ≤ 33 then some ⟨value, h⟩ else none

/-- `MOD_KAMIKAZE`. -/
def modKamikaze : MeansOfDeath := ⟨26, by decide⟩

end MeansOfDeath

namespace GameClient

/-- `STAT_ARMOR`. -/
def statArmor : Fin 16 := ⟨4, (by decide : 5 ≤ 16)⟩

/-- `set_armor`. -/
def setArmor (armor : Int32) (c : GameClient) : GameClient :=
  { c with stats := Function.update c.stats statArmor armor }

end GameClient

namespace PlayerNumbers

/-- The time that a powerup lasts. -/
def remainingTime (levelTime powerupTime : Int32) : Int32 × Bool :=
  if powerupTime = 0 then (0, false) else overflowingSub powerupTime levelTime

/-- The time that is stored for a powerup. -/
def expiryTime (levelTime item : Int32) : Int32 × Bool :=
  if item = 0 then (0, false)
  else
    let (second, o) := overflowingSub levelTime (levelTime % 1000)
    let (expiry, o') := overflowingAdd second item
    (expiry, o || o')

/-- `get_powerups`. -/
def getPowerups (levelTime : Option Int32) (c : GameClient) : Computed (Fin 6 → Int32) :=
  let time := levelTime.getD 0
  let powerups i := remainingTime time (c.powerups (GameClient.powerupIndex i))
  ⟨fun i => (powerups i).1, (List.finRange 6).any fun i => (powerups i).2⟩

/-- `set_powerups`. -/
def setPowerups (levelTime : Option Int32) (powerups : Fin 6 → Int32) (c : GameClient) :
    Computed GameClient :=
  let time := levelTime.getD 0
  let stored i := expiryTime time (powerups i)
  ⟨{ c with
      powerups := Entries.writeAll GameClient.powerupIndex (fun i => (stored i).1) c.powerups },
    (List.finRange 6).any fun i => (stored i).2⟩

/-- `set_invulnerability`. -/
def setInvulnerability (levelTime : Option Int32) (time : Int32) (c : TimedClient) :
    Computed TimedClient :=
  let (invulnerable, overflowed) := overflowingAdd (levelTime.getD 0) time
  ⟨{ c with invulnerabilityTime := invulnerable }, overflowed⟩

/-- What a kamikaze adds to the health. -/
def extra (mod : MeansOfDeath) : Int32 :=
  if mod.value = MeansOfDeath.modKamikaze.value then 100000 else 0

/-- `DAMAGE_NO_PROTECTION`. -/
def damageNoProtection : Int := 8

/-- `slay_with_mod`. -/
def slayWithMod (engine : Bool) (mod : MeansOfDeath) (health : Int32)
    (client : Option GameClient) : Computed Slain :=
  let (damage, o) := overflowingAdd health (extra mod)
  let client := client.map (GameClient.setArmor 0)
  if engine then
    -- self damage is half the damage
    let (doubled, o') := overflowingMul damage 2
    ⟨⟨client, some ⟨doubled, damageNoProtection, mod.value⟩⟩, o || o'⟩
  else ⟨⟨client, none⟩, o⟩

/-- The game, with the healths of the players. -/
structure HealthGame extends PlayersInGame where
  health : Int → Int32

/-- `pyshinqlx_set_health`, for a player in the game. -/
def setHealth (clientId : Int) (health : Int32) (g : HealthGame) : HealthGame :=
  { g with health := Function.update g.health clientId health }

/-- `pyshinqlx_slay_with_mod`: whether there is such a player, and what has become of a
living one. -/
def pyshinqlxSlayWithMod (g : HealthGame) (clientId meanOfDeath : Int) :
    PyResult (Bool × Option (Computed Slain)) :=
  match g.validateClientId clientId with
  | .error e => .error e
  | .ok () =>
    match MeansOfDeath.tryFrom meanOfDeath with
    | none => .error (.valueError "means of death needs to be a valid enum value.")
    | some mod =>
      match g.client clientId with
      | none => .ok (false, none)
      | some client =>
        .ok (true, if 0 < g.health clientId then
          some (slayWithMod g.maxClients.isSome mod (g.health clientId) (some client)) else none)

/-! ## The results in full -/

/-- The time that a powerup lasts. -/
def wholeRemaining (levelTime powerupTime : Int32) : Int :=
  if powerupTime = 0 then 0 else powerupTime.toInt - levelTime.toInt

/-- The time that is stored for a powerup: it counts from the start of the second. -/
def wholeExpiry (levelTime item : Int32) : Int :=
  if item = 0 then 0 else levelTime.toInt - levelTime.toInt.tmod 1000 + item.toInt

/-- The health, and what a kamikaze adds to it. -/
def wholeHealth (mod : MeansOfDeath) (health : Int32) : Int :=
  health.toInt + if mod.value = MeansOfDeath.modKamikaze.value then 100000 else 0

/-- The powerups that are read are exact. -/
def ReadExactly (levelTime : Option Int32) (c : GameClient) (read : Fin 6 → Int32) : Prop :=
  ∀ i, (read i).toInt =
    wholeRemaining (levelTime.getD 0) (c.powerups (GameClient.powerupIndex i))

/-- The powerups that are stored are exact, and nothing else has changed. -/
structure StoredExactly (levelTime : Option Int32) (powerups : Fin 6 → Int32)
    (before after : GameClient) : Prop where
  stored : ∀ i, (after.powerups (GameClient.powerupIndex i)).toInt =
    wholeExpiry (levelTime.getD 0) (powerups i)
  others : ∀ j, (∀ i, GameClient.powerupIndex i ≠ j) → after.powerups j = before.powerups j
  stats : after.stats = before.stats
  ammo : after.ammo = before.ammo

/-- The time of the invulnerability is exact, and nothing else has changed. -/
structure InvulnerableExactly (levelTime : Option Int32) (time : Int32)
    (before after : TimedClient) : Prop where
  stored : after.invulnerabilityTime.toInt = (levelTime.getD 0).toInt + time.toInt
  others : after.toGameClient = before.toGameClient

/-- The damage that is registered is exact. -/
def SlainExactly (mod : MeansOfDeath) (health : Int32) (slain : Slain) : Prop :=
  ∀ d ∈ slain.damage, d.damage.toInt = wholeHealth mod health * 2

/-- Nobody has been slain. -/
def Spared (client : Option GameClient) (slain : Slain) : Prop := slain = ⟨client, none⟩

/-- The slaying of a player by a plugin, if it comes to that, is sound. -/
def SlaysSoundly (g : HealthGame) (clientId meanOfDeath : Int) : Prop :=
  ∀ mod found slain, MeansOfDeath.tryFrom meanOfDeath = some mod →
    pyshinqlxSlayWithMod g clientId meanOfDeath = .ok (found, some slain) →
      slain.Sound (SlainExactly mod (g.health clientId)) (Spared (g.client clientId))

/-! ## What is in range is exact -/

theorem sound_iff {α : Type} {c : Computed α} {exact rejected : α → Prop} {R : Prop}
    (hrange : c.overflowed = false ↔ R) (hexact : R → exact c.value) :
    c.Sound exact rejected ↔ R := by
  constructor
  · intro h
    exact hrange.mp h.noOverflow
  · intro h
    exact ⟨hrange.mpr h, .inl (hexact h)⟩

theorem inRange_zero : CurrentLevel.InRange 0 := ⟨by decide, by decide⟩

theorem remainingTime_eq_false_iff (levelTime powerupTime : Int32) :
    (remainingTime levelTime powerupTime).2 = false ↔
      CurrentLevel.InRange (wholeRemaining levelTime powerupTime) := by
  rw [remainingTime, wholeRemaining]
  split
  · exact iff_of_true rfl inRange_zero
  · exact CurrentLevel.overflowingSub_eq_false_iff

theorem toInt_remainingTime {levelTime powerupTime : Int32}
    (h : CurrentLevel.InRange (wholeRemaining levelTime powerupTime)) :
    (remainingTime levelTime powerupTime).1.toInt = wholeRemaining levelTime powerupTime := by
  rw [wholeRemaining] at h ⊢
  rw [remainingTime]
  split
  · rfl
  next hne =>
    rw [if_neg hne] at h
    rw [overflowingSub, Int32.toInt_sub]
    exact CurrentLevel.bmod_eq_self_iff.mpr h

/-- The start of a second lies between zero and the time. -/
theorem tmod_bounds (time : Int) :
    0 ≤ time ∧ 0 ≤ time.tmod 1000 ∧ time.tmod 1000 ≤ time ∨
      time < 0 ∧ time ≤ time.tmod 1000 ∧ time.tmod 1000 ≤ 0 := by
  rcases Int.le_total 0 time with h | h
  · have heq := Int.tmod_eq_emod_of_nonneg (b := 1000) h
    omega
  · have heq := Int.tmod_eq_emod_of_nonneg (a := -time) (b := 1000) (by omega)
    rw [Int.neg_tmod] at heq
    omega

theorem toInt_mod_second (levelTime : Int32) :
    (levelTime % 1000).toInt = levelTime.toInt.tmod 1000 := Int32.toInt_mod ..

theorem inRange_second (levelTime : Int32) :
    CurrentLevel.InRange (levelTime.toInt - levelTime.toInt.tmod 1000) := by
  have hlow := levelTime.le_toInt
  have hhigh := levelTime.toInt_lt
  have hbounds := tmod_bounds levelTime.toInt
  rw [CurrentLevel.InRange]
  omega

theorem toInt_second (levelTime : Int32) :
    (levelTime - levelTime % 1000).toInt = levelTime.toInt - levelTime.toInt.tmod 1000 := by
  rw [Int32.toInt_sub, toInt_mod_second]
  exact CurrentLevel.bmod_eq_self_iff.mpr (inRange_second levelTime)

/-- Only the sum can wrap around. -/
theorem expiryTime_eq_false_iff (levelTime item : Int32) :
    (expiryTime levelTime item).2 = false ↔
      CurrentLevel.InRange (wholeExpiry levelTime item) := by
  rw [expiryTime, wholeExpiry]
  split
  · exact iff_of_true rfl inRange_zero
  · have hsecond : (overflowingSub levelTime (levelTime % 1000)).2 = false := by
      rw [CurrentLevel.overflowingSub_eq_false_iff, toInt_mod_second]
      exact inRange_second levelTime
    have hsplit : ((overflowingSub levelTime (levelTime % 1000)).2 ||
        (overflowingAdd (levelTime - levelTime % 1000) item).2) = false ↔
        CurrentLevel.InRange (levelTime.toInt - levelTime.toInt.tmod 1000 + item.toInt) := by
      rw [hsecond, Bool.false_or, CurrentLevel.overflowingAdd_eq_false_iff, toInt_second]
    exact hsplit

theorem toInt_expiryTime {levelTime item : Int32}
    (h : CurrentLevel.InRange (wholeExpiry levelTime item)) :
    (expiryTime levelTime item).1.toInt = wholeExpiry levelTime item := by
  rw [wholeExpiry] at h ⊢
  rw [expiryTime]
  split
  · rfl
  next hne =>
    rw [if_neg hne] at h
    have hsum : (levelTime - levelTime % 1000 + item).toInt =
        levelTime.toInt - levelTime.toInt.tmod 1000 + item.toInt := by
      rw [Int32.toInt_add, toInt_second]
      exact CurrentLevel.bmod_eq_self_iff.mpr h
    exact hsum

/-- No entry wraps around. -/
theorem any_eq_false_iff {n : Nat} {entry : Fin n → Int32 × Bool} {R : Fin n → Prop}
    (h : ∀ i, (entry i).2 = false ↔ R i) :
    ((List.finRange n).any fun i => (entry i).2) = false ↔ ∀ i, R i := by
  simp [h]

section healths
variable {mod : MeansOfDeath} {health : Int32}

theorem toInt_extra (mod : MeansOfDeath) :
    (extra mod).toInt = if mod.value = MeansOfDeath.modKamikaze.value then 100000 else 0 := by
  rw [extra]
  split <;> rfl

theorem wholeHealth_eq (mod : MeansOfDeath) (health : Int32) :
    wholeHealth mod health = health.toInt + (extra mod).toInt := by
  rw [wholeHealth, toInt_extra]

theorem toInt_damage (h : CurrentLevel.InRange (wholeHealth mod health)) :
    (health + extra mod).toInt = wholeHealth mod health := by
  rw [wholeHealth_eq] at h ⊢
  rw [Int32.toInt_add]
  exact CurrentLevel.bmod_eq_self_iff.mpr h

/-- What has to be in range of a damage. -/
def DamageInRange (engine : Bool) (mod : MeansOfDeath) (health : Int32) : Prop :=
  CurrentLevel.InRange (wholeHealth mod health) ∧
    (engine = true → CurrentLevel.InRange (wholeHealth mod health * 2))

theorem slayWithMod_eq_false_iff (engine : Bool) (client : Option GameClient) :
    (slayWithMod engine mod health client).overflowed = false ↔
      DamageInRange engine mod health := by
  have hadd : (overflowingAdd health (extra mod)).2 = false ↔
      CurrentLevel.InRange (wholeHealth mod health) := by
    rw [CurrentLevel.overflowingAdd_eq_false_iff, wholeHealth_eq]
  cases engine with
  | false => exact hadd.trans ⟨fun h => ⟨h, nofun⟩, fun h => h.1⟩
  | true =>
    have hsplit : ((overflowingAdd health (extra mod)).2 ||
        (overflowingMul (health + extra mod) 2).2) = false ↔ DamageInRange true mod health := by
      rw [Bool.or_eq_false_iff, hadd, DamageInRange, CurrentLevel.overflowingMul_eq_false_iff]
      refine and_congr_right fun h => ?_
      rw [toInt_damage h]
      exact ⟨fun hmul _ => hmul, fun hmul => hmul rfl⟩
    exact hsplit

theorem slayWithMod_exact {engine : Bool} (client : Option GameClient)
    (h : DamageInRange engine mod health) :
    SlainExactly mod health (slayWithMod engine mod health client).value := by
  cases engine with
  | false => exact nofun
  | true =>
    rintro d hd
    obtain rfl := Option.some.inj hd
    have hproduct : ((health + extra mod) * 2).toInt = wholeHealth mod health * 2 := by
      rw [Int32.toInt_mul, toInt_damage h.1]
      exact CurrentLevel.bmod_eq_self_iff.mpr (h.2 rfl)
    exact hproduct

/-- A damage that is in range is made from a health that is. -/
theorem damageInRange_true_iff :
    DamageInRange true mod health ↔ CurrentLevel.InRange (wholeHealth mod health * 2) := by
  constructor
  · intro h
    exact h.2 rfl
  · intro h
    refine ⟨?_, fun _ => h⟩
    rw [CurrentLevel.InRange] at h ⊢
    omega

end healths

section slaying
variable {g : HealthGame} {clientId meanOfDeath : Int} {mod : MeansOfDeath}

/-- There is an engine where a client id is valid. -/
theorem engine_of_valid (h : g.validateClientId clientId = .ok ()) :
    g.maxClients.isSome = true := by
  rw [PlayersInGame.validateClientId] at h
  cases hclients : g.maxClients with
  | none =>
    rw [hclients] at h
    cases h
  | some maxclients => rfl

/-- Who is slain: a living player in the game, by a mean that there is. -/
theorem pyshinqlxSlayWithMod_eq_some_iff (hmod : MeansOfDeath.tryFrom meanOfDeath = some mod)
    (found : Bool) (slain : Computed Slain) :
    pyshinqlxSlayWithMod g clientId meanOfDeath = .ok (found, some slain) ↔
      found = true ∧ g.validateClientId clientId = .ok () ∧ (g.client clientId).isSome ∧
        0 < g.health clientId ∧
        slain = slayWithMod true mod (g.health clientId) (g.client clientId) := by
  rw [pyshinqlxSlayWithMod, hmod]
  cases hvalid : g.validateClientId clientId with
  | error e => simp
  | ok u =>
    have hengine := engine_of_valid hvalid
    cases hclient : g.client clientId with
    | none => simp
    | some client =>
      by_cases hhealth : 0 < g.health clientId
      · simp [hhealth, hengine, eq_comm]
      · simp [hhealth]

theorem slaysSoundly_iff (g : HealthGame) (clientId meanOfDeath : Int) :
    SlaysSoundly g clientId meanOfDeath ↔
      ∀ mod, MeansOfDeath.tryFrom meanOfDeath = some mod →
        g.validateClientId clientId = .ok () → (g.client clientId).isSome →
        0 < g.health clientId →
        CurrentLevel.InRange (wholeHealth mod (g.health clientId) * 2) := by
  constructor
  · intro h mod hmod hvalid hclient hhealth
    have hslain := h mod true _ hmod ((pyshinqlxSlayWithMod_eq_some_iff hmod true _).mpr
      ⟨rfl, hvalid, hclient, hhealth, rfl⟩)
    exact damageInRange_true_iff.mp ((slayWithMod_eq_false_iff true _).mp hslain.noOverflow)
  · intro h mod found slain hmod hcall
    obtain ⟨-, hvalid, hclient, hhealth, rfl⟩ :=
      (pyshinqlxSlayWithMod_eq_some_iff hmod found slain).mp hcall
    have hrange := damageInRange_true_iff.mpr (h mod hmod hvalid hclient hhealth)
    exact ⟨(slayWithMod_eq_false_iff true _).mpr hrange, .inl (slayWithMod_exact _ hrange)⟩

end slaying

/-- **Which numbers are exact**: the powerups, the invulnerability and the damages iff their
results in full are numbers of 32 bits, and those of a plugin that slays a player iff this is
so of a living one. -/
theorem numbers_iff (levelTime : Option Int32) (powerups : Fin 6 → Int32) (time health : Int32)
    (engine : Bool) (mod : MeansOfDeath) (c : GameClient) (timed : TimedClient)
    (client : Option GameClient) (g : HealthGame) (clientId meanOfDeath : Int) :
    ((getPowerups levelTime c).Sound (ReadExactly levelTime c) (fun _ => False) ↔
      ∀ i, CurrentLevel.InRange
        (wholeRemaining (levelTime.getD 0) (c.powerups (GameClient.powerupIndex i)))) ∧
    ((setPowerups levelTime powerups c).Sound (StoredExactly levelTime powerups c) (· = c) ↔
      ∀ i, CurrentLevel.InRange (wholeExpiry (levelTime.getD 0) (powerups i))) ∧
    ((setInvulnerability levelTime time timed).Sound (InvulnerableExactly levelTime time timed)
        (· = timed) ↔
      CurrentLevel.InRange ((levelTime.getD 0).toInt + time.toInt)) ∧
    ((slayWithMod engine mod health client).Sound (SlainExactly mod health) (Spared client) ↔
      DamageInRange engine mod health) ∧
    (SlaysSoundly (setHealth clientId health g) clientId meanOfDeath ↔
      ∀ mod, MeansOfDeath.tryFrom meanOfDeath = some mod →
        g.validateClientId clientId = .ok () → (g.client clientId).isSome → 0 < health →
        CurrentLevel.InRange (wholeHealth mod health * 2)) := by
  refine ⟨?_, ?_, ?_, ?_, ?_⟩
  · refine sound_iff (any_eq_false_iff fun i => remainingTime_eq_false_iff ..) fun h i => ?_
    exact toInt_remainingTime (h i)
  · refine sound_iff (any_eq_false_iff fun i => expiryTime_eq_false_iff ..) fun h => ?_
    refine ⟨fun i => ?_, fun j hj => ?_, rfl, rfl⟩
    · have hstored :=
        Entries.writeAll_apply (fun i => (expiryTime (levelTime.getD 0) (powerups i)).1)
          c.powerups GameClient.powerupIndex_injective i
      exact (congrArg Int32.toInt hstored).trans (toInt_expiryTime (h i))
    · exact Entries.writeAll_of_notMem _ _ hj
  · refine sound_iff CurrentLevel.overflowingAdd_eq_false_iff fun h => ⟨?_, rfl⟩
    exact (Int32.toInt_add ..).trans (CurrentLevel.bmod_eq_self_iff.mpr h)
  · exact sound_iff (slayWithMod_eq_false_iff engine client) (slayWithMod_exact client)
  · rw [slaysSoundly_iff]
    have hhealth : (setHealth clientId health g).health clientId = health :=
      Function.update_self ..
    rw [hhealth]
    exact Iff.rfl

/-- What is read and written here is what the methods of a player read and write. -/
theorem powerups_eq (levelTime : Int32) (c : GameClient) (powerups : Fin 6 → Int32) :
    GameClient.getPowerups levelTime c = (getPowerups (some levelTime) c).value ∧
      GameClient.setPowerups levelTime powerups c =
        (setPowerups (some levelTime) powerups c).value := by
  have hremaining : ∀ time, (remainingTime levelTime time).1 =
      if time = 0 then 0 else time - levelTime := by
    intro time
    rw [remainingTime]
    split <;> rfl
  have hexpiry : ∀ item, (expiryTime levelTime item).1 =
      if item = 0 then 0 else levelTime - levelTime % 1000 + item := by
    intro item
    rw [expiryTime]
    split <;> rfl
  constructor
  · funext i
    exact (hremaining _).symm
  · rw [GameClient.setPowerups, setPowerups]
    simp only [Option.getD_some, hexpiry]

/-- A player in the game whose health a plugin has set to two thousand millions. -/
def healthyGame : HealthGame :=
  setHealth 0 2000000000 ⟨⟨some 1, some 0, fun _ => some ⟨fun _ => 0, fun _ => 0, fun _ => 0⟩⟩,
    fun _ => 100⟩

/-- The damage that slays the player wraps around. -/
theorem not_slaysSoundly_healthy : ¬ SlaysSoundly healthyGame 0 20 := by
  intro h
  have hslain := h ⟨20, by decide⟩ true _ rfl rfl
  exact absurd hslain.noOverflow (by decide)

end PlayerNumbers
end ShinQlx
