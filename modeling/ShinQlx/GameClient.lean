import ShinQlx.Assoc
import ShinQlx.Entries
import ShinQlx.Python

/-! # The state of the players in the game

A `GameClient` has arrays of 32-bit integers: the weapons are bits of one of the stats, the
ammunition and the powerups have arrays of their own.  Each is read and written as an array
of the entries that a plugin sees, and the time of a powerup counts from the level time.

A method of a `Player` reads the entries, takes the ones that are named by keyword arguments
from there, and writes all of them back; `KeywordMethod.call` is that method for the entries
of one kind, and `KeywordMethod.Called` what a call does.
-/
namespace ShinQlx

/-- What is modelled of the `playerState_t` of a client. -/
structure GameClient where
  stats : Fin 16 → Int32
  powerups : Fin 16 → Int32
  ammo : Fin 16 → Int32

namespace GameClient

/-- `STAT_WEAPONS`. -/
def statWeapons : Fin 16 := ⟨3, by decide⟩

/-- `1 << (i + 1)`, the bit of a weapon. -/
def weaponBit (i : Fin 15) : Int32 := 1 <<< Int32.ofNat (i.val + 1)

/-- `get_weapons`. -/
def getWeapons (c : GameClient) : Fin 15 → Int32 :=
  fun i => if c.stats statWeapons &&& weaponBit i = 0 then 0 else 1

/-- `set_weapons`. -/
def setWeapons (weapons : Fin 15 → Int32) (c : GameClient) : GameClient :=
  let weaponFlags := (((List.finRange 15).filter (0 < weapons ·)).map weaponBit).sum
  { c with stats := Function.update c.stats statWeapons weaponFlags }

/-- `get_ammos`. -/
def getAmmos (c : GameClient) : Fin 15 → Int32 := fun i => c.ammo i.succ

/-- `set_ammos`. -/
def setAmmos (ammos : Fin 15 → Int32) (c : GameClient) : GameClient :=
  { c with ammo := Entries.writeAll Fin.succ ammos c.ammo }

/-- `powerup_t::try_from` the position of an entry. -/
def powerupIndex (i : Fin 6) : Fin 16 :=
  match i.val with
  | 0 => ⟨4, by decide⟩
  | 1 => ⟨5, by decide⟩
  | 2 => ⟨6, by decide⟩
  | 3 => ⟨7, by decide⟩
  | 4 => ⟨8, by decide⟩
  | 5 => ⟨10, by decide⟩
  | _ => ⟨0, by decide⟩

/-- `get_powerups`; the difference wraps around. -/
def getPowerups (levelTime : Int32) (c : GameClient) : Fin 6 → Int32 :=
  fun i =>
    let powerupTime := c.powerups (powerupIndex i)
    if powerupTime = 0 then 0 else powerupTime - levelTime

/-- `set_powerups`; the sum wraps around. -/
def setPowerups (levelTime : Int32) (powerups : Fin 6 → Int32) (c : GameClient) : GameClient :=
  { c with
    powerups := Entries.writeAll powerupIndex (fun i =>
      if powerups i = 0 then 0 else levelTime - levelTime % 1000 + powerups i) c.powerups }

theorem powerupIndex_injective : Function.Injective powerupIndex := by decide

/-! ## Reading what was written -/

theorem toBitVec_weaponBit (i : Fin 15) :
    (weaponBit i).toBitVec = BitVec.twoPow 32 (i.val + 1) := by
  revert i
  decide

theorem toBitVec_sum (l : List Int32) : l.sum.toBitVec = (l.map Int32.toBitVec).sum := by
  induction l with
  | nil => rfl
  | cons x l ih => rw [List.sum_cons, Int32.toBitVec_add, ih, List.map_cons, List.sum_cons]

/-- A weapon is there iff its bit is set. -/
theorem getWeapons_eq (c : GameClient) (i : Fin 15) :
    getWeapons c i = if (c.stats statWeapons).toBitVec.getLsbD (i.val + 1) then 1 else 0 := by
  have hbit : c.stats statWeapons &&& weaponBit i = 0 ↔
      (c.stats statWeapons).toBitVec.getLsbD (i.val + 1) = false := by
    rw [← Int32.toBitVec_inj, Int32.toBitVec_and, toBitVec_weaponBit, BitVec.and_twoPow]
    cases (c.stats statWeapons).toBitVec.getLsbD (i.val + 1) with
    | false => simp
    | true =>
      simp only [if_true, Bool.true_eq_false, iff_false]
      revert i
      decide
  rw [getWeapons]
  simp only [hbit]
  cases (c.stats statWeapons).toBitVec.getLsbD (i.val + 1) <;> rfl

/-- The bits that are written are those of the weapons with a positive entry. -/
theorem getLsbD_setWeapons (weapons : Fin 15 → Int32) (c : GameClient) (i : Fin 15) :
    ((setWeapons weapons c).stats statWeapons).toBitVec.getLsbD (i.val + 1) =
      decide (0 < weapons i) := by
  have hinj : Function.Injective fun i : Fin 15 => i.val + 1 := fun i j h => by
    simpa [Fin.ext_iff] using h
  have hbits : ∀ bit ∈ ((List.finRange 15).filter (0 < weapons ·)).map (·.val + 1), bit < 32 := by
    intro bit hbit
    obtain ⟨j, -, rfl⟩ := List.mem_map.mp hbit
    have := j.isLt
    omega
  have hdistinct : (((List.finRange 15).filter (0 < weapons ·)).map (·.val + 1)).Nodup :=
    ((List.nodup_finRange 15).filter _).map hinj
  have hflags : ((setWeapons weapons c).stats statWeapons).toBitVec =
      ((((List.finRange 15).filter (0 < weapons ·)).map (·.val + 1)).map
        (BitVec.twoPow 32)).sum := by
    have hfield : (setWeapons weapons c).stats statWeapons =
        (((List.finRange 15).filter (0 < weapons ·)).map weaponBit).sum := by
      simp only [setWeapons, Function.update_self]
    rw [hfield, toBitVec_sum, List.map_map, List.map_map]
    exact congrArg List.sum (List.map_congr_left fun j _ => toBitVec_weaponBit j)
  rw [hflags, Entries.getLsbD_sum_twoPow hdistinct hbits]
  simp [Fin.val_inj]

/-- **Weapons are read as the indicator of what was written.** -/
theorem getWeapons_setWeapons (weapons : Fin 15 → Int32) (c : GameClient) (i : Fin 15) :
    getWeapons (setWeapons weapons c) i = if 0 < weapons i then 1 else 0 := by
  rw [getWeapons_eq, getLsbD_setWeapons]
  simp

/-- **Ammunition is read as it was written.** -/
theorem getAmmos_setAmmos (ammos : Fin 15 → Int32) (c : GameClient) :
    getAmmos (setAmmos ammos c) = ammos :=
  funext fun i => Entries.writeAll_apply ammos c.ammo (Fin.succ_injective 15) i

end GameClient

/-! ## Methods with keyword arguments -/

/-- The game: how many clients there can be, if there is an engine, the level time, if there
is a level, and the clients that have a player in the game. -/
structure PlayersInGame where
  maxClients : Option Int
  levelTime : Option Int32
  client : Int → Option GameClient

namespace PlayersInGame

/-- The level time, or else 0. -/
def time (g : PlayersInGame) : Int32 := g.levelTime.getD 0

/-- `validate_client_id`. -/
def validateClientId (g : PlayersInGame) (clientId : Int) : PyResult Unit :=
  match g.maxClients with
  | none => .error (.environmentError "main quake live engine not set")
  | some maxclients =>
    if 0 ≤ clientId ∧ clientId < maxclients then .ok ()
    else
      .error (.valueError
        s!"client_id needs to be a number from 0 to {maxclients - 1}, or None.")

/-- `pyshinqlx_player_state`, with the client that the state is taken from. -/
def playerState (g : PlayersInGame) (clientId : Int) : PyResult (Option GameClient) :=
  (g.validateClientId clientId).map fun _ => g.client clientId

/-- A setter of the bindings: it changes the client, if it is there. -/
def setClient (change : GameClient → GameClient) (g : PlayersInGame) (clientId : Int) :
    PyResult Bool × PlayersInGame :=
  match g.validateClientId clientId with
  | .error e => (.error e, g)
  | .ok () =>
    match g.client clientId with
    | none => (.ok false, g)
    | some c => (.ok true, { g with client := Function.update g.client clientId (some (change c)) })

end PlayersInGame

/-- Entries with positions and keywords, as an array and as arguments; `merge` puts keyword
arguments in the place of entries, where `named` is the value for a keyword and an entry. -/
structure KeywordEntries (E : Type) (n : Nat) where
  zero : E
  ofArray : (Fin n → Int32) → E
  toArray : E → Fin n → Int32
  keyword : Fin n → String
  merge : (named : String → Int32 → PyResult Int32) → E → PyResult E
  toArray_zero : ∀ i, toArray zero i = 0
  toArray_ofArray : ∀ value, toArray (ofArray value) = value
  merge_ok : ∀ named old new, merge named old = .ok new ↔
    ∀ i, named (keyword i) (toArray old i) = .ok (toArray new i)

/-- How entries of a client are read and written at a level time; `shown` is what is read of
a value that was written. -/
structure KeywordMethod (E : Type) (n : Nat) extends KeywordEntries E n where
  read : Int32 → GameClient → Fin n → Int32
  write : Int32 → (Fin n → Int32) → GameClient → GameClient
  shown : Int32 → Int32 → Int32
  read_write : ∀ time value c i, read time (write time value c) i = shown time (value i)

/-- What a method answers: the entries, or whether they were set. -/
inductive KeywordAnswer (E : Type) where
  | entries (e : E)
  | set (done : Bool)

/-- A keyword argument, or else the entry; `extract` is the extraction of a value. -/
def keywordArgument (extract : PyScalar → PyResult Int32) (kwargs : PyDict) (item : String)
    (entry : Int32) : PyResult Int32 :=
  match Assoc.lookup (.str item) kwargs with
  | none => .ok entry
  | some value => extract value

namespace KeywordMethod
variable {E : Type} {n : Nat} (m : KeywordMethod E n) (extract : PyScalar → PyResult Int32)

/-- The entries of a client. -/
def entries (g : PlayersInGame) (c : GameClient) : E := m.ofArray (m.read g.time c)

/-- The entries that a method begins with. -/
def current (g : PlayersInGame) (clientId : Int) (reset : Bool) : PyResult E :=
  if reset then .ok m.zero
  else (g.playerState clientId).map fun state => (state.map (m.entries g)).getD m.zero

/-- The call of a method. -/
def call (g : PlayersInGame) (clientId : Int) (reset : Bool) (kwargs : Option PyDict) :
    PyResult (KeywordAnswer E) × PlayersInGame :=
  match m.current g clientId reset with
  | .error e => (.error e, g)
  | .ok old =>
    match kwargs with
    | none => (.ok (.entries old), g)
    | some kwargs =>
      match m.merge (keywordArgument extract kwargs) old with
      | .error e => (.error e, g)
      | .ok new =>
        let (result, after) := g.setClient (m.write g.time (m.toArray new)) clientId
        (result.map .set, after)

/-- A position is named by keyword arguments. -/
def Named (kwargs : PyDict) (i : Fin n) : Prop :=
  (Assoc.lookup (.str (m.keyword i)) kwargs).isSome

instance (kwargs : PyDict) (i : Fin n) : Decidable (m.Named kwargs i) :=
  inferInstanceAs (Decidable (_ = true))

/-- A call can be carried out: the client is in the game, and the arguments that are named are
integers. -/
structure Ready (g : PlayersInGame) (clientId : Int) (kwargs : PyDict) : Prop where
  valid : g.validateClientId clientId = .ok ()
  client : (g.client clientId).isSome
  extracted : ∀ i value, Assoc.lookup (.str (m.keyword i)) kwargs = some value →
    ∃ x, extract value = .ok x

/-- A client before and after a call that was carried out: what is written are the arguments
that are named, and for the others what was there, or zero. -/
def Changed (time : Int32) (reset : Bool) (kwargs : PyDict) (before after : GameClient) : Prop :=
  ∃ value, after = m.write time value before ∧
    (∀ i given x, Assoc.lookup (.str (m.keyword i)) kwargs = some given → extract given = .ok x →
      value i = x) ∧
    ∀ i, ¬ m.Named kwargs i → value i = if reset then 0 else m.read time before i

/-- What a call does. -/
structure Called (g : PlayersInGame) (clientId : Int) (reset : Bool) (kwargs : PyDict) : Prop where
  done : (m.call extract g clientId reset (some kwargs)).1 = .ok (.set true) ↔
    m.Ready extract g clientId kwargs
  otherwise : ¬ m.Ready extract g clientId kwargs →
    (m.call extract g clientId reset (some kwargs)).2 = g
  client : m.Ready extract g clientId kwargs → ∃ before after, g.client clientId = some before ∧
    (m.call extract g clientId reset (some kwargs)).2 =
      { g with client := Function.update g.client clientId (some after) } ∧
    m.Changed extract g.time reset kwargs before after

variable {m extract} {g : PlayersInGame} {clientId : Int} {reset : Bool} {kwargs : PyDict}

theorem exists_merge_iff (old : E) :
    (∃ new, m.merge (keywordArgument extract kwargs) old = .ok new) ↔
      ∀ i value, Assoc.lookup (.str (m.keyword i)) kwargs = some value →
        ∃ x, extract value = .ok x := by
  constructor
  · rintro ⟨new, hnew⟩ i value hvalue
    have hread := (m.merge_ok _ _ _).mp hnew i
    rw [keywordArgument, hvalue] at hread
    exact ⟨_, hread⟩
  · intro h
    have hread : ∀ i, ∃ x,
        keywordArgument extract kwargs (m.keyword i) (m.toArray old i) = .ok x := by
      intro i
      rw [keywordArgument]
      cases hvalue : Assoc.lookup (.str (m.keyword i)) kwargs with
      | none => exact ⟨_, rfl⟩
      | some value => exact h i value hvalue
    choose value hvalue using hread
    exact ⟨m.ofArray value, (m.merge_ok _ _ _).mpr fun i => by rw [m.toArray_ofArray, hvalue]⟩

theorem changed_of_merge {old new : E} {c : GameClient}
    (hold : m.toArray old = fun i => if reset then 0 else m.read g.time c i)
    (h : m.merge (keywordArgument extract kwargs) old = .ok new) :
    m.Changed extract g.time reset kwargs c (m.write g.time (m.toArray new) c) := by
  refine ⟨_, rfl, fun i given x hgiven hx => ?_, fun i hi => ?_⟩
  · have hread := (m.merge_ok _ _ _).mp h i
    rw [keywordArgument, hgiven] at hread
    exact Except.ok.inj (hread.symm.trans hx)
  · have hread := (m.merge_ok _ _ _).mp h i
    rw [keywordArgument, Option.not_isSome_iff_eq_none.mp hi, hold] at hread
    exact (Except.ok.inj hread).symm

section changed
variable {time : Int32} {before after : GameClient}

/-- An argument that is named is read as it was written. -/
theorem Changed.named (h : m.Changed extract time reset kwargs before after) {i : Fin n}
    {given : PyScalar} {x : Int32} (hgiven : Assoc.lookup (.str (m.keyword i)) kwargs = some given)
    (hx : extract given = .ok x) : m.read time after i = m.shown time x := by
  obtain ⟨value, rfl, hnamed, -⟩ := h
  rw [m.read_write, hnamed i given x hgiven hx]

/-- So is what was there. -/
theorem Changed.others (h : m.Changed extract time reset kwargs before after) {i : Fin n}
    (hi : ¬ m.Named kwargs i) :
    m.read time after i = m.shown time (if reset then 0 else m.read time before i) := by
  obtain ⟨value, rfl, -, hothers⟩ := h
  rw [m.read_write, hothers i hi]

end changed

/-- The entries that a call begins with, of a client that is there. -/
def begun (m : KeywordMethod E n) (g : PlayersInGame) (reset : Bool) (c : GameClient) : E :=
  if reset then m.zero else m.entries g c

theorem toArray_begun (m : KeywordMethod E n) (g : PlayersInGame) (reset : Bool) (c : GameClient) :
    m.toArray (m.begun g reset c) = fun i => if reset then 0 else m.read g.time c i := by
  cases reset with
  | true => exact funext m.toArray_zero
  | false => exact m.toArray_ofArray _

theorem current_of_client {c : GameClient} (hvalid : g.validateClientId clientId = .ok ())
    (hclient : g.client clientId = some c) :
    m.current g clientId reset = .ok (m.begun g reset c) := by
  rw [current, begun, PlayersInGame.playerState, hvalid]
  cases reset <;> simp [Except.map, hclient]

/-- Nothing is changed where nothing can be set. -/
theorem call_of_setClient (result : PyResult Bool) (hresult : result ≠ .ok true)
    (h : ∀ change, g.setClient change clientId = (result, g)) :
    (m.call extract g clientId reset (some kwargs)).1 ≠ .ok (.set true) ∧
      (m.call extract g clientId reset (some kwargs)).2 = g := by
  rw [call]
  cases m.current g clientId reset with
  | error e => exact ⟨nofun, rfl⟩
  | ok old =>
    dsimp only
    cases m.merge (keywordArgument extract kwargs) old with
    | error e => exact ⟨nofun, rfl⟩
    | ok new =>
      dsimp only
      rw [h]
      refine ⟨fun hset => hresult ?_, rfl⟩
      cases result with
      | error e => cases hset
      | ok done =>
        cases done with
        | false => cases hset
        | true => rfl

theorem call_of_not_ready (h : ¬ m.Ready extract g clientId kwargs) :
    (m.call extract g clientId reset (some kwargs)).1 ≠ .ok (.set true) ∧
      (m.call extract g clientId reset (some kwargs)).2 = g := by
  cases hvalid : g.validateClientId clientId with
  | error e =>
    refine call_of_setClient (.error e) nofun fun change => ?_
    rw [PlayersInGame.setClient, hvalid]
  | ok u =>
    cases hclient : g.client clientId with
    | none =>
      refine call_of_setClient (.ok false) nofun fun change => ?_
      rw [PlayersInGame.setClient, hvalid, hclient]
    | some c =>
      rw [call, current_of_client hvalid hclient]
      dsimp only
      cases hmerge : m.merge (keywordArgument extract kwargs) (m.begun g reset c) with
      | error e => exact ⟨nofun, rfl⟩
      | ok new =>
        exact absurd ⟨hvalid, by simp [hclient], (exists_merge_iff _).mp ⟨new, hmerge⟩⟩ h

variable (reset) in
theorem call_of_ready (h : m.Ready extract g clientId kwargs) :
    ∃ before after, g.client clientId = some before ∧
      m.call extract g clientId reset (some kwargs) = (.ok (.set true),
        { g with client := Function.update g.client clientId (some after) }) ∧
      m.Changed extract g.time reset kwargs before after := by
  obtain ⟨c, hclient⟩ := Option.isSome_iff_exists.mp h.client
  obtain ⟨new, hnew⟩ := (exists_merge_iff (m.begun g reset c)).mpr h.extracted
  refine ⟨c, m.write g.time (m.toArray new) c, hclient, ?_,
    changed_of_merge (toArray_begun m g reset c) hnew⟩
  rw [call, current_of_client h.valid hclient]
  dsimp only
  rw [hnew]
  dsimp only
  rw [PlayersInGame.setClient, h.valid, hclient]
  rfl

/-- **What a call does**: it sets what is named, and writes back what it has read. -/
theorem called (m : KeywordMethod E n) (extract : PyScalar → PyResult Int32) (g : PlayersInGame)
    (clientId : Int) (reset : Bool) (kwargs : PyDict) :
    m.Called extract g clientId reset kwargs := by
  refine ⟨⟨fun hdone => ?_, fun h => ?_⟩, fun h => (call_of_not_ready h).2, fun h => ?_⟩
  · by_contra hready
    exact (call_of_not_ready hready).1 hdone
  · obtain ⟨before, after, -, hcall, -⟩ := call_of_ready reset h
    rw [hcall]
  · obtain ⟨before, after, hclient, hcall, hchanged⟩ := call_of_ready reset h
    exact ⟨before, after, hclient, by rw [hcall], hchanged⟩

end KeywordMethod
end ShinQlx
