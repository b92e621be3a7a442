import Mathlib.Tactic.FinCases
import ShinQlx.GameClient

/-! # The weapons and the ammunition of a player

`Weapons` has an entry for each of the weapons, in their order, and it stands for the weapons
that a player has as well as for the ammunition.  `Player.weapons` and `Player.ammo` take
them as keyword arguments.

`weapons_and_ammo` says that both are read as they were written, and that a call changes
the entries that it names and nothing else.
-/
namespace ShinQlx

/-- `Weapons`. -/
structure Weapons where
  g : Int32
  mg : Int32
  sg : Int32
  gl : Int32
  rl : Int32
  lg : Int32
  rg : Int32
  pg : Int32
  bfg : Int32
  gh : Int32
  ng : Int32
  pl : Int32
  cg : Int32
  hmg : Int32
  hands : Int32
  deriving DecidableEq

namespace Weapons

/-- `Weapons::from` an array. -/
def ofArray (value : Fin 15 → Int32) : Weapons :=
  { g := value ⟨0, by decide⟩, mg := value ⟨1, by decide⟩, sg := value ⟨2, by decide⟩,
    gl := value ⟨3, by decide⟩, rl := value ⟨4, by decide⟩, lg := value ⟨5, by decide⟩,
    rg := value ⟨6, by decide⟩, pg := value ⟨7, by decide⟩, bfg := value ⟨8, by decide⟩,
    gh := value ⟨9, by decide⟩, ng := value ⟨10, by decide⟩, pl := value ⟨11, by decide⟩,
    cg := value ⟨12, by decide⟩, hmg := value ⟨13, by decide⟩, hands := value ⟨14, by decide⟩ }

/-- An array from `Weapons`. -/
def toArray (w : Weapons) : Fin 15 → Int32 := fun i =>
  match i.val with
  | 0 => w.g
  | 1 => w.mg
  | 2 => w.sg
  | 3 => w.gl
  | 4 => w.rl
  | 5 => w.lg
  | 6 => w.rg
  | 7 => w.pg
  | 8 => w.bfg
  | 9 => w.gh
  | 10 => w.ng
  | 11 => w.pl
  | 12 => w.cg
  | 13 => w.hmg
  | _ => w.hands

/-- No weapons. -/
def zero : Weapons := ⟨0, 0, 0, 0, 0, 0, 0, 0, 0, 0, 0, 0, 0, 0, 0⟩

/-- The weapons in the order of `weapon_t`. -/
def keyword (i : Fin 15) : String :=
  match i.val with
  | 0 => "g"
  | 1 => "mg"
  | 2 => "sg"
  | 3 => "gl"
  | 4 => "rl"
  | 5 => "lg"
  | 6 => "rg"
  | 7 => "pg"
  | 8 => "bfg"
  | 9 => "gh"
  | 10 => "ng"
  | 11 => "pl"
  | 12 => "cg"
  | 13 => "hmg"
  | _ => "hands"

/-- An attribute of the Python object. -/
def getattr (w : Weapons) (name : String) : Option Int32 :=
  Assoc.lookup name
    [("g", w.g), ("mg", w.mg), ("sg", w.sg), ("gl", w.gl), ("rl", w.rl), ("lg", w.lg),
      ("rg", w.rg), ("pg", w.pg), ("bfg", w.bfg), ("gh", w.gh), ("ng", w.ng), ("pl", w.pl),
      ("cg", w.cg), ("hmg", w.hmg), ("hands", w.hands)]

/-- The keyword arguments of `Player.weapons` and of `Player.ammo`. -/
def merge (named : String → Int32 → PyResult Int32) (weaps : Weapons) : PyResult Weapons := do
  let g ← named "g" weaps.g
  let mg ← named "mg" weaps.mg
  let sg ← named "sg" weaps.sg
  let gl ← named "gl" weaps.gl
  let rl ← named "rl" weaps.rl
  let lg ← named "lg" weaps.lg
  let rg ← named "rg" weaps.rg
  let pg ← named "pg" weaps.pg
  let bfg ← named "bfg" weaps.bfg
  let gh ← named "gh" weaps.gh
  let ng ← named "ng" weaps.ng
  let pl ← named "pl" weaps.pl
  let cg ← named "cg" weaps.cg
  let hmg ← named "hmg" weaps.hmg
  let hands ← named "hands" weaps.hands
  return ⟨g, mg, sg, gl, rl, lg, rg, pg, bfg, gh, ng, pl, cg, hmg, hands⟩

theorem toArray_ofArray (value : Fin 15 → Int32) : toArray (ofArray value) = value := by
  funext i
  fin_cases i <;> rfl

theorem merge_ok (named : String → Int32 → PyResult Int32) (old new : Weapons) :
    merge named old = .ok new ↔
      ∀ i, named (keyword i) (toArray old i) = .ok (toArray new i) := by
  obtain ⟨g, mg, sg, gl, rl, lg, rg, pg, bfg, gh, ng, pl, cg, hmg, hands⟩ := new
  simp only [merge, PyResult.bind_eq_ok, pure, Except.pure, Except.ok.injEq, Weapons.mk.injEq]
  constructor
  · rintro ⟨_, hg, _, hmg, _, hsg, _, hgl, _, hrl, _, hlg, _, hrg, _, hpg, _, hbfg, _, hgh, _, hng,
      _, hpl, _, hcg, _, hhmg, _, hhands, rfl, rfl, rfl, rfl, rfl, rfl, rfl, rfl, rfl, rfl,
      rfl, rfl, rfl, rfl, rfl⟩ i
    fin_cases i <;> assumption
  · intro h
    exact ⟨g, h 0, mg, h 1, sg, h 2, gl, h 3, rl, h 4, lg, h 5, rg, h 6, pg, h 7, bfg, h 8,
      gh, h 9, ng, h 10, pl, h 11, cg, h 12, hmg, h 13, hands, h 14, rfl, rfl, rfl, rfl, rfl,
      rfl, rfl, rfl, rfl, rfl, rfl, rfl, rfl, rfl, rfl⟩

theorem getattr_keyword (w : Weapons) (i : Fin 15) :
    w.getattr (keyword i) = some (w.toArray i) := by
  fin_cases i <;> rfl

/-- The entries with their keywords. -/
def entries : KeywordEntries Weapons 15 where
  zero := zero
  ofArray := ofArray
  toArray := toArray
  keyword := keyword
  merge := merge
  toArray_zero := by decide
  toArray_ofArray := toArray_ofArray
  merge_ok := merge_ok

end Weapons

namespace PlayerObject

/-- `Player.weapons`. -/
def weapons : KeywordMethod Weapons 15 where
  toKeywordEntries := Weapons.entries
  read _ := GameClient.getWeapons
  write _ := GameClient.setWeapons
  shown _ item := if 0 < item then 1 else 0
  read_write _ := GameClient.getWeapons_setWeapons

/-- `Player.ammo`. -/
def ammo : KeywordMethod Weapons 15 where
  toKeywordEntries := Weapons.entries
  read _ := GameClient.getAmmos
  write _ := GameClient.setAmmos
  shown _ item := item
  read_write _ ammos c := congrFun (GameClient.getAmmos_setAmmos ammos c)

end PlayerObject

namespace Weapons
open GameClient (statWeapons getWeapons setWeapons getAmmos setAmmos)

/-- What is written is read: of the weapons the positive entries, and the ammunition as it
was written; weapons that are read and written back keep their bits. -/
structure RoundTrip : Prop where
  weapons : ∀ c w i, getWeapons (setWeapons w c) i = if 0 < w i then 1 else 0
  rewritten : ∀ c (i : Fin 15),
    ((setWeapons (getWeapons c) c).stats statWeapons).toBitVec.getLsbD (i.val + 1) =
      (c.stats statWeapons).toBitVec.getLsbD (i.val + 1)
  ammo : ∀ c a, getAmmos (setAmmos a c) = a

/-- A client without its weapons. -/
def withoutWeapons (c : GameClient) : GameClient :=
  { c with stats := Function.update c.stats statWeapons 0 }

/-- A client without its ammunition, which begins at index 1. -/
def withoutAmmo (c : GameClient) : GameClient :=
  { c with ammo := fun i => if i.val = 0 then c.ammo i else 0 }

/-- A method without `reset` sets exactly the entries that are named, as they are `shown`, and
keeps the `rest` of the client; if it cannot be carried out nothing is changed.  Without
keyword arguments each attribute is what is read of its weapon. -/
structure SetsNamed (m : KeywordMethod Weapons 15) (shown : Int32 → Int32)
    (rest : GameClient → GameClient) (extract : PyScalar → PyResult Int32) (g : PlayersInGame)
    (clientId : Int) (kwargs : PyDict) : Prop where
  done : (m.call extract g clientId false (some kwargs)).1 = .ok (.set true) ↔
    m.Ready extract g clientId kwargs
  otherwise : ¬ m.Ready extract g clientId kwargs →
    (m.call extract g clientId false (some kwargs)).2 = g
  changed : m.Ready extract g clientId kwargs → ∃ before after, g.client clientId = some before ∧
    (m.call extract g clientId false (some kwargs)).2 =
      { g with client := Function.update g.client clientId (some after) } ∧
    rest after = rest before ∧
    (∀ i value x, Assoc.lookup (.str (keyword i)) kwargs = some value → extract value = .ok x →
      m.read g.time after i = shown x) ∧
    ∀ i, Assoc.lookup (.str (keyword i)) kwargs = none →
      m.read g.time after i = m.read g.time before i
  reading : ∀ c, g.validateClientId clientId = .ok () → g.client clientId = some c →
    ∃ w, m.call extract g clientId false none = (.ok (.entries w), g) ∧
      ∀ i, w.getattr (keyword i) = some (m.read g.time c i)

theorem roundTrip : RoundTrip where
  weapons c w i := GameClient.getWeapons_setWeapons w c i
  rewritten c i := by
    rw [GameClient.getLsbD_setWeapons, GameClient.getWeapons_eq]
    cases (c.stats statWeapons).toBitVec.getLsbD (i.val + 1) <;> decide
  ammo c a := GameClient.getAmmos_setAmmos a c

theorem withoutAmmo_setAmmos (ammos : Fin 15 → Int32) (c : GameClient) :
    withoutAmmo (setAmmos ammos c) = withoutAmmo c := by
  have hammo : ∀ i : Fin 16, i.val = 0 → (setAmmos ammos c).ammo i = c.ammo i := by
    intro i hi
    refine Entries.writeAll_of_notMem ammos c.ammo fun j hj => ?_
    rw [← hj] at hi
    exact Nat.succ_ne_zero _ hi
  have hfirst : (fun i : Fin 16 => if i.val = 0 then (setAmmos ammos c).ammo i else 0) =
      fun i => if i.val = 0 then c.ammo i else 0 :=
    funext fun i => ite_congr rfl (hammo i) fun _ => rfl
  rw [withoutAmmo, hfirst]
  rfl

/-- Where what was read is shown as it was, a call sets what it names. -/
theorem setsNamed_of {m : KeywordMethod Weapons 15} {shown : Int32 → Int32}
    {rest : GameClient → GameClient} (hentries : m.toKeywordEntries = entries)
    (hshown : ∀ time x, m.shown time x = shown x)
    (hread : ∀ time c i, shown (m.read time c i) = m.read time c i)
    (hrest : ∀ time value c, rest (m.write time value c) = rest c)
    (extract : PyScalar → PyResult Int32) (g : PlayersInGame) (clientId : Int) (kwargs : PyDict) :
    SetsNamed m shown rest extract g clientId kwargs := by
  have hcalled := m.called extract g clientId false kwargs
  have hkeyword : m.keyword = keyword := congrArg KeywordEntries.keyword hentries
  refine ⟨hcalled.done, hcalled.otherwise, fun hready => ?_, fun c hvalid hclient => ?_⟩
  · obtain ⟨before, after, hclient, hcall, hchanged⟩ := hcalled.client hready
    refine ⟨before, after, hclient, hcall, ?_, fun i value x hvalue hx => ?_, fun i hnone => ?_⟩
    · obtain ⟨value, rfl, -, -⟩ := hchanged
      exact hrest g.time value before
    · rw [hchanged.named (hkeyword ▸ hvalue) hx, hshown]
    · have hother := hchanged.others (i := i) (by simp [KeywordMethod.Named, hkeyword, hnone])
      rw [hother, hshown]
      exact hread g.time before i
  · refine ⟨m.entries g c, ?_, fun i => ?_⟩
    · rw [KeywordMethod.call, KeywordMethod.current_of_client hvalid hclient]
      rfl
    · have hofArray : m.ofArray = ofArray := congrArg KeywordEntries.ofArray hentries
      rw [KeywordMethod.entries, hofArray, getattr_keyword, toArray_ofArray]

end Weapons

open Weapons in
/-- **Weapons and ammunition keep what was written**, and a call of `Player.weapons` or of
`Player.ammo` without `reset` changes the entries that it names and nothing else. -/
theorem weapons_and_ammo :
    RoundTrip ∧ ∀ extract g clientId kwargs,
      SetsNamed PlayerObject.weapons (fun x => if 0 < x then 1 else 0) withoutWeapons extract g
          clientId kwargs ∧
        SetsNamed PlayerObject.ammo id withoutAmmo extract g clientId kwargs := by
  refine ⟨roundTrip, fun extract g clientId kwargs =>
    ⟨setsNamed_of rfl (fun _ _ => rfl) (fun _ c i => ?_) (fun _ w c => ?_) extract g clientId
        kwargs,
      setsNamed_of rfl (fun _ _ => rfl) (fun _ _ _ => rfl) (fun _ a c => ?_) extract g clientId
        kwargs⟩⟩
  · show (if 0 < GameClient.getWeapons c i then 1 else 0) = GameClient.getWeapons c i
    rw [GameClient.getWeapons_eq]
    cases (c.stats GameClient.statWeapons).toBitVec.getLsbD (i.val + 1) <;> decide
  · simp [withoutWeapons, PlayerObject.weapons, GameClient.setWeapons]
  · exact withoutAmmo_setAmmos a c

end ShinQlx
