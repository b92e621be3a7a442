import ShinQlx.PlayerObject

/-! # One meaning of an info string

A client may send a userinfo in which a key occurs more than once.  A lookup comes up with
any of the items of the key, while the dict of the variables has the last one.  Both are
used side by side: `player[key]` and the derived getters look a key up, `player.cvars` is
the dict, and the differences between two userinfos are found by lookups.

`oneMeaning_iff` says for which strings all of them agree, whatever the searches choose.
-/
namespace ShinQlx
open ClientCommand (intoPyDict changed)

namespace ParsedVariables

/-- The string that a dict of variables has for a key. -/
def inDict (key : String) (d : PyDict) : Option String :=
  match Assoc.lookup (.str key) d with
  | some (.str value) => some value
  | _ => none

/-- The variables of a string have one meaning: each lookup and each getter finds what is in
the dict, and the differences to other variables are those to the dict. -/
structure OneMeaning (s : String) : Prop where
  lookup : ∀ key pick, (parseVariables s).get pick key = inDict key (intoPyDict (parseVariables s))
  contains : ∀ key, (parseVariables s).contains key =
    (Assoc.lookup (.str key) (intoPyDict (parseVariables s))).isSome
  cvars : ∀ p : PlayerObject, p.userInfo = s → p.valid = true →
    p.getCvars = .ok (intoPyDict (parseVariables s))
  getItem : ∀ (F : Type) (w : PlayerWorld F) (p : PlayerObject) key value,
    p.userInfo = s → p.valid = true →
      (p.getItem w key = .ok value ↔ inDict key (intoPyDict (parseVariables s)) = some value)
  isIn : ∀ (F : Type) (w : PlayerWorld F) (p : PlayerObject) key, p.userInfo = s → p.valid = true →
    p.contains w key = .ok (inDict key (intoPyDict (parseVariables s))).isSome
  ip : ∀ (F : Type) (w : PlayerWorld F) (p : PlayerObject), p.userInfo = s →
    p.getIp w = ((inDict "ip" (intoPyDict (parseVariables s))).map fun value =>
      (Text.split ':' value).head?.getD "").getD ""
  model : ∀ (F : Type) (w : PlayerWorld F) (p : PlayerObject) value, p.userInfo = s →
    (p.getModel w = .ok value ↔ inDict "model" (intoPyDict (parseVariables s)) = some value)
  name : ∀ (F : Type) (w : PlayerWorld F) (info : FullPlayerInfo), info.userinfo = s →
    info.name = "" →
      PlayerObject.nameOf w info = (inDict "name" (intoPyDict (parseVariables s))).getD ""
  diff : ∀ pick new, changed pick new (parseVariables s) =
    new.filter fun x => inDict x.1 (intoPyDict (parseVariables s)) ≠ some x.2

/-- No key has two values. -/
def SingleValued (items : ParsedVariables) : Prop :=
  ∀ key v v', (key, v) ∈ items → (key, v') ∈ items → v = v'

/-! ## Lookups and dicts -/

theorem mem_of_get {pick : Nat} {key value : String} {items : ParsedVariables}
    (h : items.get pick key = some value) : (key, value) ∈ items := by
  obtain ⟨x, hx, rfl⟩ := Option.map_eq_some_iff.mp h
  have hmem := List.mem_filter.mp (List.mem_of_getElem? hx)
  obtain rfl : x.1 = key := of_decide_eq_true hmem.2
  exact hmem.1

/-- Each item of a key is found by some search. -/
theorem exists_get {key value : String} {items : ParsedVariables} (h : (key, value) ∈ items) :
    ∃ pick, items.get pick key = some value := by
  have hmem : (key, value) ∈ items.filter (·.1 = key) := List.mem_filter.mpr ⟨h, by simp⟩
  obtain ⟨i, hi, hget⟩ := List.getElem_of_mem hmem
  refine ⟨i, ?_⟩
  simp [get, Nat.mod_eq_of_lt hi, hi, hget]

theorem get_eq_none_iff (pick : Nat) {key : String} {items : ParsedVariables} :
    items.get pick key = none ↔ items.filter (·.1 = key) = [] := by
  rw [get, Option.map_eq_none_iff, List.getElem?_eq_none_iff]
  constructor
  · intro h
    by_contra hne
    exact absurd (Nat.mod_lt pick (List.length_pos_iff.mpr hne)) (Nat.not_lt.mpr h)
  · intro h
    simp [h]

/-- The dict has the last item of a key. -/
theorem lookup_intoPyDict (key : String) (items : ParsedVariables) :
    Assoc.lookup (.str key) (intoPyDict items) =
      ((items.filter (·.1 = key)).getLast?).map fun x => .str x.2 := by
  induction items using List.reverseRecOn with
  | nil => rfl
  | append_singleton items x ih =>
    have hstep : intoPyDict (items ++ [x]) =
        Assoc.insert (.str x.1) (.str x.2) (intoPyDict items) := by
      rw [intoPyDict, List.foldl_concat]
      rfl
    rw [hstep, Assoc.lookup_insert, List.filter_append]
    by_cases hx : x.1 = key
    · rw [if_pos (congrArg PyScalar.str hx), List.filter_cons_of_pos (by simpa using hx)]
      simp
    · rw [if_neg fun h => hx (PyScalar.str.inj h), ih, List.filter_cons_of_neg (by simpa using hx)]
      simp

theorem inDict_intoPyDict (key : String) (items : ParsedVariables) :
    inDict key (intoPyDict items) = ((items.filter (·.1 = key)).getLast?).map (·.2) := by
  rw [inDict, lookup_intoPyDict]
  cases (items.filter (·.1 = key)).getLast? <;> rfl

theorem contains_eq (key : String) (items : ParsedVariables) :
    items.contains key = (Assoc.lookup (.str key) (intoPyDict items)).isSome := by
  rw [lookup_intoPyDict, Option.isSome_map, contains, Bool.eq_iff_iff, List.any_eq_true,
    List.getLast?_isSome]
  simp [List.filter_eq_nil_iff]

theorem mem_of_inDict {key value : String} {items : ParsedVariables}
    (h : inDict key (intoPyDict items) = some value) : (key, value) ∈ items := by
  rw [inDict_intoPyDict] at h
  obtain ⟨x, hx, rfl⟩ := Option.map_eq_some_iff.mp h
  have hmem := List.mem_filter.mp (List.mem_of_getLast? hx)
  obtain rfl : x.1 = key := of_decide_eq_true hmem.2
  exact hmem.1

/-- A lookup finds what is in the dict, if the key has one value. -/
theorem get_eq_inDict {items : ParsedVariables} (h : SingleValued items) (pick : Nat)
    (key : String) : items.get pick key = inDict key (intoPyDict items) := by
  by_cases hnil : items.filter (·.1 = key) = []
  · rw [(get_eq_none_iff pick).mpr hnil, inDict_intoPyDict, hnil]
    rfl
  · obtain ⟨value, hvalue⟩ :=
      Option.ne_none_iff_exists'.mp (mt (get_eq_none_iff pick).mp hnil)
    have hlast : ∃ last, inDict key (intoPyDict items) = some last := by
      rw [inDict_intoPyDict, List.getLast?_eq_some_getLast hnil]
      exact ⟨_, rfl⟩
    obtain ⟨last, hlast⟩ := hlast
    rw [hvalue, hlast, h key value last (mem_of_get hvalue) (mem_of_inDict hlast)]

theorem changed_eq_filter {old : ParsedVariables} (h : SingleValued old) (pick : Nat → Nat)
    (new : ParsedVariables) :
    changed pick new old = new.filter fun x => inDict x.1 (intoPyDict old) ≠ some x.2 := by
  have hget : (fun x : (String × String) × Nat =>
      decide (get (pick x.2) x.1.1 old ≠ some x.1.2)) =
        (fun x : String × String => decide (inDict x.1 (intoPyDict old) ≠ some x.2)) ∘
          Prod.fst := by
    funext x
    simp [get_eq_inDict h]
  rw [changed, hget, ← List.filter_map, List.zipIdx_map_fst]

/-! ## What the getters find -/

section getters
variable {F : Type} {w : PlayerWorld F} {p : PlayerObject} {s : String}

theorem find_eq_inDict (h : SingleValued (parseVariables s)) (hs : p.userInfo = s) (key : String) :
    p.find w key = inDict key (intoPyDict (parseVariables s)) := by
  rw [PlayerObject.find, PlayerObject.vars, hs, get_eq_inDict h]

theorem required_eq_ok_iff {item value : String} :
    p.required w item = .ok value ↔ p.find w item = some value := by
  rw [PlayerObject.required]
  cases p.find w item <;> simp

end getters

/-- **An info string has one meaning iff no key has two values in it.** -/
theorem oneMeaning_iff (s : String) : OneMeaning s ↔ SingleValued (parseVariables s) := by
  constructor
  · intro h key v v' hv hv'
    obtain ⟨pick, hpick⟩ := exists_get hv
    obtain ⟨pick', hpick'⟩ := exists_get hv'
    rw [h.lookup] at hpick hpick'
    exact Option.some.inj (hpick.symm.trans hpick')
  · intro h
    refine ⟨fun key pick => get_eq_inDict h pick key, fun key => contains_eq key _, ?_, ?_, ?_, ?_,
      ?_, ?_, fun pick new => changed_eq_filter h pick new⟩
    · intro p hs hvalid
      rw [PlayerObject.getCvars, hvalid, PlayerObject.vars, hs]
      rfl
    · intro F w p key value hs hvalid
      rw [PlayerObject.getItem, hvalid, ← find_eq_inDict (w := w) h hs, ← required_eq_ok_iff]
      rfl
    · intro F w p key hs hvalid
      rw [PlayerObject.contains, hvalid, find_eq_inDict h hs]
      rfl
    · intro F w p hs
      rw [PlayerObject.getIp, find_eq_inDict h hs]
    · intro F w p value hs
      rw [PlayerObject.getModel, required_eq_ok_iff, find_eq_inDict h hs]
    · intro F w info hs hname
      rw [PlayerObject.nameOf, if_pos hname, hs, get_eq_inDict h]

/-- A userinfo that gives the model twice. -/
theorem not_oneMeaning_twice : ¬ OneMeaning "\\model\\sarge\\model\\doom" := by
  intro h
  have hfound := h.lookup "model" 0
  exact absurd hfound (by decide +kernel)

end ParsedVariables
end ShinQlx
