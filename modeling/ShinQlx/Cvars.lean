import ShinQlx.Assoc
import ShinQlx.Python

/-! # Cvars

The engine keeps the cvars.  `set_cvar` makes one or sets it, and `set_cvar_once` only makes it.
-/
namespace ShinQlx

/-- The cvars of the engine: `Cvar_FindVar`, `Cvar_Get` and `Cvar_Set2`. -/
structure CvarEngine (S : Type) where
  findCvar : String → S → Option String
  getCvar : String → String → S → S
  setCvarForced : String → String → Bool → S → S

/-- A text without a NUL; nothing is done about a cvar whose name or value has one. -/
def NulFree (text : String) : Prop := '\x00' ∉ text.toList

instance (text : String) : Decidable (NulFree text) := inferInstanceAs (Decidable (_ ∉ _))

/-- `Cvar_Get` makes a cvar that does not exist.  The case of a name does not matter. -/
structure CvarEngine.Lawful {S : Type} (engine : CvarEngine S) : Prop where
  created : ∀ name value s, NulFree name → NulFree value → engine.findCvar name s = none →
    engine.findCvar name (engine.getCvar name value s) = some value
  others : ∀ name other value s, other.toLower ≠ name.toLower →
    engine.findCvar other (engine.getCvar name value s) = engine.findCvar other s

/-- A cvar that is neither read-only nor waits for the next map. -/
def CvarEngine.Settable {S : Type} (engine : CvarEngine S) (name : String) : Prop :=
  ∀ value s, NulFree value →
    engine.findCvar name (engine.setCvarForced name value false s) = some value

namespace Cvars
variable {S : Type}

/-- `set_cvar`, without flags. -/
def setCvar (engine : Option (CvarEngine S)) (cvar value : String) (s : S) : PyResult Bool × S :=
  match engine with
  | none => (.error (.environmentError "main quake live engine not set"), s)
  | some engine =>
    if (engine.findCvar cvar s).isSome then (.ok false, engine.setCvarForced cvar value false s)
    else (.ok true, engine.getCvar cvar value s)

/-- `set_cvar_once`. -/
def setCvarOnce (engine : Option (CvarEngine S)) (cvar value : String) (s : S) :
    PyResult Bool × S :=
  match engine with
  | none => (.error (.environmentError "main quake live engine not set"), s)
  | some engine =>
    if (engine.findCvar cvar s).isSome then (.ok false, s)
    else (.ok true, engine.getCvar cvar value s)

/-- A cvar that can be set has the value afterwards. -/
theorem setCvar_found {engine : CvarEngine S} (h : engine.Lawful) {cvar value : String}
    (hset : engine.Settable cvar) (hcvar : NulFree cvar) (hvalue : NulFree value) (s : S) :
    ∃ b, (setCvar (some engine) cvar value s).1 = .ok b ∧
      engine.findCvar cvar (setCvar (some engine) cvar value s).2 = some value := by
  unfold setCvar
  cases hfind : engine.findCvar cvar s with
  | some there => exact ⟨false, by simp [hfind], by simp [hfind, hset value s hvalue]⟩
  | none => exact ⟨true, by simp [hfind], by simp [hfind, h.created cvar value s hcvar hvalue hfind]⟩

/-- Cvars in a table, under their names in lower case. -/
def table : CvarEngine (List (String × String)) where
  findCvar name s := Assoc.lookup name.toLower s
  getCvar name value s :=
    if (Assoc.lookup name.toLower s).isSome then s else s ++ [(name.toLower, value)]
  setCvarForced name value _ s := Assoc.insert name.toLower value s

theorem table_lawful : table.Lawful where
  created name value s _ _ h := by
    show Assoc.lookup name.toLower (if (Assoc.lookup name.toLower s).isSome then s else _) = _
    have hnone : Assoc.lookup name.toLower s = none := h
    simp [hnone, Assoc.lookup_append, Assoc.lookup_cons]
  others name other value s hne := by
    show Assoc.lookup other.toLower (if (Assoc.lookup name.toLower s).isSome then s else _) = _
    split
    · rfl
    · simp [Assoc.lookup_append, Assoc.lookup_cons, hne.symm, table]

end Cvars
end ShinQlx
