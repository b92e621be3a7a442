import ShinQlx.Python
import ShinQlx.Text

/-! # Commands

A `Command` knows by which words it is called, in which channels, what permission
a player needs and what handler to run.  Whether it may run is decided by three
predicates, each of which reads the outside world: the cvars, the comparisons of
channel objects, and the permission database of the command's plugin
(`Lookups`).  Each comes with a lemma that says exactly when it holds
(`isEligibleName_iff`, `isEligibleChannel_iff`, `isEligiblePlayer_iff`).
-/
namespace ShinQlx

/-- A command, over plugin objects `Pl`, handler objects `H` and channel objects
`C`. -/
structure Command (Pl H C : Type) where
  plugin : Pl
  name : List String
  handler : H
  permission : Int
  channels : List C
  excludeChannels : List C
  clientCmdPass : Bool
  clientCmdPerm : Int
  prefixed : Bool
  usage : String
  deriving DecidableEq, Repr

/-- A Python object as a collection of channels: `None`, an object without
`__iter__`, one whose iteration raises, or the channels it yields. -/
inductive PyIterable (C : Type) where
  | none
  | notIterable
  | failing (e : PyErr)
  | items (channels : List C)
  deriving DecidableEq, Repr

/-- The arguments a command is made of: the strings among its names, the handler
and whether it can be called, and the rest as it is stored. -/
structure CommandArgs (H C : Type) where
  name : List String
  handler : H
  callable : Bool
  permission : Int
  channels : PyIterable C
  excludeChannels : PyIterable C
  clientCmdPass : Bool
  clientCmdPerm : Int
  prefixed : Bool
  usage : String
  deriving DecidableEq, Repr

/-- A plugin's database: `get_permission` raises, or returns something that is or
is not a 32-bit integer. -/
structure Database (P : Type) where
  getPermission : P → PyResult (Option Int)

/-- What the eligibility checks of a command find when they look: the text of a
cvar, the `db` attribute of a plugin, and the `steam_id` attribute of a player,
where it is a 64-bit integer. -/
structure Lookups (Pl P : Type) where
  getCvar : String → PyResult (Option String)
  db : Pl → PyResult (Option (Database P))
  steamId : P → PyResult (Option Int)

/-- `owner`: the cvar `qlx_owner`, if it is a non-negative integer. -/
def owner (getCvar : String → PyResult (Option String)) : PyResult (Option Int) :=
  (getCvar "qlx_owner").map fun value =>
    (value.bind (Text.parseInt 64)).filter (0 ≤ ·)

namespace Command
variable {Pl H C P : Type}

/-- The channels an object yields. -/
def collect : PyIterable C → PyResult (List C)
  | .none | .notIterable => .ok []
  | .failing e => .error e
  | .items channels => .ok channels

/-- `Command::py_new`; `toLowercase` is `str::to_lowercase`. -/
def pyNew (toLowercase : String → String) (plugin : Pl) (args : CommandArgs H C) :
    PyResult (Command Pl H C) := do
  if !args.callable then
    throw (.valueError "'handler' must be a callable function.")
  if args.channels matches .notIterable then
    throw (.valueError "'channels' must be a finite iterable or None.")
  if args.excludeChannels matches .notIterable then
    throw (.valueError "'exclude_channels' must be a finite iterable or None.")
  let channels ← collect args.channels
  let excludeChannels ← collect args.excludeChannels
  return ⟨plugin, args.name.map toLowercase, args.handler, args.permission, channels,
    excludeChannels, args.clientCmdPass, args.clientCmdPerm, args.prefixed, args.usage⟩

/-- `CommandMethods::is_eligible_name`; `toLowercase` is `str::to_lowercase`. -/
def isEligibleName (toLowercase : String → String) (w : Lookups Pl P) (c : Command Pl H C)
    (name : String) : Bool :=
  let comparedName : Option String :=
    if !c.prefixed then some name
    else ((w.getCvar "qlx_commandPrefix").unwrapOr none).bind (Text.stripPrefix · name)
  comparedName.any fun name => c.name.contains (toLowercase name)

/-- `CommandMethods::is_eligible_channel`. -/
def isEligibleChannel [PyCompare C] (c : Command Pl H C) (channel : C) : Bool :=
  if c.excludeChannels.any (PyCompare.equals · channel) then false
  else c.channels.isEmpty || c.channels.any (PyCompare.equals · channel)

/-- The permission a cvar sets. -/
def configured (w : Lookups Pl P) (cvar : String) (default : Int) : Int :=
  (((w.getCvar cvar).unwrapOr none).bind (Text.parseInt 32)).getD default

/-- `CommandMethods::is_eligible_player`. -/
def isEligiblePlayer (w : Lookups Pl P) (c : Command Pl H C) (player : P) (isClientCmd : Bool) :
    Bool :=
  if ((owner w.getCvar).unwrapOr none).any
      (fun ownerSteamId => (w.steamId player).unwrapOr none = some ownerSteamId) then true
  else
    let name := c.name.head?.getD "invalid"
    let perm :=
      if isClientCmd then configured w s!"qlx_ccmd_perm_{name}" c.clientCmdPerm
      else configured w s!"qlx_perm_{name}" c.permission
    if perm = 0 then true
    else
      match w.db c.plugin with
      | .ok (some db) => ((db.getPermission player).unwrapOr none).any (perm ≤ ·)
      | _ => false

/-! ## When a command may run -/

/-- A word calls the command: it is one of its names, behind the command prefix
where the command is prefixed. -/
def CalledBy (toLowercase : String → String) (w : Lookups Pl P) (c : Command Pl H C)
    (word : String) : Prop :=
  ∃ name, toLowercase name ∈ c.name ∧
    if c.prefixed then
      ∃ start, w.getCvar "qlx_commandPrefix" = .ok (some start) ∧ word = start ++ name
    else word = name

/-- A channel in which the command is allowed: no excluded channel equals it, and
some declared one does, if any is declared. -/
def AllowedIn [PyCompare C] (c : Command Pl H C) (channel : C) : Prop :=
  (∀ x ∈ c.excludeChannels, PyCompare.eq x channel ≠ .ok true) ∧
    (c.channels = [] ∨ ∃ x ∈ c.channels, PyCompare.eq x channel = .ok true)

/-- The permission the command asks for: what the cvar of the first name says,
if it is set to an integer, or else what the command was declared with. -/
def requiredPermission (w : Lookups Pl P) (c : Command Pl H C) (isClientCmd : Bool) : Int :=
  let cvar := (if isClientCmd then "qlx_ccmd_perm_" else "qlx_perm_") ++ c.name.head?.getD "invalid"
  match w.getCvar cvar with
  | .ok (some value) =>
    match Text.parseInt 32 value with
    | some perm => perm
    | none => if isClientCmd then c.clientCmdPerm else c.permission
  | _ => if isClientCmd then c.clientCmdPerm else c.permission

/-- A player with the rights to run the command: the owner, anybody if no
permission is asked for, or a player to whom the database of the command's plugin
grants it. -/
def Permitted (w : Lookups Pl P) (c : Command Pl H C) (player : P) (isClientCmd : Bool) : Prop :=
  (∃ id value, w.getCvar "qlx_owner" = .ok (some value) ∧ Text.parseInt 64 value = some id ∧
    0 ≤ id ∧ w.steamId player = .ok (some id)) ∨
  requiredPermission w c isClientCmd = 0 ∨
  ∃ db granted, w.db c.plugin = .ok (some db) ∧ db.getPermission player = .ok (some granted) ∧
    requiredPermission w c isClientCmd ≤ granted

theorem unwrapOr_none_eq_some {α : Type} {r : PyResult (Option α)} {a : α} :
    r.unwrapOr none = some a ↔ r = .ok (some a) := by
  cases r with
  | error e => simp [PyResult.unwrapOr]
  | ok o => simp [PyResult.unwrapOr]

theorem isEligibleName_iff (toLowercase : String → String) (w : Lookups Pl P) (c : Command Pl H C)
    (word : String) :
    isEligibleName toLowercase w c word = true ↔ CalledBy toLowercase w c word := by
  unfold isEligibleName CalledBy
  cases hp : c.prefixed with
  | false => simp [and_comm]
  | true =>
    simp only [Bool.not_true, Bool.false_eq_true, if_false, if_true, Option.any_eq_true,
      Option.bind_eq_some_iff, Text.stripPrefix_eq_some, unwrapOr_none_eq_some,
      List.contains_iff_mem]
    constructor
    · rintro ⟨name, ⟨start, hstart, hword⟩, hmem⟩
      exact ⟨name, hmem, start, hstart, hword⟩
    · rintro ⟨name, hmem, start, hstart, hword⟩
      exact ⟨name, ⟨start, hstart, hword⟩, hmem⟩

theorem equals_iff {A : Type} [PyCompare A] {a b : A} :
    PyCompare.equals a b = true ↔ PyCompare.eq a b = .ok true := by
  unfold PyCompare.equals
  cases PyCompare.eq a b with
  | error e => simp [PyResult.unwrapOr]
  | ok v => simp [PyResult.unwrapOr]

theorem isEligibleChannel_iff [PyCompare C] (c : Command Pl H C) (channel : C) :
    isEligibleChannel c channel = true ↔ AllowedIn c channel := by
  unfold isEligibleChannel AllowedIn
  by_cases hexcl : c.excludeChannels.any (PyCompare.equals · channel) = true
  · obtain ⟨x, hx, he⟩ := List.any_eq_true.mp hexcl
    simp only [if_pos hexcl, Bool.false_eq_true, false_iff]
    exact fun h => h.1 x hx (equals_iff.mp he)
  · have hnone : ∀ x ∈ c.excludeChannels, PyCompare.eq x channel ≠ .ok true := fun x hx he =>
      hexcl (List.any_eq_true.mpr ⟨x, hx, equals_iff.mpr he⟩)
    rw [if_neg hexcl, Bool.or_eq_true, List.isEmpty_iff, List.any_eq_true]
    simp only [equals_iff]
    exact ⟨fun h => ⟨hnone, h⟩, fun h => h.2⟩

theorem owner_eq_some (w : Lookups Pl P) (id : Int) :
    owner w.getCvar = .ok (some id) ↔
      ∃ value, w.getCvar "qlx_owner" = .ok (some value) ∧ Text.parseInt 64 value = some id ∧
        0 ≤ id := by
  unfold owner
  cases w.getCvar "qlx_owner" with
  | error e => simp [Except.map]
  | ok value =>
    cases value with
    | none => simp [Except.map]
    | some value => simp [Except.map, Option.filter_eq_some_iff]

theorem configured_eq (w : Lookups Pl P) (c : Command Pl H C) (isClientCmd : Bool) :
    (let name := c.name.head?.getD "invalid"
      if isClientCmd then configured w s!"qlx_ccmd_perm_{name}" c.clientCmdPerm
      else configured w s!"qlx_perm_{name}" c.permission) =
      requiredPermission w c isClientCmd := by
  have hconf : ∀ cvar default, configured w cvar default =
      match w.getCvar cvar with
      | .ok (some value) =>
        match Text.parseInt 32 value with
        | some perm => perm
        | none => default
      | _ => default := by
    intro cvar default
    unfold configured
    cases w.getCvar cvar with
    | error e => rfl
    | ok value =>
      cases value with
      | none => rfl
      | some value => cases hp : Text.parseInt 32 value <;> simp [PyResult.unwrapOr, hp]
  cases isClientCmd with
  | false => exact hconf _ _
  | true => exact hconf _ _

theorem isEligiblePlayer_iff (w : Lookups Pl P) (c : Command Pl H C) (player : P)
    (isClientCmd : Bool) :
    isEligiblePlayer w c player isClientCmd = true ↔ Permitted w c player isClientCmd := by
  have howner : (((owner w.getCvar).unwrapOr none).any fun ownerSteamId =>
        (w.steamId player).unwrapOr none = some ownerSteamId) = true ↔
      ∃ id value, w.getCvar "qlx_owner" = .ok (some value) ∧ Text.parseInt 64 value = some id ∧
        0 ≤ id ∧ w.steamId player = .ok (some id) := by
    simp only [Option.any_eq_true, unwrapOr_none_eq_some, owner_eq_some, decide_eq_true_eq]
    constructor
    · rintro ⟨id, ⟨value, hvalue, hparse, hid⟩, hsteam⟩
      exact ⟨id, value, hvalue, hparse, hid, hsteam⟩
    · rintro ⟨id, value, hvalue, hparse, hid, hsteam⟩
      exact ⟨id, ⟨value, hvalue, hparse, hid⟩, hsteam⟩
  have hgranted : ∀ perm : Int, (match w.db c.plugin with
        | .ok (some db) => ((db.getPermission player).unwrapOr none).any (perm ≤ ·)
        | _ => false) = true ↔
      ∃ db granted, w.db c.plugin = .ok (some db) ∧ db.getPermission player = .ok (some granted) ∧
        perm ≤ granted := by
    intro perm
    cases w.db c.plugin with
    | error e => simp
    | ok db =>
      cases db with
      | none => simp
      | some db => simp [Option.any_eq_true, unwrapOr_none_eq_some]
  unfold isEligiblePlayer Permitted
  rw [← howner]
  simp only [configured_eq]
  by_cases h : (((owner w.getCvar).unwrapOr none).any fun ownerSteamId =>
        (w.steamId player).unwrapOr none = some ownerSteamId) = true
  · simp [h]
  · by_cases hzero : requiredPermission w c isClientCmd = 0
    · simp [hzero]
    · rw [if_neg h, if_neg hzero, hgranted]
      simp [h, hzero]

end Command
end ShinQlx
