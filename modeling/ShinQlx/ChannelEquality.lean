import Mathlib.Data.Set.Insert
import ShinQlx.Command

/-! # When channels are equal

Channels are compared by `AbstractChannel::__richcmp__`, which asks the other object for its
string, and for its representation only where it has none, and compares that with the name of
the channel.  Channels to one player have the name of their kind, and the player only in their
representation.

`documentedEquality_iff` says for which channels this compares the representations, and
`documentedEquality_builtIn_iff` for which of the channels that there are.
-/
namespace ShinQlx

/-- `CompareOp`. -/
inductive CompareOp where
  | lt | le | eq | ne | gt | ge
  deriving DecidableEq

/-- The operator for the two sides the other way round. -/
def CompareOp.swapped : CompareOp → CompareOp
  | .lt => .gt
  | .le => .ge
  | .eq => .eq
  | .ne => .ne
  | .gt => .lt
  | .ge => .le

/-- What `str` and `repr` of an object come to. -/
structure PyTexts where
  str : PyResult String
  repr : PyResult String

/-- A Python class, and the classes that it is derived from, with itself. -/
structure PyClass where
  id : Nat
  mro : List Nat
  deriving DecidableEq

/-- A channel; derived classes can have their own `str` and `repr`. -/
structure Channel extends PyTexts where
  cls : PyClass
  name : String

namespace Channel

/-- The classes that leave the string and the representation of their channels as they are. -/
inductive NamedClass where
  | abstractChannel | consoleChannel | chatChannel | teamChatChannel

/-- The Python class. -/
def NamedClass.pyClass : NamedClass → PyClass
  | .abstractChannel => ⟨0, [0]⟩
  | .consoleChannel => ⟨1, [1, 0]⟩
  | .chatChannel => ⟨2, [2, 0]⟩
  | .teamChatChannel => ⟨4, [4, 2, 0]⟩

/-- `AbstractChannel::__repr__`, which is its string, the name. -/
def abstractRepr (name : String) : String := name

/-- A channel of one of these classes; that of a `ConsoleChannel` is called `console`. -/
def named (cls : NamedClass) (name : String) : Channel :=
  ⟨⟨.ok name, .ok (abstractRepr name)⟩, cls.pyClass, name⟩

/-- `TellChannel` to a player with a client id. -/
def tellChannel (clientId : Int) : Channel :=
  ⟨⟨.ok "tell", .ok ("tell " ++ toString clientId)⟩, ⟨3, [3, 2, 0]⟩, "tell"⟩

/-- `ClientCommandChannel` to a player with a client id. -/
def clientCommandChannel (clientId : Int) : Channel :=
  ⟨⟨.ok "client_command", .ok ("client_command " ++ toString clientId)⟩, ⟨5, [5, 0]⟩,
    "client_command"⟩

/-- The channels that there are; the names of some are free. -/
inductive BuiltIn where
  | named (cls : NamedClass) (name : String)
  | tell (clientId : Int)
  | clientCommand (clientId : Int)

/-- The channel. -/
def BuiltIn.channel : BuiltIn → Channel
  | .named cls name => Channel.named cls name
  | .tell clientId => tellChannel clientId
  | .clientCommand clientId => clientCommandChannel clientId

/-- `AbstractChannel::__richcmp__`; `none` is `NotImplemented`. -/
def richcmp (self : Channel) (other : PyTexts) : CompareOp → Option Bool
  | .eq =>
    some <| match other.str with
      | .ok otherStr => self.name = otherStr
      | .error _ =>
        match other.repr with
        | .ok otherRepr => abstractRepr self.name = otherRepr
        | .error _ => false
  | .ne =>
    some <| match other.str with
      | .ok otherStr => self.name ≠ otherStr
      | .error _ =>
        match other.repr with
        | .ok otherRepr => abstractRepr self.name ≠ otherRepr
        | .error _ => true
  | _ => none

/-- The class of the right side is derived from that of the left one, so it is asked first. -/
def rightFirst (a b : Channel) : Bool := a.cls.id ≠ b.cls.id && b.cls.mro.contains a.cls.id

/-- A comparison in Python, of objects with the comparison of `AbstractChannel`. -/
def richCompare (op : CompareOp) (a b : Channel) : PyResult Bool :=
  let answer :=
    if rightFirst a b then (b.richcmp a.toPyTexts op.swapped).or (a.richcmp b.toPyTexts op)
    else (a.richcmp b.toPyTexts op).or (b.richcmp a.toPyTexts op.swapped)
  match answer with
  | some value => .ok value
  | none => .error (.typeError "not supported between instances")

instance : PyCompare Channel where
  eq := richCompare .eq
  ne := richCompare .ne

/-- The representations return, and are the same. -/
def SameRepr (a b : Channel) : Prop := ∃ text, a.repr = .ok text ∧ b.repr = .ok text

/-- **The documented equality** of some channels: they are equal iff their representations are,
and different iff they are not equal; this is an equivalence; and it decides in which of them a
command may be used. -/
structure DocumentedEquality (channels : Set Channel) : Prop where
  eq : ∀ a ∈ channels, ∀ b ∈ channels, PyCompare.equals a b = true ↔ SameRepr a b
  ne : ∀ a ∈ channels, ∀ b ∈ channels, PyCompare.differs a b = !PyCompare.equals a b
  refl : ∀ a ∈ channels, PyCompare.equals a a = true
  symm : ∀ a ∈ channels, ∀ b ∈ channels,
    PyCompare.equals a b = true → PyCompare.equals b a = true
  trans : ∀ a ∈ channels, ∀ b ∈ channels, ∀ c ∈ channels,
    PyCompare.equals a b = true → PyCompare.equals b c = true → PyCompare.equals a c = true
  eligible : ∀ (Pl H : Type) (c : Command Pl H Channel), ∀ channel ∈ channels,
    (∀ x ∈ c.channels, x ∈ channels) → (∀ x ∈ c.excludeChannels, x ∈ channels) →
    (c.isEligibleChannel channel = true ↔
      (∀ x ∈ c.excludeChannels, ¬ SameRepr x channel) ∧
        (c.channels = [] ∨ ∃ x ∈ c.channels, SameRepr x channel))

/-- What a channel is compared by: its string, or its representation if that raises. -/
def shown (a : PyTexts) : Option String :=
  match a.str with
  | .ok text => some text
  | .error _ => a.repr.toOption

/-- The representations stand for the names: each channel shows its name, and two of them have
one name iff they have one representation. -/
structure NamedByRepr (channels : Set Channel) : Prop where
  repr : ∀ a ∈ channels, ∃ text, a.repr = .ok text
  shown : ∀ a ∈ channels, shown a.toPyTexts = some a.name
  name : ∀ a ∈ channels, ∀ b ∈ channels, a.name = b.name ↔ a.repr = b.repr

/-- Channels to different players, or a channel with a name that is that of a channel to a
player, or its representation. -/
def BuiltIn.Clash : BuiltIn → BuiltIn → Prop
  | .tell i, .tell j | .clientCommand i, .clientCommand j => i ≠ j
  | .named _ name, .tell i | .tell i, .named _ name =>
    name = "tell" ∨ name = "tell " ++ toString i
  | .named _ name, .clientCommand i | .clientCommand i, .named _ name =>
    name = "client_command" ∨ name = "client_command " ++ toString i
  | _, _ => False

/-! ## What is compared -/

theorem richcmp_eq (self : Channel) (other : PyTexts) :
    self.richcmp other .eq = some (decide (shown other = some self.name)) := by
  rw [richcmp, shown]
  cases other.str with
  | ok text => simp [eq_comm]
  | error e => cases other.repr <;> simp [Except.toOption, abstractRepr, eq_comm]

theorem richcmp_ne (self : Channel) (other : PyTexts) :
    self.richcmp other .ne = some (!decide (shown other = some self.name)) := by
  rw [richcmp, shown]
  cases other.str with
  | ok text => simp [eq_comm]
  | error e => cases other.repr <;> simp [Except.toOption, abstractRepr, eq_comm]

/-- The name of the channel that is asked is what the other one shows. -/
theorem equals_eq (a b : Channel) :
    PyCompare.equals a b =
      if rightFirst a b then decide (shown a.toPyTexts = some b.name)
      else decide (shown b.toPyTexts = some a.name) := by
  show (richCompare .eq a b).unwrapOr false = _
  rw [richCompare, CompareOp.swapped, richcmp_eq, richcmp_eq]
  cases rightFirst a b <;> rfl

theorem differs_eq (a b : Channel) : PyCompare.differs a b = !PyCompare.equals a b := by
  rw [equals_eq]
  show (richCompare .ne a b).unwrapOr false = _
  rw [richCompare, CompareOp.swapped, richcmp_ne, richcmp_ne]
  cases rightFirst a b <;> rfl

/-- A channel is asked itself whether it is equal to itself. -/
theorem equals_self (a : Channel) :
    PyCompare.equals a a = decide (shown a.toPyTexts = some a.name) := by
  have hleft : rightFirst a a = false := by simp [rightFirst]
  rw [equals_eq, hleft]
  rfl

/-- Channels that show their names are equal iff they have one name. -/
theorem equals_iff_name {a b : Channel} (ha : shown a.toPyTexts = some a.name)
    (hb : shown b.toPyTexts = some b.name) :
    PyCompare.equals a b = true ↔ a.name = b.name := by
  rw [equals_eq, ha, hb]
  split <;> simp [eq_comm]

/-! ## The documented equality -/

theorem NamedByRepr.equals_iff {channels : Set Channel} (h : NamedByRepr channels)
    {a b : Channel} (ha : a ∈ channels) (hb : b ∈ channels) :
    PyCompare.equals a b = true ↔ SameRepr a b := by
  rw [equals_iff_name (h.shown a ha) (h.shown b hb), h.name a ha b hb]
  obtain ⟨text, htext⟩ := h.repr a ha
  constructor
  · intro heq
    exact ⟨text, htext, heq ▸ htext⟩
  · rintro ⟨text, hta, htb⟩
    rw [hta, htb]

/-- **Channels have the documented equality iff** their representations stand for their
names. -/
theorem documentedEquality_iff (channels : Set Channel) :
    DocumentedEquality channels ↔ NamedByRepr channels := by
  constructor
  · intro h
    have hshown : ∀ a ∈ channels, shown a.toPyTexts = some a.name := by
      intro a ha
      have hself := h.refl a ha
      rw [equals_self] at hself
      exact of_decide_eq_true hself
    have hrepr : ∀ a ∈ channels, ∃ text, a.repr = .ok text := by
      intro a ha
      obtain ⟨text, htext, -⟩ := (h.eq a ha a ha).mp (h.refl a ha)
      exact ⟨text, htext⟩
    refine ⟨hrepr, hshown, fun a ha b hb => ?_⟩
    rw [← equals_iff_name (hshown a ha) (hshown b hb), h.eq a ha b hb]
    constructor
    · rintro ⟨text, hta, htb⟩
      rw [hta, htb]
    · intro heq
      obtain ⟨text, htext⟩ := hrepr a ha
      exact ⟨text, htext, heq ▸ htext⟩
  · intro h
    have heq := fun a ha b hb => h.equals_iff (a := a) (b := b) ha hb
    constructor
    case eq => exact heq
    case ne => exact fun a _ b _ => differs_eq a b
    case refl =>
      intro a ha
      obtain ⟨text, htext⟩ := h.repr a ha
      exact (heq a ha a ha).mpr ⟨text, htext, htext⟩
    case symm =>
      intro a ha b hb hab
      obtain ⟨text, hta, htb⟩ := (heq a ha b hb).mp hab
      exact (heq b hb a ha).mpr ⟨text, htb, hta⟩
    case trans =>
      intro a ha b hb c hc hab hbc
      obtain ⟨text, hta, htb⟩ := (heq a ha b hb).mp hab
      obtain ⟨text', htb', htc⟩ := (heq b hb c hc).mp hbc
      obtain rfl := Except.ok.inj (htb.symm.trans htb')
      exact (heq a ha c hc).mpr ⟨text, hta, htc⟩
    case eligible =>
      intro Pl H c channel hchannel hallowed hexcluded
      rw [Command.isEligibleChannel_iff, Command.AllowedIn]
      refine and_congr (forall₂_congr fun x hx => ?_) (or_congr_right (exists_congr fun x => ?_))
      · exact not_congr (Command.equals_iff.symm.trans (heq x (hexcluded x hx) channel hchannel))
      · exact and_congr_right fun hx =>
          Command.equals_iff.symm.trans (heq x (hallowed x hx) channel hchannel)

/-- **Two channels to different players are equal**, but not documented to be. -/
theorem not_documentedEquality_tell :
    ¬ DocumentedEquality {tellChannel 3, tellChannel 4} := by
  intro h
  have heq := (h.eq (tellChannel 3) (.inl rfl) (tellChannel 4) (.inr rfl)).mp (by decide)
  obtain ⟨text, hthree, hfour⟩ := heq
  exact absurd (hthree.trans hfour.symm) (by decide)

/-! ## The channels that there are -/

theorem toString_inj {i j : Int} : toString i = toString j ↔ i = j :=
  Text.toString_injective.eq_iff

/-- A text with another one behind it is not a shorter text. -/
theorem ne_append_of_length_lt {kind front : String} (h : kind.length < front.length)
    (back : String) : kind ≠ front ++ back := by
  intro heq
  have hlength := congrArg String.length heq
  rw [String.length_append] at hlength
  omega

theorem tell_ne (i : Int) : "tell" ≠ "tell " ++ toString i :=
  ne_append_of_length_lt (by decide) (toString i)

theorem clientCommand_ne (i : Int) : "client_command" ≠ "client_command " ++ toString i :=
  ne_append_of_length_lt (by decide) (toString i)

theorem tell_ne_clientCommand (i j : Int) :
    "tell " ++ toString i ≠ "client_command " ++ toString j := by
  intro h
  have hfirst := congrArg (fun s : String => s.toList.head?) h
  simp at hfirst

/-- A name that is either of two texts is not both. -/
theorem neither_iff {name kind text : String} (hne : kind ≠ text) :
    (name = kind ↔ name = text) ↔ ¬ (name = kind ∨ name = text) := by
  constructor
  · rintro h (rfl | rfl)
    · exact hne (h.mp rfl)
    · exact hne (h.mpr rfl).symm
  · intro h
    exact iff_of_false (fun hkind => h (.inl hkind)) fun htext => h (.inr htext)

/-- Channels clash with each other. -/
theorem BuiltIn.clash_comm (x y : BuiltIn) : x.Clash y ↔ y.Clash x := by
  cases x <;> cases y <;> first | exact Iff.rfl | exact ne_comm

/-- A channel with a name and one to a player. -/
theorem named_iff {name kind text : String} (hne : kind ≠ text) :
    (name = kind ↔ (Except.ok (abstractRepr name) : PyResult String) = .ok text) ↔
      ¬ (name = kind ∨ name = text) := by
  rw [Except.ok.injEq, abstractRepr, neither_iff hne]

/-- Two of the channels have one name iff they have one representation, unless they clash. -/
theorem name_iff_repr (x y : BuiltIn) :
    (x.channel.name = y.channel.name ↔ x.channel.repr = y.channel.repr) ↔ ¬ x.Clash y := by
  cases x with
  | named cls name =>
    cases y with
    | named cls' name' =>
      have hsame : (named cls name).repr = (named cls' name').repr ↔ name = name' := by
        rw [named, named, Except.ok.injEq, abstractRepr, abstractRepr]
      exact iff_of_true hsame.symm not_false
    | tell j => exact named_iff (tell_ne j)
    | clientCommand j => exact named_iff (clientCommand_ne j)
  | tell i =>
    cases y with
    | named cls name =>
      rw [BuiltIn.clash_comm, eq_comm, eq_comm (a := (BuiltIn.tell i).channel.repr)]
      exact named_iff (tell_ne i)
    | tell j =>
      have hsame : (tellChannel i).repr = (tellChannel j).repr ↔ i = j := by
        rw [tellChannel, tellChannel, Except.ok.injEq, String.append_right_inj, toString_inj]
      exact ((iff_true_left rfl).trans hsame).trans not_not.symm
    | clientCommand j =>
      have hname : "tell" ≠ "client_command" := by decide
      refine iff_of_true (iff_of_false hname fun h => ?_) not_false
      exact tell_ne_clientCommand i j (Except.ok.inj h)
  | clientCommand i =>
    cases y with
    | named cls name =>
      rw [BuiltIn.clash_comm, eq_comm, eq_comm (a := (BuiltIn.clientCommand i).channel.repr)]
      exact named_iff (clientCommand_ne i)
    | tell j =>
      have hname : "client_command" ≠ "tell" := by decide
      refine iff_of_true (iff_of_false hname fun h => ?_) not_false
      exact tell_ne_clientCommand j i (Except.ok.inj h).symm
    | clientCommand j =>
      have hsame : (clientCommandChannel i).repr = (clientCommandChannel j).repr ↔ i = j := by
        rw [clientCommandChannel, clientCommandChannel, Except.ok.injEq, String.append_right_inj,
          toString_inj]
      exact ((iff_true_left rfl).trans hsame).trans not_not.symm

/-- **The channels that there are have the documented equality iff** no two of them clash. -/
theorem documentedEquality_builtIn_iff (channels : Set BuiltIn) :
    DocumentedEquality (BuiltIn.channel '' channels) ↔
      ∀ x ∈ channels, ∀ y ∈ channels, ¬ x.Clash y := by
  have hrepr : ∀ x : BuiltIn, ∃ text, x.channel.repr = .ok text := by
    intro x
    cases x <;> exact ⟨_, rfl⟩
  have hshown : ∀ x : BuiltIn, shown x.channel.toPyTexts = some x.channel.name := by
    intro x
    cases x <;> rfl
  rw [documentedEquality_iff]
  constructor
  · intro h x hx y hy
    exact (name_iff_repr x y).mp (h.name _ ⟨x, hx, rfl⟩ _ ⟨y, hy, rfl⟩)
  · intro h
    constructor
    case repr =>
      rintro _ ⟨x, -, rfl⟩
      exact hrepr x
    case shown =>
      rintro _ ⟨x, -, rfl⟩
      exact hshown x
    case name =>
      rintro _ ⟨x, hx, rfl⟩ _ ⟨y, hy, rfl⟩
      exact (name_iff_repr x y).mpr (h x hx y hy)

end Channel
end ShinQlx
