import ShinQlx.ItemGame

/-! # Replacing items

`replace_items` takes a target and a replacement, each as a number or as a class name.  A
number of the target is compared with the number of items, though it counts entities, while a
class name reaches all entities.

`replaceItems_iff` says which calls do what they should.
-/
namespace ShinQlx

/-- An argument, as what can be extracted from it. -/
structure ItemArgument where
  i32 : Option Int
  string : Option String

/-- How a call ends. -/
inductive ReplaceResult where
  | returned (b : Bool)
  | raised (e : PyErr)
  | panicked

namespace ItemGame

/-- `determine_item_id`. -/
def determineItemId (g : ItemGame) (item : ItemArgument) : PyResult Int :=
  match item.i32 with
  | some itemId =>
    if 0 ≤ itemId ∧ itemId < g.getNumItems then .ok itemId
    else .error (.valueError s!"item2 needs to be between 0 and {g.getNumItems - 1}.")
  | none =>
    match item.string with
    | some itemClassname =>
      match ((List.range' 1 (g.getNumItems - 1).toNat).map Int.ofNat).find? fun i =>
          g.gameItem i = some itemClassname with
      | some itemId => .ok itemId
      | none => .error (.valueError s!"invalid item classname: {itemClassname}")
    | none => .error (.valueError "item2 needs to be of type int or string.")

/-- There is an item with a number. -/
def isItem (g : ItemGame) (entityId : Int) : Bool :=
  (g.entity entityId).any (·.isUsedItem)

/-- There is an item of a class with a number. -/
def isItemOf (g : ItemGame) (classname : String) (entityId : Int) : Bool :=
  (g.entity entityId).any fun e => e.isUsedItem && e.classname = classname

/-- The items of a class. -/
def matching (g : ItemGame) (classname : String) : List Int :=
  ((List.range maxGentities).map Int.ofNat).filter (g.isItemOf classname)

variable (hooks : ItemHooks)

/-- `pyshinqlx_replace_items`. -/
def replaceItems (item1 item2 : ItemArgument) (g : ItemGame) : ReplaceResult × ItemGame :=
  match g.determineItemId item2 with
  | .error e => (.raised e, g)
  | .ok item2Id =>
    match item1.i32 with
    | some item1Id =>
      if 0 ≤ item1Id ∧ item1Id < g.getNumItems then
        if g.isItem item1Id then
          match replaceItem hooks item2Id item1Id g with
          | (true, g) => (.returned true, g)
          | (false, g) => (.panicked, g)
        else (.raised (.valueError s!"entity #{item1Id} is not a valid game item"), g)
      else (.raised (.valueError s!"item1 needs to be between 0 and {g.getNumItems - 1}."), g)
    | none =>
      match item1.string with
      | some item1Classname =>
        match replaceAll hooks item2Id (g.matching item1Classname) g with
        | (true, after) => (.returned (!(g.matching item1Classname).isEmpty), after)
        | (false, after) => (.panicked, after)
      | none => (.raised (.valueError "item1 needs to be of type int or string."), g)

/-! ## What a call should do -/

/-- The call with a valid replacement: a number succeeds for exactly the items, and reaches
only that one, a class name reaches exactly the items of the class, so that both agree about
the only item of a class, and what is written are marks in `CS_ITEMS`. -/
structure ReachesItems (item1 item2 : ItemArgument) (g : ItemGame) (itemId : Int) : Prop where
  byNumber : ∀ n, item1.i32 = some n →
    ((∃ b, (replaceItems hooks item1 item2 g).1 = .returned b) ↔ g.isItem n)
  onlyNumber : ∀ n, item1.i32 = some n →
    (∃ b, (replaceItems hooks item1 item2 g).1 = .returned b) →
      Replaces hooks itemId (· = n) g (replaceItems hooks item1 item2 g).2
  byName : ∀ c, item1.i32 = none → item1.string = some c →
    Replaces hooks itemId (g.isItemOf c ·) g (replaceItems hooks item1 item2 g).2
  agrees : ∀ n c name, item1.i32 = some n → name.i32 = none → name.string = some c →
    (∀ j, g.isItemOf c j ↔ j = n) →
      replaceItems hooks item1 item2 g = replaceItems hooks name item2 g
  written : itemId ≠ 0 → ∃ writes,
    (replaceItems hooks item1 item2 g).2.writes = g.writes ++ writes ∧
      ((replaceItems hooks item1 item2 g).1 = .returned true → writes ≠ []) ∧
      ∀ w ∈ writes, MarksItem itemId w

/-- **What a call should do**: it reaches the items, does not panic, and leaves everything as
it was if it fails. -/
structure ReplacesItems (item1 item2 : ItemArgument) (g : ItemGame) : Prop where
  reaches : ∀ itemId, g.determineItemId item2 = .ok itemId →
    ReachesItems hooks item1 item2 g itemId
  noPanic : (replaceItems hooks item1 item2 g).1 ≠ .panicked
  failing : (∀ b, (replaceItems hooks item1 item2 g).1 ≠ .returned b) →
    (replaceItems hooks item1 item2 g).2 = g

/-- The entities that an argument stands for. -/
def targets (g : ItemGame) (item1 : ItemArgument) : List Int :=
  match item1.i32 with
  | some n => if g.isItem n then [n] else []
  | none =>
    match item1.string with
    | some c => g.matching c
    | none => []

/-- If there is anything to replace, then its number is also less than the number of items,
and the replacement is no item at all or the one whose number is that of `CS_ITEMS`. -/
def WithinLimits (item1 item2 : ItemArgument) (g : ItemGame) : Prop :=
  ∀ itemId, g.determineItemId item2 = .ok itemId → g.targets item1 ≠ [] →
    (∀ n, item1.i32 = some n → n < g.getNumItems) ∧
      (itemId = 0 ∨ itemId = csItems ∧
        StaysEditable hooks (g.targets item1).length g.configstrings)

/-! ## The replacement -/

/-- A replacement that was determined is there. -/
theorem valid_of_determineItemId {g : ItemGame} {item2 : ItemArgument} {itemId : Int}
    (h : g.determineItemId item2 = .ok itemId) :
    g.engine = true ∧ 0 ≤ itemId ∧
      (itemId ≠ 0 → ∃ classname, g.gameItem itemId = some classname) := by
  rw [determineItemId] at h
  cases hi : item2.i32 with
  | some n =>
    rw [hi] at h
    dsimp only at h
    by_cases hn : 0 ≤ n ∧ n < g.getNumItems
    · rw [if_pos hn] at h
      obtain rfl : n = itemId := Except.ok.inj h
      obtain ⟨classnames, hlist⟩ := exists_itemList (g := g) (by omega)
      exact ⟨engine_of_itemList hlist, hn.1, fun hne => exists_gameItem (by omega) hn.2⟩
    · rw [if_neg hn] at h
      cases h
  | none =>
    rw [hi] at h
    dsimp only at h
    cases hs : item2.string with
    | none =>
      rw [hs] at h
      cases h
    | some c =>
      rw [hs] at h
      dsimp only at h
      cases hfind : ((List.range' 1 (g.getNumItems - 1).toNat).map Int.ofNat).find? fun i =>
          g.gameItem i = some c with
      | none =>
        rw [hfind] at h
        cases h
      | some n =>
        rw [hfind] at h
        obtain rfl : n = itemId := Except.ok.inj h
        have hitem : g.gameItem n = some c := of_decide_eq_true (List.find?_some hfind :)
        have hlist : ∃ classnames, g.getItemList = some classnames := by
          cases hlist : g.getItemList with
          | none => simp [gameItem, hlist] at hitem
          | some classnames => exact ⟨classnames, rfl⟩
        obtain ⟨classnames, hlist⟩ := hlist
        have hnonneg : ¬ (n < 0 ∨ g.getNumItems ≤ n) := fun hout => by
          rw [gameItem, if_pos hout] at hitem
          cases hitem
        exact ⟨engine_of_itemList hlist, by omega, fun _ => ⟨c, hitem⟩⟩

/-! ## The entities that a call reaches -/

section targets
variable {hooks : ItemHooks} {item1 item2 : ItemArgument} {g : ItemGame} {itemId n j : Int}
  {c : String}

theorem isItem_of_isItemOf (h : g.isItemOf c j) : g.isItem j := by
  obtain ⟨e, he, hitem⟩ := (Option.any_eq_true ..).mp h
  exact (Option.any_eq_true ..).mpr ⟨e, he, (Bool.and_eq_true_iff.mp hitem).1⟩

theorem exists_entity_of_isItem (h : g.isItem j) : ∃ e, g.entity j = some e := by
  obtain ⟨e, he, -⟩ := (Option.any_eq_true ..).mp h
  exact ⟨e, he⟩

theorem range_of_isItem (h : g.isItem j) : 0 ≤ j ∧ j < maxGentities := by
  by_contra hrange
  rw [isItem, entity, if_neg hrange] at h
  cases h

theorem mem_matching : j ∈ g.matching c ↔ g.isItemOf c j := by
  rw [matching, List.mem_filter, List.mem_map]
  constructor
  · exact And.right
  · intro h
    obtain ⟨hnonneg, hlt⟩ := range_of_isItem (isItem_of_isItemOf h)
    exact ⟨⟨j.toNat, List.mem_range.mpr (by omega), Int.toNat_of_nonneg hnonneg⟩, h⟩

theorem nodup_matching : (g.matching c).Nodup :=
  (List.nodup_range.map fun _ _ => Int.ofNat.inj).filter _

/-- The only item of a class is all that matches. -/
theorem matching_eq_singleton (h : ∀ j, g.isItemOf c j ↔ j = n) : g.matching c = [n] :=
  List.perm_singleton.mp ((List.perm_ext_iff_of_nodup nodup_matching (List.nodup_singleton n)).mpr
    fun j => by rw [mem_matching, h j, List.mem_singleton])

theorem targets_of_i32 (hn : item1.i32 = some n) :
    g.targets item1 = if g.isItem n then [n] else [] := by
  rw [targets, hn]

theorem targets_of_string (hi : item1.i32 = none) (hc : item1.string = some c) :
    g.targets item1 = g.matching c := by
  rw [targets, hi, hc]

theorem isItem_of_mem_targets (h : j ∈ g.targets item1) : g.isItem j := by
  cases hi : item1.i32 with
  | some n =>
    rw [targets_of_i32 hi] at h
    by_cases hn : g.isItem n
    · rw [if_pos hn] at h
      rwa [List.mem_singleton.mp h]
    · rw [if_neg hn] at h
      cases h
  | none =>
    cases hc : item1.string with
    | some c =>
      rw [targets_of_string hi hc] at h
      exact isItem_of_isItemOf (mem_matching.mp h)
    | none =>
      rw [targets, hi, hc] at h
      cases h

theorem nodup_targets : (g.targets item1).Nodup := by
  rw [targets]
  split
  · split
    · exact List.nodup_singleton _
    · exact List.nodup_nil
  · split
    · exact nodup_matching
    · exact List.nodup_nil

theorem canReplace_targets (h : g.determineItemId item2 = .ok itemId) :
    CanReplace itemId (g.targets item1) g := by
  obtain ⟨hengine, -, hitem⟩ := valid_of_determineItemId h
  exact ⟨hengine, hitem, fun j hj => exists_entity_of_isItem (isItem_of_mem_targets hj),
    nodup_targets⟩

/-- How a call ends after its loop. -/
def finish : Bool × ItemGame → ReplaceResult × ItemGame
  | (true, after) => (.returned true, after)
  | (false, after) => (.panicked, after)

theorem replaceAll_singleton : replaceAll hooks itemId [n] g = replaceItem hooks itemId n g := by
  rw [replaceAll]
  cases replaceItem hooks itemId n g with
  | mk returned after => cases returned <;> rfl

variable (hooks) in
/-- A call that reaches something is a loop over what it reaches. -/
theorem replaceItems_eq_finish (h : g.determineItemId item2 = .ok itemId)
    (hne : g.targets item1 ≠ []) (hbound : ∀ n, item1.i32 = some n → n < g.getNumItems) :
    replaceItems hooks item1 item2 g = finish (replaceAll hooks itemId (g.targets item1) g) := by
  rw [replaceItems, h]
  dsimp only
  cases hi : item1.i32 with
  | some n =>
    rw [targets_of_i32 hi] at hne ⊢
    have hitem : g.isItem n := by
      by_contra hn
      exact hne (if_neg hn)
    dsimp only
    rw [if_pos ⟨(range_of_isItem hitem).1, hbound n hi⟩, if_pos hitem, if_pos hitem,
      replaceAll_singleton]
    cases replaceItem hooks itemId n g with
    | mk returned after => cases returned <;> rfl
  | none =>
    cases hc : item1.string with
    | none =>
      rw [targets, hi, hc] at hne
      exact absurd rfl hne
    | some c =>
      rw [targets_of_string hi hc] at hne ⊢
      dsimp only
      rw [List.isEmpty_eq_false_iff.mpr hne]
      cases replaceAll hooks itemId (g.matching c) g with
      | mk returned after => cases returned <;> rfl

/-- A call that has nothing to replace. -/
structure ReachesNothing (hooks : ItemHooks) (item1 item2 : ItemArgument) (g : ItemGame) : Prop where
  unchanged : (replaceItems hooks item1 item2 g).2 = g
  noPanic : (replaceItems hooks item1 item2 g).1 ≠ .panicked
  notTrue : (replaceItems hooks item1 item2 g).1 ≠ .returned true
  number : ∀ n, item1.i32 = some n → ∀ b, (replaceItems hooks item1 item2 g).1 ≠ .returned b

theorem reachesNothing_of_raised {e : PyErr}
    (h : replaceItems hooks item1 item2 g = (.raised e, g)) : ReachesNothing hooks item1 item2 g := by
  refine ⟨?_, ?_, ?_, fun n _ b => ?_⟩
  · rw [h]
  all_goals simp [h]

variable (hooks) in
/-- It changes nothing, and it fails for a number. -/
theorem reachesNothing_of_no_targets (h : g.determineItemId item2 = .ok itemId)
    (hnil : g.targets item1 = []) : ReachesNothing hooks item1 item2 g := by
  cases hi : item1.i32 with
  | some n =>
    rw [targets_of_i32 hi] at hnil
    have hitem : ¬ g.isItem n := fun hn => by
      rw [if_pos hn] at hnil
      cases hnil
    by_cases hrange : 0 ≤ n ∧ n < g.getNumItems
    · refine reachesNothing_of_raised (e := .valueError s!"entity #{n} is not a valid game item") ?_
      rw [replaceItems, h, hi]
      dsimp only
      rw [if_pos hrange, if_neg hitem]
    · refine reachesNothing_of_raised
        (e := .valueError s!"item1 needs to be between 0 and {g.getNumItems - 1}.") ?_
      rw [replaceItems, h, hi]
      dsimp only
      rw [if_neg hrange]
  | none =>
    cases hc : item1.string with
    | none =>
      refine reachesNothing_of_raised
        (e := .valueError "item1 needs to be of type int or string.") ?_
      rw [replaceItems, h, hi, hc]
    | some c =>
      rw [targets_of_string hi hc] at hnil
      have hcall : replaceItems hooks item1 item2 g = (.returned false, g) := by
        rw [replaceItems, h, hi, hc]
        dsimp only
        rw [hnil]
        rfl
      exact ⟨by rw [hcall], by simp [hcall], by simp [hcall], fun n hn => by simp [hi] at hn⟩

variable (hooks) in
/-- A number is compared with the number of items. -/
theorem replaceItems_of_large (h : g.determineItemId item2 = .ok itemId)
    (hn : item1.i32 = some n) (hlarge : ¬ n < g.getNumItems) :
    ∃ e, replaceItems hooks item1 item2 g = (.raised e, g) := by
  rw [replaceItems, h, hn]
  dsimp only
  rw [if_neg fun hrange => hlarge hrange.2]
  exact ⟨_, rfl⟩

/-! ## When a call does what it should -/

theorem replaces_of_no_targets (hnil : g.targets item1 = []) (hi : item1.i32 = none)
    (hc : item1.string = some c) : Replaces hooks itemId (g.isItemOf c ·) g g := by
  rw [targets_of_string hi hc] at hnil
  intro j
  rw [if_neg fun hj => List.not_mem_nil (hnil ▸ mem_matching.mpr hj)]

theorem reachesItems_of_no_targets (h : ReachesNothing hooks item1 item2 g)
    (hnil : g.targets item1 = []) : ReachesItems hooks item1 item2 g itemId := by
  have hnot : ∀ n, item1.i32 = some n → ¬ g.isItem n := by
    intro n hn hitem
    rw [targets_of_i32 hn, if_pos hitem] at hnil
    cases hnil
  refine ⟨fun n hn => ⟨?_, fun hitem => absurd hitem (hnot n hn)⟩, fun n hn hret => ?_,
    fun c hi hc => ?_, fun n c _ hn _ _ honly => ?_, fun _ => ⟨[], ?_, ?_, nofun⟩⟩
  · rintro ⟨b, hret⟩
    exact absurd hret (h.number n hn b)
  · obtain ⟨b, hret⟩ := hret
    exact absurd hret (h.number n hn b)
  · rw [h.unchanged]
    exact replaces_of_no_targets hnil hi hc
  · exact absurd (isItem_of_isItemOf ((honly n).mpr rfl)) (hnot n hn)
  · rw [h.unchanged, List.append_nil]
  · exact fun htrue => absurd htrue h.notTrue

/-- What a loop over the entities that are reached comes to. -/
theorem reachesItems_of_targets {after : ItemGame} (h : g.determineItemId item2 = .ok itemId)
    (hne : g.targets item1 ≠ []) (hbound : ∀ n, item1.i32 = some n → n < g.getNumItems)
    (hloop : replaceAll hooks itemId (g.targets item1) g = (true, after))
    (hmarks : itemId ≠ 0 → ∃ writes, after.writes = g.writes ++ writes ∧
      ∀ w ∈ writes, MarksItem itemId w) : ReachesItems hooks item1 item2 g itemId := by
  have hcall : replaceItems hooks item1 item2 g = (.returned true, after) := by
    rw [replaceItems_eq_finish hooks h hne hbound, hloop]
    rfl
  have hreplaces := replaceAll_replaces (canReplace_targets h) hloop
  have hitem : ∀ n, item1.i32 = some n → g.isItem n ∧ g.targets item1 = [n] := by
    intro n hn
    rw [targets_of_i32 hn] at hne ⊢
    by_cases hitem : g.isItem n
    · exact ⟨hitem, if_pos hitem⟩
    · exact absurd (if_neg hitem) hne
  refine ⟨fun n hn => ?_, fun n hn _ j => ?_, fun c hi hc j => ?_,
    fun n c name hn hi hc honly => ?_, fun hid => ?_⟩
  · simp [hcall, (hitem n hn).1]
  · rw [hcall, hreplaces j, (hitem n hn).2]
    simp
  · rw [hcall, hreplaces j, targets_of_string hi hc]
    simp only [mem_matching]
  · have htargets : g.targets name = g.targets item1 := by
      rw [targets_of_string hi hc, matching_eq_singleton honly, (hitem n hn).2]
    have hname : ∀ m, name.i32 = some m → m < g.getNumItems := fun m hm => by simp [hi] at hm
    rw [replaceItems_eq_finish hooks h hne hbound,
      replaceItems_eq_finish hooks h (htargets ▸ hne) hname, htargets]
  · obtain ⟨writes, hwrites, hright⟩ := hmarks hid
    obtain ⟨writes', hwrites', hlength⟩ := replaceAll_writes hid (canReplace_targets h) hloop
    obtain rfl : writes = writes' := List.append_cancel_left (hwrites.symm.trans hwrites')
    refine ⟨writes, by rw [hcall]; exact hwrites, fun _ hnil => hne ?_, hright⟩
    rw [hnil] at hlength
    exact List.length_eq_zero_iff.mp hlength.symm

theorem replacesItems_of_withinLimits (h : WithinLimits hooks item1 item2 g) :
    ReplacesItems hooks item1 item2 g := by
  cases hdet : g.determineItemId item2 with
  | error e =>
    have hcall : replaceItems hooks item1 item2 g = (.raised e, g) := by rw [replaceItems, hdet]
    have hnothing := reachesNothing_of_raised hcall
    exact ⟨by simp [hdet], hnothing.noPanic, fun _ => hnothing.unchanged⟩
  | ok itemId =>
    by_cases hnil : g.targets item1 = []
    · have hnothing := reachesNothing_of_no_targets hooks hdet hnil
      exact ⟨fun _ _ => reachesItems_of_no_targets hnothing hnil, hnothing.noPanic,
        fun _ => hnothing.unchanged⟩
    · obtain ⟨hbound, hid⟩ := h itemId hdet hnil
      have hloop : ∃ after, replaceAll hooks itemId (g.targets item1) g = (true, after) ∧
          (itemId ≠ 0 → ∃ writes, after.writes = g.writes ++ writes ∧
            ∀ w ∈ writes, MarksItem itemId w) := by
        rcases hid with rfl | ⟨rfl, hedit⟩
        · obtain ⟨after, hloop⟩ := replaceAll_zero hooks (canReplace_targets hdet)
          exact ⟨after, hloop, fun hne => absurd rfl hne⟩
        · obtain ⟨after, writes, hloop, hwrites, hright⟩ :=
            marks_of_staysEditable (canReplace_targets hdet) hedit
          exact ⟨after, hloop, fun _ => ⟨writes, hwrites, hright⟩⟩
      obtain ⟨after, hloop, hmarks⟩ := hloop
      have hreaches := reachesItems_of_targets hdet hnil hbound hloop hmarks
      have hcall : replaceItems hooks item1 item2 g = (.returned true, after) := by
        rw [replaceItems_eq_finish hooks hdet hnil hbound, hloop]
        rfl
      exact ⟨fun id hid => Except.ok.inj (hdet.symm.trans hid) ▸ hreaches, by simp [hcall],
        by simp [hcall]⟩

theorem withinLimits_of_replacesItems (h : ReplacesItems hooks item1 item2 g) :
    WithinLimits hooks item1 item2 g := by
  intro itemId hdet hne
  have hreaches := h.reaches itemId hdet
  have hbound : ∀ n, item1.i32 = some n → n < g.getNumItems := by
    intro n hn
    by_contra hlarge
    obtain ⟨e, hcall⟩ := replaceItems_of_large hooks hdet hn hlarge
    have hitem : g.isItem n := by
      by_contra hitem
      exact hne (by rw [targets_of_i32 hn, if_neg hitem])
    obtain ⟨b, hret⟩ := (hreaches.byNumber n hn).mpr hitem
    rw [hcall] at hret
    cases hret
  refine ⟨hbound, ?_⟩
  have hcall := replaceItems_eq_finish hooks hdet hne hbound
  obtain ⟨after, hloop⟩ :
      ∃ after, replaceAll hooks itemId (g.targets item1) g = (true, after) := by
    cases hloop : replaceAll hooks itemId (g.targets item1) g with
    | mk returned after =>
      cases returned with
      | true => exact ⟨after, rfl⟩
      | false =>
        rw [hloop] at hcall
        exact absurd (congrArg Prod.fst hcall) h.noPanic
  by_cases hid : itemId = 0
  · exact .inl hid
  · obtain ⟨writes, hwrites, -, hright⟩ := hreaches.written hid
    rw [hcall, hloop] at hwrites
    obtain ⟨hitems, hedit⟩ := staysEditable_of_marks hid (valid_of_determineItemId hdet).2.1
      (canReplace_targets hdet) hloop hwrites hright
    exact .inr ⟨hitems hne, hedit⟩

end targets

/-- **A call does what it should iff** there is nothing to replace, or its number is less than
that of the items and its replacement is none or the item of `CS_ITEMS`. -/
theorem replaceItems_iff (hooks : ItemHooks) (item1 item2 : ItemArgument) (g : ItemGame) :
    ReplacesItems hooks item1 item2 g ↔ WithinLimits hooks item1 item2 g :=
  ⟨withinLimits_of_replacesItems, replacesItems_of_withinLimits⟩

/-- Hooks of an engine without handlers. -/
def plainHooks : ItemHooks :=
  .ofWorld ⟨none, false, fun _ _ => .ok .none, fun _ => .ok (), fun _ => .ok (), fun _ => 0⟩
    fun e => { e with inUse := false, classname := "freed" }

/-- A map whose entities are all shotguns. -/
def shotguns : ItemGame where
  engine := true
  bgItemlist := some ["item_armor_shard", "item_armor_combat", "weapon_shotgun"]
  gEntities := some fun _ => ⟨true, etItem, "weapon_shotgun", 3, some 3⟩
  configstrings := fun _ => "0001000000000000"
  writes := []

/-- A shard in the place of a shotgun is marked in configstring 1. -/
theorem not_replacesItems_shard :
    ¬ ReplacesItems plainHooks ⟨some 2, none⟩ ⟨some 1, none⟩ shotguns := by
  intro h
  obtain ⟨writes, hwrites, -, hright⟩ := (h.reaches 1 (by decide +kernel)).written (by decide)
  have hmade : (replaceItems plainHooks ⟨some 2, none⟩ ⟨some 1, none⟩ shotguns).2.writes =
      [⟨"0001000000000000", 1, "0101000000000000"⟩] := by decide +kernel
  obtain rfl : _ = writes := hmade.symm.trans hwrites
  exact absurd (hright _ List.mem_cons_self).index (by decide)

end ItemGame
end ShinQlx
