import ShinQlx.ByteText
import ShinQlx.SetConfigstring

/-! # The items of a map

The entities of a map that are items, and the list of the items that there are.  An entity is
replaced by an item of the list, and `CS_ITEMS` is marked, so that the clients load it, or it
is removed.  The mark can panic when the entity has already been changed, and the marked
string is written to the configstring with the number of the item.

`replaceAll_replaces` says what a loop over entities changes.  What it has written are marks in
`CS_ITEMS` iff that stays editable (`staysEditable_of_marks`, `marks_of_staysEditable`).
-/
namespace ShinQlx

/-- `MAX_GENTITIES`. -/
def maxGentities : Nat := 1024

/-- The index of the configstring that has a character for each item. -/
def csItems : Nat := 15

/-- `ET_ITEM`. -/
def etItem : Int := 2

/-- What is modelled of a `gentity_t`; its item is a position in the item list. -/
structure GameEntity where
  inUse : Bool
  eType : Int
  classname : String
  modelindex : Int
  item : Option Int
  deriving DecidableEq

/-- It is in use and is a game item. -/
def GameEntity.isUsedItem (e : GameEntity) : Bool := e.inUse && e.eType = etItem

/-- A string that was handed to `shinqlx_set_configstring`, with what `CS_ITEMS` was then. -/
structure ItemsWrite where
  before : String
  index : Nat
  value : String
  deriving DecidableEq

/-- The game: whether there is an engine, the class names of the items from 1 on, the
entities, the configstrings, and what was written to them by replacements. -/
structure ItemGame where
  engine : Bool
  bgItemlist : Option (List String)
  gEntities : Option (Int → GameEntity)
  configstrings : Nat → String
  writes : List ItemsWrite

/-- What a call leaves to others: freeing an entity, and setting a configstring once the
handlers have been asked. -/
structure ItemHooks where
  freeEntity : GameEntity → GameEntity
  setConfigstring : Nat → String → (Nat → String) → Nat → String

/-- The hook `shinqlx_set_configstring` in a world, over the configstrings of its engine. -/
def ItemHooks.ofWorld (w : ConfigstringWorld) (freeEntity : GameEntity → GameEntity) :
    ItemHooks where
  freeEntity := freeEntity
  setConfigstring := fun index value cs =>
    match SetConfigstring.shinqlxSetConfigstring { w with engine := some cs } index value 0 with
    | none => cs
    | some value => Function.update cs index value

namespace ItemGame

/-- `get_item_list`. -/
def getItemList (g : ItemGame) : Option (List String) := if g.engine then g.bgItemlist else none

/-- `get_num_items`. -/
def getNumItems (g : ItemGame) : Int :=
  match g.getItemList with
  | none => 0
  | some classnames =>
    (((List.range' 1 4096).filter (· ≤ classnames.length)).max?.getD 0 : Nat) + 1

/-- `GameItem::try_from`, as the class name of the item; item 0 has none. -/
def gameItem (g : ItemGame) (itemId : Int) : Option String :=
  if itemId < 0 ∨ g.getNumItems ≤ itemId then none
  else g.getItemList.bind fun classnames => (none :: classnames.map some)[itemId.toNat]?.join

/-- `GameEntity::try_from`. -/
def entity (g : ItemGame) (entityId : Int) : Option GameEntity :=
  if 0 ≤ entityId ∧ entityId < maxGentities then g.gEntities.map (· entityId) else none

/-- An entity is changed in place. -/
def setEntity (g : ItemGame) (entityId : Int) (e : GameEntity) : ItemGame :=
  { g with gEntities := g.gEntities.map (Function.update · entityId e) }

/-- `get_configstring`, through a buffer of `MAX_STRING_CHARS`. -/
def getConfigstring (g : ItemGame) (index : Nat) : List Char :=
  ByteText.truncate 1023 (g.configstrings index).toList

variable (hooks : ItemHooks)

/-- `GameEntity::replace_item`, and whether it returns. -/
def replaceItem (itemId entityId : Int) (g : ItemGame) : Bool × ItemGame :=
  match g.entity entityId with
  | none => (true, g)
  | some e =>
    if g.engine then
      if itemId ≠ 0 then
        match g.gameItem itemId with
        | none => (true, g)
        | some classname =>
          let g := g.setEntity entityId
            { e with modelindex := itemId, classname := classname, item := some itemId }
          match ByteText.replaceByte '1' itemId.toNat (g.getConfigstring csItems) with
          | none => (false, g)
          | some items =>
            (true, { g with
              configstrings :=
                hooks.setConfigstring itemId.toNat (String.ofList items) g.configstrings
              writes :=
                g.writes ++ [⟨g.configstrings csItems, itemId.toNat, String.ofList items⟩] })
      else (true, g.setEntity entityId (hooks.freeEntity e))
    else (true, g)

/-- The replacement of entities, one after the other. -/
def replaceAll (itemId : Int) : List Int → ItemGame → Bool × ItemGame
  | [], g => (true, g)
  | entityId :: rest, g =>
    match replaceItem hooks itemId entityId g with
    | (true, g) => replaceAll itemId rest g
    | (false, g) => (false, g)

/-- What becomes of an entity that is replaced. -/
def replacement (g : ItemGame) (itemId : Int) (e : GameEntity) : GameEntity :=
  if itemId = 0 then hooks.freeEntity e
  else
    match g.gameItem itemId with
    | none => e
    | some classname => { e with modelindex := itemId, classname := classname, item := some itemId }

/-- The entities of which some are replaced. -/
def Replaces (itemId : Int) (replaced : Int → Prop) [DecidablePred replaced]
    (before after : ItemGame) : Prop :=
  ∀ j, after.entity j =
    if replaced j then (before.entity j).map (before.replacement hooks itemId) else before.entity j

/-- A write goes to `CS_ITEMS`, and marks the item in what was there. -/
structure MarksItem (itemId : Int) (w : ItemsWrite) : Prop where
  index : w.index = csItems
  value : ByteText.Replaced '1' itemId.toNat w.before.toList w.value.toList

/-- `CS_ITEMS` fits the buffer and has a character at its own index, also when the handlers
have set it, as often as it is written. -/
def StaysEditable : Nat → (Nat → String) → Prop
  | 0, _ => True
  | n + 1, cs =>
    ByteText.truncate 1023 (cs csItems).toList = (cs csItems).toList ∧
      ∃ items, ByteText.replaceByte '1' csItems (cs csItems).toList = some items ∧
        StaysEditable n (hooks.setConfigstring csItems (String.ofList items) cs)

/-! ## The item list -/

theorem getNumItems_le {g : ItemGame} {classnames : List String}
    (h : g.getItemList = some classnames) : g.getNumItems ≤ classnames.length + 1 := by
  rw [getNumItems, h]
  dsimp only
  cases hmax : ((List.range' 1 4096).filter (· ≤ classnames.length)).max? with
  | none =>
    rw [Option.getD_none]
    omega
  | some index =>
    have hle : index ≤ classnames.length := by
      simpa using (List.mem_filter.mp (List.max?_mem hmax)).2
    rw [Option.getD_some]
    omega

theorem exists_itemList {g : ItemGame} (h : 0 < g.getNumItems) :
    ∃ classnames, g.getItemList = some classnames := by
  cases hlist : g.getItemList with
  | none =>
    rw [getNumItems, hlist] at h
    cases h
  | some classnames => exact ⟨classnames, rfl⟩

theorem engine_of_itemList {g : ItemGame} {classnames : List String}
    (h : g.getItemList = some classnames) : g.engine = true := by
  by_contra hengine
  rw [getItemList, if_neg hengine] at h
  cases h

/-- Each item but the first has a class name. -/
theorem exists_gameItem {g : ItemGame} {itemId : Int} (hpos : 0 < itemId)
    (hlt : itemId < g.getNumItems) : ∃ classname, g.gameItem itemId = some classname := by
  obtain ⟨classnames, hlist⟩ := exists_itemList (g := g) (by omega)
  have hle := getNumItems_le hlist
  obtain ⟨k, hk⟩ := Int.eq_succ_of_zero_lt hpos
  have hin : k < classnames.length := by omega
  have htoNat : itemId.toNat = k + 1 := by omega
  refine ⟨classnames.get ⟨k, hin⟩, ?_⟩
  rw [gameItem, if_neg (by omega), hlist, Option.bind_some, htoNat, List.getElem?_cons_succ,
    List.getElem?_map, List.getElem?_eq_getElem hin]
  rfl

theorem gameItem_eq {g after : ItemGame} (hengine : after.engine = g.engine)
    (hlist : after.bgItemlist = g.bgItemlist) (itemId : Int) :
    after.gameItem itemId = g.gameItem itemId := by
  have hsame : after.getItemList = g.getItemList := by
    rw [getItemList, hengine, hlist, ← getItemList]
  rw [gameItem, getNumItems, hsame, ← getNumItems, ← gameItem]

/-! ## One entity after the other -/

theorem entity_setEntity (g : ItemGame) (n j : Int) (e : GameEntity) :
    (g.setEntity n e).entity j = if j = n then (g.entity j).map fun _ => e else g.entity j := by
  rw [entity, entity, setEntity]
  by_cases hrange : 0 ≤ j ∧ j < maxGentities
  · simp only [if_pos hrange, Option.map_map]
    by_cases hj : j = n
    · subst hj
      rw [if_pos rfl]
      exact congrArg (Option.map · g.gEntities) (funext fun l => Function.update_self ..)
    · rw [if_neg hj]
      exact congrArg (Option.map · g.gEntities) (funext fun l => Function.update_of_ne hj ..)
  · simp [if_neg hrange]

/-- What the replacement of entities needs. -/
structure CanReplace (itemId : Int) (ids : List Int) (g : ItemGame) : Prop where
  engine : g.engine = true
  item : itemId ≠ 0 → ∃ classname, g.gameItem itemId = some classname
  present : ∀ n ∈ ids, ∃ e, g.entity n = some e
  distinct : ids.Nodup

section steps
variable {hooks : ItemHooks} {itemId n : Int} {ids : List Int} {g after : ItemGame} {b : Bool}

variable (hooks) in
/-- The removal of an entity. -/
theorem replaceItem_zero (hg : CanReplace 0 (n :: ids) g) :
    ∃ e, g.entity n = some e ∧
      replaceItem hooks 0 n g = (true, g.setEntity n (hooks.freeEntity e)) := by
  obtain ⟨e, he⟩ := hg.present n List.mem_cons_self
  refine ⟨e, he, ?_⟩
  rw [replaceItem, he]
  dsimp only
  rw [if_pos hg.engine]
  rfl

variable (hooks) in
/-- The replacement of an entity by an item: if it returns, it has written once. -/
theorem replaceItem_item (hid : itemId ≠ 0) (hg : CanReplace itemId (n :: ids) g) :
    ∃ e classname, g.entity n = some e ∧ g.gameItem itemId = some classname ∧
      replaceItem hooks itemId n g =
        match ByteText.replaceByte '1' itemId.toNat (g.getConfigstring csItems) with
        | none => (false, g.setEntity n
            { e with modelindex := itemId, classname := classname, item := some itemId })
        | some items =>
          (true, { g.setEntity n
              { e with modelindex := itemId, classname := classname, item := some itemId } with
            configstrings :=
              hooks.setConfigstring itemId.toNat (String.ofList items) g.configstrings
            writes := g.writes ++
              [⟨g.configstrings csItems, itemId.toNat, String.ofList items⟩] }) := by
  obtain ⟨e, he⟩ := hg.present n List.mem_cons_self
  obtain ⟨classname, hitem⟩ := hg.item hid
  refine ⟨e, classname, he, hitem, ?_⟩
  rw [replaceItem, he]
  dsimp only
  rw [if_pos hg.engine, if_pos hid, hitem]
  rfl

/-- **What one replacement changes**, whether it returns or not: that entity. -/
theorem replaceItem_replaces (hg : CanReplace itemId (n :: ids) g)
    (h : replaceItem hooks itemId n g = (b, after)) :
    after.engine = g.engine ∧ after.bgItemlist = g.bgItemlist ∧
      Replaces hooks itemId (· = n) g after := by
  -- only the entities matter: they are what they become when one is set
  have hset : ∀ e, g.entity n = some e →
      (∃ cs writes, after = { g.setEntity n (g.replacement hooks itemId e) with
        configstrings := cs, writes := writes }) →
      after.engine = g.engine ∧ after.bgItemlist = g.bgItemlist ∧
        Replaces hooks itemId (· = n) g after := by
    rintro e he ⟨cs, writes, rfl⟩
    refine ⟨rfl, rfl, fun j => (entity_setEntity g n j _).trans ?_⟩
    by_cases hj : j = n
    · rw [if_pos hj, if_pos hj, hj, he]
      rfl
    · rw [if_neg hj, if_neg hj]
  by_cases hid : itemId = 0
  · subst hid
    obtain ⟨e, he, hcall⟩ := replaceItem_zero hooks hg
    refine hset e he ⟨g.configstrings, g.writes, ?_⟩
    rw [← (Prod.mk.inj (hcall.symm.trans h)).2, replacement, if_pos rfl]
    rfl
  · obtain ⟨e, classname, he, hitem, hcall⟩ := replaceItem_item hooks hid hg
    refine hset e he ?_
    rw [replacement, if_neg hid, hitem]
    rw [hcall] at h
    cases hbyte : ByteText.replaceByte '1' itemId.toNat (g.getConfigstring csItems) with
    | none =>
      rw [hbyte] at h
      exact ⟨g.configstrings, g.writes, (Prod.mk.inj h).2.symm⟩
    | some items =>
      rw [hbyte] at h
      exact ⟨_, _, (Prod.mk.inj h).2.symm⟩

/-- The other entities can still be replaced. -/
theorem CanReplace.tail (hg : CanReplace itemId (n :: ids) g)
    (h : replaceItem hooks itemId n g = (b, after)) : CanReplace itemId ids after := by
  obtain ⟨hengine, hlist, hentity⟩ := replaceItem_replaces hg h
  obtain ⟨hn, hdistinct⟩ := List.nodup_cons.mp hg.distinct
  refine ⟨hengine.trans hg.engine, fun hid => ?_, fun j hj => ?_, hdistinct⟩
  · rw [gameItem_eq hengine hlist]
    exact hg.item hid
  · have hne : j ≠ n := fun heq => hn (heq ▸ hj)
    rw [hentity j, if_neg hne]
    exact hg.present j (List.mem_cons_of_mem _ hj)

/-- A loop that returns has gone past its first entity. -/
theorem replaceAll_cons (h : replaceAll hooks itemId (n :: ids) g = (true, after)) :
    ∃ next, replaceItem hooks itemId n g = (true, next) ∧
      replaceAll hooks itemId ids next = (true, after) := by
  rw [replaceAll] at h
  cases hfirst : replaceItem hooks itemId n g with
  | mk returned next =>
    rw [hfirst] at h
    cases returned with
    | true => exact ⟨next, rfl, h⟩
    | false => cases h

/-- **What a loop changes**: its entities. -/
theorem replaceAll_replaces (hg : CanReplace itemId ids g)
    (h : replaceAll hooks itemId ids g = (true, after)) :
    Replaces hooks itemId (· ∈ ids) g after := by
  induction ids generalizing g with
  | nil =>
    obtain rfl : g = after := (Prod.mk.inj h).2
    intro j
    rw [if_neg List.not_mem_nil]
  | cons n ids ih =>
    obtain ⟨next, hfirst, hrest⟩ := replaceAll_cons h
    obtain ⟨hengine, hlist, hentity⟩ := replaceItem_replaces hg hfirst
    have hreplacement : next.replacement hooks itemId = g.replacement hooks itemId := by
      funext e
      rw [replacement, replacement, gameItem_eq hengine hlist]
    intro j
    rw [ih (hg.tail hfirst) hrest j, hentity j, hreplacement]
    by_cases hj : j = n
    · have hnot : j ∉ ids := hj ▸ (List.nodup_cons.mp hg.distinct).1
      rw [if_neg hnot, if_pos hj, if_pos (hj ▸ List.mem_cons_self)]
    · rw [if_neg hj]
      simp [hj]

variable (hooks) in
theorem replaceAll_zero (hg : CanReplace 0 ids g) :
    ∃ after, replaceAll hooks 0 ids g = (true, after) := by
  induction ids generalizing g with
  | nil => exact ⟨g, rfl⟩
  | cons n ids ih =>
    obtain ⟨e, -, hfirst⟩ := replaceItem_zero hooks hg
    obtain ⟨after, hrest⟩ := ih (hg.tail hfirst)
    exact ⟨after, by rw [replaceAll, hfirst]; exact hrest⟩

/-- What one replacement by an item has written, if it returns. -/
theorem replaceItem_writes (hid : itemId ≠ 0) (hg : CanReplace itemId (n :: ids) g)
    (h : replaceItem hooks itemId n g = (true, after)) :
    ∃ items, ByteText.replaceByte '1' itemId.toNat (g.getConfigstring csItems) = some items ∧
      after.configstrings =
        hooks.setConfigstring itemId.toNat (String.ofList items) g.configstrings ∧
      after.writes =
        g.writes ++ [⟨g.configstrings csItems, itemId.toNat, String.ofList items⟩] := by
  obtain ⟨e, classname, -, -, hcall⟩ := replaceItem_item hooks hid hg
  rw [hcall] at h
  cases hbyte : ByteText.replaceByte '1' itemId.toNat (g.getConfigstring csItems) with
  | none =>
    rw [hbyte] at h
    cases h
  | some items =>
    rw [hbyte] at h
    obtain rfl := (Prod.mk.inj h).2
    exact ⟨items, rfl, rfl, rfl⟩

/-- A loop writes once for each entity. -/
theorem replaceAll_writes (hid : itemId ≠ 0) (hg : CanReplace itemId ids g)
    (h : replaceAll hooks itemId ids g = (true, after)) :
    ∃ writes, after.writes = g.writes ++ writes ∧ writes.length = ids.length := by
  induction ids generalizing g with
  | nil =>
    obtain rfl : g = after := (Prod.mk.inj h).2
    exact ⟨[], (List.append_nil _).symm, rfl⟩
  | cons n ids ih =>
    obtain ⟨next, hfirst, hrest⟩ := replaceAll_cons h
    obtain ⟨items, -, -, hwrites⟩ := replaceItem_writes hid hg hfirst
    obtain ⟨writes, hafter, hlength⟩ := ih (hg.tail hfirst) hrest
    refine ⟨[⟨g.configstrings csItems, itemId.toNat, String.ofList items⟩] ++ writes, ?_, ?_⟩
    · rw [hafter, hwrites, List.append_assoc]
    · rw [List.length_append, hlength, List.length_cons, Nat.add_comm]
      rfl

/-- A write marks the item iff the item is that of `CS_ITEMS`, which was read in full. -/
theorem marksItem_iff {content : String} {items : List Char} (hnonneg : 0 ≤ itemId)
    (h : ByteText.replaceByte '1' itemId.toNat (ByteText.truncate 1023 content.toList) =
      some items) :
    MarksItem itemId ⟨content, itemId.toNat, String.ofList items⟩ ↔
      itemId = csItems ∧ ByteText.truncate 1023 content.toList = content.toList := by
  have hvalue : itemId = csItems →
      (ByteText.Replaced '1' itemId.toNat content.toList items ↔
        ByteText.truncate 1023 content.toList = content.toList) := by
    rintro rfl
    exact ByteText.replaced_iff_of_truncate (by decide) h
  constructor
  · intro hmarks
    have hid : itemId = csItems := by
      have hindex : itemId.toNat = csItems := hmarks.index
      omega
    exact ⟨hid, (hvalue hid).mp (by simpa using hmarks.value)⟩
  · rintro ⟨hid, hfull⟩
    exact ⟨by rw [hid]; rfl, by simpa using (hvalue hid).mpr hfull⟩

/-- If all that a loop wrote are marks, then `CS_ITEMS` stayed editable. -/
theorem staysEditable_of_marks (hid : itemId ≠ 0) (hnonneg : 0 ≤ itemId)
    (hg : CanReplace itemId ids g) (h : replaceAll hooks itemId ids g = (true, after))
    {writes : List ItemsWrite} (hwrites : after.writes = g.writes ++ writes)
    (hmarks : ∀ w ∈ writes, MarksItem itemId w) :
    (ids ≠ [] → itemId = csItems) ∧ StaysEditable hooks ids.length g.configstrings := by
  induction ids generalizing g writes with
  | nil => exact ⟨fun hne => absurd rfl hne, trivial⟩
  | cons n ids ih =>
    obtain ⟨next, hfirst, hrest⟩ := replaceAll_cons h
    obtain ⟨items, hbyte, hconfigstrings, hnext⟩ := replaceItem_writes hid hg hfirst
    obtain ⟨more, hafter, -⟩ := replaceAll_writes hid (hg.tail hfirst) hrest
    have hsplit :
        writes = [⟨g.configstrings csItems, itemId.toNat, String.ofList items⟩] ++ more := by
      rw [hafter, hnext, List.append_assoc] at hwrites
      exact (List.append_cancel_left hwrites).symm
    subst hsplit
    obtain ⟨rfl, hfull⟩ := (marksItem_iff hnonneg hbyte).mp (hmarks _ (by simp))
    have htail := (ih (hg.tail hfirst) hrest hafter fun w hw => hmarks w (by simp [hw])).2
    rw [hconfigstrings] at htail
    rw [getConfigstring, hfull] at hbyte
    exact ⟨fun _ => rfl, hfull, items, hbyte, htail⟩

/-- If `CS_ITEMS` stays editable, then a loop returns, and all that it wrote are marks. -/
theorem marks_of_staysEditable (hg : CanReplace csItems ids g)
    (h : StaysEditable hooks ids.length g.configstrings) :
    ∃ after writes, replaceAll hooks csItems ids g = (true, after) ∧
      after.writes = g.writes ++ writes ∧ ∀ w ∈ writes, MarksItem csItems w := by
  induction ids generalizing g with
  | nil => exact ⟨g, [], rfl, (List.append_nil _).symm, nofun⟩
  | cons n ids ih =>
    obtain ⟨hfull, items, hitems, hrest⟩ := h
    have hbyte : ByteText.replaceByte '1' (csItems : Int).toNat (g.getConfigstring csItems) =
        some items := by
      rw [getConfigstring, hfull]
      exact hitems
    obtain ⟨e, classname, -, -, hcall⟩ := replaceItem_item hooks (by decide) hg
    rw [hbyte] at hcall
    obtain ⟨after, writes, hloop, hwrites, hmarks⟩ := ih (hg.tail hcall) hrest
    refine ⟨after, [⟨g.configstrings csItems, csItems, String.ofList items⟩] ++ writes, ?_, ?_, ?_⟩
    · rw [replaceAll, hcall]
      exact hloop
    · rw [hwrites, ← List.append_assoc]
      rfl
    · intro w hw
      rcases List.mem_append.mp hw with hw | hw
      · rw [List.mem_singleton.mp hw]
        exact (marksItem_iff (by decide) hbyte).mpr ⟨rfl, hfull⟩
      · exact hmarks w hw

end steps

end ItemGame
end ShinQlx
