import ShinQlx.ItemGame

/-! # Counting the items

The engine has a table of the items that there are.  Its first entry is reserved, each other
one has a class name, and the first entry without one ends it.  `get_num_items` does not look
for that entry but for the last one with a class name among the 4096 behind the first,
wherever the table ends.

`countsTable_iff` says for which tables, and which memory behind them, the items are counted.
-/
namespace ShinQlx

/-- The class names of the entries from the start of the item list on, where there is one. -/
abbrev ItemMemory := Nat → Option String

/-- A table of items, and the memory behind it. -/
structure ItemTable where
  memory : ItemMemory
  size : Nat
  size_pos : 0 < size
  named : ∀ i, 1 ≤ i → i < size → (memory i).isSome
  terminated : memory size = none

namespace ItemTable

/-- The indices at which `get_num_items` finds a class name. -/
def namedIndices (memory : ItemMemory) : List Nat :=
  (List.range' 1 4096).filter fun index => (memory index).isSome

/-- `get_num_items`. -/
def getNumItems : Option ItemMemory → Nat
  | none => 0
  | some memory => (namedIndices memory).max?.getD 0 + 1

/-- `GameItem::try_from`: the index of the entry that is taken. -/
def tryFrom (list : Option ItemMemory) (itemId : Int) : Option Nat :=
  if itemId < 0 ∨ (getNumItems list : Int) ≤ itemId then none else some itemId.toNat

/-- A search for a class name: the entries whose class names are read, and the item. -/
structure Lookup where
  touched : List Nat
  found : Option Nat

/-- The first of some items with a class name. -/
def findClassname (memory : ItemMemory) (classname : String) : List Nat → Lookup
  | [] => ⟨[], none⟩
  | i :: ids =>
    if memory i = some classname then ⟨[i], some i⟩
    else
      let rest := findClassname memory classname ids
      ⟨i :: rest.touched, rest.found⟩

/-- The item with a class name, as `determine_item_id` looks for it. -/
def lookupClassname (memory : ItemMemory) (classname : String) : Lookup :=
  findClassname memory classname (List.range' 1 (getNumItems (some memory) - 1))

/-- **What counting should do**: the count is the size of the table, each item below it but the
first has a class name, and who looks for an item stays inside the table. -/
structure CountsTable (t : ItemTable) : Prop where
  count : getNumItems (some t.memory) = t.size
  named : ∀ i, 1 ≤ i → i < getNumItems (some t.memory) → (t.memory i).isSome
  byId : ∀ itemId i, tryFrom (some t.memory) itemId = some i → i ≤ t.size
  byClassname : ∀ classname, ∀ i ∈ (lookupClassname t.memory classname).touched, i ≤ t.size

/-- The table ends among the entries that are looked at, or right behind them, and none of those
behind it has a class name. -/
def NothingBehind (t : ItemTable) : Prop :=
  t.size ≤ 4097 ∧ ∀ i, t.size < i → i ≤ 4096 → t.memory i = none

section count
variable {memory : ItemMemory} {i : Nat}

theorem mem_namedIndices : i ∈ namedIndices memory ↔ 1 ≤ i ∧ i ≤ 4096 ∧ (memory i).isSome := by
  rw [namedIndices, List.mem_filter, List.mem_range'_1, and_assoc]
  refine and_congr_right fun _ => and_congr_left fun _ => ?_
  omega

/-- An entry with a class name is counted. -/
theorem lt_getNumItems (h : i ∈ namedIndices memory) : i < getNumItems (some memory) := by
  rw [getNumItems]
  cases hmax : (namedIndices memory).max? with
  | none =>
    rw [List.max?_eq_none_iff.mp hmax] at h
    cases h
  | some m =>
    have hle := (List.max?_eq_some_iff.mp hmax).2 i h
    rw [Option.getD_some]
    omega

/-- The count is that of an entry with a class name. -/
theorem getNumItems_cases (memory : ItemMemory) :
    getNumItems (some memory) = 1 ∨
      ∃ i ∈ namedIndices memory, getNumItems (some memory) = i + 1 := by
  rw [getNumItems]
  cases hmax : (namedIndices memory).max? with
  | none => exact .inl rfl
  | some m => exact .inr ⟨m, List.max?_mem hmax, rfl⟩

theorem mem_of_touched {classname : String} {ids : List Nat}
    (h : i ∈ (findClassname memory classname ids).touched) : i ∈ ids := by
  induction ids with
  | nil => cases h
  | cons k ids ih =>
    rw [findClassname] at h
    split at h
    · rw [List.mem_singleton.mp h]
      exact List.mem_cons_self
    · rcases List.mem_cons.mp h with rfl | h
      · exact List.mem_cons_self
      · exact List.mem_cons_of_mem k (ih h)

/-- What is read of a search has been counted. -/
theorem touched_bounds {classname : String}
    (h : i ∈ (lookupClassname memory classname).touched) :
    1 ≤ i ∧ i < getNumItems (some memory) := by
  have hmem := List.mem_range'_1.mp (mem_of_touched h)
  omega

end count

variable (t : ItemTable)

theorem getNumItems_eq_size_iff : getNumItems (some t.memory) = t.size ↔ t.NothingBehind := by
  have hpos := t.size_pos
  constructor
  · intro h
    constructor
    · rcases getNumItems_cases t.memory with hone | ⟨i, hi, hcount⟩
      · omega
      · have := (mem_namedIndices.mp hi).2.1
        omega
    · intro i hlt hle
      by_contra hne
      have := lt_getNumItems
        (mem_namedIndices.mpr ⟨by omega, hle, Option.isSome_iff_ne_none.mpr hne⟩)
      omega
  · rintro ⟨hsize, hbehind⟩
    have hlow : t.size ≤ getNumItems (some t.memory) := by
      by_cases hone : t.size = 1
      · rcases getNumItems_cases t.memory with h | ⟨i, hi, h⟩ <;> omega
      · have := lt_getNumItems (mem_namedIndices.mpr
          ⟨by omega, by omega, t.named (t.size - 1) (by omega) (by omega)⟩)
        omega
    rcases getNumItems_cases t.memory with h | ⟨i, hi, h⟩
    · omega
    · -- an entry that is counted is one of the table
      obtain ⟨-, hle, hsome⟩ := mem_namedIndices.mp hi
      have hne : i ≠ t.size := by
        rintro rfl
        rw [t.terminated] at hsome
        cases hsome
      have hnot : ¬ t.size < i := by
        intro hlt
        rw [hbehind i hlt hle] at hsome
        cases hsome
      omega

/-- **The items are counted iff** there is nothing with a class name behind the table, as far
as it is looked at. -/
theorem countsTable_iff : t.CountsTable ↔ t.NothingBehind := by
  rw [← getNumItems_eq_size_iff]
  constructor
  · intro h
    exact h.count
  · intro h
    refine ⟨h, fun i hlow hlt => t.named i hlow (h ▸ hlt), fun itemId i hid => ?_,
      fun classname i hi => ?_⟩
    · rw [tryFrom] at hid
      split at hid
      · cases hid
      · obtain rfl := Option.some.inj hid
        omega
    · have := touched_bounds hi
      omega

/-- A table with one item, and an address that is not null further behind. -/
def onceBehind : ItemTable where
  memory i := if i = 1 ∨ i = 5 then some "item_armor_shard" else none
  size := 2
  size_pos := by decide
  named i hlow hlt := by
    obtain rfl : i = 1 := by omega
    rfl
  terminated := rfl

/-- The items are not counted there. -/
theorem not_countsTable_onceBehind : ¬ onceBehind.CountsTable := by
  intro h
  have hfive : 5 ∈ namedIndices onceBehind.memory :=
    mem_namedIndices.mpr ⟨by decide, by decide, rfl⟩
  have hcount := h.count
  have := lt_getNumItems hfive
  have hsize : onceBehind.size = 2 := rfl
  omega

/-! ## A list without memory behind it -/

/-- The memory of a list of class names. -/
def ofList (classnames : List String) : ItemMemory
  | 0 => none
  | i + 1 => classnames[i]?

/-- The count of the items of a game, where nothing is behind the list. -/
theorem getNumItems_ofList (g : ItemGame) :
    g.getNumItems = getNumItems (g.getItemList.map ofList) := by
  rw [ItemGame.getNumItems]
  cases g.getItemList with
  | none => rfl
  | some classnames =>
    have hnamed : namedIndices (ofList classnames) =
        (List.range' 1 4096).filter (· ≤ classnames.length) := by
      refine List.filter_congr fun index hindex => ?_
      obtain ⟨k, rfl⟩ := Nat.exists_eq_succ_of_ne_zero
        (Nat.ne_of_gt (List.mem_range'_1.mp hindex).1)
      rw [ofList, Nat.succ_eq_add_one, Bool.eq_iff_iff, decide_eq_true_iff,
        isSome_getElem?]
      exact Nat.lt_iff_add_one_le
    rw [Option.map_some, getNumItems, hnamed]
    rfl

end ItemTable
end ShinQlx
