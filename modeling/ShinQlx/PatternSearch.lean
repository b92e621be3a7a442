import Mathlib.Data.List.Range
import Mathlib.Order.Bounds.Basic
import Mathlib.Data.Nat.Find

/-! # Searching a memory for a pattern

`pattern_search` looks for a function of the engine by the bytes that it begins with.  It tries
one address of a range after the other, and at each compares the bytes of the pattern that the
mask names with those of the memory, up to the first that differs.  Nothing stops a comparison
at the end of the range.

`patternSearch_exact_iff` says in which ranges the search stays inside and finds the pattern, and
`patternSearchModule_exact` what follows for the readable ranges of a module.
-/
namespace ShinQlx.PatternSearch

/-- What is read of a memory, and what comes of it, unless there is a panic. -/
structure Reading (α : Type) where
  reads : List Nat
  result : Option α

/-- `b'X'`. -/
def maskX : UInt8 := 88

section search
variable (mem : Nat → UInt8) (mask : List UInt8)

/-- The bytes of a pattern from the `j`-th on are compared with those behind an address. -/
def compare (i : Nat) : Nat → List UInt8 → Reading Bool
  | _, [] => ⟨[], some true⟩
  | j, b :: pattern =>
    match mask[j]? with
    | none => ⟨[], none⟩
    | some m =>
      if m = maskX then
        if b = mem (i + j) then
          let rest := compare i (j + 1) pattern
          ⟨(i + j) :: rest.reads, rest.result⟩
        else ⟨[i + j], some false⟩
      else compare i (j + 1) pattern

variable (pattern : List UInt8)

/-- The first of some addresses at which nothing differs. -/
def find : List Nat → Reading (Option Nat)
  | [] => ⟨[], some none⟩
  | i :: addresses =>
    let here := compare mem mask i 0 pattern
    match here.result with
    | none => ⟨here.reads, none⟩
    | some true => ⟨here.reads, some (some i)⟩
    | some false =>
      let rest := find addresses
      ⟨here.reads ++ rest.reads, rest.result⟩

/-- `pattern_search`. -/
def patternSearch (start stop : Nat) : Reading (Option Nat) :=
  find mem mask pattern (List.range' start (stop - start))

/-! ## What a search should do -/

/-- Every byte that the mask names is the one of the memory. -/
def MatchesAt (i : Nat) : Prop :=
  ∀ j b, pattern[j]? = some b → mask[j]? = some maskX → b = mem (i + j)

/-- The addresses of a range at which the whole pattern is found inside it. -/
def Found (start stop : Nat) : Set Nat :=
  {i | start ≤ i ∧ i < stop ∧ i + pattern.length ≤ stop ∧ MatchesAt mem mask pattern i}

/-- **What a search should do**: it reads the range only, and comes up with the least address
at which the pattern is found. -/
structure Exact (start stop : Nat) (search : Reading (Option Nat)) : Prop where
  inside : ∀ a ∈ search.reads, start ≤ a ∧ a < stop
  found : ∀ i, search.result = some (some i) ↔ IsLeast (Found mem mask pattern start stop) i
  nothing : search.result = some none ↔ Found mem mask pattern start stop = ∅

/-- A byte that the mask names differs, from the `j`-th on, before the end of the range. -/
def DiffersFrom (stop i j : Nat) (pattern : List UInt8) : Prop :=
  ∃ k b, pattern[k]? = some b ∧ mask[j + k]? = some maskX ∧ i + (j + k) < stop ∧
    b ≠ mem (i + (j + k))

/-- A byte that the mask names differs before the end of the range. -/
def Differs (stop i : Nat) : Prop := DiffersFrom mem mask stop i 0 pattern

/-- There is room for the pattern behind an address, and the mask has a mark for each byte. -/
def Room (stop i : Nat) : Prop := i + pattern.length ≤ stop ∧ pattern.length ≤ mask.length

/-- The pattern is found with its whole mask, or a byte differs wherever there is no room. -/
def Bounded (start stop : Nat) : Prop :=
  (pattern.length ≤ mask.length ∧ (Found mem mask pattern start stop).Nonempty) ∨
    ∀ i, start ≤ i → i < stop → ¬ Room mask pattern stop i → Differs mem mask pattern stop i

end search

/-! ## One comparison -/

section compare
variable {mem : Nat → UInt8} {mask pattern : List UInt8} {stop i j : Nat} {b : UInt8}

theorem differsFrom_cons :
    DiffersFrom mem mask stop i j (b :: pattern) ↔
      (mask[j]? = some maskX ∧ i + j < stop ∧ b ≠ mem (i + j)) ∨
        DiffersFrom mem mask stop i (j + 1) pattern := by
  constructor
  · rintro ⟨k, c, hc, hmask, hlt, hne⟩
    cases k with
    | zero =>
      obtain rfl : b = c := Option.some.inj hc
      exact .inl ⟨hmask, hlt, hne⟩
    | succ k =>
      have hj : j + (k + 1) = j + 1 + k := by omega
      rw [hj] at hmask hlt hne
      exact .inr ⟨k, c, hc, hmask, hlt, hne⟩
  · rintro (⟨hmask, hlt, hne⟩ | ⟨k, c, hc, hmask, hlt, hne⟩)
    · exact ⟨0, b, rfl, hmask, hlt, hne⟩
    · have hj : j + 1 + k = j + (k + 1) := by omega
      rw [hj] at hmask hlt hne
      exact ⟨k + 1, c, hc, hmask, hlt, hne⟩

/-- A comparison ends inside the range, where a byte differs. -/
theorem compare_of_differs (h : DiffersFrom mem mask stop i j pattern) :
    (compare mem mask i j pattern).result = some false ∧
      ∀ a ∈ (compare mem mask i j pattern).reads, i ≤ a ∧ a < stop := by
  induction pattern generalizing j with
  | nil =>
    obtain ⟨k, c, hc, -⟩ := h
    cases hc
  | cons b pattern ih =>
    rw [compare]
    cases hm : mask[j]? with
    | none =>
      -- the mask ends before the byte that differs
      obtain ⟨k, c, -, hmask, -⟩ := h
      have hlt := (List.getElem?_eq_some_iff.mp hmask).1
      have hge := List.getElem?_eq_none_iff.mp hm
      omega
    | some m =>
      dsimp only
      have htail : ¬ (m = maskX ∧ b ≠ mem (i + j)) →
          DiffersFrom mem mask stop i (j + 1) pattern := by
        intro hsame
        refine (differsFrom_cons.mp h).resolve_left fun hhere => hsame ⟨?_, hhere.2.2⟩
        exact Option.some.inj (hm.symm.trans hhere.1)
      by_cases hx : m = maskX
      · rw [if_pos hx]
        by_cases hb : b = mem (i + j)
        · rw [if_pos hb]
          have hrest := htail fun hne => hne.2 hb
          obtain ⟨hresult, hreads⟩ := ih hrest
          obtain ⟨k, c, -, -, hlt, -⟩ := hrest
          refine ⟨hresult, fun a ha => ?_⟩
          rcases List.mem_cons.mp ha with rfl | ha
          · omega
          · exact hreads a ha
        · rw [if_neg hb]
          refine ⟨rfl, fun a ha => ?_⟩
          obtain rfl := List.mem_singleton.mp ha
          rcases differsFrom_cons.mp h with ⟨-, hlt, -⟩ | ⟨k, c, -, -, hlt, -⟩
          · omega
          · omega
      · rw [if_neg hx]
        exact ih (htail fun hne => hx hne.1)

/-- A comparison goes through where there is room and no byte differs. -/
theorem compare_of_room (h : ¬ DiffersFrom mem mask stop i j pattern)
    (hstop : i + (j + pattern.length) ≤ stop) (hmask : j + pattern.length ≤ mask.length) :
    (compare mem mask i j pattern).result = some true ∧
      ∀ a ∈ (compare mem mask i j pattern).reads, i ≤ a ∧ a < stop := by
  induction pattern generalizing j with
  | nil => exact ⟨rfl, nofun⟩
  | cons b pattern ih =>
    rw [List.length_cons] at hstop hmask
    have hj : j < mask.length := by omega
    have hhere := fun hx hne => h (differsFrom_cons.mpr (.inl ⟨hx, by omega, hne⟩))
    obtain ⟨hresult, hreads⟩ :=
      ih (fun hrest => h (differsFrom_cons.mpr (.inr hrest))) (by omega) (by omega)
    rw [compare, List.getElem?_eq_getElem hj]
    dsimp only
    by_cases hx : mask[j] = maskX
    · have hb : b = mem (i + j) := by
        by_contra hne
        exact hhere ((List.getElem?_eq_getElem hj).trans (congrArg some hx)) hne
      rw [if_pos hx, if_pos hb]
      refine ⟨hresult, fun a ha => ?_⟩
      rcases List.mem_cons.mp ha with rfl | ha
      · omega
      · exact hreads a ha
    · rw [if_neg hx]
      exact ⟨hresult, hreads⟩

/-- A byte that no longer differs inside the range is read outside of it. -/
theorem compare_outside (h : ¬ DiffersFrom mem mask stop i j pattern)
    (hfalse : (compare mem mask i j pattern).result = some false) :
    ∃ a ∈ (compare mem mask i j pattern).reads, stop ≤ a := by
  induction pattern generalizing j with
  | nil => cases hfalse
  | cons b pattern ih =>
    have hrest := fun hrest => h (differsFrom_cons.mpr (.inr hrest))
    rw [compare] at hfalse ⊢
    cases hm : mask[j]? with
    | none =>
      rw [hm] at hfalse
      cases hfalse
    | some m =>
      rw [hm] at hfalse
      dsimp only at hfalse ⊢
      by_cases hx : m = maskX
      · rw [if_pos hx] at hfalse ⊢
        by_cases hb : b = mem (i + j)
        · rw [if_pos hb] at hfalse ⊢
          obtain ⟨a, ha, hle⟩ := ih hrest hfalse
          exact ⟨a, List.mem_cons_of_mem _ ha, hle⟩
        · rw [if_neg hb]
          refine ⟨i + j, List.mem_singleton_self _, ?_⟩
          by_contra hlt
          exact h (differsFrom_cons.mpr (.inl ⟨hx ▸ hm, by omega, hb⟩))
      · rw [if_neg hx] at hfalse ⊢
        exact ih hrest hfalse

/-- A comparison that goes through has had a mark for each byte. -/
theorem length_le_of_compare (h : (compare mem mask i j pattern).result = some true) :
    pattern = [] ∨ j + pattern.length ≤ mask.length := by
  induction pattern generalizing j with
  | nil => exact .inl rfl
  | cons b pattern ih =>
    rw [compare] at h
    cases hm : mask[j]? with
    | none =>
      rw [hm] at h
      cases h
    | some m =>
      rw [hm] at h
      dsimp only at h
      have hj := (List.getElem?_eq_some_iff.mp hm).1
      have hrest : (compare mem mask i (j + 1) pattern).result = some true := by
        by_cases hx : m = maskX
        · rw [if_pos hx] at h
          by_cases hb : b = mem (i + j)
          · rw [if_pos hb] at h
            exact h
          · rw [if_neg hb] at h
            cases h
        · rw [if_neg hx] at h
          exact h
      rw [List.length_cons]
      rcases ih hrest with rfl | hle
      · rw [List.length_nil]
        omega
      · omega

end compare

/-! ## The whole search -/

section search
variable {mem : Nat → UInt8} {mask pattern : List UInt8} {start stop i : Nat}

/-- Where there is room, the pattern matches iff no byte differs. -/
theorem matchesAt_iff (h : i + pattern.length ≤ stop) :
    MatchesAt mem mask pattern i ↔ ¬ Differs mem mask pattern stop i := by
  constructor
  · rintro hmatch ⟨k, b, hb, hmask, -, hne⟩
    rw [Nat.zero_add] at hmask hne
    exact hne (hmatch k b hb hmask)
  · intro hsame j b hb hmask
    have hj := (List.getElem?_eq_some_iff.mp hb).1
    by_contra hne
    refine hsame ⟨j, b, hb, ?_, ?_, ?_⟩
    · rwa [Nat.zero_add]
    · omega
    · rwa [Nat.zero_add]

theorem exists_isLeast {addresses : Set Nat} (h : addresses.Nonempty) :
    ∃ i, IsLeast addresses i := by
  classical
  exact ⟨Nat.find h, Nat.find_spec h, fun k hk => Nat.find_min' h hk⟩

/-- An exact search returns. -/
theorem Exact.returns {search : Reading (Option Nat)}
    (h : Exact mem mask pattern start stop search) : search.result ≠ none := by
  intro hpanic
  by_cases hempty : Found mem mask pattern start stop = ∅
  · have hnothing := h.nothing.mpr hempty
    rw [hpanic] at hnothing
    cases hnothing
  · obtain ⟨i, hi⟩ := exists_isLeast (Set.nonempty_iff_ne_empty.mpr hempty)
    have hfound := (h.found i).mpr hi
    rw [hpanic] at hfound
    cases hfound

theorem mem_found_iff (hmask : pattern.length ≤ mask.length) :
    i ∈ Found mem mask pattern start stop ↔
      start ≤ i ∧ i < stop ∧ Room mask pattern stop i ∧ ¬ Differs mem mask pattern stop i := by
  constructor
  · rintro ⟨hstart, hstop, hroom, hmatch⟩
    exact ⟨hstart, hstop, ⟨hroom, hmask⟩, (matchesAt_iff hroom).mp hmatch⟩
  · rintro ⟨hstart, hstop, ⟨hroom, -⟩, hsame⟩
    exact ⟨hstart, hstop, hroom, (matchesAt_iff hroom).mpr hsame⟩

/-- The search goes on behind the addresses at which a byte differs. -/
theorem find_append {addresses : List Nat}
    (h : ∀ i ∈ addresses, Differs mem mask pattern stop i) (more : List Nat) :
    (find mem mask pattern (addresses ++ more)).result = (find mem mask pattern more).result ∧
      ∀ a ∈ (find mem mask pattern (addresses ++ more)).reads,
        (∃ i ∈ addresses, i ≤ a ∧ a < stop) ∨ a ∈ (find mem mask pattern more).reads := by
  induction addresses with
  | nil => exact ⟨rfl, fun a ha => .inr ha⟩
  | cons i addresses ih =>
    obtain ⟨hresult, hreads⟩ := compare_of_differs (h i List.mem_cons_self)
    obtain ⟨ihresult, ihreads⟩ := ih fun k hk => h k (List.mem_cons_of_mem i hk)
    rw [List.cons_append, find, hresult]
    refine ⟨ihresult, fun a ha => ?_⟩
    rcases List.mem_append.mp ha with ha | ha
    · exact .inl ⟨i, List.mem_cons_self, hreads a ha⟩
    · refine (ihreads a ha).imp_left ?_
      rintro ⟨k, hk, hka⟩
      exact ⟨k, List.mem_cons_of_mem i hk, hka⟩

/-- The reads of the addresses that are left over are reads of the search. -/
theorem mem_reads_find_append {addresses more : List Nat}
    (h : ∀ i ∈ addresses, Differs mem mask pattern stop i) {a : Nat}
    (ha : a ∈ (find mem mask pattern more).reads) :
    a ∈ (find mem mask pattern (addresses ++ more)).reads := by
  induction addresses with
  | nil => exact ha
  | cons i addresses ih =>
    have hresult := (compare_of_differs (h i List.mem_cons_self)).1
    rw [List.cons_append, find, hresult]
    exact List.mem_append_right _ (ih fun k hk => h k (List.mem_cons_of_mem i hk))

/-- A range up to one of its addresses, and from there on. -/
theorem range'_split (hstart : start ≤ i) (hstop : i < stop) :
    List.range' start (stop - start) =
      List.range' start (i - start) ++ i :: List.range' (i + 1) (stop - (i + 1)) := by
  have hlength : stop - start = i - start + (stop - (i + 1) + 1) := by omega
  have hmiddle : start + 1 * (i - start) = i := by omega
  rw [hlength, ← List.range'_append, hmiddle, List.range'_succ]

theorem mem_range'_stop {a : Nat} (h : a ∈ List.range' start (stop - start)) :
    start ≤ a ∧ a < stop := by
  have hmem := List.mem_range'_1.mp h
  omega

/-- The search when a byte differs at every address. -/
theorem patternSearch_of_differs
    (h : ∀ i, start ≤ i → i < stop → Differs mem mask pattern stop i) :
    (patternSearch mem mask pattern start stop).result = some none ∧
      ∀ a ∈ (patternSearch mem mask pattern start stop).reads, start ≤ a ∧ a < stop := by
  have hall : ∀ i ∈ List.range' start (stop - start), Differs mem mask pattern stop i := by
    intro i hi
    obtain ⟨hstart, hstop⟩ := mem_range'_stop hi
    exact h i hstart hstop
  obtain ⟨hresult, hreads⟩ := find_append hall []
  rw [List.append_nil] at hresult hreads
  refine ⟨hresult, fun a ha => ?_⟩
  rcases hreads a ha with ⟨i, hi, hia⟩ | ha
  · obtain ⟨hstart, -⟩ := mem_range'_stop hi
    omega
  · cases ha

section first
variable (hstart : start ≤ i) (hstop : i < stop)
  (hbefore : ∀ k, start ≤ k → k < i → Differs mem mask pattern stop k)
include hstart hstop hbefore

/-- The search up to the first address at which no byte differs. -/
theorem patternSearch_of_first :
    (patternSearch mem mask pattern start stop).result =
        (find mem mask pattern (i :: List.range' (i + 1) (stop - (i + 1)))).result ∧
      (∀ a ∈ (patternSearch mem mask pattern start stop).reads,
        (start ≤ a ∧ a < stop) ∨
          a ∈ (find mem mask pattern (i :: List.range' (i + 1) (stop - (i + 1)))).reads) ∧
      ∀ a ∈ (compare mem mask i 0 pattern).reads,
        a ∈ (patternSearch mem mask pattern start stop).reads := by
  have hall : ∀ k ∈ List.range' start (i - start), Differs mem mask pattern stop k := by
    intro k hk
    obtain ⟨hlow, hhigh⟩ := mem_range'_stop hk
    exact hbefore k hlow hhigh
  rw [patternSearch, range'_split hstart hstop]
  obtain ⟨hresult, hreads⟩ := find_append hall (i :: List.range' (i + 1) (stop - (i + 1)))
  refine ⟨hresult, fun a ha => ?_, fun a ha => mem_reads_find_append hall ?_⟩
  · refine (hreads a ha).imp_left ?_
    rintro ⟨k, hk, hka⟩
    obtain ⟨hlow, -⟩ := mem_range'_stop hk
    omega
  · rw [find]
    cases (compare mem mask i 0 pattern).result with
    | none => exact ha
    | some same =>
      cases same with
      | true => exact ha
      | false => exact List.mem_append_left _ ha

/-- The search when that address has room for the pattern. -/
theorem patternSearch_of_room (hroom : Room mask pattern stop i)
    (hsame : ¬ Differs mem mask pattern stop i) :
    (patternSearch mem mask pattern start stop).result = some (some i) ∧
      ∀ a ∈ (patternSearch mem mask pattern start stop).reads, start ≤ a ∧ a < stop := by
  obtain ⟨hresult, hreads, -⟩ := patternSearch_of_first hstart hstop hbefore
  obtain ⟨hmatch, hinside⟩ := compare_of_room hsame (by have := hroom.1; omega)
    (by have := hroom.2; omega)
  have hfind : find mem mask pattern (i :: List.range' (i + 1) (stop - (i + 1))) =
      ⟨(compare mem mask i 0 pattern).reads, some (some i)⟩ := by
    rw [find, hmatch]
  rw [hfind] at hresult hreads
  refine ⟨hresult, fun a ha => ?_⟩
  rcases hreads a ha with ha | ha
  · exact ha
  · have := hinside a ha
    omega

/-- The search cannot be exact when it has none. -/
theorem not_exact_of_first (hroom : ¬ Room mask pattern stop i)
    (hsame : ¬ Differs mem mask pattern stop i) :
    ¬ Exact mem mask pattern start stop (patternSearch mem mask pattern start stop) := by
  intro h
  obtain ⟨hresult, -, hreads⟩ := patternSearch_of_first hstart hstop hbefore
  cases hcompare : (compare mem mask i 0 pattern).result with
  | none =>
    refine h.returns ?_
    rw [hresult, find, hcompare]
  | some same =>
    cases same with
    | false =>
      obtain ⟨a, ha, hout⟩ := compare_outside hsame hcompare
      have := h.inside a (hreads a ha)
      omega
    | true =>
      have hfound : (patternSearch mem mask pattern start stop).result = some (some i) := by
        rw [hresult, find, hcompare]
      obtain ⟨-, -, hfits, -⟩ := ((h.found i).mp hfound).1
      refine hroom ⟨hfits, ?_⟩
      rcases length_le_of_compare hcompare with rfl | hle
      · exact Nat.zero_le _
      · omega

end first

/-- The first address at which no byte differs, if there is one. -/
theorem exists_first (h : ∃ i, start ≤ i ∧ i < stop ∧ ¬ Differs mem mask pattern stop i) :
    ∃ i, start ≤ i ∧ i < stop ∧ ¬ Differs mem mask pattern stop i ∧
      ∀ k, start ≤ k → k < i → Differs mem mask pattern stop k := by
  obtain ⟨i, ⟨hstart, hstop, hsame⟩, hleast⟩ := exists_isLeast h
  refine ⟨i, hstart, hstop, hsame, fun k hlow hhigh => ?_⟩
  by_contra hk
  have := hleast ⟨hlow, Nat.lt_trans hhigh hstop, hk⟩
  omega

/-- Addresses before one with room have room. -/
theorem Room.mono {k : Nat} (h : Room mask pattern stop i) (hle : k ≤ i) :
    Room mask pattern stop k := by
  have := h.1
  exact ⟨by omega, h.2⟩

/-- What is found is found where a search stops. -/
theorem exact_of_room (hstart : start ≤ i) (hstop : i < stop) (hroom : Room mask pattern stop i)
    (hsame : ¬ Differs mem mask pattern stop i)
    (hbefore : ∀ k, start ≤ k → k < i → Differs mem mask pattern stop k) :
    Exact mem mask pattern start stop (patternSearch mem mask pattern start stop) := by
  obtain ⟨hresult, hinside⟩ := patternSearch_of_room hstart hstop hbefore hroom hsame
  have hmem : i ∈ Found mem mask pattern start stop :=
    (mem_found_iff hroom.2).mpr ⟨hstart, hstop, hroom, hsame⟩
  have hleast : IsLeast (Found mem mask pattern start stop) i := by
    refine ⟨hmem, fun k hk => ?_⟩
    obtain ⟨hlow, -, -, hksame⟩ := (mem_found_iff hroom.2).mp hk
    by_contra hlt
    exact hksame (hbefore k hlow (by omega))
  refine ⟨hinside, fun k => ?_, ?_⟩
  · rw [hresult]
    constructor
    · intro h
      obtain rfl := Option.some.inj (Option.some.inj h)
      exact hleast
    · intro h
      rw [hleast.unique h]
  · rw [hresult]
    exact iff_of_false nofun (Set.nonempty_iff_ne_empty.mp ⟨i, hmem⟩)

theorem exact_of_differs
    (h : ∀ i, start ≤ i → i < stop → Differs mem mask pattern stop i) :
    Exact mem mask pattern start stop (patternSearch mem mask pattern start stop) := by
  obtain ⟨hresult, hinside⟩ := patternSearch_of_differs h
  have hempty : Found mem mask pattern start stop = ∅ := by
    refine Set.eq_empty_of_forall_notMem fun i hi => ?_
    exact (matchesAt_iff hi.2.2.1).mp hi.2.2.2 (h i hi.1 hi.2.1)
  refine ⟨hinside, fun i => ?_, ?_⟩
  · rw [hresult, hempty]
    exact iff_of_false nofun fun hleast => hleast.1
  · rw [hresult]
    exact iff_of_true rfl hempty

end search

/-- **A search is exact iff it is bounded**: the pattern is found with its whole mask, or a
byte differs wherever there is no room for it. -/
theorem patternSearch_exact_iff (mem : Nat → UInt8) (mask pattern : List UInt8) (start stop : Nat) :
    Exact mem mask pattern start stop (patternSearch mem mask pattern start stop) ↔
      Bounded mem mask pattern start stop := by
  by_cases hfirst : ∃ i, start ≤ i ∧ i < stop ∧ ¬ Differs mem mask pattern stop i
  · obtain ⟨i, hstart, hstop, hsame, hbefore⟩ := exists_first hfirst
    by_cases hroom : Room mask pattern stop i
    · refine iff_of_true (exact_of_room hstart hstop hroom hsame hbefore) (.inl ⟨hroom.2, i, ?_⟩)
      exact (mem_found_iff hroom.2).mpr ⟨hstart, hstop, hroom, hsame⟩
    · refine iff_of_false (not_exact_of_first hstart hstop hbefore hroom hsame) ?_
      rintro (⟨hmask, k, hk⟩ | hdiffers)
      · -- the pattern would be found behind an address that has no room
        obtain ⟨hlow, -, hkroom, hksame⟩ := (mem_found_iff hmask).mp hk
        by_cases hle : i ≤ k
        · exact hroom (hkroom.mono hle)
        · exact hksame (hbefore k hlow (by omega))
      · exact hsame (hdiffers i hstart hstop hroom)
  · have hall : ∀ i, start ≤ i → i < stop → Differs mem mask pattern stop i := by
      intro i hstart hstop
      by_contra hsame
      exact hfirst ⟨i, hstart, hstop, hsame⟩
    exact iff_of_true (exact_of_differs hall) (.inr fun i hstart hstop _ => hall i hstart hstop)

/-- A range of four bytes that ends in the first byte of a pattern of two. -/
theorem not_exact_at_the_end :
    ¬ Exact (fun a => if a = 3 then 65 else 0) [maskX, maskX] [65, 66] 0 4
      (patternSearch (fun a => if a = 3 then 65 else 0) [maskX, maskX] [65, 66] 0 4) := by
  intro h
  have hinside := h.inside 4 (by decide)
  omega

/-! ## The ranges of a module -/

/-- A `MemoryMap`. -/
structure MemoryMap where
  start : Nat
  stop : Nat
  readable : Bool

section modules
variable (mem : Nat → UInt8) (mask pattern : List UInt8)

/-- `pattern_search_module`. -/
def patternSearchModule : List MemoryMap → Reading (Option Nat)
  | [] => ⟨[], some none⟩
  | m :: maps =>
    if m.readable then
      let here := patternSearch mem mask pattern m.start m.stop
      match here.result with
      | some none =>
        let rest := patternSearchModule maps
        ⟨here.reads ++ rest.reads, rest.result⟩
      | result => ⟨here.reads, result⟩
    else patternSearchModule maps

/-- What a search of a module should do. -/
structure ModuleExact (maps : List MemoryMap) (search : Reading (Option Nat)) : Prop where
  inside : ∀ a ∈ search.reads, ∃ m ∈ maps, m.readable = true ∧ m.start ≤ a ∧ a < m.stop
  returns : search.result ≠ none
  found : ∀ i, search.result = some (some i) →
    ∃ m ∈ maps, m.readable = true ∧ IsLeast (Found mem mask pattern m.start m.stop) i
  nothing : search.result = some none →
    ∀ m ∈ maps, m.readable = true → Found mem mask pattern m.start m.stop = ∅

end modules

section modules
variable {mem : Nat → UInt8} {mask pattern : List UInt8}

/-- **The readable ranges of a module are searched exactly**, if the search is bounded in
each. -/
theorem patternSearchModule_exact {maps : List MemoryMap}
    (h : ∀ m ∈ maps, m.readable = true → Bounded mem mask pattern m.start m.stop) :
    ModuleExact mem mask pattern maps (patternSearchModule mem mask pattern maps) := by
  induction maps with
  | nil => exact ⟨nofun, nofun, nofun, nofun⟩
  | cons m maps ih =>
    have hrest := ih fun n hn => h n (List.mem_cons_of_mem m hn)
    have hlater : ∀ {P : MemoryMap → Prop}, (∃ n ∈ maps, P n) → ∃ n ∈ m :: maps, P n := by
      rintro P ⟨n, hn, hP⟩
      exact ⟨n, List.mem_cons_of_mem m hn, hP⟩
    rw [patternSearchModule]
    by_cases hreadable : m.readable = true
    · rw [if_pos hreadable]
      have hhere := (patternSearch_exact_iff ..).mpr (h m List.mem_cons_self hreadable)
      have hinside : ∀ a ∈ (patternSearch mem mask pattern m.start m.stop).reads,
          ∃ n ∈ m :: maps, n.readable = true ∧ n.start ≤ a ∧ a < n.stop := fun a ha =>
        ⟨m, List.mem_cons_self, hreadable, hhere.inside a ha⟩
      dsimp only
      cases hresult : (patternSearch mem mask pattern m.start m.stop).result with
      | none => exact absurd hresult hhere.returns
      | some found =>
        cases found with
        | some i =>
          refine ⟨hinside, nofun, fun k hk => ?_, nofun⟩
          obtain rfl := Option.some.inj (Option.some.inj hk)
          exact ⟨m, List.mem_cons_self, hreadable, (hhere.found i).mp hresult⟩
        | none =>
          refine ⟨fun a ha => ?_, hrest.returns, fun k hk => hlater (hrest.found k hk),
            fun hnone n hn hn' => ?_⟩
          · rcases List.mem_append.mp ha with ha | ha
            · exact hinside a ha
            · exact hlater (hrest.inside a ha)
          · rcases List.mem_cons.mp hn with rfl | hn
            · exact hhere.nothing.mp hresult
            · exact hrest.nothing hnone n hn hn'
    · rw [if_neg hreadable]
      refine ⟨fun a ha => hlater (hrest.inside a ha), hrest.returns,
        fun k hk => hlater (hrest.found k hk), fun hnone n hn hn' => ?_⟩
      rcases List.mem_cons.mp hn with rfl | hn
      · exact absurd hn' hreadable
      · exact hrest.nothing hnone n hn hn'

end modules

end ShinQlx.PatternSearch
