import Mathlib.Data.List.Nodup

/-! # Association lists in insertion order

Keyed tables kept as a list of pairs, in the order in which the keys were first
added.  `modify` changes the first entry of a key in place.  Where the keys are
distinct it is a map over the table (`Assoc.modify_eq_map`), and a lookup after
it finds the changed value at that key and the old one elsewhere.
-/
namespace Assoc
variable {κ υ : Type} [DecidableEq κ]

/-- The value of the first entry with key `k`. -/
def lookup (k : κ) : List (κ × υ) → Option υ
  | [] => none
  | (j, v) :: rest => if j = k then some v else lookup k rest

/-- `f` applied to the value of the first entry with key `k`. -/
def modify (k : κ) (f : υ → υ) : List (κ × υ) → List (κ × υ)
  | [] => []
  | (j, v) :: rest => if j = k then (j, f v) :: rest else (j, v) :: modify k f rest

/-- `v` stored under `k`: in place of the value that is there, or as a new entry. -/
def insert (k : κ) (v : υ) (l : List (κ × υ)) : List (κ × υ) :=
  if (lookup k l).isSome then modify k (fun _ => v) l else l ++ [(k, v)]

/-- The table without the entries of `k`. -/
def erase (k : κ) (l : List (κ × υ)) : List (κ × υ) := l.filter (·.1 ≠ k)

@[simp] theorem lookup_nil (k : κ) : lookup k ([] : List (κ × υ)) = none := rfl

theorem lookup_cons (k j : κ) (v : υ) (l : List (κ × υ)) :
    lookup k ((j, v) :: l) = if j = k then some v else lookup k l := rfl

theorem lookup_eq_none_iff {k : κ} {l : List (κ × υ)} :
    lookup k l = none ↔ k ∉ l.map Prod.fst := by
  induction l with
  | nil => simp
  | cons e l ih =>
    obtain ⟨j, v⟩ := e
    by_cases h : j = k
    · simp [lookup_cons, h]
    · simp [lookup_cons, h, ih, Ne.symm h]

theorem mem_of_lookup {k : κ} {v : υ} {l : List (κ × υ)} (h : lookup k l = some v) :
    (k, v) ∈ l := by
  induction l with
  | nil => cases h
  | cons e l ih =>
    obtain ⟨j, w⟩ := e
    rw [lookup_cons] at h
    split at h
    · rename_i hj
      rw [hj, Option.some.inj h]
      exact List.mem_cons_self ..
    · exact List.mem_cons_of_mem _ (ih h)

theorem lookup_of_mem {k : κ} {v : υ} {l : List (κ × υ)} (hl : (l.map Prod.fst).Nodup)
    (h : (k, v) ∈ l) : lookup k l = some v := by
  induction l with
  | nil => cases h
  | cons e l ih =>
    obtain ⟨j, w⟩ := e
    obtain ⟨hj, hl⟩ := List.nodup_cons.mp hl
    rw [lookup_cons]
    rcases List.mem_cons.mp h with he | h
    · cases he
      exact if_pos rfl
    · have hjk : ¬ j = k := by
        rintro rfl
        exact hj (List.mem_map.mpr ⟨(j, v), h, rfl⟩)
      rw [if_neg hjk, ih hl h]

theorem lookup_append (k : κ) (l m : List (κ × υ)) :
    lookup k (l ++ m) = (lookup k l).or (lookup k m) := by
  induction l with
  | nil => rfl
  | cons e l ih =>
    obtain ⟨j, v⟩ := e
    rw [List.cons_append, lookup_cons, lookup_cons, ih]
    split <;> rfl

theorem lookup_erase (k j : κ) (l : List (κ × υ)) :
    lookup j (erase k l) = if j = k then none else lookup j l := by
  induction l with
  | nil => simp [erase]
  | cons e l ih =>
    obtain ⟨i, v⟩ := e
    rw [erase] at ih ⊢
    by_cases hik : i = k
    · subst hik
      rw [List.filter_cons_of_neg (by simp), ih, lookup_cons]
      by_cases hji : j = i
      · rw [if_pos hji, if_pos hji]
      · rw [if_neg hji, if_neg hji, if_neg (Ne.symm hji)]
    · rw [List.filter_cons_of_pos (by simpa using hik), lookup_cons, lookup_cons, ih]
      by_cases hij : i = j
      · subst hij
        simp [hik]
      · simp [hij]

/-- Of distinct keys, one entry is removed. -/
theorem length_erase {k : κ} {l : List (κ × υ)} (h : (l.map Prod.fst).Nodup)
    (hk : k ∈ l.map Prod.fst) : (erase k l).length + 1 = l.length := by
  induction l with
  | nil => cases hk
  | cons e l ih =>
    obtain ⟨i, v⟩ := e
    obtain ⟨hi, hl⟩ := List.nodup_cons.mp h
    rw [erase] at ih ⊢
    by_cases hik : i = k
    · subst hik
      have hself : l.filter (·.1 ≠ i) = l := by
        refine List.filter_eq_self.mpr fun e he => ?_
        have hne : e.1 ≠ i := fun heq => hi (List.mem_map.mpr ⟨e, he, heq⟩)
        simp [hne]
      rw [List.filter_cons_of_neg (by simp), hself, List.length_cons]
    · have hmem : k ∈ l.map Prod.fst := by simpa [Ne.symm hik] using hk
      rw [List.filter_cons_of_pos (by simpa using hik), List.length_cons, List.length_cons,
        ih hl hmem]

@[simp] theorem keys_modify (k : κ) (f : υ → υ) (l : List (κ × υ)) :
    (modify k f l).map Prod.fst = l.map Prod.fst := by
  induction l with
  | nil => rfl
  | cons e l ih =>
    obtain ⟨j, v⟩ := e
    rw [modify]
    split
    · rfl
    · rw [List.map_cons, List.map_cons, ih]

theorem lookup_modify (k j : κ) (f : υ → υ) (l : List (κ × υ)) :
    lookup j (modify k f l) = if j = k then (lookup k l).map f else lookup j l := by
  induction l with
  | nil => simp [modify]
  | cons e l ih =>
    obtain ⟨i, v⟩ := e
    by_cases hik : i = k
    · subst hik
      by_cases hji : j = i
      · subst hji
        simp [modify, lookup_cons]
      · have hij : ¬ i = j := fun h => hji h.symm
        simp [modify, lookup_cons, hji, hij]
    · rw [modify, if_neg hik, lookup_cons, lookup_cons, lookup_cons, ih, if_neg hik]
      by_cases hjk : j = k
      · subst hjk
        simp [hik]
      · simp [hjk]

/-- Changes at different keys commute. -/
theorem modify_comm {k j : κ} (h : k ≠ j) (f g : υ → υ) (l : List (κ × υ)) :
    modify k f (modify j g l) = modify j g (modify k f l) := by
  induction l with
  | nil => rfl
  | cons e l ih =>
    obtain ⟨i, v⟩ := e
    by_cases hi : i = k
    · simp [modify, hi, h]
    · by_cases hij : i = j
      · simp [modify, hij, Ne.symm h]
      · simp [modify, hi, hij, ih]

theorem modify_of_notMem {k : κ} {f : υ → υ} {l : List (κ × υ)} (h : k ∉ l.map Prod.fst) :
    modify k f l = l := by
  induction l with
  | nil => rfl
  | cons e l ih =>
    obtain ⟨j, v⟩ := e
    rw [List.map_cons, List.mem_cons, not_or] at h
    rw [modify, if_neg (Ne.symm h.1), ih h.2]

/-- `modify` with a function that does not change the value found. -/
theorem modify_of_lookup {k : κ} {v : υ} {f : υ → υ} {l : List (κ × υ)} (h : lookup k l = some v)
    (hf : f v = v) : modify k f l = l := by
  induction l with
  | nil => rfl
  | cons e l ih =>
    obtain ⟨j, w⟩ := e
    rw [lookup_cons] at h
    rw [modify]
    by_cases hjk : j = k
    · rw [if_pos hjk] at h ⊢
      rw [Option.some.inj h, hf]
    · rw [if_neg hjk] at h ⊢
      rw [ih h]

/-- On distinct keys, `modify` is a map over the table. -/
theorem modify_eq_map {k : κ} {f : υ → υ} {l : List (κ × υ)} (h : (l.map Prod.fst).Nodup) :
    modify k f l = l.map (fun e => if e.1 = k then (e.1, f e.2) else e) := by
  induction l with
  | nil => rfl
  | cons e l ih =>
    obtain ⟨j, v⟩ := e
    obtain ⟨hj, hl⟩ := List.nodup_cons.mp h
    rw [modify, List.map_cons, ← ih hl]
    by_cases hjk : j = k
    · rw [if_pos hjk, if_pos hjk, modify_of_notMem (hjk ▸ hj)]
    · rw [if_neg hjk, if_neg hjk]

/-! ## Writing a table over another -/

theorem lookup_insert (k j : κ) (v : υ) (l : List (κ × υ)) :
    lookup k (insert j v l) = if j = k then some v else lookup k l := by
  rw [insert]
  split
  next hfound =>
    rw [lookup_modify]
    by_cases hkj : k = j
    · obtain ⟨w, hw⟩ := Option.isSome_iff_exists.mp hfound
      rw [if_pos hkj, if_pos hkj.symm, hw]
      rfl
    · rw [if_neg hkj, if_neg (Ne.symm hkj)]
  next hnew =>
    rw [lookup_append, lookup_cons]
    by_cases hjk : j = k
    · subst hjk
      rw [Option.not_isSome_iff_eq_none.mp hnew, if_pos rfl, if_pos rfl]
      rfl
    · rw [if_neg hjk, if_neg hjk, lookup_nil, Option.or_none]

theorem insert_of_notMem {k : κ} {v : υ} {l : List (κ × υ)} (h : k ∉ l.map Prod.fst) :
    insert k v l = l ++ [(k, v)] := by
  rw [insert, lookup_eq_none_iff.mpr h]
  rfl

theorem nodup_keys_insert {k : κ} {v : υ} {l : List (κ × υ)} (h : (l.map Prod.fst).Nodup) :
    ((insert k v l).map Prod.fst).Nodup := by
  rw [insert]
  split
  next => rwa [keys_modify]
  next hnew =>
    have hk := lookup_eq_none_iff.mp (Option.not_isSome_iff_eq_none.mp hnew)
    rw [List.map_append, List.nodup_append]
    refine ⟨h, by simp, ?_⟩
    rintro j hj _ hk' rfl
    obtain rfl : j = k := by simpa using hk'
    exact hk hj

/-- The entries of `m` stored in `l`, one after the other. -/
def update (l m : List (κ × υ)) : List (κ × υ) := m.foldl (fun l e => insert e.1 e.2 l) l

theorem nodup_keys_update {l : List (κ × υ)} (h : (l.map Prod.fst).Nodup) (m : List (κ × υ)) :
    ((update l m).map Prod.fst).Nodup := by
  induction m generalizing l with
  | nil => exact h
  | cons e m ih => exact ih (nodup_keys_insert h)

/-- What is stored last is found. -/
theorem lookup_update (k : κ) (l : List (κ × υ)) {m : List (κ × υ)} (h : (m.map Prod.fst).Nodup) :
    lookup k (update l m) = (lookup k m).or (lookup k l) := by
  induction m generalizing l with
  | nil => rfl
  | cons e m ih =>
    obtain ⟨j, v⟩ := e
    obtain ⟨hj, hm⟩ := List.nodup_cons.mp h
    have hstep := ih (insert j v l) hm
    rw [lookup_insert] at hstep
    refine hstep.trans ?_
    rw [lookup_cons]
    by_cases hjk : j = k
    · subst hjk
      rw [lookup_eq_none_iff.mpr hj, if_pos rfl, if_pos rfl]
      rfl
    · rw [if_neg hjk, if_neg hjk]

/-- New entries come behind the others. -/
theorem update_of_nodup {l m : List (κ × υ)} (h : ((l ++ m).map Prod.fst).Nodup) :
    update l m = l ++ m := by
  induction m generalizing l with
  | nil => exact (List.append_nil l).symm
  | cons e m ih =>
    obtain ⟨j, v⟩ := e
    have hj : j ∉ l.map Prod.fst := by
      intro hj
      rw [List.map_append, List.nodup_append] at h
      exact h.2.2 j hj j (by simp) rfl
    have happend : l ++ (j, v) :: m = l ++ [(j, v)] ++ m := by simp
    rw [happend] at h ⊢
    rw [← ih h, ← insert_of_notMem hj]
    rfl

/-- Every entry comes from one of the tables. -/
theorem mem_of_mem_update {e : κ × υ} {l m : List (κ × υ)} (hl : (l.map Prod.fst).Nodup)
    (hm : (m.map Prod.fst).Nodup) (h : e ∈ update l m) : e ∈ l ∨ e ∈ m := by
  have hlookup := lookup_of_mem (nodup_keys_update hl m) h
  rw [lookup_update _ _ hm] at hlookup
  rcases Option.or_eq_some_iff.mp hlookup with h | ⟨-, h⟩
  · exact .inr (mem_of_lookup h)
  · exact .inl (mem_of_lookup h)

section mapPairs
variable {κ' υ' : Type} [DecidableEq κ'] {f : κ → κ'} (hf : Function.Injective f) (g : υ → υ')
include hf

theorem lookup_map_pairs (k : κ) (l : List (κ × υ)) :
    lookup (f k) (l.map fun e => (f e.1, g e.2)) = (lookup k l).map g := by
  induction l with
  | nil => rfl
  | cons e l ih =>
    obtain ⟨j, v⟩ := e
    rw [List.map_cons, lookup_cons, lookup_cons, ih]
    by_cases hjk : j = k
    · rw [if_pos (congrArg f hjk), if_pos hjk]
      rfl
    · rw [if_neg fun h => hjk (hf h), if_neg hjk]

theorem modify_map_pairs (k : κ) (v : υ) (l : List (κ × υ)) :
    modify (f k) (fun _ => g v) (l.map fun e => (f e.1, g e.2)) =
      (modify k (fun _ => v) l).map fun e => (f e.1, g e.2) := by
  induction l with
  | nil => rfl
  | cons e l ih =>
    obtain ⟨j, w⟩ := e
    rw [List.map_cons, modify, modify, ih]
    by_cases hjk : j = k
    · rw [if_pos (congrArg f hjk), if_pos hjk]
      rfl
    · rw [if_neg fun h => hjk (hf h), if_neg hjk]
      rfl

/-- Keys and values can be renamed before a table is written over or after. -/
theorem update_map_pairs (l m : List (κ × υ)) :
    update (l.map fun e => (f e.1, g e.2)) (m.map fun e => (f e.1, g e.2)) =
      (update l m).map fun e => (f e.1, g e.2) := by
  have hinsert : ∀ (k : κ) (v : υ) (l : List (κ × υ)),
      insert (f k) (g v) (l.map fun e => (f e.1, g e.2)) =
        (insert k v l).map fun e => (f e.1, g e.2) := by
    intro k v l
    rw [insert, insert, lookup_map_pairs hf, Option.isSome_map, modify_map_pairs hf]
    split
    · rfl
    · simp
  induction m generalizing l with
  | nil => rfl
  | cons e m ih =>
    have hstep := ih (insert e.1 e.2 l)
    rw [← hinsert] at hstep
    exact hstep

end mapPairs

end Assoc
