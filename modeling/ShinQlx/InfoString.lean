import ShinQlx.ParsedVariables

/-! # Reading and printing info strings

`parse_variables` and the printing of variables go together: what is printed is read back,
and what is read of any string stays the same when it is printed and read again.  Printing
begins with the backslash that a string may lack, and a key that has no value is gone.

`set` puts one item for its key behind the items of the other keys.
-/
namespace ShinQlx
namespace ParsedVariables

/-- Items that an info string keeps apart. -/
def Separable (items : ParsedVariables) : Prop :=
  ∀ x ∈ items, '\\' ∉ x.1.toList ∧ '\\' ∉ x.2.toList

/-- Info strings are read and printed without a loss. -/
structure Codec : Prop where
  printed : ∀ items, Separable items → parseVariables (infoString items) = items
  parsed : ∀ s, parseVariables (infoString (parseVariables s)) = parseVariables s
  leading : ∀ s, s.toList.head? ≠ some '\\' → parseVariables ("\\" ++ s) = parseVariables s
  added : ∀ s, parseVariables s ≠ [] → (infoString (parseVariables s)).toList.head? = some '\\'
  trailing : ∀ items key, Separable items → '\\' ∉ key.toList →
    parseVariables (infoString items ++ "\\" ++ key) = items

/-- A variable is set in the items of a string, and nothing else is changed. -/
structure IsSet (items : ParsedVariables) (key value : String) (after : ParsedVariables) :
    Prop where
  found : ∀ pick, after.get pick key = some value
  one : after.filter (·.1 = key) = [(key, value)]
  others : after.filter (·.1 ≠ key) = items.filter (·.1 ≠ key)

/-! ## What is read -/

theorem mem_of_mem_tuples {α : Type} {l : List α} {x : α × α} (h : x ∈ tuples l) :
    x.1 ∈ l ∧ x.2 ∈ l := by
  induction l using tuples.induct with
  | case1 a b rest ih =>
    rcases List.mem_cons.mp h with rfl | h
    · simp
    · obtain ⟨h1, h2⟩ := ih h
      simp [h1, h2]
  | case2 l hl =>
    rw [tuples] at h
    · cases h
    · exact hl

/-- The items that are read have no backslash. -/
theorem separable_parseVariables (s : String) : Separable (parseVariables s) := by
  intro x hx
  rw [parseVariables] at hx
  split at hx
  next => cases hx
  next =>
    obtain ⟨hkey, hvalue⟩ := mem_of_mem_tuples hx
    exact ⟨Text.notMem_of_mem_split hkey, Text.notMem_of_mem_split hvalue⟩

theorem parseVariables_infoString_of_separable {items : ParsedVariables} (h : Separable items) :
    parseVariables (infoString items) = items := by
  rcases eq_or_ne items [] with rfl | hne
  · rfl
  · exact parseVariables_infoString hne h

/-- A string that does not begin with a backslash is read as if it did. -/
theorem parseVariables_backslash {s : String} (h : s.toList.head? ≠ some '\\') :
    parseVariables ("\\" ++ s) = parseVariables s := by
  have hblank : Text.isBlank ("\\" ++ s) = false := by
    rw [Text.isBlank, String.toList_append, List.all_append]
    rfl
  have hstrip : Text.stripPrefix "\\" ("\\" ++ s) = some s := Text.stripPrefix_eq_some.mpr rfl
  have hnone : Text.stripPrefix "\\" s = none := by
    refine Option.eq_none_iff_forall_not_mem.mpr fun rest hrest => h ?_
    rw [Text.stripPrefix_eq_some.mp hrest]
    simp
  rw [parseVariables, parseVariables, hblank, hstrip, hnone]
  simp only [Option.getD_some, Option.getD_none, Bool.false_eq_true, if_false]
  split
  next hs =>
    -- no white space is a backslash, so there is one piece only
    have hmem : '\\' ∉ s.toList := fun hmem =>
      absurd (List.all_eq_true.mp hs '\\' hmem) (by decide)
    rw [Text.split, List.splitOn_eq_singleton hmem]
    rfl
  next => rfl

theorem tuples_texts_concat (items : ParsedVariables) (key : String) :
    tuples (texts items ++ [key]) = items := by
  induction items with
  | nil => rfl
  | cons x items ih => exact congrArg (x :: ·) ih

/-- The characters of an info string, with a further piece. -/
theorem toList_infoString_append (items : ParsedVariables) (key : String) :
    (infoString items ++ "\\" ++ key).toList =
      '\\' :: ['\\'].intercalate ((texts items ++ [key]).map String.toList) := by
  induction items with
  | nil => simp [infoString, texts]
  | cons x items ih =>
    have hstep : (infoString (x :: items) ++ "\\" ++ key).toList =
        '\\' :: (x.1.toList ++ '\\' :: x.2.toList) ++ (infoString items ++ "\\" ++ key).toList := by
      simp [infoString, String.join_cons]
    have hne : (texts items ++ [key]).map String.toList ≠ [] := by simp
    have htexts : texts (x :: items) ++ [key] = x.1 :: x.2 :: (texts items ++ [key]) := rfl
    rw [hstep, ih, htexts, List.map_cons, List.map_cons, List.intercalate_cons_cons,
      List.intercalate_cons_of_ne_nil hne]
    simp

/-- A key without a value is dropped. -/
theorem parseVariables_trailing {items : ParsedVariables} (h : Separable items) {key : String}
    (hkey : '\\' ∉ key.toList) : parseVariables (infoString items ++ "\\" ++ key) = items := by
  have hpieces : ∀ piece ∈ texts items ++ [key], '\\' ∉ piece.toList := by
    intro piece hpiece
    rcases List.mem_append.mp hpiece with hpiece | hpiece
    · exact forall_mem_texts (p := fun s => '\\' ∉ s.toList) h piece hpiece
    · exact List.mem_singleton.mp hpiece ▸ hkey
  rw [parseVariables_eq_tuples (by simp) hpieces (toList_infoString_append items key),
    tuples_texts_concat]

/-- **Info strings are read and printed without a loss.** -/
theorem codec : Codec where
  printed _ h := parseVariables_infoString_of_separable h
  parsed s := parseVariables_infoString_of_separable (separable_parseVariables s)
  leading _ h := parseVariables_backslash h
  added s h := by rw [toList_infoString h, List.head?_cons]
  trailing _ _ h hkey := parseVariables_trailing h hkey

theorem filter_set_self (key value : String) (items : ParsedVariables) :
    (set key value items).filter (·.1 = key) = [(key, value)] := by
  have hnone : (items.filter (·.1 ≠ key)).filter (·.1 = key) = [] := by
    rw [List.filter_filter, List.filter_eq_nil_iff]
    simp
  rw [set, List.filter_append, hnone]
  simp

theorem isSet (items : ParsedVariables) (key value : String) :
    IsSet items key value (set key value items) where
  found pick := by simp [get, filter_set_self, Nat.mod_one]
  one := filter_set_self key value items
  others := by simp [set, List.filter_append, List.filter_filter]

theorem separable_set {items : ParsedVariables} (h : Separable items) {key value : String}
    (hkey : '\\' ∉ key.toList) (hvalue : '\\' ∉ value.toList) :
    Separable (set key value items) := by
  intro x hx
  rcases List.mem_append.mp hx with hx | hx
  · exact h x (List.mem_of_mem_filter hx)
  · exact List.mem_singleton.mp hx ▸ ⟨hkey, hvalue⟩

end ParsedVariables

open ParsedVariables in
/-- **Info strings keep their variables**: they are read and printed without a loss, and
setting one variable leaves the others as they are, also when it is printed and read
again. -/
theorem infoString_codec :
    Codec ∧ ∀ s key value, IsSet (parseVariables s) key value (set key value (parseVariables s)) ∧
      ('\\' ∉ key.toList → '\\' ∉ value.toList →
        parseVariables (infoString (set key value (parseVariables s))) =
          set key value (parseVariables s)) :=
  ⟨codec, fun s key value => ⟨isSet _ key value, fun hkey hvalue =>
    parseVariables_infoString_of_separable
      (separable_set (separable_parseVariables s) hkey hvalue)⟩⟩

end ShinQlx
