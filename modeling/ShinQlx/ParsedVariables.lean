import ShinQlx.Assoc
import ShinQlx.Python
import ShinQlx.Text

/-! # Info strings

Userinfos, the server info and the round status travel as info strings,
`\key\value\key\value`.  `parseVariables` cuts one into its items and drops a key
without a value.  A lookup is a parallel search that comes up with any of the
items of a key; `pick` is its choice among them.
-/
namespace ShinQlx

/-- `ParsedVariables`: the items in the order of the string. -/
abbrev ParsedVariables := List (String × String)

/-- `Itertools::tuples` for pairs. -/
def tuples {α : Type} : List α → List (α × α)
  | a :: b :: rest => (a, b) :: tuples rest
  | _ => []

/-- `parse_variables`. -/
def parseVariables (varstr : String) : ParsedVariables :=
  if Text.isBlank varstr then []
  else tuples (Text.split '\\' ((Text.stripPrefix "\\" varstr).getD varstr))

namespace ParsedVariables

/-- `ParsedVariables::contains`. -/
def contains (item : String) (items : ParsedVariables) : Bool := items.any (·.1 = item)

/-- `ParsedVariables::get`, where the search finds the `pick`-th of the items of
the key. -/
def get (pick : Nat) (item : String) (items : ParsedVariables) : Option String :=
  let found := items.filter (·.1 = item)
  (found[pick % found.length]?).map (·.2)

/-- `ParsedVariables::set`. -/
def set (item value : String) (items : ParsedVariables) : ParsedVariables :=
  items.filter (·.1 ≠ item) ++ [(item, value)]

/-- A variable as a 32-bit integer, with the exceptions of a missing and of an
unreadable one. -/
def getInt (pick : Nat) (item : String) (items : ParsedVariables) : PyResult Int :=
  match get pick item items with
  | none => .error (.keyError s!"'{item}'")
  | some text =>
    match Text.parseInt 32 text with
    | none => .error (.valueError s!"invalid literal for int() with base 10: {text}")
    | some i => .ok i

/-- Of distinct keys, a search comes up with the only item. -/
theorem get_eq_lookup (pick : Nat) (item : String) {items : ParsedVariables}
    (h : (items.map Prod.fst).Nodup) : get pick item items = Assoc.lookup item items := by
  have hfound : items.filter (·.1 = item) =
      ((Assoc.lookup item items).map (item, ·)).toList := by
    induction items with
    | nil => rfl
    | cons x items ih =>
      obtain ⟨key, value⟩ := x
      obtain ⟨hkey, hitems⟩ := List.nodup_cons.mp h
      rw [Assoc.lookup_cons]
      by_cases heq : key = item
      · subst heq
        rw [if_pos rfl, List.filter_cons_of_pos (by simp), ih hitems,
          Assoc.lookup_eq_none_iff.mpr hkey]
        rfl
      · rw [if_neg heq, List.filter_cons_of_neg (by simpa using heq), ih hitems]
  rw [get, hfound]
  cases Assoc.lookup item items <;> simp [Nat.mod_one]

/-- `String::from`: the variables as an info string. -/
def infoString (items : ParsedVariables) : String :=
  String.join (items.map fun x => "\\" ++ x.1 ++ "\\" ++ x.2)

/-- The items of an info string in their order. -/
def texts (items : ParsedVariables) : List String := items.flatMap fun x => [x.1, x.2]

theorem toList_infoString {items : ParsedVariables} (hne : items ≠ []) :
    (infoString items).toList = '\\' :: ['\\'].intercalate ((texts items).map String.toList) := by
  induction items with
  | nil => exact absurd rfl hne
  | cons x items ih =>
    cases items with
    | nil => simp [infoString, texts, String.join_cons, List.intercalate_cons_cons]
    | cons y items =>
      have hstep : (infoString (x :: y :: items)).toList =
          '\\' :: (x.1.toList ++ '\\' :: x.2.toList) ++ (infoString (y :: items)).toList := by
        simp [infoString, String.join_cons]
      rw [hstep, ih (List.cons_ne_nil y items)]
      simp [texts, List.intercalate_cons_cons]

theorem tuples_texts (items : ParsedVariables) : tuples (texts items) = items := by
  induction items with
  | nil => rfl
  | cons x items ih => exact congrArg (x :: ·) ih

/-- What stands between the backslashes is read. -/
theorem parseVariables_eq_tuples {s : String} {pieces : List String} (hne : pieces ≠ [])
    (hpieces : ∀ piece ∈ pieces, '\\' ∉ piece.toList)
    (hs : s.toList = '\\' :: ['\\'].intercalate (pieces.map String.toList)) :
    parseVariables s = tuples pieces := by
  have hblank : Text.isBlank s = false := by
    rw [Text.isBlank, hs, List.all_cons]
    rfl
  have hstrip : Text.stripPrefix "\\" s =
      some (String.ofList (['\\'].intercalate (pieces.map String.toList))) := by
    rw [Text.stripPrefix_eq_some, ← String.toList_inj, hs]
    simp
  have hlists : ∀ l ∈ pieces.map String.toList, '\\' ∉ l := List.forall_mem_map.mpr hpieces
  have hid : String.ofList ∘ String.toList = id := funext fun s => String.ofList_toList
  rw [parseVariables, hblank, hstrip]
  simp only [Option.getD_some, Text.split, String.toList_ofList, Bool.false_eq_true, if_false]
  rw [List.splitOn_intercalate _ hlists (by simpa using hne), List.map_map, hid, List.map_id]

theorem forall_mem_texts {items : ParsedVariables} {p : String → Prop}
    (h : ∀ x ∈ items, p x.1 ∧ p x.2) : ∀ s ∈ texts items, p s := by
  intro s hs
  obtain ⟨x, hx, hs⟩ := List.mem_flatMap.mp hs
  rcases List.mem_cons.mp hs with rfl | hs
  · exact (h x hx).1
  · exact List.mem_singleton.mp hs ▸ (h x hx).2

/-- **An info string is read back**, if no backslash is in its items. -/
theorem parseVariables_infoString {items : ParsedVariables} (hne : items ≠ [])
    (h : ∀ x ∈ items, '\\' ∉ x.1.toList ∧ '\\' ∉ x.2.toList) :
    parseVariables (infoString items) = items := by
  have htexts : texts items ≠ [] := by
    obtain ⟨x, items, rfl⟩ := List.exists_cons_of_ne_nil hne
    exact List.cons_ne_nil _ _
  rw [parseVariables_eq_tuples htexts (forall_mem_texts h) (toList_infoString hne), tuples_texts]

end ParsedVariables
end ShinQlx
