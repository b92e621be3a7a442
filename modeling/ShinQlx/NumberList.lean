import Mathlib.Tactic.Ring
import ShinQlx.Text

/-! # Lists of numbers as text

Numbers are written in decimal with a separator between them, and what is no number among the
pieces of a text is left out when they are read.  What was written is read back; a text that was
read can be written again in no more room; and of a text that is cut off at its end (`read_front`)
all numbers are read but the last ones, and perhaps the leading digits of the first of these.
-/
namespace NumberList

/-- `str::parse` for an unsigned integer type of `width` bits. -/
def parseUInt (width : Nat) (s : String) : Option Nat :=
  let value :=
    match s.toList with
    | '+' :: cs => Text.digits cs
    | cs => Text.digits cs
  value.filter fun n => n < 2 ^ width

/-- The numbers among the pieces of a text. -/
def read (width : Nat) (c : Char) (s : String) : List Nat :=
  (Text.split c s).filterMap (parseUInt width)

/-- Numbers with a separator between them. -/
def write (sep : String) (ns : List Nat) : String := sep.intercalate (ns.map toString)

/-! ## One number -/

theorem toList_toString (n : Nat) : (toString n).toList = Nat.toDigits 10 n := Nat.toList_repr

theorem isDigit_of_mem_toString {n : Nat} {c : Char} (hc : c ∈ (toString n).toList) :
    c.isDigit = true := by
  rw [toList_toString] at hc
  exact Nat.isDigit_of_mem_toDigits (by decide) (by decide) hc

/-- A number is read back, if it fits. -/
theorem parseUInt_toString (width n : Nat) :
    parseUInt width (toString n) = if n < 2 ^ width then some n else none := by
  have hvalue : parseUInt width (toString n) = (some n).filter fun n => n < 2 ^ width := by
    simp only [parseUInt, toList_toString]
    split
    next cs h =>
      have hplus : ('+').isDigit = true :=
        Nat.isDigit_of_mem_toDigits (b := 10) (n := n) (by decide) (by decide) (by simp [h])
      exact absurd hplus (by decide)
    next => rw [Text.digits_toDigits]
  rw [hvalue, Option.filter_some]
  simp

/-- Digits stand for a number that is not longer. -/
theorem lt_of_digits {cs : List Char} {n : Nat} (h : Text.digits cs = some n) :
    0 < cs.length ∧ n < 10 ^ cs.length := by
  have hfold : ∀ (cs : List Char) (m : Nat), (∀ c ∈ cs, c.isDigit = true) →
      cs.foldl (fun n c => 10 * n + (c.toNat - 48)) m < (m + 1) * 10 ^ cs.length := by
    intro cs
    induction cs with
    | nil => intro m _; simp
    | cons c cs ih =>
      intro m hcs
      obtain ⟨hc, hcs⟩ := List.forall_mem_cons.mp hcs
      have hdigit : c.toNat - 48 ≤ 9 := by
        have hle : c.toNat ≤ 57 := (Char.isDigit_iff_toNat.mp hc).2
        omega
      calc cs.foldl (fun n c => 10 * n + (c.toNat - 48)) (10 * m + (c.toNat - 48))
          < (10 * m + (c.toNat - 48) + 1) * 10 ^ cs.length := ih _ hcs
        _ ≤ (10 * (m + 1)) * 10 ^ cs.length := Nat.mul_le_mul_right _ (by omega)
        _ = (m + 1) * 10 ^ (c :: cs).length := by rw [List.length_cons, Nat.pow_succ]; ring
  rw [Text.digits] at h
  split at h
  next hcs =>
    obtain ⟨hne, hdigits⟩ := Bool.and_eq_true_iff.mp hcs
    obtain rfl := Option.some.inj h
    refine ⟨List.length_pos_iff.mpr (by simpa using hne), ?_⟩
    have hlt := hfold cs 0 (List.all_eq_true.mp hdigits)
    rwa [Nat.zero_add, Nat.one_mul] at hlt
  next => cases h

/-- A number is written in no more room than it was read from. -/
theorem length_toString_le {width : Nat} {s : String} {n : Nat} (h : parseUInt width s = some n) :
    (toString n).toList.length ≤ s.toList.length := by
  have hdigits : ∀ {cs : List Char}, Text.digits cs = some n →
      (toString n).toList.length ≤ cs.length := by
    intro cs hcs
    obtain ⟨hpos, hlt⟩ := lt_of_digits hcs
    rw [toList_toString]
    exact (Nat.length_toDigits_le_iff (by decide) hpos).mpr hlt
  have hvalue := (Option.filter_eq_some_iff.mp h).1
  split at hvalue
  next cs hcs =>
    rw [hcs, List.length_cons]
    exact Nat.le_succ_of_le (hdigits hvalue)
  next => exact hdigits hvalue

theorem lt_of_parseUInt {width : Nat} {s : String} {n : Nat} (h : parseUInt width s = some n) :
    n < 2 ^ width := by
  simpa using (Option.filter_eq_some_iff.mp h).2

/-- The leading digits of a number. -/
theorem toDigits_front {n : Nat} {front back : List Char} (hfront : front ≠ [])
    (h : Nat.toDigits 10 n = front ++ back) :
    front = Nat.toDigits 10 (n / 10 ^ back.length) ∧ (back ≠ [] → 10 ^ back.length ≤ n) := by
  induction back using List.reverseRecOn generalizing n with
  | nil => simpa using h.symm
  | append_singleton back c ih =>
    have hge : 10 ≤ n := by
      by_contra hlt
      have hlength := congrArg List.length (Nat.toDigits_of_lt_base (Nat.lt_of_not_le hlt))
      have hpos := List.length_pos_iff.mpr hfront
      rw [h] at hlength
      simp only [List.length_append, List.length_cons, List.length_nil] at hlength
      omega
    rw [Nat.toDigits_of_base_le (by decide) hge, ← List.append_assoc] at h
    obtain ⟨hstart, -⟩ := List.append_inj' h rfl
    obtain ⟨hdigits, hle⟩ := ih hstart
    rw [Nat.div_div_eq_div_mul, ← Nat.pow_succ'] at hdigits
    rw [List.length_append, List.length_singleton]
    refine ⟨hdigits, fun _ => ?_⟩
    by_cases hback : back = []
    · subst hback
      simpa using hge
    · have hle := hle hback
      rw [Nat.pow_succ]
      omega

/-! ## Lists -/

section lists
variable {width : Nat} {c : Char} {sep : String}

theorem notMem_toString (hc : c.isDigit = false) (n : Nat) : c ∉ (toString n).toList := by
  intro hmem
  rw [isDigit_of_mem_toString hmem] at hc
  cases hc

/-- A number on its own is one piece. -/
theorem read_toString (hc : c.isDigit = false) (n : Nat) :
    read width c (toString n) = if n < 2 ^ width then [n] else [] := by
  rw [read, Text.split_of_notMem (notMem_toString hc n), List.filterMap_cons, parseUInt_toString]
  by_cases h : n < 2 ^ width
  · rw [if_pos h, if_pos h]
    rfl
  · rw [if_neg h, if_neg h]
    rfl

/-- Texts with separators between them are read one by one. -/
theorem read_intercalate (hsep : sep.toList = [c]) (ts : List String) :
    read width c (sep.intercalate ts) = ts.flatMap (read width c) := by
  by_cases hts : ts = []
  · subst hts
    simp [read, Text.split, parseUInt, Text.digits]
  · rw [read, Text.split_intercalate hsep hts, List.filterMap_flatMap]
    rfl

/-- Numbers that were written are read back. -/
theorem read_write (hsep : sep.toList = [c]) (hc : c.isDigit = false) {ns : List Nat}
    (h : ∀ n ∈ ns, n < 2 ^ width) : read width c (write sep ns) = ns := by
  rw [write, read_intercalate hsep]
  induction ns with
  | nil => rfl
  | cons n ns ih =>
    obtain ⟨hn, hns⟩ := List.forall_mem_cons.mp h
    rw [List.map_cons, List.flatMap_cons, read_toString hc, if_pos hn, ih hns]
    rfl

/-- The room that texts with a separator between them take. -/
theorem length_intercalate (hsep : sep.toList = [c]) (ts : List String) :
    (sep.intercalate ts).toList.length = (ts.map fun t => t.toList.length + 1).sum - 1 := by
  induction ts with
  | nil => rfl
  | cons t ts ih =>
    cases ts with
    | nil => simp
    | cons t' ts =>
      rw [String.intercalate_cons_cons, String.toList_append, String.toList_append, hsep,
        List.length_append, List.length_append, ih]
      simp only [List.map_cons, List.sum_cons, List.length_singleton]
      omega

/-- Numbers that were read are written in no more room. -/
theorem length_write_read_le (hsep : sep.toList = [c]) (s : String) :
    (write sep (read width c s)).toList.length ≤ s.toList.length := by
  have hsplit : s.toList.length = (sep.intercalate (Text.split c s)).toList.length := by
    rw [String.toList_intercalate, hsep, Text.intercalate_split]
  rw [hsplit, write, read, length_intercalate hsep, length_intercalate hsep]
  refine Nat.sub_le_sub_right ?_ 1
  induction Text.split c s with
  | nil => exact Nat.le_refl 0
  | cons piece pieces ih =>
    rw [List.filterMap_cons, List.map_cons, List.sum_cons]
    cases hparse : parseUInt width piece with
    | none => exact Nat.le_add_left_of_le ih
    | some n =>
      have hle := length_toString_le hparse
      simp only [List.map_cons, List.sum_cons]
      omega

/-- The start of texts with a separator between them. -/
theorem splitOn_front {α : Type} [DecidableEq α] {a : α} {pieces : List (List α)}
    {front back : List α} (hne : pieces ≠ []) (hpieces : ∀ piece ∈ pieces, a ∉ piece)
    (h : [a].intercalate pieces = front ++ back) :
    ∃ done start rest later, pieces = done ++ (start ++ rest) :: later ∧
      front.splitOn a = done ++ [start] ∧ (later = [] → back = rest) := by
  induction pieces generalizing front with
  | nil => exact absurd rfl hne
  | cons piece pieces ih =>
    obtain ⟨hpiece, hpieces⟩ := List.forall_mem_cons.mp hpieces
    cases pieces with
    | nil =>
      rw [List.intercalate_singleton] at h
      refine ⟨[], front, back, [], by rw [h]; rfl, ?_, fun _ => rfl⟩
      exact List.splitOn_eq_singleton fun hmem => hpiece (h ▸ List.mem_append_left back hmem)
    | cons piece' pieces =>
      rw [List.intercalate_cons_cons, List.append_assoc, List.singleton_append] at h
      rcases List.append_eq_append_iff.mp h with ⟨behind, rfl, hbehind⟩ | ⟨rest, rfl, hrest⟩
      · cases behind with
        | nil =>
          rw [List.append_nil]
          refine ⟨[], piece, [], piece' :: pieces, by simp, ?_, fun h => by cases h⟩
          exact List.splitOn_eq_singleton hpiece
        | cons b front =>
          obtain ⟨rfl, hfront⟩ := List.cons.inj hbehind
          obtain ⟨done, start, rest, later, hdone, hsplit, hback⟩ :=
            ih (List.cons_ne_nil _ _) hpieces hfront
          refine ⟨piece :: done, start, rest, later, by rw [hdone]; rfl, ?_, hback⟩
          rw [List.splitOn_append_cons_self, hsplit, List.splitOn_eq_singleton hpiece]
          rfl
      · refine ⟨[], front, rest, piece' :: pieces, rfl, ?_, fun h => by cases h⟩
        exact List.splitOn_eq_singleton fun hmem => hpiece (List.mem_append_left rest hmem)

/-- **A text that is cut off.**  All numbers are read but the last ones, and of the first of these
perhaps some leading digits. -/
theorem read_front (hsep : sep.toList = [c]) (hc : c.isDigit = false) {ns : List Nat}
    (h : ∀ n ∈ ns, n < 2 ^ width) {front back : List Char} (hback : back ≠ [])
    (hns : (write sep ns).toList = front ++ back) :
    ∃ kept n lost, ns = kept ++ n :: lost ∧
      (read width c (String.ofList front) = kept ∨
        ∃ m, 0 < m ∧ 10 ^ m ≤ n ∧ read width c (String.ofList front) = kept ++ [n / 10 ^ m]) := by
  have hne : ns ≠ [] := by
    rintro rfl
    exact hback (List.append_eq_nil_iff.mp hns.symm).2
  have hpieces : [c].intercalate (ns.map (Nat.toDigits 10)) = front ++ back := by
    rw [← hns, write, String.toList_intercalate, hsep, List.map_map]
    exact congrArg _ (List.map_congr_left fun n _ => (toList_toString n).symm)
  obtain ⟨done, start, rest, later, hdone, hsplit, hlater⟩ := splitOn_front
    (fun hnil => hne (List.map_eq_nil_iff.mp hnil))
    (fun piece hpiece => by
      obtain ⟨n, -, rfl⟩ := List.mem_map.mp hpiece
      rw [← toList_toString]
      exact notMem_toString hc n) hpieces
  obtain ⟨kept, ns', rfl, rfl, hns'⟩ := List.map_eq_append_iff.mp hdone
  obtain ⟨n, lost, rfl, hn, rfl⟩ := List.map_eq_cons_iff.mp hns'
  have hkept : read width c (String.ofList front) =
      kept ++ (parseUInt width (String.ofList start)).toList := by
    have hread : ∀ n ∈ kept, parseUInt width (String.ofList (Nat.toDigits 10 n)) = some n :=
      fun n hn => (parseUInt_toString width n).trans
        (if_pos (h n (List.mem_append_left (_ :: lost) hn)))
    rw [read, Text.split, String.toList_ofList, hsplit, List.map_append, List.filterMap_append,
      List.map_map, List.filterMap_map]
    congr 1
    exact (List.filterMap_congr hread).trans List.filterMap_some
  rw [hkept]
  by_cases hstart : start = []
  · subst hstart
    exact ⟨kept, n, lost, rfl, .inl (List.append_nil kept)⟩
  · obtain ⟨hdigits, hle⟩ := toDigits_front hstart hn
    have hfit : n / 10 ^ rest.length < 2 ^ width :=
      Nat.lt_of_le_of_lt (Nat.div_le_self _ _) (h n (by simp))
    have hparse : parseUInt width (String.ofList start) = some (n / 10 ^ rest.length) := by
      rw [hdigits]
      exact (parseUInt_toString width _).trans (if_pos hfit)
    rw [hparse]
    by_cases hrest : rest = []
    · -- all of this number is read, so that another one is lost
      subst hrest
      obtain ⟨n', lost', rfl⟩ : ∃ n' lost', lost = n' :: lost' :=
        List.exists_cons_of_ne_nil fun hlost => hback (hlater (by rw [hlost]; rfl))
      refine ⟨kept ++ [n], n', lost', by simp, .inl ?_⟩
      simp
    · exact ⟨kept, n, lost, rfl, .inr ⟨rest.length, List.length_pos_iff.mpr hrest, hle hrest, rfl⟩⟩

end lists
end NumberList
