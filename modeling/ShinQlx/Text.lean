import Mathlib.Algebra.Group.Int.Defs
import Mathlib.Algebra.GroupWithZero.Nat
import Mathlib.Data.List.DropRight
import Mathlib.Data.List.Infix

/-! # Text as the standard library of Rust reads it

The string functions that the code relies on, over the characters of a string:
white space, words, prefixes, splitting at a character and parsing integers of a
bounded width.
-/
namespace Text

/-- `char::is_whitespace`: the characters with the Unicode property
`White_Space`. -/
def isWhitespace (c : Char) : Bool :=
  let n := c.toNat
  (9 ≤ n && n ≤ 13) || n = 32 || n = 0x85 || n = 0xA0 || n = 0x1680 ||
    (0x2000 ≤ n && n ≤ 0x200A) || n = 0x2028 || n = 0x2029 || n = 0x202F || n = 0x205F || n = 0x3000

/-- `str::split_whitespace`. -/
def splitWhitespace (s : String) : List String :=
  ((s.toList.splitOnP isWhitespace).filter (!·.isEmpty)).map String.ofList

/-- `str::split` at a character. -/
def split (c : Char) (s : String) : List String := (s.toList.splitOn c).map String.ofList

/-- `str::split_once` at a character. -/
def splitOnce (c : Char) (s : String) : Option (String × String) :=
  if c ∈ s.toList then
    some (String.ofList (s.toList.takeWhile (· ≠ c)),
      String.ofList ((s.toList.dropWhile (· ≠ c)).drop 1))
  else none

/-- `str::trim`. -/
def trim (s : String) : String :=
  String.ofList ((s.toList.dropWhile isWhitespace).rdropWhile isWhitespace)

/-- `str::trim` leaves nothing. -/
def isBlank (s : String) : Bool := s.toList.all isWhitespace

/-- `str::strip_prefix`. -/
def stripPrefix (start s : String) : Option String :=
  (start.toList.isPrefixOf? s.toList).map String.ofList

/-- `str::strip_suffix`. -/
def stripSuffix (ending s : String) : Option String :=
  (ending.toList.reverse.isPrefixOf? s.toList.reverse).map fun cs => String.ofList cs.reverse

/-- `str::replace` of a character. -/
def replace (c d : Char) (s : String) : String :=
  String.ofList (s.toList.map fun e => if e = c then d else e)

/-- `str::contains`. -/
def contains (s part : String) : Bool := decide (part.toList <:+: s.toList)

/-- The bytes of a text are those of its characters. -/
theorem utf8ByteSize_ofList (cs : List Char) :
    (String.ofList cs).utf8ByteSize = (cs.map Char.utf8Size).sum := by
  induction cs with
  | nil => rfl
  | cons c cs ih =>
    have hcons : String.ofList (c :: cs) = String.singleton c ++ String.ofList cs := by
      rw [String.singleton_eq_ofList, ← String.ofList_append]
      rfl
    rw [hcons, String.utf8ByteSize_append, String.utf8ByteSize_singleton, ih]
    rfl

theorem length_le_utf8ByteSize (s : String) : s.toList.length ≤ s.utf8ByteSize := by
  have hsum : ∀ cs : List Char, cs.length ≤ (cs.map Char.utf8Size).sum := by
    intro cs
    induction cs with
    | nil => exact Nat.le_refl 0
    | cons c cs ih =>
      have hpos := c.utf8Size_pos
      rw [List.length_cons, List.map_cons, List.sum_cons]
      omega
  have hsize := utf8ByteSize_ofList s.toList
  rw [String.ofList_toList] at hsize
  rw [hsize]
  exact hsum s.toList

theorem isPrefixOf?_eq_some {α : Type} [DecidableEq α] {start s rest : List α} :
    start.isPrefixOf? s = some rest ↔ s = start ++ rest := by
  induction start generalizing s with
  | nil => simp [List.isPrefixOf?, eq_comm]
  | cons c start ih =>
    cases s with
    | nil => simp [List.isPrefixOf?]
    | cons d s =>
      by_cases h : c = d
      · subst h
        simp [List.isPrefixOf?, ih]
      · simp [List.isPrefixOf?, h, Ne.symm h]

theorem stripPrefix_eq_some {start s rest : String} :
    stripPrefix start s = some rest ↔ s = start ++ rest := by
  rw [stripPrefix, Option.map_eq_some_iff]
  constructor
  · rintro ⟨cs, hcs, rfl⟩
    have hs := congrArg String.ofList (isPrefixOf?_eq_some.mp hcs)
    rwa [String.ofList_toList, String.ofList_append, String.ofList_toList] at hs
  · rintro rfl
    exact ⟨rest.toList, isPrefixOf?_eq_some.mpr String.toList_append, String.ofList_toList⟩

/-- The text up to and with the first `delimiter` in it, and the text behind that. -/
def cut (delimiter : List Char) : List Char → Option (List Char × List Char)
  | [] => none
  | c :: cs =>
    match delimiter.isPrefixOf? (c :: cs) with
    | some rest => some (delimiter, rest)
    | none => (cut delimiter cs).map fun x => (c :: x.1, x.2)

/-- The pieces of a text that are cut off behind a delimiter, for at most `n` cuts. -/
def cuts (delimiter : List Char) : Nat → List Char → List (List Char)
  | 0, cs => [cs]
  | n + 1, cs =>
    match cut delimiter cs with
    | some (piece, rest) => piece :: cuts delimiter n rest
    | none => if cs = [] then [] else [cs]

/-- `str::split_inclusive`.  An empty delimiter is in front of the text and behind each
character. -/
def splitInclusive (delimiter s : String) : List String :=
  if delimiter = "" then "" :: s.toList.map String.singleton
  else (cuts delimiter.toList (s.toList.length + 1) s.toList).map String.ofList

theorem cut_eq_some {delimiter cs piece rest : List Char}
    (h : cut delimiter cs = some (piece, rest)) : cs = piece ++ rest ∧ delimiter <:+ piece := by
  induction cs generalizing piece with
  | nil => cases h
  | cons c cs ih =>
    rw [cut] at h
    split at h
    next rest' hrest =>
      obtain ⟨rfl, rfl⟩ := Prod.mk.inj (Option.some.inj h)
      exact ⟨isPrefixOf?_eq_some.mp hrest, List.suffix_rfl⟩
    next =>
      obtain ⟨⟨piece', rest'⟩, hcut, heq⟩ := Option.map_eq_some_iff.mp h
      obtain ⟨rfl, rfl⟩ := Prod.mk.inj heq
      obtain ⟨rfl, hsuffix⟩ := ih hcut
      exact ⟨rfl, hsuffix.trans (List.suffix_cons c piece')⟩

/-- The pieces make up the text. -/
theorem flatten_cuts (delimiter : List Char) (n : Nat) (cs : List Char) :
    (cuts delimiter n cs).flatten = cs := by
  induction n generalizing cs with
  | zero => simp [cuts]
  | succ n ih =>
    rw [cuts]
    split
    next piece rest hcut => rw [List.flatten_cons, ih, (cut_eq_some hcut).1]
    next => split <;> simp_all

/-- Every piece but the last ends with the delimiter. -/
theorem suffix_of_mem_cuts {delimiter : List Char} {n : Nat} {cs piece : List Char}
    (h : piece ∈ (cuts delimiter n cs).dropLast) : delimiter <:+ piece := by
  induction n generalizing cs with
  | zero => simp [cuts] at h
  | succ n ih =>
    rw [cuts] at h
    split at h
    next first rest hcut =>
      cases hrest : cuts delimiter n rest with
      | nil => simp [hrest] at h
      | cons second more =>
        rw [hrest, List.dropLast_cons_cons, List.mem_cons] at h
        rcases h with rfl | h
        · exact (cut_eq_some hcut).2
        · exact ih (hrest ▸ h)
    next => split at h <;> simp at h

theorem map_toList_ofList (ls : List (List Char)) :
    (ls.map String.ofList).map String.toList = ls := by
  have hid : String.toList ∘ String.ofList = id := funext fun cs => String.toList_ofList
  rw [List.map_map, hid, List.map_id]

/-- The number of cuts that `splitInclusive` allows for is enough. -/
theorem cuts_of_length_lt {delimiter : List Char} (hne : delimiter ≠ []) {n m : Nat}
    {cs : List Char} (hn : cs.length < n) (hm : cs.length < m) :
    cuts delimiter n cs = cuts delimiter m cs := by
  induction n generalizing m cs with
  | zero => exact absurd hn (Nat.not_lt_zero _)
  | succ n ih =>
    cases m with
    | zero => exact absurd hm (Nat.not_lt_zero _)
    | succ m =>
      rw [cuts, cuts]
      cases hcut : cut delimiter cs with
      | none => rfl
      | some x =>
        have hcut : cut delimiter cs = some (x.1, x.2) := hcut
        obtain ⟨rfl, hsuffix⟩ := cut_eq_some hcut
        have hpos := List.length_pos_iff.mpr hne
        have hle := hsuffix.length_le
        rw [List.length_append] at hn hm
        exact congrArg _ (ih (by omega) (by omega))

/-- The lines of a text make it up, with line feeds between them. -/
theorem intercalate_split (c : Char) (s : String) :
    [c].intercalate ((split c s).map String.toList) = s.toList := by
  rw [split, map_toList_ofList, List.intercalate_splitOn]

theorem notMem_of_mem_splitOn {α : Type} [DecidableEq α] {a : α} {cs piece : List α}
    (h : piece ∈ cs.splitOn a) : a ∉ piece := by
  induction cs generalizing piece with
  | nil =>
    obtain rfl : piece = [] := by simpa using h
    exact List.not_mem_nil
  | cons c cs ih =>
    rw [List.splitOn_cons_eq_if_modifyHead] at h
    split at h
    next =>
      rcases List.mem_cons.mp h with rfl | h
      · exact List.not_mem_nil
      · exact ih h
    next hc =>
      obtain ⟨first, rest, hsplit⟩ := List.exists_cons_of_ne_nil (List.splitOn_ne_nil a cs)
      rw [hsplit] at h ih
      rcases List.mem_cons.mp h with rfl | h
      · have hfirst := ih List.mem_cons_self
        simp only [beq_iff_eq] at hc
        simp [Ne.symm hc, hfirst]
      · exact ih (List.mem_cons_of_mem first h)

theorem sublist_of_mem_splitOn {α : Type} [DecidableEq α] {a : α} {cs piece : List α}
    (h : piece ∈ cs.splitOn a) : piece.Sublist cs := by
  induction cs generalizing piece with
  | nil =>
    obtain rfl : piece = [] := by simpa using h
    exact List.Sublist.refl []
  | cons c cs ih =>
    rw [List.splitOn_cons_eq_if_modifyHead] at h
    split at h
    next =>
      rcases List.mem_cons.mp h with rfl | h
      · exact List.nil_sublist _
      · exact (ih h).trans (List.sublist_cons_self c cs)
    next =>
      obtain ⟨first, rest, hsplit⟩ := List.exists_cons_of_ne_nil (List.splitOn_ne_nil a cs)
      rw [hsplit] at h ih
      rcases List.mem_cons.mp h with rfl | h
      · exact (ih List.mem_cons_self).cons_cons c
      · exact (ih (List.mem_cons_of_mem first h)).trans (List.sublist_cons_self c cs)

/-- What has no separator goes to the first piece of what follows. -/
theorem splitOn_append_of_notMem {α : Type} [DecidableEq α] {a : α} {cs ds first : List α}
    {rest : List (List α)} (h : a ∉ cs) (hds : ds.splitOn a = first :: rest) :
    (cs ++ ds).splitOn a = (cs ++ first) :: rest := by
  induction cs with
  | nil => exact hds
  | cons c cs ih =>
    rw [List.mem_cons, not_or] at h
    obtain ⟨hc, hcs⟩ := h
    rw [List.cons_append, List.splitOn_cons_eq_if_modifyHead, ih hcs,
      if_neg (by simpa using Ne.symm hc)]
    rfl

/-- The separator is in none of the pieces. -/
theorem notMem_of_mem_split {c : Char} {s piece : String} (h : piece ∈ split c s) :
    c ∉ piece.toList := by
  obtain ⟨cs, hcs, rfl⟩ := List.mem_map.mp h
  rw [String.toList_ofList]
  exact notMem_of_mem_splitOn hcs

/-- A text without the separator is one piece. -/
theorem split_of_notMem {c : Char} {s : String} (h : c ∉ s.toList) : split c s = [s] := by
  rw [split, List.splitOn_eq_singleton h]
  exact congrArg (· :: []) String.ofList_toList

/-- The separator between two texts keeps their pieces apart. -/
theorem split_append {c : Char} {sep : String} (hsep : sep.toList = [c]) (s t : String) :
    split c (s ++ sep ++ t) = split c s ++ split c t := by
  rw [split, String.toList_append, String.toList_append, hsep, List.append_assoc,
    List.singleton_append, List.splitOn_append_cons_self, List.map_append]
  rfl

/-- The pieces of texts with separators between them. -/
theorem split_intercalate {c : Char} {sep : String} (hsep : sep.toList = [c]) {ts : List String}
    (hne : ts ≠ []) : split c (sep.intercalate ts) = ts.flatMap (split c) := by
  induction ts with
  | nil => exact absurd rfl hne
  | cons t ts ih =>
    cases ts with
    | nil => simp
    | cons t' ts =>
      rw [String.intercalate_cons_cons, split_append hsep, ih (List.cons_ne_nil _ _)]
      exact List.flatMap_cons.symm

/-- A character other than the separator is in one of the texts. -/
theorem mem_intercalate {c d : Char} (hne : d ≠ c) (ls : List (List Char)) :
    d ∈ [c].intercalate ls ↔ ∃ l ∈ ls, d ∈ l := by
  induction ls with
  | nil => simp
  | cons l ls ih =>
    cases ls with
    | nil => simp
    | cons m ls => simp [List.intercalate_cons_cons, ih, hne]

/-- The number a non-empty sequence of decimal digits stands for. -/
def digits (cs : List Char) : Option Nat :=
  if !cs.isEmpty && cs.all Char.isDigit then
    some (cs.foldl (fun n c => 10 * n + (c.toNat - 48)) 0)
  else none

/-- `str::parse` for a signed integer type of `width` bits. -/
def parseInt (width : Nat) (s : String) : Option Int :=
  let value : Option Int :=
    match s.toList with
    | '+' :: cs => (digits cs).map Int.ofNat
    | '-' :: cs => (digits cs).map fun n => -(n : Int)
    | cs => (digits cs).map Int.ofNat
  value.filter fun i => -2 ^ (width - 1) ≤ i ∧ i < 2 ^ (width - 1)

theorem isDigit_of_digits {cs : List Char} {n : Nat} (h : digits cs = some n) {c : Char}
    (hc : c ∈ cs) : c.isDigit = true := by
  rw [digits] at h
  split at h
  next hcs => exact List.all_eq_true.mp (Bool.and_eq_true_iff.mp hcs).2 c hc
  next => cases h

/-- An integer is read from digits and a sign. -/
theorem mem_of_parseInt {width : Nat} {s : String} {i : Int} (h : parseInt width s = some i)
    {c : Char} (hc : c ∈ s.toList) : c = '+' ∨ c = '-' ∨ c.isDigit = true := by
  have hread : ∀ cs : List Char, digits cs ≠ none → ∀ c ∈ cs, c.isDigit = true := by
    intro cs hcs c hc
    obtain ⟨n, hn⟩ := Option.ne_none_iff_exists'.mp hcs
    exact isDigit_of_digits hn hc
  have hvalue := (Option.filter_eq_some_iff.mp h).1
  split at hvalue
  next cs hcs =>
    rw [hcs] at hc
    refine (List.mem_cons.mp hc).imp id fun hc => .inr (hread cs (fun hnone => ?_) c hc)
    simp [hnone] at hvalue
  next cs hcs =>
    rw [hcs] at hc
    refine .inr ((List.mem_cons.mp hc).imp id fun hc => hread cs (fun hnone => ?_) c hc)
    simp [hnone] at hvalue
  next =>
    refine .inr (.inr (hread _ (fun hnone => ?_) c hc))
    simp [hnone] at hvalue

/-- The digits of a number stand for it. -/
theorem digits_toDigits (n : Nat) : digits (Nat.toDigits 10 n) = some n := by
  have hdigits : (Nat.toDigits 10 n).all Char.isDigit = true :=
    List.all_eq_true.mpr fun c hc => Nat.isDigit_of_mem_toDigits (by decide) (by decide) hc
  have hne : (Nat.toDigits 10 n).isEmpty = false :=
    List.isEmpty_eq_false_iff.mpr Nat.toDigits_ne_nil
  have hvalue := Nat.ofDigitChars_ten_toDigits (n := n)
  rw [Nat.ofDigitChars_eq_foldl] at hvalue
  rw [digits, hdigits, hne]
  exact congrArg some hvalue

/-- An integer is read back, if it fits. -/
theorem parseInt_toString (width : Nat) (i : Int) :
    parseInt width (toString i) =
      if -2 ^ (width - 1) ≤ i ∧ i < 2 ^ (width - 1) then some i else none := by
  have hvalue : parseInt width (toString i) =
      (some i).filter fun i => -2 ^ (width - 1) ≤ i ∧ i < 2 ^ (width - 1) := by
    rw [Int.toString_eq_repr]
    cases i with
    | ofNat n =>
      have hlist : (Int.ofNat n).repr.toList = Nat.toDigits 10 n := Nat.toList_repr
      have hdigit : ∀ c ∈ Nat.toDigits 10 n, c.isDigit = true := fun c hc =>
        Nat.isDigit_of_mem_toDigits (by decide) (by decide) hc
      simp only [parseInt, hlist]
      split
      next cs h => exact absurd (hdigit '+' (by simp [h])) (by decide)
      next cs h => exact absurd (hdigit '-' (by simp [h])) (by decide)
      next => rw [digits_toDigits]; rfl
    | negSucc n =>
      have hlist : (Int.negSucc n).repr.toList = '-' :: Nat.toDigits 10 (n + 1) := by
        rw [Int.repr_eq_if, if_neg (by omega), String.toList_append, Nat.toList_repr]
        rfl
      simp only [parseInt, hlist, digits_toDigits]
      rfl
  rw [hvalue, Option.filter_some]
  simp

/-- An integer is read back as one of enough bits. -/
theorem parseInt_toString_wide {width : Nat} {i : Int} (h : i.natAbs ≤ width) :
    parseInt (width + 1) (toString i) = some i := by
  have hwide : (width : Int) < 2 ^ width := by exact_mod_cast Nat.lt_two_pow_self
  rw [parseInt_toString, Nat.add_sub_cancel, if_pos]
  omega

/-- An integer is written with digits and a sign. -/
theorem mem_toString {i : Int} {c : Char} (hc : c ∈ (toString i).toList) :
    c = '+' ∨ c = '-' ∨ c.isDigit = true :=
  mem_of_parseInt (parseInt_toString_wide (Nat.le_refl i.natAbs)) hc

theorem toString_injective : Function.Injective (toString : Int → String) := by
  intro i j h
  have hi := parseInt_toString_wide (Nat.le_max_left i.natAbs j.natAbs)
  have hj := parseInt_toString_wide (Nat.le_max_right i.natAbs j.natAbs)
  rw [h, hj] at hi
  exact (Option.some.inj hi).symm

/-- What stands in front of the first `a`, and what behind it. -/
theorem append_cons_inj {α : Type} {a : α} {front front' back back' : List α} (h : a ∉ front)
    (h' : a ∉ front') :
    front ++ a :: back = front' ++ a :: back' ↔ front = front' ∧ back = back' := by
  induction front generalizing front' with
  | nil =>
    cases front' with
    | nil => simp
    | cons b front' =>
      have hne : a ≠ b := (not_or.mp (mt List.mem_cons.mpr h')).1
      simp [hne]
  | cons b front ih =>
    obtain ⟨hne, h⟩ := not_or.mp (mt List.mem_cons.mpr h)
    cases front' with
    | nil => simp [Ne.symm hne]
    | cons b' front' =>
      have h' := (not_or.mp (mt List.mem_cons.mpr h')).2
      simp [ih h h', and_assoc]

end Text
