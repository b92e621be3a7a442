import Mathlib.Data.List.Basic

/-! # Regular expressions

Expressions with named groups, anchors and greedy and lazy repetition of a class of
characters.  `run` lists the matches at one place of a text in the order in which a
backtracking search comes upon them, and `find` takes the first one at the leftmost place
that has any.

An expression that takes no line feed matches inside one line.  `run_line` and `find_line`
say what a further line means to it: a search goes on behind the first line only if that
has no match, and a match in the first line is the one it is on its own.
-/

/-- A regular expression; a class of characters is its test. -/
inductive Regex where
  | empty
  | char (p : Char → Bool)
  | many (greedy : Bool) (p : Char → Bool)
  | seq (r s : Regex)
  | alt (r s : Regex)
  | group (name : String) (r : Regex)
  | lineStart
  | lineEnd
  | textStart
  | textEnd

namespace Regex

/-- What a match took, the text behind it and what its groups took. -/
structure Match where
  text : List Char
  rest : List Char
  captures : List (String × List Char)
  deriving DecidableEq

namespace Match

/-- What a group took. -/
def name (n : String) (m : Match) : Option String := (m.captures.lookup n).map String.ofList

/-- A match followed by another. -/
def append (m n : Match) : Match := ⟨m.text ++ n.text, n.rest, m.captures ++ n.captures⟩

theorem append_assoc (m n x : Match) : (m.append n).append x = m.append (n.append x) := by
  simp only [append, List.append_assoc]

/-- A match in a text that goes on. -/
def extend (more : List Char) (m : Match) : Match := { m with rest := m.rest ++ more }

@[simp] theorem name_extend (more : List Char) (m : Match) (n : String) :
    (m.extend more).name n = m.name n := rfl

@[simp] theorem extend_text (more : List Char) (m : Match) : (m.extend more).text = m.text := rfl

@[simp] theorem extend_rest (more : List Char) (m : Match) :
    (m.extend more).rest = m.rest ++ more := rfl

@[simp] theorem extend_captures (more : List Char) (m : Match) :
    (m.extend more).captures = m.captures := rfl

end Match

/-! ## Syntax -/

/-- `r+` of a class. -/
def many1 (greedy : Bool) (p : Char → Bool) : Regex := .seq (.char p) (.many greedy p)

/-- `r?`. -/
def optional (r : Regex) : Regex := .alt r .empty

/-- The expressions one after the other. -/
def sequence (rs : List Regex) : Regex := rs.foldr .seq .empty

/-- A character that stands for itself. -/
def only (c : Char) : Regex := .char (· = c)

/-- `[^c]`. -/
def isNot (c : Char) (d : Char) : Bool := d ≠ c

/-- The simple case folding of Unicode, on the characters that fold to one of ASCII. -/
def foldCase (c : Char) : Char :=
  if c = '\u017f' then 's' else if c = '\u212a' then 'k' else c.toLower

theorem toLower_eq_blank {c : Char} : c.toLower = ' ' ↔ c = ' ' := by
  constructor
  · intro h
    unfold Char.toLower at h
    split at h
    next hc =>
      have hval : (c.val + 32).toNat = 32 := congrArg (fun d : Char => d.val.toNat) h
      have hA : 65 ≤ c.val.toNat := hc.1
      have hZ : c.val.toNat ≤ 90 := hc.2
      have h32 : (32 : UInt32).toNat = 32 := rfl
      rw [UInt32.toNat_add] at hval
      omega
    next => exact h
  · rintro rfl
    rfl

theorem foldCase_eq_blank {c : Char} : foldCase c = ' ' ↔ c = ' ' := by
  unfold foldCase
  split
  next h => simp [h]
  next =>
    split
    next h => simp [h]
    next => exact toLower_eq_blank

/-- Does a letter stand for a character, with its case or without? -/
def standsFor (caseInsensitive : Bool) (c d : Char) : Bool :=
  if caseInsensitive then foldCase d = foldCase c else d = c

/-- The letters of a word, with their case or without. -/
def letters (caseInsensitive : Bool) (cs : List Char) : Regex :=
  sequence (cs.map fun c => .char (standsFor caseInsensitive c))

/-- A word. -/
def word (caseInsensitive : Bool) (cs : String) : Regex := letters caseInsensitive cs.toList

/-! ## Matching -/

/-- The ways to split a text behind characters that pass a test: the longest first, or the
shortest. -/
def splits (greedy : Bool) (p : Char → Bool) : List Char → List (List Char × List Char)
  | [] => [([], [])]
  | c :: cs =>
    let more := if p c then (splits greedy p cs).map fun s => (c :: s.1, s.2) else []
    if greedy then more ++ [([], c :: cs)] else ([], c :: cs) :: more

/-- Is the place behind `prev` the start of a line? -/
def atLineStart (prev : Option Char) : Bool := prev.all (· = '\n')

/-- Is the place before `cs` the end of a line? -/
def atLineEnd (cs : List Char) : Bool := cs.head?.all (· = '\n')

/-- The matches at the place between `prev` and `cs`, in the order in which they are
tried. -/
@[grind =]
def run : Regex → Option Char → List Char → List Match
  | .empty, _, cs => [⟨[], cs, []⟩]
  | .char _, _, [] => []
  | .char p, _, c :: cs => if p c then [⟨[c], cs, []⟩] else []
  | .many greedy p, _, cs => (splits greedy p cs).map fun s => ⟨s.1, s.2, []⟩
  | .seq r s, prev, cs =>
    (run r prev cs).flatMap fun m => (run s (m.text.getLast?.or prev) m.rest).map m.append
  | .alt r s, prev, cs => run r prev cs ++ run s prev cs
  | .group name r, prev, cs =>
    (run r prev cs).map fun m => { m with captures := m.captures ++ [(name, m.text)] }
  | .lineStart, prev, cs => if atLineStart prev then [⟨[], cs, []⟩] else []
  | .lineEnd, _, cs => if atLineEnd cs then [⟨[], cs, []⟩] else []
  | .textStart, prev, cs => if prev = none then [⟨[], cs, []⟩] else []
  | .textEnd, _, cs => if cs = [] then [⟨[], cs, []⟩] else []

/-- The first match at the leftmost place. -/
def find (r : Regex) : Option Char → List Char → Option Match
  | prev, [] => (run r prev []).head?
  | prev, c :: cs => (run r prev (c :: cs)).head?.or (find r (some c) cs)

/-- `Regex::captures`. -/
def captures (r : Regex) (s : String) : Option Match := find r none s.toList

/-- `Regex::is_match`. -/
def isMatch (r : Regex) (s : String) : Bool := (captures r s).isSome

/-! ## What a match consists of -/

theorem mem_run_seq {r s : Regex} {prev : Option Char} {cs : List Char} {m : Match} :
    m ∈ run (.seq r s) prev cs ↔ ∃ m₁ ∈ run r prev cs,
      ∃ m₂ ∈ run s (m₁.text.getLast?.or prev) m₁.rest, m = m₁.append m₂ := by
  simp only [run, List.mem_flatMap, List.mem_map, eq_comm (a := m)]

/-- The first match of a sequence: the first match of the start that can be carried on. -/
theorem head?_run_seq (r s : Regex) (prev : Option Char) (cs : List Char) :
    (run (.seq r s) prev cs).head? = (run r prev cs).findSome? fun m =>
      (run s (m.text.getLast?.or prev) m.rest).head?.map m.append := by
  rw [run, List.head?_flatMap]
  simp only [List.head?_map]

theorem mem_run_char {p : Char → Bool} {prev : Option Char} {cs : List Char} {m : Match} :
    m ∈ run (.char p) prev cs ↔ ∃ c rest, cs = c :: rest ∧ p c = true ∧ m = ⟨[c], rest, []⟩ := by
  cases cs with
  | nil => simp [run]
  | cons c cs => cases hc : p c <;> simp [run, hc]

/-- A word matches in one way. -/
theorem length_run_letters_le (caseInsensitive : Bool) (word : List Char) (prev : Option Char)
    (text : List Char) : (run (letters caseInsensitive word) prev text).length ≤ 1 := by
  induction word generalizing prev text with
  | nil => exact Nat.le_refl 1
  | cons c word ih =>
    cases text with
    | nil => exact Nat.zero_le 1
    | cons d text =>
      show (run (.seq (.char (standsFor caseInsensitive c)) (letters caseInsensitive word)) prev
        (d :: text)).length ≤ 1
      cases hd : standsFor caseInsensitive c d with
      | false => simp [run, hd]
      | true => simpa [run, hd] using ih (some d) text

theorem mem_run_empty {prev : Option Char} {cs : List Char} {m : Match} :
    m ∈ run .empty prev cs ↔ m = ⟨[], cs, []⟩ := List.mem_singleton

theorem mem_run_optional {r : Regex} {prev : Option Char} {cs : List Char} {m : Match} :
    m ∈ run (optional r) prev cs ↔ m ∈ run r prev cs ∨ m = ⟨[], cs, []⟩ := by
  simp [optional, run]

theorem mem_run_only {c : Char} {prev : Option Char} {cs : List Char} {m : Match} :
    m ∈ run (only c) prev cs ↔ ∃ rest, cs = c :: rest ∧ m = ⟨[c], rest, []⟩ := by
  rw [only, mem_run_char]
  constructor
  · rintro ⟨d, rest, rfl, hd, rfl⟩
    obtain rfl := of_decide_eq_true hd
    exact ⟨rest, rfl, rfl⟩
  · rintro ⟨rest, rfl, rfl⟩
    exact ⟨c, rest, rfl, decide_eq_true rfl, rfl⟩

/-- What is behind a character that stands for itself. -/
theorem run_only_seq (r : Regex) (c : Char) (prev : Option Char) (cs : List Char) :
    run (.seq (only c) r) prev (c :: cs) =
      (run r (some c) cs).map (Match.append ⟨[c], cs, []⟩) := by
  simp [run, only]

theorem run_only_seq_of_ne (r : Regex) {c d : Char} (h : d ≠ c) (prev : Option Char)
    (cs : List Char) : run (.seq (only c) r) prev (d :: cs) = [] := by
  simp [run, only, h]

theorem run_group (name : String) (r : Regex) (prev : Option Char) (cs : List Char) :
    run (.group name r) prev cs =
      (run r prev cs).map fun m => ⟨m.text, m.rest, m.captures ++ [(name, m.text)]⟩ := rfl

theorem run_optional (r : Regex) (prev : Option Char) (cs : List Char) :
    run (optional r) prev cs = run r prev cs ++ [⟨[], cs, []⟩] := rfl

theorem mem_run_group {name : String} {r : Regex} {prev : Option Char} {cs : List Char}
    {m : Match} : m ∈ run (.group name r) prev cs ↔
      ∃ n ∈ run r prev cs, m = ⟨n.text, n.rest, n.captures ++ [(name, n.text)]⟩ := by
  simp only [run, List.mem_map, eq_comm (a := m)]

theorem mem_run_lineEnd {prev : Option Char} {cs : List Char} {m : Match} :
    m ∈ run .lineEnd prev cs ↔ atLineEnd cs = true ∧ m = ⟨[], cs, []⟩ := by
  cases h : atLineEnd cs <;> simp [run, h]

/-- A match of a word takes its letters. -/
theorem map_foldCase_of_mem_letters {caseInsensitive : Bool} {word text : List Char}
    {prev : Option Char} {m : Match} (h : m ∈ run (letters caseInsensitive word) prev text) :
    m.text.map foldCase = word.map foldCase ∧ m.captures = [] := by
  induction word generalizing prev text m with
  | nil =>
    obtain rfl := List.mem_singleton.mp h
    simp
  | cons c word ih =>
    obtain ⟨m₁, h₁, m₂, h₂, rfl⟩ := mem_run_seq.mp h
    obtain ⟨hfold, hcaptures⟩ := ih h₂
    obtain ⟨d, rest, rfl, hd, rfl⟩ := mem_run_char.mp h₁
    have hd : foldCase d = foldCase c := by
      cases caseInsensitive <;> simp_all [standsFor]
    simp [Match.append, hfold, hd, hcaptures]

/-- The expression takes no line feed and asks for no end of the text. -/
def Line : Regex → Bool
  | .char p | .many _ p => !p '\n'
  | .seq r s | .alt r s => r.Line && s.Line
  | .group _ r => r.Line
  | .empty | .lineStart | .lineEnd => true
  | .textStart | .textEnd => false

/-- The expression asks for neither end of the text. -/
def MultiLine : Regex → Bool
  | .seq r s | .alt r s => r.MultiLine && s.MultiLine
  | .group _ r => r.MultiLine
  | .textStart | .textEnd => false
  | _ => true

theorem Line.multiLine {r : Regex} (h : r.Line = true) : r.MultiLine = true := by
  induction r with
  | seq r s ihr ihs =>
    obtain ⟨hr, hs⟩ := Bool.and_eq_true_iff.mp h
    exact Bool.and_eq_true_iff.mpr ⟨ihr hr, ihs hs⟩
  | alt r s ihr ihs =>
    obtain ⟨hr, hs⟩ := Bool.and_eq_true_iff.mp h
    exact Bool.and_eq_true_iff.mpr ⟨ihr hr, ihs hs⟩
  | group name r ih => exact ih h
  | textStart => exact h
  | textEnd => exact h
  | empty | char | many | lineStart | lineEnd => rfl

theorem splits_append_of_false {greedy : Bool} {p : Char → Bool} {c : Char} (hc : p c = false)
    (s t : List Char) :
    splits greedy p (s ++ c :: t) = (splits greedy p s).map fun x => (x.1, x.2 ++ c :: t) := by
  induction s with
  | nil => cases greedy <;> simp [splits, hc]
  | cons d s ih => cases greedy <;> cases h : p d <;> simp [splits, ih, h]

theorem mem_splits {greedy : Bool} {p : Char → Bool} {cs : List Char} {x : List Char × List Char} :
    x ∈ splits greedy p cs ↔ cs = x.1 ++ x.2 ∧ ∀ c ∈ x.1, p c = true := by
  obtain ⟨a, b⟩ := x
  induction cs generalizing a with
  | nil => simp +contextual [splits, and_assoc]
  | cons d cs ih =>
    have hmore : ((a, b) ∈ if p d then (splits greedy p cs).map fun s => (d :: s.1, s.2) else []) ↔
        ∃ a', a = d :: a' ∧ p d = true ∧ cs = a' ++ b ∧ ∀ c ∈ a', p c = true := by
      cases hd : p d with
      | false => simp
      | true =>
        simp only [if_true, List.mem_map, Prod.mk.injEq, Prod.exists]
        constructor
        · rintro ⟨a', b', hmem, rfl, rfl⟩
          exact ⟨a', rfl, trivial, (ih a').mp hmem⟩
        · rintro ⟨a', rfl, -, hsplit⟩
          exact ⟨a', b, (ih a').mpr hsplit, rfl, rfl⟩
    have hcases : (a, b) ∈ splits greedy p (d :: cs) ↔ (a = [] ∧ b = d :: cs) ∨
        ∃ a', a = d :: a' ∧ p d = true ∧ cs = a' ++ b ∧ ∀ c ∈ a', p c = true := by
      rw [← hmore]
      cases greedy <;> simp [splits, or_comm]
    rw [hcases]
    constructor
    · rintro (⟨rfl, rfl⟩ | ⟨a', rfl, hd, rfl, ha⟩)
      · simp
      · simpa [hd] using ha
    · rintro ⟨hsplit, ha⟩
      cases a with
      | nil => exact .inl ⟨rfl, hsplit.symm⟩
      | cons e a =>
        obtain ⟨rfl, rfl⟩ := List.cons.inj hsplit
        exact .inr ⟨a, rfl, ha _ List.mem_cons_self, rfl,
          fun c hc => ha c (List.mem_cons_of_mem _ hc)⟩

theorem mem_run_many1 {greedy : Bool} {p : Char → Bool} {prev : Option Char} {cs : List Char}
    {m : Match} : m ∈ run (many1 greedy p) prev cs ↔ ∃ c a rest, cs = c :: (a ++ rest) ∧
      (∀ d ∈ c :: a, p d = true) ∧ m = ⟨c :: a, rest, []⟩ := by
  rw [many1, mem_run_seq]
  constructor
  · rintro ⟨_, h₁, _, h₂, rfl⟩
    obtain ⟨c, cs', rfl, hc, rfl⟩ := mem_run_char.mp h₁
    obtain ⟨⟨a, rest⟩, hx, rfl⟩ := List.mem_map.mp h₂
    obtain ⟨hsplit, ha⟩ := mem_splits.mp hx
    exact ⟨c, a, rest, congrArg _ hsplit, List.forall_mem_cons.mpr ⟨hc, ha⟩, rfl⟩
  · rintro ⟨c, a, rest, rfl, hp, rfl⟩
    obtain ⟨hc, ha⟩ := List.forall_mem_cons.mp hp
    refine ⟨_, mem_run_char.mpr ⟨c, a ++ rest, rfl, hc, rfl⟩, ⟨a, rest, []⟩, ?_, rfl⟩
    exact List.mem_map.mpr ⟨(a, rest), mem_splits.mpr ⟨rfl, ha⟩, rfl⟩

/-- A match takes a start of the text. -/
theorem text_append_rest {r : Regex} {prev : Option Char} {cs : List Char} {m : Match}
    (h : m ∈ run r prev cs) : m.text ++ m.rest = cs := by
  induction r generalizing prev cs m with
  | empty =>
    obtain rfl := List.mem_singleton.mp h
    rfl
  | char p =>
    cases cs with
    | nil => simp [run] at h
    | cons c cs =>
      obtain ⟨-, rfl⟩ : p c = true ∧ m = ⟨[c], cs, []⟩ := by
        cases hc : p c <;> simp_all [run]
      rfl
  | many greedy p =>
    obtain ⟨x, hx, rfl⟩ := List.mem_map.mp h
    exact (mem_splits.mp hx).1.symm
  | seq r s ihr ihs =>
    obtain ⟨m₁, h₁, hm⟩ := List.mem_flatMap.mp h
    obtain ⟨m₂, h₂, rfl⟩ := List.mem_map.mp hm
    rw [Match.append, List.append_assoc, ihs h₂, ihr h₁]
  | alt r s ihr ihs =>
    rcases List.mem_append.mp h with h | h
    · exact ihr h
    · exact ihs h
  | group name r ih =>
    obtain ⟨m', h', rfl⟩ := List.mem_map.mp h
    exact ih (m := m') h'
  | lineStart | lineEnd | textStart | textEnd =>
    simp only [run] at h
    split at h
    · obtain rfl := List.mem_singleton.mp h
      rfl
    · simp at h

/-- **A further line adds nothing to the matches in a line** of an expression that takes no
line feed. -/
theorem run_line {r : Regex} (hr : r.Line = true) (prev : Option Char) {s : List Char}
    (hs : '\n' ∉ s) (t : List Char) :
    run r prev (s ++ '\n' :: t) = (run r prev s).map (Match.extend ('\n' :: t)) := by
  induction r generalizing prev s with
  | empty => rfl
  | char p =>
    cases s with
    | nil =>
      have hp : p '\n' = false := by simpa [Line] using hr
      simp [run, hp]
    | cons c s => cases hc : p c <;> simp [run, hc, Match.extend]
  | many greedy p =>
    have hp : p '\n' = false := by simpa [Line] using hr
    simp only [run, splits_append_of_false hp, List.map_map]
    rfl
  | seq r s' ihr ihs =>
    obtain ⟨hr, hr'⟩ := Bool.and_eq_true_iff.mp hr
    simp only [run, ihr hr prev hs, List.flatMap_map, List.map_flatMap, List.map_map]
    refine List.flatMap_congr fun m hm => ?_
    have hrest : '\n' ∉ m.rest := by
      intro h
      refine hs ?_
      rw [← text_append_rest hm]
      exact List.mem_append_right _ h
    simp only [Match.extend_text, Match.extend_rest, ihs hr' _ hrest, List.map_map]
    rfl
  | alt r s' ihr ihs =>
    obtain ⟨hr, hr'⟩ := Bool.and_eq_true_iff.mp hr
    simp only [run, ihr hr prev hs, ihs hr' prev hs, List.map_append]
  | group name r ih =>
    simp only [run, ih hr prev hs, List.map_map]
    rfl
  | lineStart =>
    simp only [run]
    split <;> rfl
  | lineEnd =>
    have hend : atLineEnd (s ++ '\n' :: t) = atLineEnd s := by
      cases s <;> simp [atLineEnd]
    simp only [run, hend]
    split <;> rfl
  | textStart => cases hr
  | textEnd => cases hr

/-- At the start of a line, an expression that asks for no end of the text does not see
what is before it. -/
theorem run_prev {r : Regex} (hr : r.MultiLine = true) {prev prev' : Option Char}
    (hprev : atLineStart prev = atLineStart prev') (cs : List Char) :
    run r prev cs = run r prev' cs := by
  induction r generalizing prev prev' cs with
  | empty => rfl
  | char p => cases cs <;> rfl
  | many greedy p => rfl
  | seq r s ihr ihs =>
    obtain ⟨hr, hr'⟩ := Bool.and_eq_true_iff.mp hr
    simp only [run, ihr hr hprev cs]
    refine List.flatMap_congr fun m _ => ?_
    have hlast : atLineStart (m.text.getLast?.or prev) =
        atLineStart (m.text.getLast?.or prev') := by
      cases m.text.getLast? with
      | none => exact hprev
      | some c => rfl
    rw [ihs hr' hlast]
  | alt r s ihr ihs =>
    obtain ⟨hr, hr'⟩ := Bool.and_eq_true_iff.mp hr
    simp only [run, ihr hr hprev cs, ihs hr' hprev cs]
  | group name r ih => simp only [run, ih hr hprev cs]
  | lineStart => simp only [run, hprev]
  | lineEnd => rfl
  | textStart => cases hr
  | textEnd => cases hr

theorem find_prev {r : Regex} (hr : r.MultiLine = true) {prev prev' : Option Char}
    (hprev : atLineStart prev = atLineStart prev') (cs : List Char) :
    find r prev cs = find r prev' cs := by
  cases cs with
  | nil => rw [find, find, run_prev hr hprev]
  | cons c cs => rw [find, find, run_prev hr hprev]

/-- **A search goes on behind a line only if the line has no match.** -/
theorem find_line {r : Regex} (hr : r.Line = true) (prev : Option Char) {s : List Char}
    (hs : '\n' ∉ s) (t : List Char) :
    find r prev (s ++ '\n' :: t) =
      ((find r prev s).map (Match.extend ('\n' :: t))).or (find r none t) := by
  induction s generalizing prev with
  | nil =>
    have h := run_line hr prev hs t
    rw [List.nil_append] at h
    rw [List.nil_append, find, find, h, List.head?_map,
      find_prev (Line.multiLine hr) (show atLineStart (some '\n') = atLineStart none from rfl)]
  | cons c s ih =>
    have h := run_line hr prev hs t
    rw [List.cons_append] at h
    rw [List.cons_append, find, find, h, List.head?_map, ih (some c) (fun hc => hs (by simp [hc]))]
    cases (run r prev (c :: s)).head? <;> rfl

/-- **A search for a line** goes through the lines one after the other. -/
theorem captures_line {r : Regex} (hr : r.Line = true) {s : String} (hs : '\n' ∉ s.toList)
    (t : String) :
    captures r (s ++ "\n" ++ t) =
      ((captures r s).map (Match.extend ('\n' :: t.toList))).or (captures r t) := by
  rw [captures, captures, captures, ← find_line hr none hs]
  simp

theorem find_of_head? {r : Regex} {prev : Option Char} {cs : List Char} {m : Match}
    (h : (run r prev cs).head? = some m) : find r prev cs = some m := by
  cases cs with
  | nil => exact h
  | cons c cs => rw [find, h, Option.some_or]

/-- What is found behind a character is found in the whole text, if nothing is before. -/
theorem isSome_find_append {r : Regex} {c : Char} {t : List Char} (h : (find r (some c) t).isSome)
    (prev : Option Char) (s : List Char) : (find r prev (s ++ c :: t)).isSome := by
  induction s generalizing prev with
  | nil => simp [find, h]
  | cons d s ih => simp [find, ih (some d)]

/-- An expression for a start of a line is found at the start of a single line. -/
theorem find_lineStart (r : Regex) {s : List Char} (hs : '\n' ∉ s) :
    find (.seq .lineStart r) none s = (run (.seq .lineStart r) none s).head? := by
  have hnone : ∀ c s, '\n' ∉ c :: s → find (.seq .lineStart r) (some c) s = none := by
    intro c s h
    induction s generalizing c with
    | nil =>
      have hc : c ≠ '\n' := fun hc => h (by simp [hc])
      simp [find, run, atLineStart, hc]
    | cons d s ih =>
      have hc : c ≠ '\n' := fun hc => h (by simp [hc])
      rw [find, ih d (fun hd => h (List.mem_cons_of_mem c hd))]
      simp [run, atLineStart, hc]
  cases s with
  | nil => rfl
  | cons c s => rw [find, hnone c s hs, Option.or_none]

/-- Every match has the group. -/
def Binds (n : String) : Regex → Bool
  | .seq r s => r.Binds n || s.Binds n
  | .alt r s => r.Binds n && s.Binds n
  | .group name r => name = n || r.Binds n
  | _ => false

theorem isSome_name_of_mem_run {n : String} {r : Regex} (hr : r.Binds n = true)
    {prev : Option Char} {cs : List Char} {m : Match} (h : m ∈ run r prev cs) :
    (m.name n).isSome = true := by
  simp only [Match.name, Option.isSome_map]
  induction r generalizing prev cs m with
  | seq r s ihr ihs =>
    obtain ⟨m₁, h₁, m₂, h₂, rfl⟩ := mem_run_seq.mp h
    rw [Match.append, List.lookup_append, Option.isSome_or]
    rcases Bool.or_eq_true_iff.mp hr with hr | hr
    · rw [ihr hr h₁, Bool.true_or]
    · rw [ihs hr h₂, Bool.or_true]
  | alt r s ihr ihs =>
    obtain ⟨hr, hs⟩ := Bool.and_eq_true_iff.mp hr
    rcases List.mem_append.mp h with h | h
    · exact ihr hr h
    · exact ihs hs h
  | group name r ih =>
    obtain ⟨m', h', rfl⟩ := List.mem_map.mp h
    rw [List.lookup_append, Option.isSome_or]
    rcases Bool.or_eq_true_iff.mp hr with hn | hr
    · obtain rfl := of_decide_eq_true hn
      simp
    · rw [ih hr h', Bool.true_or]
  | empty | char | many | lineStart | lineEnd | textStart | textEnd => simp [Binds] at hr

/-- What is found is a match at some place of the text. -/
theorem exists_run_of_find {r : Regex} {prev : Option Char} {cs : List Char} {m : Match}
    (h : find r prev cs = some m) :
    ∃ prev' before cs', cs = before ++ cs' ∧ m ∈ run r prev' cs' := by
  induction cs generalizing prev with
  | nil => exact ⟨prev, [], [], rfl, List.mem_of_mem_head? h⟩
  | cons c cs ih =>
    rw [find, Option.or_eq_some_iff] at h
    rcases h with h | ⟨-, h⟩
    · exact ⟨prev, [], c :: cs, rfl, List.mem_of_mem_head? h⟩
    · obtain ⟨prev', before, cs', rfl, hm⟩ := ih h
      exact ⟨prev', c :: before, cs', rfl, hm⟩

theorem mem_run_of_find {r : Regex} {prev : Option Char} {cs : List Char} {m : Match}
    (h : find r prev cs = some m) : ∃ prev' cs', m ∈ run r prev' cs' := by
  obtain ⟨prev', before, cs', -, hm⟩ := exists_run_of_find h
  exact ⟨prev', cs', hm⟩

/-- The expression does not ask what is before it. -/
def Forward : Regex → Bool
  | .seq r s | .alt r s => r.Forward && s.Forward
  | .group _ r => r.Forward
  | .lineStart | .textStart => false
  | _ => true

theorem run_forward {r : Regex} (hr : r.Forward = true) (prev prev' : Option Char)
    (cs : List Char) : run r prev cs = run r prev' cs := by
  induction r generalizing prev prev' cs with
  | empty => rfl
  | char p => cases cs <;> rfl
  | many greedy p => rfl
  | seq r s ihr ihs =>
    obtain ⟨hr, hs⟩ := Bool.and_eq_true_iff.mp hr
    simp only [run, ihr hr prev prev' cs]
    refine List.flatMap_congr fun m _ => ?_
    rw [ihs hs (m.text.getLast?.or prev) (m.text.getLast?.or prev')]
  | alt r s ihr ihs =>
    obtain ⟨hr, hs⟩ := Bool.and_eq_true_iff.mp hr
    simp only [run, ihr hr prev prev' cs, ihs hs prev prev' cs]
  | group name r ih => simp only [run, ih hr prev prev' cs]
  | lineStart => cases hr
  | lineEnd => rfl
  | textStart => cases hr
  | textEnd => rfl

/-- A greedy repetition goes on behind what passes the test, before it takes less. -/
theorem splits_append_of_all {p : Char → Bool} {a : List Char} (ha : ∀ c ∈ a, p c = true)
    (b : List Char) :
    ∃ less, splits true p (a ++ b) = (splits true p b).map (fun x => (a ++ x.1, x.2)) ++ less := by
  induction a with
  | nil => exact ⟨[], by simp⟩
  | cons c a ih =>
    obtain ⟨less, hless⟩ := ih fun d hd => ha d (List.mem_cons_of_mem c hd)
    refine ⟨less.map (fun x => (c :: x.1, x.2)) ++ [([], c :: (a ++ b))], ?_⟩
    simp [splits, ha c List.mem_cons_self, hless]

/-- Where what follows cannot begin with a character that passes the test, a greedy
repetition takes all of them. -/
theorem findSome?_splits {β : Type} {p : Char → Bool} {f : List Char × List Char → Option β}
    (hf : ∀ a c b, p c = true → f (a, c :: b) = none) (cs : List Char) :
    (splits true p cs).findSome? f = f (cs.takeWhile p, cs.dropWhile p) := by
  induction cs generalizing f with
  | nil => simp [splits]
  | cons c cs ih =>
    cases hc : p c with
    | false => simp [splits, hc]
    | true =>
      have h := ih (f := fun x => f (c :: x.1, x.2)) fun a d b hd => hf (c :: a) d b hd
      simp only [splits, hc, if_true, List.findSome?_append, List.findSome?_map,
        Function.comp_def, h, List.takeWhile_cons, List.dropWhile_cons]
      simp [hf [] c cs hc]

theorem run_many1_cons (greedy : Bool) (p : Char → Bool) (prev : Option Char) (c : Char)
    (cs : List Char) :
    run (many1 greedy p) prev (c :: cs) =
      if p c then (splits greedy p cs).map fun x => ⟨c :: x.1, x.2, []⟩ else [] := by
  cases hc : p c <;> simp [many1, run, hc, Match.append]

/-! ## Commands by their words -/

/-- A word is taken where it stands as it is. -/
theorem run_letters_self (caseInsensitive : Bool) (name : List Char) (prev : Option Char)
    (rest : List Char) :
    run (letters caseInsensitive name) prev (name ++ rest) = [⟨name, rest, []⟩] := by
  induction name generalizing prev with
  | nil => rfl
  | cons c name ih =>
    show run (.seq (.char (standsFor caseInsensitive c)) (letters caseInsensitive name)) prev
      (c :: (name ++ rest)) = _
    have hc : standsFor caseInsensitive c c = true := by cases caseInsensitive <;> simp [standsFor]
    simp [run, hc, ih, Match.append]

/-- A word is taken where it stands, in any case. -/
theorem run_letters {word name : List Char} (h : word.map foldCase = name.map foldCase)
    (prev : Option Char) (rest : List Char) :
    run (letters true name) prev (word ++ rest) = [⟨word, rest, []⟩] := by
  induction name generalizing word prev with
  | nil =>
    obtain rfl : word = [] := by simpa using h
    rfl
  | cons c name ih =>
    cases word with
    | nil => cases h
    | cons d word =>
      obtain ⟨hd, hword⟩ := List.cons.inj h
      show run (.seq (.char (standsFor true c)) (letters true name)) prev (d :: (word ++ rest)) = _
      simp [run, standsFor, hd, ih hword, Match.append]

theorem run_lineStart_seq (r : Regex) (cs : List Char) :
    run (.seq .lineStart r) none cs = run r none cs := by
  have hempty : Match.append ⟨[], cs, []⟩ = id := funext fun _ => rfl
  simp [run, atLineStart, hempty]

/-- Of two words, the first is tried before the second. -/
theorem captures_alt (r s t : Regex) {text : String} (htext : '\n' ∉ text.toList) :
    captures (.seq .lineStart (.seq (.alt r s) t)) text =
      (captures (.seq .lineStart (.seq r t)) text).or
        (captures (.seq .lineStart (.seq s t)) text) := by
  have halt : run (.seq (.alt r s) t) none text.toList =
      run (.seq r t) none text.toList ++ run (.seq s t) none text.toList := by
    simp [run, List.flatMap_append]
  simp only [captures, find_lineStart _ htext, run_lineStart_seq, halt, List.head?_append]

/-- An expression for a command: its word in any case, blanks, and what is behind them. -/
def command (name : String) (r : Regex) : Regex :=
  .seq .lineStart (.seq (word true name) (.seq (many1 true (· = ' ')) r))

/-- **A command is found by its word**: the text up to the first blank. -/
theorem captures_command {name : String} (hname : ' ' ∉ name.toList) (r : Regex) {s : String}
    (hs : '\n' ∉ s.toList) :
    captures (command name r) s =
      if (s.toList.takeWhile (· ≠ ' ')).map foldCase = name.toList.map foldCase then
        (run (.seq (many1 true (· = ' ')) r) (s.toList.takeWhile (· ≠ ' ')).getLast?
          (s.toList.dropWhile (· ≠ ' '))).head?.map
            (Match.append ⟨s.toList.takeWhile (· ≠ ' '), s.toList.dropWhile (· ≠ ' '), []⟩)
      else none := by
  rw [captures, command, find_lineStart _ hs, run_lineStart_seq, head?_run_seq]
  split
  next h =>
    have hword := run_letters h none (s.toList.dropWhile (· ≠ ' '))
    rw [List.takeWhile_append_dropWhile] at hword
    rw [word, hword]
    simp
  next h =>
    rw [List.findSome?_eq_none_iff]
    intro m hm
    rw [Option.map_eq_none_iff, List.head?_eq_none_iff, List.eq_nil_iff_forall_not_mem]
    intro n hn
    -- what is behind the letters begins with a blank, so they are the whole word
    obtain ⟨m₁, hblanks, -⟩ := mem_run_seq.mp hn
    obtain ⟨c, a, rest, hrest, hc, -⟩ := mem_run_many1.mp hblanks
    obtain rfl := of_decide_eq_true (hc c List.mem_cons_self)
    have htext := text_append_rest hm
    have hfold := (map_foldCase_of_mem_letters hm).1
    have hblank : ∀ d ∈ m.text, decide (d ≠ ' ') = true := by
      intro d hd
      refine decide_eq_true fun heq => hname ?_
      have hmem : foldCase d ∈ name.toList.map foldCase := hfold ▸ List.mem_map_of_mem hd
      obtain ⟨e, he, hfold⟩ := List.mem_map.mp hmem
      rw [heq, foldCase_eq_blank.mpr rfl, foldCase_eq_blank] at hfold
      exact hfold ▸ he
    refine h ?_
    rw [← htext, hrest, List.takeWhile_append_of_pos hblank, ← hfold]
    simp

/-- What is read off a command is read behind its word. -/
theorem bind_captures_command {α : Type} {f : Match → Option α}
    (hf : ∀ m n : Match, m.captures = [] → f (m.append n) = f n) {name : String}
    (hname : ' ' ∉ name.toList) {r : Regex} (hr : r.Forward = true) {s : String}
    (hs : '\n' ∉ s.toList) :
    (captures (command name r) s).bind f =
      if (s.toList.takeWhile (· ≠ ' ')).map foldCase = name.toList.map foldCase then
        (run (.seq (many1 true (· = ' ')) r) none (s.toList.dropWhile (· ≠ ' '))).head?.bind f
      else none := by
  have hforward : (Regex.seq (many1 true (· = ' ')) r).Forward = true := by
    simpa [Forward, many1] using hr
  rw [captures_command hname r hs]
  split
  next =>
    rw [run_forward hforward _ none]
    cases (run (.seq (many1 true (· = ' ')) r) none (s.toList.dropWhile (· ≠ ' '))).head? with
    | none => rfl
    | some n => exact hf _ n rfl
  next => rfl

/-- A greedy repetition takes all it can, if what follows can go on there. -/
theorem head?_run_many1_seq {p : Char → Bool} {r : Regex} {prev : Option Char} {c : Char}
    {a t : List Char} {m : Match} (ha : ∀ d ∈ c :: a, p d = true) (ht : ∀ d ∈ t.head?, p d = false)
    (h : (run r ((c :: a).getLast?.or prev) t).head? = some m) :
    (run (.seq (many1 true p) r) prev (c :: (a ++ t))).head? =
      some (Match.append ⟨c :: a, t, []⟩ m) := by
  obtain ⟨hc, ha⟩ := List.forall_mem_cons.mp ha
  obtain ⟨less, hless⟩ := splits_append_of_all ha t
  have hsplits : splits true p t = [([], t)] := by
    cases t with
    | nil => rfl
    | cons d t => simp [splits, ht d rfl]
  rw [head?_run_seq, run_many1_cons, if_pos hc, hless, hsplits]
  simp [h]

end Regex
