import ShinQlx.Regex

/-! # The matches of a regular expression in a text

A search for all matches goes on behind each of them.  `scan` goes through the text character by
character, and skips those of the match that it has found; `scan_of_match` and `scan_of_none`
say what it does at one place, for an expression that does not ask what is before it.

The expression takes at least one character.
-/
namespace Regex

/-- The matches from left to right, behind `skip` more characters of the last one. -/
def scan (r : Regex) : Nat → Option Char → List Char → List Match
  | _, _, [] => []
  | skip + 1, _, c :: cs => scan r skip (some c) cs
  | 0, prev, c :: cs =>
    match (run r prev (c :: cs)).head? with
    | none => scan r 0 (some c) cs
    | some m => m :: scan r (m.text.length - 1) (some c) cs

/-- `Regex::captures_iter`. -/
def capturesIter (r : Regex) (s : String) : List Match := scan r 0 none s.toList

/-- The text with `new` in place of the matches, behind `skip` more characters of the last one. -/
def replaceFrom (r : Regex) (new : List Char) : Nat → Option Char → List Char → List Char
  | _, _, [] => []
  | skip + 1, _, c :: cs => replaceFrom r new skip (some c) cs
  | 0, prev, c :: cs =>
    match (run r prev (c :: cs)).head? with
    | none => c :: replaceFrom r new 0 (some c) cs
    | some m => new ++ replaceFrom r new (m.text.length - 1) (some c) cs

/-- `Regex::replace_all`. -/
def replaceAll (r : Regex) (new s : String) : String :=
  String.ofList (replaceFrom r new.toList 0 none s.toList)

/-- The text in front of the first match. -/
def front (r : Regex) : Option Char → List Char → List Char
  | _, [] => []
  | prev, c :: cs =>
    if (run r prev (c :: cs)).head?.isSome then [] else c :: front r (some c) cs

/-- The first piece of `Regex::split`. -/
def splitFirst (r : Regex) (s : String) : String := String.ofList (front r none s.toList)

theorem scan_forward {r : Regex} (hr : r.Forward = true) (skip : Nat)
    (prev prev' : Option Char) (cs : List Char) :
    scan r skip prev cs = scan r skip prev' cs := by
  cases cs with
  | nil => rw [scan, scan]
  | cons c cs =>
    cases skip with
    | zero => rw [scan, scan, run_forward hr prev prev']
    | succ skip => rw [scan, scan]

theorem scan_skip {r : Regex} (hr : r.Forward = true) (skip : Nat) (prev prev' : Option Char)
    (cs : List Char) :
    scan r skip prev cs = scan r 0 prev' (cs.drop skip) := by
  induction skip generalizing prev cs with
  | zero => exact scan_forward hr 0 prev prev' cs
  | succ skip ih =>
    cases cs with
    | nil => rw [List.drop_nil, scan, scan]
    | cons c cs =>
      rw [scan, List.drop_succ_cons]
      exact ih (some c) cs

/-- The search goes on behind a match. -/
theorem scan_of_match {r : Regex} (hr : r.Forward = true) {prev : Option Char} {c : Char}
    {cs : List Char} {m : Match} (h : (run r prev (c :: cs)).head? = some m) (hne : m.text ≠ []) :
    scan r 0 prev (c :: cs) = m :: scan r 0 prev m.rest := by
  have htext := text_append_rest (List.mem_of_mem_head? h)
  rw [scan, h]
  dsimp only
  rw [scan_skip hr _ _ prev]
  obtain ⟨text, rest, captures⟩ := m
  cases text with
  | nil => exact absurd rfl hne
  | cons d text =>
    obtain ⟨-, rfl⟩ := List.cons.inj htext
    show _ :: scan r 0 prev ((text ++ rest).drop text.length) = _
    rw [List.drop_left]

/-- The search goes on at the next place. -/
theorem scan_of_none {r : Regex} (hr : r.Forward = true) {prev : Option Char} {c : Char}
    {cs : List Char} (h : (run r prev (c :: cs)).head? = none) :
    scan r 0 prev (c :: cs) = scan r 0 prev cs := by
  rw [scan, h]
  exact scan_forward hr 0 (some c) prev cs

/-- A greedy repetition takes all it can first. -/
theorem head?_splits (p : Char → Bool) (cs : List Char) :
    (splits true p cs).head? = some (cs.takeWhile p, cs.dropWhile p) := by
  induction cs with
  | nil => rfl
  | cons c cs ih =>
    cases hc : p c with
    | false => simp [splits, hc]
    | true => simp [splits, hc, ih]

end Regex
