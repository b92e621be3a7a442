import Mathlib.Data.List.Basic

/-! # Colour tags

A text is a sequence of characters and of tags `^0` to `^7`, which give the characters
behind them their colour.  `tokens` reads it from left to right, `strip` leaves the tags
out, and `paint` gives each character its colour.

A text can be cut anywhere but in a tag: `tokens_append` says where that is, and
`paint_append` what has to be carried over a cut, the last tag before it.
-/

/-- What a text consists of. -/
inductive ColorToken where
  | char (c : Char)
  | tag (color : Char)
  deriving DecidableEq, Repr

namespace ColorToken

/-- The colour of a tag. -/
def color? : ColorToken → Option Char
  | .tag color => some color
  | .char _ => none

/-- A character that is not part of a tag. -/
def char? : ColorToken → Option Char
  | .char c => some c
  | .tag _ => none

/-- A digit that stands for a colour. -/
def isColor (c : Char) : Bool := '0' ≤ c && c ≤ '7'

/-- A text from left to right. -/
def tokens : List Char → List ColorToken
  | [] => []
  | [c] => [.char c]
  | c :: d :: cs =>
    if c = '^' && isColor d then .tag d :: tokens cs else .char c :: tokens (d :: cs)

/-- The text without its tags. -/
def strip (cs : List Char) : List Char := (tokens cs).filterMap char?

/-- The last tag, if there is one. -/
def lastColor? (ts : List ColorToken) : Option Char := (ts.filterMap color?).getLast?

/-- The characters with their colours, behind a text that ends in the colour `color`. -/
def paint : Option Char → List ColorToken → List (Char × Option Char)
  | _, [] => []
  | color, .char c :: ts => (c, color) :: paint color ts
  | _, .tag color :: ts => paint (some color) ts

/-- The text of a tag. -/
def tagText (color : Char) : List Char := ['^', color]

/-! ## Cutting a text -/

/-- No tag begins at the end of the first text and ends at the start of the second. -/
def Apart (a b : List Char) : Prop := a.getLast? ≠ some '^' ∨ ∀ d ∈ b.head?, isColor d = false

theorem Apart.of_cons {c d : Char} {a b : List Char} (h : Apart (c :: d :: a) b) :
    Apart (d :: a) b := by
  rwa [Apart, List.getLast?_cons_cons] at h

theorem tokens_cons_of_apart {c : Char} {b : List Char} (h : Apart [c] b) :
    tokens (c :: b) = .char c :: tokens b := by
  cases b with
  | nil => rfl
  | cons d b =>
    have hno : (c = '^' && isColor d) = false := by
      rcases h with h | h
      · have hc : c ≠ '^' := fun hc => h (by simp [hc])
        simp [hc]
      · simp [h d rfl]
    rw [tokens, hno]
    rfl

/-- **A text is cut between its tokens.** -/
theorem tokens_append {a b : List Char} (h : Apart a b) :
    tokens (a ++ b) = tokens a ++ tokens b := by
  fun_induction tokens a with
  | case1 => rfl
  | case2 c => exact tokens_cons_of_apart h
  | case3 c d cs htag ih =>
    rw [List.cons_append, List.cons_append, tokens, if_pos htag, List.cons_append]
    refine congrArg _ (ih ?_)
    cases cs with
    | nil =>
      -- the digit of the tag does not begin another one
      refine .inl ?_
      simp
    | cons e cs => exact h.of_cons.of_cons
  | case4 c d cs htag ih =>
    rw [List.cons_append, List.cons_append, tokens, if_neg htag, List.cons_append]
    exact congrArg _ (ih h.of_cons)

theorem paint_append (color : Option Char) (ts us : List ColorToken) :
    paint color (ts ++ us) = paint color ts ++ paint ((lastColor? ts).or color) us := by
  induction ts generalizing color with
  | nil => rfl
  | cons t ts ih =>
    cases t with
    | char c => simp [paint, ih, lastColor?, color?]
    | tag k =>
      have hlast : (lastColor? (.tag k :: ts)).or color = (lastColor? ts).or (some k) := by
        simp only [lastColor?, List.filterMap_cons, color?, List.getLast?_cons]
        cases (ts.filterMap color?).getLast? <;> rfl
      rw [hlast]
      exact ih (some k)

/-- Characters can be left out before or after they are painted. -/
theorem filter_paint (p : Char → Bool) (color : Option Char) (ts : List ColorToken) :
    (paint color ts).filter (fun x => p x.1) =
      paint color (ts.filter fun t => t.char?.all p) := by
  induction ts generalizing color with
  | nil => rfl
  | cons t ts ih =>
    cases t with
    | char c => cases hc : p c <;> simp [paint, char?, hc, ih]
    | tag k => simp [paint, char?, ih]

/-- A token with another character in place of its own. -/
def mapChar (f : Char → Char) : ColorToken → ColorToken
  | .char c => .char (f c)
  | .tag color => .tag color

/-- Characters that are not those of tags can be replaced before or after a text is read. -/
theorem tokens_map {f : Char → Char} (hcaret : ∀ c, f c = '^' ↔ c = '^')
    (hcolor : ∀ c, isColor (f c) = isColor c) (hfix : ∀ c, isColor c = true → f c = c)
    (cs : List Char) : tokens (cs.map f) = (tokens cs).map (mapChar f) := by
  fun_induction tokens cs with
  | case1 => rfl
  | case2 c => rfl
  | case3 c d cs htag ih =>
    have hf : (f c = '^' && isColor (f d)) = true := by simpa [hcaret, hcolor] using htag
    have hd : f d = d := hfix d (Bool.and_eq_true_iff.mp htag).2
    rw [List.map_cons, List.map_cons, tokens, if_pos hf, ih, hd]
    rfl
  | case4 c d cs htag ih =>
    have hf : ¬ (f c = '^' && isColor (f d)) = true := by simpa [hcaret, hcolor] using htag
    rw [List.map_cons] at ih
    rw [List.map_cons, List.map_cons, tokens, if_neg hf, ih]
    rfl

theorem paint_map (f : Char → Char) (color : Option Char) (ts : List ColorToken) :
    paint color (ts.map (mapChar f)) = (paint color ts).map fun x => (f x.1, x.2) := by
  induction ts generalizing color with
  | nil => rfl
  | cons t ts ih =>
    cases t with
    | char c => exact congrArg _ (ih color)
    | tag k => exact ih (some k)

theorem isColor_of_tag_mem {cs : List Char} {color : Char} (h : .tag color ∈ tokens cs) :
    isColor color = true := by
  fun_induction tokens cs with
  | case1 => cases h
  | case2 c => simp at h
  | case3 c d cs htag ih =>
    rcases List.mem_cons.mp h with h | h
    · obtain rfl := ColorToken.tag.inj h
      exact (Bool.and_eq_true_iff.mp htag).2
    · exact ih h
  | case4 c d cs htag ih => exact ih (by simpa using h)

theorem isColor_of_lastColor? {cs : List Char} {color : Char}
    (h : lastColor? (tokens cs) = some color) : isColor color = true := by
  obtain ⟨t, ht, hcolor⟩ := List.mem_filterMap.mp (List.mem_of_getLast? h)
  cases t with
  | char c => cases hcolor
  | tag k =>
    obtain rfl := Option.some.inj hcolor
    exact isColor_of_tag_mem ht

/-- Pieces of a text that are cut off behind other characters than `^`. -/
def Uncut (ls : List (List Char)) : Prop := ∀ l ∈ ls.dropLast, l.getLast? ≠ some '^'

theorem Uncut.cons {l : List Char} {ls : List (List Char)} (h : l.getLast? ≠ some '^')
    (hls : Uncut ls) : Uncut (l :: ls) := by
  cases ls with
  | nil => exact fun m hm => absurd hm (by simp)
  | cons m ls =>
    intro k hk
    rcases List.mem_cons.mp hk with rfl | hk
    · exact h
    · exact hls k hk

theorem Uncut.tail {l m : List Char} {ls : List (List Char)} (h : Uncut (l :: m :: ls)) :
    l.getLast? ≠ some '^' ∧ Uncut (m :: ls) :=
  ⟨h l (by simp), fun k hk => h k (List.mem_cons_of_mem l hk)⟩

/-- The tokens of the pieces are those of the text. -/
theorem tokens_flatten {ls : List (List Char)} (h : Uncut ls) :
    tokens ls.flatten = ls.flatMap tokens := by
  induction ls with
  | nil => rfl
  | cons l ls ih =>
    cases ls with
    | nil => simp
    | cons m ls =>
      obtain ⟨hl, htail⟩ := h.tail
      rw [List.flatten_cons, tokens_append (.inl hl), ih htail, List.flatMap_cons (x := l)]

/-- Separators between texts can be left out, if they do not belong to tags. -/
theorem filter_tokens_intercalate {c : Char} (hcolor : isColor c = false) (hne : c ≠ '^')
    (ls : List (List Char)) :
    (tokens ([c].intercalate ls)).filter (fun t => t.char?.all (· ≠ c)) =
      ls.flatMap fun l => (tokens l).filter fun t => t.char?.all (· ≠ c) := by
  induction ls with
  | nil => rfl
  | cons l ls ih =>
    cases ls with
    | nil => simp
    | cons m ls =>
      have happart : Apart l (c :: [c].intercalate (m :: ls)) := .inr fun d hd => by
        obtain rfl : c = d := by simpa using hd
        exact hcolor
      have hcons : tokens (c :: [c].intercalate (m :: ls)) =
          .char c :: tokens ([c].intercalate (m :: ls)) :=
        tokens_cons_of_apart (.inl (by simpa using hne))
      rw [List.intercalate_cons_cons, List.append_assoc, List.singleton_append,
        tokens_append happart, hcons, List.filter_append, List.filter_cons_of_neg (by simp [char?]),
        ih]
      rfl

end ColorToken
