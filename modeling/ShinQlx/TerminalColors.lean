import ShinQlx.TagRegex
import ShinQlx.Text

/-! # The colours of the rcon client

The client cuts a message into segments, each with the colour tag in front of it, and writes
them to the terminal in that colour.  A segment ends at the next caret, and the next one begins
at the next tag, so that what is between them is written only in front of the first tag.

`losesNothing_iff` says for which texts the segments are the text with its tags left out.
-/
namespace ShinQlx
namespace TerminalColors

open ColorToken Regex

/-- `termcolor::Color`, as far as it is used. -/
inductive Color where
  | black | red | green | yellow | blue | cyan | magenta | white
  deriving DecidableEq

/-- `termcolor::ColorSpec`, as far as it is used. -/
structure ColorSpec where
  fg : Option Color
  intense : Bool
  reset : Bool
  deriving DecidableEq

/-- `ColorSpec::new`. -/
def ColorSpec.new : ColorSpec := ⟨none, false, true⟩

/-- What is done with a buffer. -/
inductive BufferWrite where
  | setColor (spec : ColorSpec)
  | write (text : String)
  deriving DecidableEq

/-- `(\^[0-7])([^\^]+)`. -/
def captureRegex : Regex :=
  .seq (.group "1" tagRegex) (.group "2" (many1 true (isNot '^')))

/-- The texts of the two groups. -/
def extract (m : Match) : String × String := ((m.name "1").getD "", (m.name "2").getD "")

/-- `split_ql_colors`. -/
def splitQlColors (input : String) : List (String × String) :=
  (("reset", splitFirst tagRegex input) :: (capturesIter captureRegex input).map extract).filter
    fun segment => !segment.2.isEmpty

/-- The specification for a colour. -/
def colorSpec (intense : Bool) (color : String) : ColorSpec :=
  let spec := { ColorSpec.new with intense := intense }
  match color with
  | "^0" => { spec with fg := some .black }
  | "^1" => { spec with fg := some .red }
  | "^2" => { spec with fg := some .green }
  | "^3" => { spec with fg := some .yellow }
  | "^4" => { spec with fg := some .blue }
  | "^5" => { spec with fg := some .cyan }
  | "^6" => { spec with fg := some .magenta }
  | "reset" => { spec with reset := true }
  | _ => { spec with fg := some .white }

/-- `strip_prefix("broadcast: ")` and `trim`. -/
def strippedMsg (text : String) : String :=
  Text.trim ((Text.stripPrefix "broadcast: " text).getD text)

/-- Does the message come from a `print` command? -/
def isPrintMsg (text : String) : Bool :=
  (Text.stripPrefix "print \"" (strippedMsg text)).isSome

/-- The message without the command around it. -/
def strippedText (text : String) : String :=
  match Text.stripPrefix "print \"" (strippedMsg text) with
  | some printed => String.ofList (printed.toList.rdropWhile fun c => c = '"' || c = '\n')
  | none => strippedMsg text

/-- `write_formatted_ql_colors`. -/
def writeFormattedQlColors (text : String) : List BufferWrite :=
  ((splitQlColors (strippedText text)).flatMap fun segment =>
    [.setColor (colorSpec (isPrintMsg text) segment.1), .write segment.2]) ++
    [.setColor { ColorSpec.new with reset := true }]

/-- The text of a colour; there is none at the start. -/
def colorText : Option Char → String
  | none => "reset"
  | some color => String.ofList (tagText color)

/-- The characters of a segment with its colour. -/
def painted (segment : String × String) : List (Char × String) :=
  segment.2.toList.map fun c => (c, segment.1)

/-- **What the segments of a text should be**: together they are the text without its tags, and
each character has the colour of the last tag before it. -/
structure LosesNothing (input : String) (segments : List (String × String)) : Prop where
  text : segments.flatMap (·.2.toList) = strip input.toList
  colors : segments.flatMap painted =
    (paint none (tokens input.toList)).map fun x => (x.1, colorText x.2)

/-- The characters that a terminal shows, each in the colour that was set before it. -/
def shown : ColorSpec → List BufferWrite → List (Char × ColorSpec)
  | _, [] => []
  | _, .setColor spec :: writes => shown spec writes
  | spec, .write text :: writes => text.toList.map (fun c => (c, spec)) ++ shown spec writes

/-- Behind the first tag, every caret begins a tag. -/
def CaretsBeginTags (input : String) : Prop :=
  .char '^' ∉ (tokens input.toList).dropWhile fun t => t.color?.isNone

/-! ## The matches at one place -/

theorem forward_captureRegex : captureRegex.Forward = true := rfl

/-- No segment begins here. -/
theorem head?_run_captureRegex_of_nil {prev : Option Char} {cs : List Char}
    (h : run tagRegex prev cs = []) : (run captureRegex prev cs).head? = none := by
  rw [captureRegex, head?_run_seq, run_group, h]
  rfl

/-- A tag without a text begins no segment. -/
theorem head?_run_captureRegex_of_caret {prev : Option Char} {d : Char} {cs : List Char}
    (hd : isColor d = true) (hcs : ∀ c ∈ cs.head?, c = '^') :
    (run captureRegex prev ('^' :: d :: cs)).head? = none := by
  have hnone : ∀ prev', run (many1 true (isNot '^')) prev' cs = [] := by
    intro prev'
    cases cs with
    | nil => rfl
    | cons c cs =>
      obtain rfl := hcs c rfl
      rw [run_many1_cons]
      rfl
  rw [captureRegex, head?_run_seq, run_group, run_tagRegex, if_pos (by simpa using hd)]
  simp [run_group, hnone]

/-- A tag and what is behind it, up to the next caret. -/
theorem head?_run_captureRegex_of_text {prev : Option Char} {d c : Char} {cs : List Char}
    (hd : isColor d = true) (hc : c ≠ '^') :
    (run captureRegex prev ('^' :: d :: c :: cs)).head? =
      some ⟨'^' :: d :: c :: cs.takeWhile (isNot '^'), cs.dropWhile (isNot '^'),
        [("1", ['^', d]), ("2", c :: cs.takeWhile (isNot '^'))]⟩ := by
  have hnot : isNot '^' c = true := decide_eq_true hc
  rw [captureRegex, head?_run_seq, run_group, run_tagRegex, if_pos (by simpa using hd)]
  simp [run_group, run_many1_cons, hnot, head?_splits, Match.append]

/-! ## The characters of the segments -/

/-- The tokens of the text that are in segments, behind a text that ends in the colour `color`;
without a colour they are lost, as are those from a caret on. -/
def kept : Option Char → List ColorToken → List (Char × Option Char)
  | _, [] => []
  | _, .tag color :: ts => kept (some color) ts
  | none, .char _ :: ts => kept none ts
  | some color, .char c :: ts =>
    if c = '^' then kept none ts else (c, some color) :: kept (some color) ts

/-- A text that begins with a caret begins without a colour. -/
theorem kept_of_caret (color : Option Char) {cs : List Char} (hcs : ∀ c ∈ cs.head?, c = '^') :
    kept color (tokens cs) = kept none (tokens cs) := by
  match cs, hcs with
  | [], _ => rw [tokens, kept, kept]
  | [c], hcs =>
    obtain rfl := hcs c rfl
    cases color <;> rfl
  | c :: d :: cs, hcs =>
    obtain rfl := hcs c rfl
    rw [tokens]
    split
    · rw [kept, kept]
    · cases color <;> simp [kept]

theorem kept_append (color : Char) {cs : List Char} (hcs : ∀ c ∈ cs, c ≠ '^')
    (ts : List ColorToken) :
    kept (some color) (cs.map .char ++ ts) =
      cs.map (fun c => (c, some color)) ++ kept (some color) ts := by
  induction cs with
  | nil => rfl
  | cons c cs ih =>
    obtain ⟨hc, hcs⟩ := List.forall_mem_cons.mp hcs
    rw [List.map_cons, List.cons_append, kept, if_neg hc, ih hcs]
    rfl

/-- A text without carets has no tags. -/
theorem tokens_of_not_caret {cs : List Char} (hcs : ∀ c ∈ cs, c ≠ '^') :
    tokens cs = cs.map .char := by
  fun_induction tokens cs with
  | case1 => rfl
  | case2 c => rfl
  | case3 c d cs htag ih =>
    exact absurd (of_decide_eq_true (Bool.and_eq_true_iff.mp htag).1) (hcs c List.mem_cons_self)
  | case4 c d cs htag ih =>
    rw [ih fun e he => hcs e (List.mem_cons_of_mem c he)]
    rfl

theorem tokens_append_caret {cs : List Char} (hcs : ∀ c ∈ cs, c ≠ '^') (rest : List Char) :
    tokens (cs ++ rest) = cs.map .char ++ tokens rest := by
  rw [tokens_append, tokens_of_not_caret hcs]
  refine .inl fun hlast => ?_
  exact hcs '^' (List.mem_of_getLast? hlast) rfl

theorem ne_caret_of_isColor {d : Char} (h : isColor d = true) : d ≠ '^' := by
  rintro rfl
  revert h
  decide

/-- A text is kept up to the next caret. -/
theorem kept_text (color : Char) {c : Char} (cs : List Char) (hc : c ≠ '^') :
    kept (some color) (tokens (c :: cs)) =
      (c :: cs.takeWhile (isNot '^')).map (fun d => (d, some color)) ++
        kept none (tokens (cs.dropWhile (isNot '^'))) := by
  have hrest : ∀ d ∈ (cs.dropWhile (isNot '^')).head?, d = '^' := by
    intro d hd
    have hnot := List.head?_dropWhile_not (isNot '^') cs
    rw [Option.mem_def.mp hd] at hnot
    simpa [isNot] using hnot
  have htext : ∀ d ∈ c :: cs.takeWhile (isNot '^'), d ≠ '^' := by
    refine List.forall_mem_cons.mpr ⟨hc, fun d hd => ?_⟩
    have hnot : isNot '^' d = true := List.mem_takeWhile_imp hd
    exact of_decide_eq_true hnot
  have hsplit : c :: cs = c :: cs.takeWhile (isNot '^') ++ cs.dropWhile (isNot '^') := by
    rw [List.cons_append, List.takeWhile_append_dropWhile]
  rw [hsplit, tokens_append_caret htext, kept_append color htext,
    kept_of_caret (some color) hrest]

/-- A segment is painted in the colour of its tag. -/
theorem painted_extract (d c : Char) (cs rest : List Char) :
    painted (extract ⟨'^' :: d :: c :: cs, rest, [("1", ['^', d]), ("2", c :: cs)]⟩) =
      (c :: cs).map fun e => (e, colorText (some d)) := by
  simp [painted, extract, Match.name, colorText, tagText, List.lookup_cons]

/-- **The segments behind the first tag.** -/
theorem flatMap_scan (cs : List Char) :
    (scan captureRegex 0 none cs).flatMap (fun m => painted (extract m)) =
      (kept none (tokens cs)).map fun x => (x.1, colorText x.2) := by
  induction hlength : cs.length using Nat.strong_induction_on generalizing cs with
  | h n ih =>
    rcases cs with - | ⟨c, - | ⟨d, cs⟩⟩
    · rfl
    · rw [scan_of_none forward_captureRegex
        (head?_run_captureRegex_of_nil (run_tagRegex_single none c))]
      rfl
    rw [List.length_cons, List.length_cons] at hlength
    by_cases htag : (c = '^' && isColor d) = true
    · obtain ⟨hc, hd⟩ := Bool.and_eq_true_iff.mp htag
      obtain rfl := of_decide_eq_true hc
      rw [tokens, if_pos htag, kept]
      by_cases hcaret : ∀ e ∈ cs.head?, e = '^'
      · -- the tag has no text, and its digit begins no other
        have hdigit : run tagRegex none (d :: cs) = [] :=
          run_only_seq_of_ne _ (ne_caret_of_isColor hd) none cs
        rw [scan_of_none forward_captureRegex (head?_run_captureRegex_of_caret hd hcaret),
          scan_of_none forward_captureRegex (head?_run_captureRegex_of_nil hdigit),
          kept_of_caret (some d) hcaret]
        exact ih cs.length (by omega) cs rfl
      · obtain ⟨e, es, rfl, he⟩ : ∃ e es, cs = e :: es ∧ e ≠ '^' := by
          cases cs with
          | nil => exact absurd (fun e he => by cases he) hcaret
          | cons e es =>
            exact ⟨e, es, rfl, fun he => hcaret fun f hf => Option.some.inj hf ▸ he⟩
        have hshorter := List.length_dropWhile_le (isNot '^') es
        rw [List.length_cons] at hlength
        rw [scan_of_match forward_captureRegex (head?_run_captureRegex_of_text hd he)
          (List.cons_ne_nil _ _), List.flatMap_cons, painted_extract, kept_text d es he,
          List.map_append, List.map_map]
        exact congrArg _ (ih _ (by omega) (es.dropWhile (isNot '^')) rfl)
    · have hnil := run_tagRegex none c d cs
      rw [if_neg htag] at hnil
      rw [scan_of_none forward_captureRegex (head?_run_captureRegex_of_nil hnil), tokens,
        if_neg htag, kept]
      exact ih _ (by rw [← hlength]; exact Nat.lt_succ_self _) (d :: cs) rfl

theorem flatMap_filter_painted (segments : List (String × String)) :
    (segments.filter fun segment => !segment.2.isEmpty).flatMap painted =
      segments.flatMap painted := by
  induction segments with
  | nil => rfl
  | cons segment segments ih =>
    rw [List.filter_cons]
    split
    next => rw [List.flatMap_cons, List.flatMap_cons, ih]
    next hempty =>
      have hnil : segment.2 = "" := by simpa using hempty
      rw [ih, List.flatMap_cons, painted, hnil]
      rfl

theorem map_fst_flatMap_painted (segments : List (String × String)) :
    (segments.flatMap painted).map Prod.fst = segments.flatMap (·.2.toList) := by
  simp only [List.map_flatMap, painted, List.map_map, Function.comp_def, List.map_id']

theorem paint_map_char (color : Option Char) (cs : List Char) :
    paint color (cs.map .char) = cs.map fun c => (c, color) := by
  induction cs with
  | nil => rfl
  | cons c cs ih => exact congrArg _ ih

theorem lastColor?_map_char (cs : List Char) : lastColor? (cs.map .char) = none := by
  have hnone : (cs.map ColorToken.char).filterMap color? = [] := by
    simp [List.filterMap_eq_nil_iff, color?]
  rw [lastColor?, hnone, List.getLast?_nil]

theorem map_fst_paint (color : Option Char) (ts : List ColorToken) :
    (paint color ts).map Prod.fst = ts.filterMap char? := by
  induction ts generalizing color with
  | nil => rfl
  | cons t ts ih =>
    cases t with
    | char c => exact congrArg (c :: ·) (ih color)
    | tag color => exact ih (some color)

theorem kept_none_append (cs : List Char) (ts : List ColorToken) :
    kept none (cs.map .char ++ ts) = kept none ts := by
  induction cs with
  | nil => rfl
  | cons c cs ih => exact ih

/-- In front of the first tag there are only characters. -/
theorem takeWhile_tokens (ts : List ColorToken) :
    (ts.takeWhile fun t => t.color?.isNone) =
      ((ts.takeWhile fun t => t.color?.isNone).filterMap char?).map .char := by
  induction ts with
  | nil => rfl
  | cons t ts ih =>
    cases t with
    | char c => exact congrArg (ColorToken.char c :: ·) ih
    | tag color => rfl

/-- **The segments of a text**: what is in front of the first tag, and what is kept of the
rest. -/
theorem flatMap_splitQlColors {input : String} {cs : List Char} {ts : List ColorToken}
    (hcut : ((tokens input.toList).takeWhile fun t => t.color?.isNone) = cs.map .char)
    (htokens : tokens input.toList = cs.map .char ++ ts) :
    (splitQlColors input).flatMap painted =
      (paint none (cs.map .char) ++ kept none ts).map fun x => (x.1, colorText x.2) := by
  have hfront : (splitFirst tagRegex input).toList = cs := by
    have hchars : (cs.map ColorToken.char).filterMap char? = cs := by
      rw [List.filterMap_map]
      exact List.filterMap_some
    rw [splitFirst, String.toList_ofList, front_tagRegex, hcut, hchars]
  have hpainted : painted ("reset", splitFirst tagRegex input) =
      (paint none (cs.map .char)).map fun x => (x.1, colorText x.2) := by
    rw [painted, hfront, paint_map_char, List.map_map]
    rfl
  rw [splitQlColors, flatMap_filter_painted, List.flatMap_cons, List.flatMap_map, capturesIter,
    flatMap_scan, hpainted, htokens, kept_none_append, List.map_append]

/-! ## What is lost -/

/-- A caret that begins no tag is lost. -/
theorem length_kept_le (color : Option Char) (ts : List ColorToken) :
    (kept color ts).length + ts.count (.char '^') ≤ (ts.filterMap char?).length := by
  induction ts generalizing color with
  | nil => exact Nat.le_refl 0
  | cons t ts ih =>
    cases t with
    | tag k =>
      have hne : ColorToken.tag k ≠ .char '^' := nofun
      rw [kept, List.count_cons_of_ne hne]
      exact ih (some k)
    | char c =>
      have hlength : ((ColorToken.char c :: ts).filterMap char?).length =
          (ts.filterMap char?).length + 1 := rfl
      have hnone := ih none
      by_cases hc : c = '^'
      · obtain rfl := hc
        rw [List.count_cons_self]
        cases color with
        | none =>
          rw [kept]
          omega
        | some k =>
          rw [kept, if_pos rfl]
          omega
      · have hne : ColorToken.char c ≠ .char '^' := fun h => hc (ColorToken.char.inj h)
        rw [List.count_cons_of_ne hne]
        cases color with
        | none =>
          rw [kept]
          omega
        | some k =>
          have hsome := ih (some k)
          rw [kept, if_neg hc, List.length_cons]
          omega

theorem kept_eq_paint (color : Char) {ts : List ColorToken} (h : .char '^' ∉ ts) :
    kept (some color) ts = paint (some color) ts := by
  induction ts generalizing color with
  | nil => rfl
  | cons t ts ih =>
    obtain ⟨hne, hts⟩ := List.ne_and_not_mem_of_not_mem_cons h
    cases t with
    | tag k => exact ih k hts
    | char c =>
      rw [kept, if_neg fun hc => hne (congrArg _ hc.symm), paint, ih color hts]

/-- From the first tag on, all is kept where every caret begins a tag. -/
theorem kept_none_eq_paint (ts : List ColorToken)
    (h : .char '^' ∉ ts.dropWhile fun t => t.color?.isNone) :
    kept none (ts.dropWhile fun t => t.color?.isNone) =
      paint none (ts.dropWhile fun t => t.color?.isNone) := by
  induction ts with
  | nil => rfl
  | cons t ts ih =>
    cases t with
    | char c => exact ih h
    | tag color => exact kept_eq_paint color (List.not_mem_of_not_mem_cons h)

/-- **Nothing of a text is lost iff** behind its first tag every caret begins a tag. -/
theorem losesNothing_iff (input : String) :
    LosesNothing input (splitQlColors input) ↔ CaretsBeginTags input := by
  have hcut := takeWhile_tokens (tokens input.toList)
  have htokens := (tokens input.toList).takeWhile_append_dropWhile (p := fun t => t.color?.isNone)
  have hkept := kept_none_eq_paint (tokens input.toList)
  rw [CaretsBeginTags]
  generalize ((tokens input.toList).takeWhile fun t => t.color?.isNone).filterMap char? = cs
    at hcut
  generalize (tokens input.toList).dropWhile (fun t => t.color?.isNone) = ts at htokens hkept ⊢
  rw [hcut] at htokens
  have hsegments := flatMap_splitQlColors hcut htokens.symm
  have hpaint : paint none (tokens input.toList) = paint none (cs.map .char) ++ paint none ts := by
    rw [← htokens, paint_append, lastColor?_map_char]
    rfl
  constructor
  · intro h
    have htext := h.text
    rw [← map_fst_flatMap_painted, hsegments, strip, ← map_fst_paint none, hpaint] at htext
    have hlength := congrArg List.length htext
    simp only [List.map_append, List.length_append, List.length_map] at hlength
    have hlost := length_kept_le none ts
    rw [← map_fst_paint none ts, List.length_map] at hlost
    rw [← List.count_eq_zero]
    omega
  · intro h
    have hcolors : (splitQlColors input).flatMap painted =
        (paint none (tokens input.toList)).map fun x => (x.1, colorText x.2) := by
      rw [hsegments, hkept h, hpaint]
    refine ⟨?_, hcolors⟩
    rw [← map_fst_flatMap_painted, hcolors, List.map_map, strip, ← map_fst_paint none]
    rfl

/-- The caret behind the tag is lost, and the character behind it. -/
theorem not_losesNothing_caret : ¬ LosesNothing "^1a^b" (splitQlColors "^1a^b") := by
  intro h
  exact absurd h.text (by decide)

/-! ## What is written -/

theorem shown_segments (spec : ColorSpec) (intense : Bool) (segments : List (String × String)) :
    shown spec ((segments.flatMap fun segment =>
      [.setColor (colorSpec intense segment.1), .write segment.2]) ++
        [.setColor { ColorSpec.new with reset := true }]) =
      (segments.flatMap painted).map fun x => (x.1, colorSpec intense x.2) := by
  induction segments generalizing spec with
  | nil => rfl
  | cons segment segments ih =>
    rw [List.flatMap_cons, List.flatMap_cons, List.append_assoc, List.map_append,
      ← ih (colorSpec intense segment.1), painted, List.map_map]
    rfl

/-- **The terminal shows a message in its colours**, if behind its first tag every caret begins
a tag. -/
theorem shown_writeFormattedQlColors (spec : ColorSpec) {text : String}
    (h : CaretsBeginTags (strippedText text)) :
    shown spec (writeFormattedQlColors text) =
      (paint none (tokens (strippedText text).toList)).map fun x =>
        (x.1, colorSpec (isPrintMsg text) (colorText x.2)) := by
  rw [writeFormattedQlColors, shown_segments, ((losesNothing_iff _).mpr h).colors, List.map_map]
  rfl

end TerminalColors
end ShinQlx
