import ShinQlx.ColorTag
import ShinQlx.RegexIter

/-! # Leaving colour tags out

The expression for a colour tag, and what is left of a text when its tags are left out once,
from left to right.  What was around a tag can come to be a tag then: `hasTag_strip_iff` says
for which texts.
-/
namespace ColorToken

open Regex

/-- `\^[0-7]`. -/
def tagRegex : Regex := .seq (only '^') (.char isColor)

/-- There is a tag in the text. -/
def HasTag (cs : List Char) : Prop :=
  ∃ front color back, cs = front ++ tagText color ++ back ∧ isColor color = true

/-- A caret that has tags and a digit behind it, which come to be a tag when those are left
out. -/
def FormsTag (cs : List Char) : Prop :=
  ∃ front tags color back, cs = front ++ '^' :: (tags.flatMap tagText ++ color :: back) ∧
    tags ≠ [] ∧ (∀ tag ∈ tags, isColor tag = true) ∧ isColor color = true

/-- The second text is the first one without its tags. -/
inductive WithoutTags : List Char → List Char → Prop
  | nil : WithoutTags [] []
  | tag {color : Char} {cs left : List Char} : isColor color = true → WithoutTags cs left →
      WithoutTags (tagText color ++ cs) left
  | char {c : Char} {cs left : List Char} : Apart [c] cs → WithoutTags cs left →
      WithoutTags (c :: cs) (c :: left)

/-! ## The expression -/

theorem run_tagRegex (prev : Option Char) (c d : Char) (cs : List Char) :
    run tagRegex prev (c :: d :: cs) =
      if c = '^' && isColor d then [⟨[c, d], cs, []⟩] else [] := by
  rw [tagRegex]
  by_cases hc : c = '^'
  · rw [hc, run_only_seq]
    cases hd : isColor d <;> simp [run, hd, Match.append]
  · rw [run_only_seq_of_ne _ hc]
    simp [hc]

theorem run_tagRegex_single (prev : Option Char) (c : Char) :
    run tagRegex prev [c] = [] := by
  rw [tagRegex]
  by_cases hc : c = '^'
  · rw [hc, run_only_seq]
    rfl
  · exact run_only_seq_of_ne _ hc prev []

/-- The text in front of the first tag. -/
theorem front_tagRegex (prev : Option Char) (cs : List Char) :
    front tagRegex prev cs =
      ((tokens cs).takeWhile fun t => t.color?.isNone).filterMap char? := by
  fun_induction tokens cs generalizing prev with
  | case1 => rfl
  | case2 c =>
    rw [front, run_tagRegex_single]
    rfl
  | case3 c d cs htag ih =>
    rw [front, run_tagRegex, if_pos htag]
    rfl
  | case4 c d cs htag ih =>
    rw [front, run_tagRegex, if_neg htag, ih (some c)]
    rfl

/-- **The tags are left out** by the search that replaces them by nothing. -/
theorem replaceFrom_tagRegex (prev : Option Char) (cs : List Char) :
    replaceFrom tagRegex [] 0 prev cs = strip cs := by
  rw [strip]
  fun_induction tokens cs generalizing prev with
  | case1 => rfl
  | case2 c =>
    rw [replaceFrom, run_tagRegex_single]
    rfl
  | case3 c d cs htag ih =>
    rw [replaceFrom, run_tagRegex, if_pos htag]
    exact ih (some d)
  | case4 c d cs htag ih =>
    rw [replaceFrom, run_tagRegex, if_neg htag]
    exact congrArg (c :: ·) (ih (some c))

/-! ## What is left -/

/-- Induction over a text: it begins with a tag or with another character. -/
@[elab_as_elim]
theorem tagInduction {motive : List Char → Prop} (cs : List Char) (nil : motive [])
    (tag : ∀ color cs, isColor color = true → motive cs → motive (tagText color ++ cs))
    (char : ∀ c cs, Apart [c] cs → motive cs → motive (c :: cs)) : motive cs := by
  fun_induction tokens cs with
  | case1 => exact nil
  | case2 c => exact char c [] (.inr fun d hd => by cases hd) nil
  | case3 c d cs htag ih =>
    obtain ⟨hc, hd⟩ := Bool.and_eq_true_iff.mp htag
    obtain rfl := of_decide_eq_true hc
    exact tag d cs hd ih
  | case4 c d cs htag ih =>
    refine char c (d :: cs) ?_ ih
    by_cases hc : c = '^'
    · refine .inr fun e he => ?_
      obtain rfl : d = e := Option.some.inj he
      exact Bool.eq_false_iff.mpr fun hd => htag (by simp [hc, hd])
    · exact .inl fun hlast => hc (Option.some.inj hlast)

theorem strip_tagText {color : Char} (h : isColor color = true) (cs : List Char) :
    strip (tagText color ++ cs) = strip cs := by
  show (tokens ('^' :: color :: cs)).filterMap char? = _
  rw [tokens, if_pos (by simpa using h)]
  rfl

theorem strip_cons {c : Char} {cs : List Char} (h : Apart [c] cs) :
    strip (c :: cs) = c :: strip cs := by
  rw [strip, tokens_cons_of_apart h]
  rfl

theorem strip_tags {tags : List Char} (h : ∀ tag ∈ tags, isColor tag = true) (cs : List Char) :
    strip (tags.flatMap tagText ++ cs) = strip cs := by
  induction tags with
  | nil => rfl
  | cons tag tags ih =>
    obtain ⟨htag, htags⟩ := List.forall_mem_cons.mp h
    rw [List.flatMap_cons, List.append_assoc, strip_tagText htag, ih htags]

/-- A text can be cut in front of a caret. -/
theorem strip_append_caret (front cs : List Char) :
    strip (front ++ '^' :: cs) = strip front ++ strip ('^' :: cs) := by
  have happart : Apart front ('^' :: cs) := by
    refine .inr fun d hd => ?_
    obtain rfl : '^' = d := Option.some.inj hd
    decide
  rw [strip, tokens_append happart, List.filterMap_append]
  rfl

/-- **What is left** is the text without its tags, and nothing else is. -/
theorem withoutTags_iff {cs left : List Char} : WithoutTags cs left ↔ left = strip cs := by
  constructor
  · intro h
    induction h with
    | nil => rfl
    | tag hcolor _ ih => rw [strip_tagText hcolor, ih]
    | char happart _ ih => rw [strip_cons happart, ih]
  · rintro rfl
    induction cs using tagInduction with
    | nil => exact .nil
    | tag color cs hcolor ih =>
      rw [strip_tagText hcolor]
      exact .tag hcolor ih
    | char c cs happart ih =>
      rw [strip_cons happart]
      exact .char happart ih

theorem length_strip_le (cs : List Char) : (strip cs).length ≤ cs.length := by
  induction cs using tagInduction with
  | nil => exact Nat.le_refl 0
  | tag color cs hcolor ih =>
    rw [strip_tagText hcolor, List.length_append]
    omega
  | char c cs happart ih =>
    rw [strip_cons happart, List.length_cons, List.length_cons]
    omega

/-- **A text is left as it is iff** there is no tag in it. -/
theorem strip_eq_self_iff {cs : List Char} : strip cs = cs ↔ ¬ HasTag cs := by
  constructor
  · rintro h ⟨front, color, back, hcs, hcolor⟩
    have hlength := congrArg List.length h
    have hfront := length_strip_le front
    have hback := length_strip_le back
    rw [hcs, List.append_assoc] at hlength
    have hcut := strip_append_caret front (color :: back)
    have htag := strip_tagText hcolor back
    simp only [tagText, List.cons_append, List.nil_append] at htag hlength
    rw [hcut, htag] at hlength
    simp only [List.length_append, List.length_cons] at hlength
    omega
  · intro h
    induction cs using tagInduction with
    | nil => rfl
    | tag color cs hcolor ih => exact absurd ⟨[], color, cs, rfl, hcolor⟩ h
    | char c cs happart ih =>
      rw [strip_cons happart, ih]
      rintro ⟨front, color, back, rfl, hcolor⟩
      exact h ⟨c :: front, color, back, rfl, hcolor⟩

/-- What begins with a digit when its tags are left out begins with tags and that digit. -/
theorem exists_tags {cs left : List Char} {color : Char} (h : strip cs = color :: left) :
    ∃ (tags back : List Char), cs = tags.flatMap tagText ++ color :: back ∧
      ∀ tag ∈ tags, isColor tag = true := by
  induction cs using tagInduction with
  | nil => cases h
  | tag k cs hk ih =>
    rw [strip_tagText hk] at h
    obtain ⟨tags, back, rfl, htags⟩ := ih h
    refine ⟨k :: tags, back, ?_, List.forall_mem_cons.mpr ⟨hk, htags⟩⟩
    rw [List.flatMap_cons, List.append_assoc]
  | char c cs happart ih =>
    rw [strip_cons happart] at h
    obtain ⟨rfl, -⟩ := List.cons.inj h
    exact ⟨[], cs, rfl, fun tag htag => absurd htag List.not_mem_nil⟩

theorem FormsTag.append {cs : List Char} (h : FormsTag cs) (front : List Char) :
    FormsTag (front ++ cs) := by
  obtain ⟨front', tags, color, back, rfl, hne, htags, hcolor⟩ := h
  exact ⟨front ++ front', tags, color, back, (List.append_assoc ..).symm, hne, htags, hcolor⟩

/-- **Where a tag is left**: a caret had tags and a digit behind it. -/
theorem hasTag_strip_iff (cs : List Char) : HasTag (strip cs) ↔ FormsTag cs := by
  constructor
  · intro h
    induction cs using tagInduction with
    | nil =>
      obtain ⟨front, color, back, hnil, -⟩ := h
      cases front <;> cases hnil
    | tag color cs hcolor ih =>
      rw [strip_tagText hcolor] at h
      exact (ih h).append (tagText color)
    | char c cs happart ih =>
      rw [strip_cons happart] at h
      obtain ⟨front, color, back, htext, hcolor⟩ := h
      cases front with
      | cons d front =>
        obtain ⟨-, hrest⟩ := List.cons.inj htext
        exact (ih ⟨front, color, back, hrest, hcolor⟩).append [c]
      | nil =>
        obtain ⟨rfl, hrest⟩ := List.cons.inj htext
        obtain ⟨tags, rest, rfl, htags⟩ := exists_tags hrest
        refine ⟨[], tags, color, rest, rfl, ?_, htags, hcolor⟩
        -- without tags the caret and the digit would have been one
        rintro rfl
        rcases happart with hcaret | hdigit
        · exact hcaret rfl
        · rw [hdigit color rfl] at hcolor
          cases hcolor
  · rintro ⟨front, tags, color, back, rfl, hne, htags, hcolor⟩
    have hcaret : strip ('^' :: (tags.flatMap tagText ++ color :: back)) =
        '^' :: color :: strip back := by
      have happart : Apart ['^'] (tags.flatMap tagText ++ color :: back) := by
        cases tags with
        | nil => exact absurd rfl hne
        | cons tag tags =>
          refine .inr fun d hd => ?_
          obtain rfl : '^' = d := Option.some.inj hd
          decide
      have hdigit : Apart [color] back := by
        refine .inl fun hlast => ?_
        obtain rfl := Option.some.inj hlast
        cases hcolor
      rw [strip_cons happart, strip_tags htags, strip_cons hdigit]
    rw [strip_append_caret, hcaret]
    exact ⟨strip front, color, strip back, by simp [tagText], hcolor⟩

end ColorToken
