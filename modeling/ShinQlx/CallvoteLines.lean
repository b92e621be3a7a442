import ShinQlx.CommandLines

/-! # Votes that go on behind their line

`RE_CALLVOTE` can match across lines, since the name of a vote goes on to the next blank.
A vote that is found in the first line stays what it is if it has arguments there; without
arguments its name goes on behind the line, unless the text there is one word
(`callvoteOf_line`).
-/
namespace ShinQlx
namespace ClientCommand
open Regex

/-- The names of the command. -/
def callvoteNames : Regex := .alt (word true "cv") (word true "callvote")

/-- The arguments of a vote, up to the end of the line. -/
def callvoteArgs : Regex :=
  sequence [optional (sequence [only ' ', optional (only '"'), .group "args" (many1 false isAny),
    optional (only '"')]), .lineEnd]

/-- The vote and its arguments. -/
def callvoteVote : Regex := .seq (.group "cmd" (many1 true (isNot ' '))) callvoteArgs

/-- The arguments that are read at a place. -/
def argsAt (cs : List Char) : Option String :=
  (run callvoteArgs none cs).head?.map fun m => (m.name "args").getD ""

/-- The vote that is read at a place. -/
def voteAt (cs : List Char) : Option (String × String) :=
  (run callvoteVote (some ' ') cs).head?.bind votedFor

/-- What is behind the blanks that a place begins with. -/
def afterBlanks : List Char → Option (List Char)
  | c :: cs => if c = ' ' then some (cs.dropWhile (· = ' ')) else none
  | [] => none

theorem afterBlanks_append_newline (cs t : List Char) :
    afterBlanks (cs ++ '\n' :: t) = (afterBlanks cs).map (· ++ '\n' :: t) := by
  cases cs with
  | nil => rfl
  | cons c cs =>
    have hdrop : (cs ++ '\n' :: t).dropWhile (· = ' ') = cs.dropWhile (· = ' ') ++ '\n' :: t := by
      induction cs with
      | nil => rfl
      | cons d cs ih =>
        by_cases hd : d = ' '
        · simpa [hd] using ih
        · simp [hd]
    simp only [List.cons_append, afterBlanks, hdrop]
    split <;> rfl

/-- What is read off the first match, match by match. -/
theorem bind_findSome? {α β γ : Type} {l : List α} {f : α → Option β} {g : β → Option γ}
    {k : α → Option γ} (hk : ∀ x ∈ l, (f x).bind g = k x)
    (hg : ∀ x ∈ l, ∀ b, f x = some b → (g b).isSome = true) :
    (l.findSome? f).bind g = l.findSome? k := by
  induction l with
  | nil => rfl
  | cons x l ih =>
    have ih := ih (fun y hy => hk y (List.mem_cons_of_mem x hy))
      (fun y hy => hg y (List.mem_cons_of_mem x hy))
    have hx := hk x List.mem_cons_self
    rw [List.findSome?_cons, List.findSome?_cons, ← hx]
    cases hf : f x with
    | none => simpa using ih
    | some b =>
      obtain ⟨c, hc⟩ := Option.isSome_iff_exists.mp (hg x List.mem_cons_self b hf)
      simp [hc]

theorem votedFor_append {m : Match} (hm : m.captures = []) (n : Match) :
    votedFor (m.append n) = votedFor n := by
  simp [votedFor, Match.name, Match.append, hm]

theorem subset_of_afterBlanks {cs u : List Char} (h : afterBlanks cs = some u) : u ⊆ cs := by
  cases cs with
  | nil => cases h
  | cons c cs =>
    rw [afterBlanks, Option.ite_none_right_eq_some] at h
    obtain rfl := Option.some.inj h.2
    exact List.subset_cons_of_subset c (List.dropWhile_suffix _).subset

theorem voteAt_cons {c : Char} (hc : c ≠ ' ') (cs : List Char) :
    voteAt (c :: cs) = (splits true (isNot ' ') cs).findSome? fun x =>
      (argsAt x.2).map fun args => (String.ofList (c :: x.1), args) := by
  have hnot : isNot ' ' c = true := by simp [isNot, hc]
  rw [voteAt, callvoteVote, head?_run_seq]
  simp only [run, run_many1_cons, hnot, if_true, List.map_map, List.findSome?_map]
  refine bind_findSome? (fun x _ => ?_) (fun x _ m h => ?_)
  · simp only [Function.comp_apply, argsAt]
    rw [run_forward (r := callvoteArgs) (by decide) _ none]
    cases (run callvoteArgs none x.2).head? with
    | none => rfl
    | some n =>
      simp [votedFor, Match.name, Match.append]
      rfl
  · obtain ⟨n, -, rfl⟩ := Option.map_eq_some_iff.mp h
    simp [votedFor, Match.name, Match.append]

theorem voteAt_eq_none {cs : List Char} (h : ∀ c rest, cs = c :: rest → c = ' ') :
    voteAt cs = none := by
  have hrun : run callvoteVote (some ' ') cs = [] := by
    cases cs with
    | nil => rfl
    | cons c rest =>
      obtain rfl := h c rest rfl
      simp [callvoteVote, run, run_many1_cons, isNot]
  simp [voteAt, hrun]

/-- The blanks behind the name of the command are all taken. -/
theorem head?_run_blanks (prev : Option Char) (cs : List Char) :
    (run (.seq (many1 true (· = ' ')) callvoteVote) prev cs).head?.bind votedFor =
      (afterBlanks cs).bind voteAt := by
  cases cs with
  | nil => rfl
  | cons c cs =>
    rw [head?_run_seq, run_many1_cons, afterBlanks]
    by_cases hc : c = ' '
    · simp only [hc, decide_true, if_true, List.findSome?_map]
      rw [findSome?_splits]
      · simp only [Function.comp_apply, Option.bind_some, voteAt]
        rw [run_forward (r := callvoteVote) (by decide) _ (some ' ')]
        cases (run callvoteVote (some ' ') (cs.dropWhile (· = ' '))).head? with
        | none => rfl
        | some n => exact votedFor_append rfl n
      · intro a d b hd
        obtain rfl := of_decide_eq_true hd
        simp [callvoteVote, run, run_many1_cons, isNot]
    · simp [hc]

/-- The head of a search for a vote. -/
theorem head?_run_reCallvote (cs : List Char) :
    (run reCallvote none cs).head?.bind votedFor =
      (run callvoteNames none cs).findSome? fun m => (afterBlanks m.rest).bind voteAt := by
  have hnames : ∀ m ∈ run callvoteNames none cs, m.captures = [] := by
    intro m hm
    rcases List.mem_append.mp hm with hm | hm
    · exact (map_foldCase_of_mem_letters hm).2
    · exact (map_foldCase_of_mem_letters hm).2
  let rest : Regex := .seq (many1 true (· = ' ')) callvoteVote
  have hstart : (run reCallvote none cs).head?.bind votedFor =
      (run (.seq callvoteNames rest) none cs).head?.bind votedFor := by
    show (run (.seq .lineStart (.seq callvoteNames rest)) none cs).head?.bind votedFor = _
    have hline : run .lineStart none cs = [⟨[], cs, []⟩] := rfl
    simp only [head?_run_seq .lineStart, hline, List.findSome?_cons, List.findSome?_nil,
      List.getLast?_nil, Option.none_or]
    cases (run (.seq callvoteNames rest) none cs).head? with
    | none => rfl
    | some n => exact votedFor_append rfl n
  rw [hstart, head?_run_seq]
  refine bind_findSome? (fun m hm => ?_) (fun m hm x hx => ?_)
  · rw [← head?_run_blanks (m.text.getLast?.or none)]
    cases (run rest (m.text.getLast?.or none) m.rest).head? with
    | none => rfl
    | some n => exact votedFor_append (hnames m hm) n
  · obtain ⟨n, hn, rfl⟩ := Option.map_eq_some_iff.mp hx
    rw [votedFor_append (hnames m hm), votedFor, Option.isSome_map]
    exact isSome_name_of_mem_run (by decide) (List.mem_of_mem_head? hn)

/-- A quote or none, some characters of the line, and a quote or none. -/
def quotedArgs : Regex :=
  sequence [only ' ', optional (only '"'), .group "args" (many1 false isAny), optional (only '"')]

theorem mem_run_quotedArgs {prev : Option Char} {cs : List Char} {m : Match}
    (h : m ∈ run quotedArgs prev cs) :
    ∃ d rest, cs = ' ' :: d :: rest ∧ d ≠ '\n' ∧ ∃ e a, m.captures = [("args", e :: a)] := by
  obtain ⟨_, hblank, _, hrest, rfl⟩ := mem_run_seq.mp h
  obtain ⟨cs, rfl, rfl⟩ := mem_run_only.mp hblank
  obtain ⟨_, hquote, _, hrest₁, rfl⟩ := mem_run_seq.mp hrest
  obtain ⟨_, hargs, m, hrest₂, rfl⟩ := mem_run_seq.mp hrest₁
  obtain ⟨_, hmany, rfl⟩ := mem_run_group.mp hargs
  obtain ⟨e, a, rest, hcs, ha, rfl⟩ := mem_run_many1.mp hmany
  obtain ⟨n, hend, _, hempty, rfl⟩ := mem_run_seq.mp hrest₂
  obtain rfl := mem_run_empty.mp hempty
  have he : e ≠ '\n' := by simpa [isAny, isNot] using ha e List.mem_cons_self
  have hn : n.captures = [] := by
    rcases mem_run_optional.mp hend with hend | rfl
    · obtain ⟨_, -, rfl⟩ := mem_run_only.mp hend
      rfl
    · rfl
  rcases mem_run_optional.mp hquote with hquote | rfl
  · obtain ⟨cs', hcs', rfl⟩ := mem_run_only.mp hquote
    exact ⟨'"', cs', congrArg _ hcs', by decide, e, a, by simp [Match.append, hn]⟩
  · exact ⟨e, a ++ rest, congrArg _ hcs, he, e, a, by simp [Match.append, hn]⟩

theorem mem_run_callvoteArgs {cs : List Char} {m : Match} (h : m ∈ run callvoteArgs none cs) :
    (m.captures = [] ∧ atLineEnd cs = true) ∨
      ∃ d rest, cs = ' ' :: d :: rest ∧ d ≠ '\n' ∧ ∃ e a, m.captures = [("args", e :: a)] := by
  obtain ⟨m₁, hargs, m₂, hrest, rfl⟩ := mem_run_seq.mp h
  obtain ⟨m₃, hend, m₄, hempty, rfl⟩ := mem_run_seq.mp hrest
  obtain rfl := mem_run_empty.mp hempty
  obtain ⟨hline, rfl⟩ := mem_run_lineEnd.mp hend
  rcases mem_run_optional.mp hargs with hargs | rfl
  · obtain ⟨d, rest, hcs, hd, e, a, hm⟩ := mem_run_quotedArgs hargs
    exact .inr ⟨d, rest, hcs, hd, e, a, by simp [Match.append, hm]⟩
  · exact .inl ⟨rfl, hline⟩

/-- Where the line ends there are no arguments. -/
theorem argsAt_of_atLineEnd {cs : List Char} (h : atLineEnd cs = true) : argsAt cs = some "" := by
  have hargs : run quotedArgs none cs = [] := by
    refine List.eq_nil_iff_forall_not_mem.mpr fun m hm => ?_
    obtain ⟨d, rest, rfl, -⟩ := mem_run_quotedArgs hm
    simp [atLineEnd] at h
  have hrun : run callvoteArgs none cs = [⟨[], cs, []⟩] := by
    show run (.seq (.alt quotedArgs .empty) (.seq .lineEnd .empty)) none cs = _
    simp [run, hargs, h, Match.append]
  rw [argsAt, hrun]
  rfl

/-- Arguments are read behind a blank that does not end the line. -/
theorem argsAt_blank_isSome (d : Char) (hd : d ≠ '\n') (rest : List Char) :
    (argsAt (' ' :: d :: rest)).isSome = true := by
  have hany : ∀ c ∈ d :: rest.takeWhile isAny, isAny c = true :=
    List.forall_mem_cons.mpr ⟨by simp [isAny, isNot, hd], fun c hc => List.mem_takeWhile_imp hc⟩
  have hend : atLineEnd (rest.dropWhile isAny) = true := by
    have h := List.head?_dropWhile_not isAny rest
    rw [atLineEnd]
    cases hrest : (rest.dropWhile isAny).head? with
    | none => rfl
    | some c =>
      rw [hrest] at h
      simpa [isAny, isNot] using h
  have hmem : ∃ m, m ∈ run callvoteArgs none (' ' :: d :: rest) := by
    refine ⟨_, mem_run_seq.mpr ⟨_, mem_run_optional.mpr (.inl (mem_run_seq.mpr
      ⟨_, mem_run_only.mpr ⟨_, rfl, rfl⟩, _, mem_run_seq.mpr ⟨_, mem_run_optional.mpr (.inr rfl), _,
        mem_run_seq.mpr ⟨_, mem_run_group.mpr ⟨_, mem_run_many1.mpr ⟨d, rest.takeWhile isAny,
          rest.dropWhile isAny, by simp, hany, rfl⟩, rfl⟩, _, mem_run_seq.mpr
            ⟨_, mem_run_optional.mpr (.inr rfl), _, mem_run_empty.mpr rfl, rfl⟩, rfl⟩, rfl⟩, rfl⟩)),
      _, mem_run_seq.mpr ⟨_, mem_run_lineEnd.mpr ⟨hend, rfl⟩, _, mem_run_empty.mpr rfl, rfl⟩, rfl⟩⟩
  obtain ⟨m, hm⟩ := hmem
  rw [argsAt, Option.isSome_map]
  exact List.isSome_head?.mpr (List.ne_nil_of_mem hm)

theorem argsAt_isSome_iff {cs : List Char} : (argsAt cs).isSome = true ↔
    atLineEnd cs = true ∨ ∃ d rest, cs = ' ' :: d :: rest ∧ d ≠ '\n' := by
  constructor
  · intro h
    obtain ⟨a, ha⟩ := Option.isSome_iff_exists.mp h
    obtain ⟨m, hm, -⟩ := Option.map_eq_some_iff.mp ha
    rcases mem_run_callvoteArgs (List.mem_of_mem_head? hm) with ⟨-, hend⟩ | ⟨d, rest, hcs, hd, -⟩
    · exact .inl hend
    · exact .inr ⟨d, rest, hcs, hd⟩
  · rintro (hend | ⟨d, rest, rfl, hd⟩)
    · rw [argsAt_of_atLineEnd hend]
      rfl
    · exact argsAt_blank_isSome d hd rest

theorem argsAt_blank_ne {cs : List Char} {args : String} (h : argsAt (' ' :: cs) = some args) :
    args ≠ "" := by
  obtain ⟨m, hm, rfl⟩ := Option.map_eq_some_iff.mp h
  rcases mem_run_callvoteArgs (List.mem_of_mem_head? hm) with ⟨-, hend⟩ | ⟨-, -, -, -, e, a, hm⟩
  · simp [atLineEnd] at hend
  · simp [Match.name, hm]

/-- Arguments end with their line. -/
theorem argsAt_line {cs : List Char} (hcs : '\n' ∉ cs) (t : List Char) :
    argsAt (cs ++ '\n' :: t) = argsAt cs := by
  rw [argsAt, run_line (r := callvoteArgs) (by decide) none hcs, List.head?_map, Option.map_map]
  rfl

/-- The text begins with a word and one blank, which end its first line. -/
def OneWord (t : List Char) : Prop :=
  ∃ w rest, t = w ++ ' ' :: rest ∧ ' ' ∉ w ∧ '\n' ∉ w ∧ atLineEnd rest = true

/-- No arguments are read behind any start of the first word of such a text, and of no other
text. -/
theorem oneWord_iff {t : List Char} :
    OneWord t ↔ ∀ x ∈ splits true (isNot ' ') t, argsAt x.2 = none := by
  constructor
  · rintro ⟨w, rest, rfl, hblank, hnewline, hend⟩ ⟨p, q⟩ hx
    obtain ⟨hsplit, hp⟩ := mem_splits.mp hx
    -- the place is inside the word or at the blank
    obtain ⟨v, hv, rfl⟩ : ∃ v, v ⊆ w ∧ q = v ++ ' ' :: rest := by
      rcases List.append_eq_append_iff.mp hsplit with ⟨v, rfl, hv⟩ | ⟨v, rfl, rfl⟩
      · cases v with
        | nil => exact ⟨[], List.nil_subset _, hv.symm⟩
        | cons c v =>
          obtain ⟨rfl, -⟩ := List.cons.inj hv
          exact absurd (hp ' ' (by simp)) (by simp [isNot])
      · exact ⟨v, List.subset_append_right _ _, rfl⟩
    rw [← Option.not_isSome_iff_eq_none, argsAt_isSome_iff]
    rintro (hline | ⟨d, rest', heq, hd⟩)
    · cases v with
      | nil => simp [atLineEnd] at hline
      | cons c v =>
        obtain rfl : c = '\n' := by simpa [atLineEnd] using hline
        exact hnewline (hv List.mem_cons_self)
    · cases v with
      | nil =>
        obtain rfl : rest = d :: rest' := by simpa using heq
        exact hd (by simpa [atLineEnd] using hend)
      | cons c v =>
        obtain rfl : c = ' ' := by simpa using congrArg List.head? heq
        exact hblank (hv List.mem_cons_self)
  · intro h
    have hword : ∀ c ∈ t.takeWhile (isNot ' '), isNot ' ' c = true :=
      fun c hc => List.mem_takeWhile_imp hc
    have hsplit := h (t.takeWhile (isNot ' '), t.dropWhile (isNot ' '))
      (mem_splits.mpr ⟨List.takeWhile_append_dropWhile.symm, hword⟩)
    have hhead := List.head?_dropWhile_not (isNot ' ') t
    rw [← Option.not_isSome_iff_eq_none, argsAt_isSome_iff, not_or] at hsplit
    cases hrest : t.dropWhile (isNot ' ') with
    | nil => exact absurd (by simp [hrest, atLineEnd]) hsplit.1
    | cons c rest =>
      simp only [hrest, List.head?_cons] at hhead hsplit
      obtain rfl : c = ' ' := by simpa [isNot] using hhead
      refine ⟨t.takeWhile (isNot ' '), rest, ?_, ?_, ?_, ?_⟩
      · rw [← hrest, List.takeWhile_append_dropWhile]
      · exact fun hc => absurd (hword ' ' hc) (by simp [isNot])
      · -- a line that ends inside the word would end a vote
        intro hc
        obtain ⟨w, w', hw⟩ := List.append_of_mem hc
        have ht : t = w ++ '\n' :: (w' ++ t.dropWhile (isNot ' ')) := by
          rw [← List.cons_append, ← List.append_assoc, ← hw, List.takeWhile_append_dropWhile]
        have hnone := h (w, '\n' :: (w' ++ t.dropWhile (isNot ' ')))
          (mem_splits.mpr ⟨ht, fun c hc => hword c (by rw [hw]; simp [hc])⟩)
        rw [argsAt_of_atLineEnd rfl] at hnone
        cases hnone
      · cases rest with
        | nil => rfl
        | cons d rest =>
          have hd : d = '\n' := by
            by_contra hd
            exact hsplit.2 ⟨d, rest, rfl, hd⟩
          simp [atLineEnd, hd]

/-- **A vote in a line, with a text behind the line.**  With arguments, or before a text
that begins with one word and a blank, it stays what it is; otherwise its name goes on
behind the line. -/
theorem voteAt_line {u : List Char} (hu : '\n' ∉ u) {vote args : String}
    (h : voteAt u = some (vote, args)) (t : List Char) :
    (args ≠ "" ∨ OneWord t → voteAt (u ++ '\n' :: t) = some (vote, args)) ∧
    (args = "" → ¬ OneWord t →
      ∃ vote' args', voteAt (u ++ '\n' :: t) = some (vote', args') ∧ vote' ≠ vote) := by
  cases u with
  | nil => rw [voteAt_eq_none (by simp)] at h; cases h
  | cons c u =>
    have hc : c ≠ ' ' := by
      rintro rfl
      rw [voteAt_eq_none (by rintro c rest heq; exact (List.cons.inj heq).1.symm)] at h
      cases h
    have hu : '\n' ∉ u := fun hmem => hu (List.mem_cons_of_mem c hmem)
    rw [voteAt_cons hc] at h
    obtain ⟨pre, ⟨p, q⟩, post, hsplits, hx, -⟩ := List.findSome?_eq_some_iff.mp h
    obtain ⟨args', hargs, hvote⟩ := Option.map_eq_some_iff.mp hx
    obtain ⟨rfl, rfl⟩ := Prod.mk.inj hvote
    obtain ⟨rfl, hp⟩ := mem_splits.mp (show (p, q) ∈ splits true (isNot ' ') u by simp [hsplits])
    have hq : '\n' ∉ q := fun hmem => hu (List.mem_append_right p hmem)
    rw [List.cons_append, voteAt_cons hc, List.append_assoc]
    obtain ⟨less, hless⟩ := splits_append_of_all hp (q ++ '\n' :: t)
    rw [hless, List.findSome?_append, List.findSome?_map]
    rcases argsAt_isSome_iff.mp (by rw [hargs]; rfl) with hend | ⟨d, rest, rfl, hd⟩
    · -- the vote ends the line
      obtain rfl : q = [] := by
        cases q with
        | nil => rfl
        | cons d q =>
          obtain rfl : d = '\n' := by simpa [atLineEnd] using hend
          exact absurd List.mem_cons_self hq
      obtain rfl : "" = args' := Option.some.inj (by rw [← hargs, argsAt_of_atLineEnd rfl])
      have hsplits : splits true (isNot ' ') ('\n' :: t) =
          (splits true (isNot ' ') t).map (fun x => ('\n' :: x.1, x.2)) ++ [([], '\n' :: t)] := rfl
      have hline : argsAt ('\n' :: t) = some "" := argsAt_of_atLineEnd rfl
      simp only [List.nil_append, hsplits, List.findSome?_append, List.findSome?_map,
        Function.comp_def, List.findSome?_cons, hline,
        Option.map_some, List.append_nil]
      refine ⟨fun hone => ?_, fun _ hone => ?_⟩
      · have hone : OneWord t := hone.resolve_left fun hne => hne rfl
        have hnone : (splits true (isNot ' ') t).findSome? (fun x => (argsAt x.2).map fun args =>
            (String.ofList (c :: (p ++ '\n' :: x.1)), args)) = none := by
          refine List.findSome?_eq_none_iff.mpr fun x hx => ?_
          rw [oneWord_iff.mp hone x hx, Option.map_none]
        rw [hnone]
        rfl
      · rw [oneWord_iff] at hone
        push Not at hone
        obtain ⟨x, hx, hsome⟩ := hone
        cases hfound : (splits true (isNot ' ') t).findSome? (fun x => (argsAt x.2).map fun args =>
            (String.ofList (c :: (p ++ '\n' :: x.1)), args)) with
        | none =>
          have hnone := List.findSome?_eq_none_iff.mp hfound x hx
          exact absurd (Option.map_eq_none_iff.mp hnone) hsome
        | some y =>
          obtain ⟨x', -, hy⟩ := List.exists_of_findSome?_eq_some hfound
          obtain ⟨a, -, rfl⟩ := Option.map_eq_some_iff.mp hy
          refine ⟨_, a, rfl, fun heq => ?_⟩
          have hlen := congrArg List.length (String.ofList_injective heq)
          simp at hlen
    · -- the vote has arguments
      have hne : args' ≠ "" := argsAt_blank_ne hargs
      refine ⟨fun _ => ?_, fun hargs' => absurd hargs' hne⟩
      have hline := argsAt_line hq t
      rw [hargs] at hline
      simp only [List.cons_append] at hline ⊢
      simp [splits, isNot, hline]

/-- A command has at most one name. -/
theorem run_callvoteNames (cs : List Char) :
    run callvoteNames none cs = [] ∨ ∃ m, run callvoteNames none cs = [m] := by
  have hboth : run (word true "cv") none cs = [] ∨ run (word true "callvote") none cs = [] := by
    by_contra h
    rw [not_or] at h
    obtain ⟨m, hm⟩ := List.exists_mem_of_ne_nil _ h.1
    obtain ⟨n, hn⟩ := List.exists_mem_of_ne_nil _ h.2
    have hcs : m.text.map foldCase ++ m.rest.map foldCase =
        n.text.map foldCase ++ n.rest.map foldCase := by
      rw [← List.map_append, ← List.map_append, text_append_rest hm, text_append_rest hn]
    rw [(map_foldCase_of_mem_letters hm).1, (map_foldCase_of_mem_letters hn).1] at hcs
    exact absurd (congrArg (·[1]?) hcs) (by simp [foldCase])
  have hone : ∀ l : List Match, l.length ≤ 1 → l = [] ∨ ∃ m, l = [m] := by
    intro l hl
    match l, hl with
    | [], _ => exact .inl rfl
    | [m], _ => exact .inr ⟨m, rfl⟩
  show run (word true "cv") none cs ++ run (word true "callvote") none cs = [] ∨ ∃ m,
    run (word true "cv") none cs ++ run (word true "callvote") none cs = [m]
  rcases hboth with h | h
  · rw [h, List.nil_append]
    exact hone _ (length_run_letters_le _ _ _ _)
  · rw [h, List.append_nil]
    exact hone _ (length_run_letters_le _ _ _ _)

/-- **A vote in the first line**, with the text `t` behind the line. -/
theorem callvoteOf_line {s : String} (hs : '\n' ∉ s.toList) {vote args : String}
    (h : callvoteOf s = some (vote, args)) (t : String) :
    (args ≠ "" ∨ OneWord t.toList → callvoteOf (s ++ "\n" ++ t) = some (vote, args)) ∧
    (args = "" → ¬ OneWord t.toList →
      ∃ vote' args', callvoteOf (s ++ "\n" ++ t) = some (vote', args') ∧ vote' ≠ vote) := by
  have hfind : ∀ x, (run reCallvote none (s.toList ++ '\n' :: t.toList)).head?.bind votedFor =
      some x → callvoteOf (s ++ "\n" ++ t) = some x := by
    intro x hx
    obtain ⟨m, hm, hv⟩ := Option.bind_eq_some_iff.mp hx
    have htext : (s ++ "\n" ++ t).toList = s.toList ++ '\n' :: t.toList := by simp
    rw [callvoteOf, captures, htext, find_of_head? hm]
    exact hv
  have hhead : (run reCallvote none s.toList).head?.bind votedFor = some (vote, args) := by
    rw [← h, callvoteOf, captures]
    exact congrArg (·.bind votedFor) (find_lineStart _ hs).symm
  rw [head?_run_reCallvote] at hhead
  have hline : run callvoteNames none (s.toList ++ '\n' :: t.toList) = _ :=
    run_line (by decide) none hs t.toList
  simp only [head?_run_reCallvote, hline, List.findSome?_map] at hfind
  rcases run_callvoteNames s.toList with hnil | ⟨m, hm⟩
  · rw [hnil] at hhead
    cases hhead
  · have hmrest : '\n' ∉ m.rest := by
      intro hmem
      refine hs ?_
      rw [← text_append_rest (show m ∈ run callvoteNames none s.toList by simp [hm])]
      exact List.mem_append_right _ hmem
    rw [hm] at hhead hfind
    have hvote : (afterBlanks m.rest).bind voteAt = some (vote, args) := by
      simpa using hhead
    obtain ⟨u, hu, hvote⟩ := Option.bind_eq_some_iff.mp hvote
    have hunewline : '\n' ∉ u := fun hmem => hmrest (subset_of_afterBlanks hu hmem)
    have hfind : ∀ x, voteAt (u ++ '\n' :: t.toList) = some x →
        callvoteOf (s ++ "\n" ++ t) = some x := by
      intro x hx
      refine hfind x ?_
      simp [afterBlanks_append_newline, hu, hx]
    obtain ⟨hsame, hdiffers⟩ := voteAt_line hunewline hvote t.toList
    refine ⟨fun h => hfind _ (hsame h), fun hargs hone => ?_⟩
    obtain ⟨vote', args', hvote', hne⟩ := hdiffers hargs hone
    exact ⟨vote', args', hfind _ hvote', hne⟩

theorem callvoteOf_line_isSome {s : String} (hs : '\n' ∉ s.toList) {vote args : String}
    (h : callvoteOf s = some (vote, args)) (t : String) :
    (callvoteOf (s ++ "\n" ++ t)).isSome = true := by
  obtain ⟨hsame, hdiffers⟩ := callvoteOf_line hs h t
  by_cases hargs : args ≠ "" ∨ OneWord t.toList
  · rw [hsame hargs]
    rfl
  · rw [not_or, not_not] at hargs
    obtain ⟨vote', args', hvote', -⟩ := hdiffers hargs.1 hargs.2
    rw [hvote']
    rfl

theorem callvoteOf_isSome (cmd : String) : (callvoteOf cmd).isSome = reCallvote.isMatch cmd := by
  rw [callvoteOf, isMatch]
  cases h : captures reCallvote cmd with
  | none => rfl
  | some m =>
    obtain ⟨prev, cs, hm⟩ := mem_run_of_find h
    have hcmd : (m.name "cmd").isSome = true := isSome_name_of_mem_run (by decide) hm
    rw [Option.bind_some, votedFor, Option.isSome_map]
    exact hcmd

/-- A vote behind the line is found, if none is found before. -/
theorem callvoteOf_isSome_of_right {t : String} (h : (callvoteOf t).isSome = true) (s : String) :
    (callvoteOf (s ++ "\n" ++ t)).isSome = true := by
  rw [callvoteOf_isSome, isMatch, captures] at h ⊢
  have htext : (s ++ "\n" ++ t).toList = s.toList ++ '\n' :: t.toList := by simp
  have hlines : reCallvote.MultiLine = true := by decide
  rw [htext]
  refine isSome_find_append ?_ none s.toList
  rwa [find_prev hlines (show atLineStart (some '\n') = atLineStart none from rfl)]

/-- Where no vote is read, none is read in a part. -/
theorem callvoteOf_eq_none {s t : String} (hs : '\n' ∉ s.toList)
    (h : callvoteOf (s ++ "\n" ++ t) = none) : callvoteOf s = none ∧ callvoteOf t = none := by
  constructor
  · by_contra hne
    obtain ⟨⟨vote, args⟩, hvote⟩ := Option.ne_none_iff_exists'.mp hne
    have hsome := callvoteOf_line_isSome hs hvote t
    rw [h] at hsome
    cases hsome
  · by_contra hne
    have hsome := callvoteOf_isSome_of_right (Option.isSome_iff_ne_none.mpr hne) s
    rw [h] at hsome
    cases hsome

end ClientCommand
end ShinQlx
