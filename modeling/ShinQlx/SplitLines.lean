import Mathlib.Data.List.Forall2
import ShinQlx.ChatReply

/-! # Splitting long lines

`split_long_lines` cuts the lines that are longer than a limit.  It cuts a line behind each
delimiter and puts these tokens together again as long as they fit, which is what
`Packing.pack` does with them: `mergeItems_eq_pack`.

`splitLongLines_greedy` says what comes of a message, for every delimiter, also an empty
one, and every limit that is not negative.
-/
namespace ShinQlx.ChatReply

/-- The tokens of a line: it is cut behind each delimiter. -/
def lineTokens (delimiter line : String) : List String :=
  (Text.splitInclusive delimiter line).filter (· ≠ "")

/-- Tokens that fit into a piece. -/
def FitsIn (limit : Nat) (block : List String) : Prop := (String.join block).utf8ByteSize ≤ limit

instance (limit : Nat) : DecidablePred (FitsIn limit) :=
  fun _ => inferInstanceAs (Decidable (_ ≤ _))

/-- The tokens make up the line, and all but the last end with the delimiter. -/
structure Tokens (delimiter line : String) (tokens : List String) : Prop where
  lossless : String.join tokens = line
  nonempty : ∀ token ∈ tokens, token ≠ ""
  ended : ∀ token ∈ tokens.dropLast, delimiter.toList <:+ token.toList

/-- A line is cut into pieces without a loss.  A line that is not longer than the limit is kept,
and otherwise the pieces are not empty; each is within the limit or a token, and the first
token of the next one would not have fitted into it. -/
structure GreedySplit (limit : Nat) (delimiter line : String) (pieces : List String) : Prop where
  tokens : Tokens delimiter line (lineTokens delimiter line)
  lossless : String.join pieces = line
  short : line.utf8ByteSize ≤ limit → pieces = [line]
  nonempty : limit < line.utf8ByteSize → ∀ piece ∈ pieces, piece ≠ ""
  bounded : ∀ piece ∈ pieces, piece.utf8ByteSize ≤ limit ∨ piece ∈ lineTokens delimiter line
  greedy : ∀ earlier piece next later, pieces = earlier ++ piece :: next :: later →
    ∃ token rest, token ∈ lineTokens delimiter line ∧ next = token ++ rest ∧
      limit < (piece ++ token).utf8ByteSize
  packed : limit < line.utf8ByteSize → ∃ blocks,
    Packing.Packed (FitsIn limit) (lineTokens delimiter line) blocks ∧
      pieces = blocks.map String.join

/-! ## Tokens -/

theorem join_filter (items : List String) :
    String.join (items.filter (· ≠ "")) = String.join items := by
  induction items with
  | nil => rfl
  | cons item items ih =>
    by_cases h : item = ""
    · rw [List.filter_cons_of_neg (by simpa using h), ih, h, String.join_cons, String.empty_append]
    · rw [List.filter_cons_of_pos (by simpa using h), String.join_cons, String.join_cons, ih]

theorem join_map_singleton (cs : List Char) :
    String.join (cs.map String.singleton) = String.ofList cs := by
  rw [← String.toList_inj, String.toList_join]
  simp [List.flatMap_map]

theorem join_map_join (blocks : List (List String)) :
    String.join (blocks.map String.join) = String.join blocks.flatten := by
  induction blocks with
  | nil => rfl
  | cons block blocks ih =>
    rw [List.map_cons, String.join_cons, ih, List.flatten_cons, String.join_append]

theorem join_splitInclusive (delimiter line : String) :
    String.join (Text.splitInclusive delimiter line) = line := by
  by_cases h : delimiter = ""
  · rw [Text.splitInclusive, if_pos h, String.join_cons, join_map_singleton, String.ofList_toList,
      String.empty_append]
  · rw [← String.toList_inj, String.toList_join, List.flatMap_def, flatten_splitInclusive h]

theorem tokens_lineTokens (delimiter line : String) :
    Tokens delimiter line (lineTokens delimiter line) := by
  refine ⟨?_, ?_, ?_⟩
  · rw [lineTokens, join_filter, join_splitInclusive]
  · intro token htoken
    exact of_decide_eq_true (List.mem_filter.mp htoken).2
  · intro token htoken
    have hmem : token ∈ (Text.splitInclusive delimiter line).dropLast := by
      have hsublist : List.Sublist (lineTokens delimiter line).reverse.tail
          (Text.splitInclusive delimiter line).reverse.tail :=
        (List.reverse_sublist.mpr List.filter_sublist).tail
      rw [List.tail_reverse, List.tail_reverse, List.reverse_sublist] at hsublist
      exact hsublist.subset htoken
    rw [Text.splitInclusive] at hmem
    split at hmem
    next h => simp [h]
    next h =>
      rw [← List.map_dropLast] at hmem
      obtain ⟨piece, hpiece, rfl⟩ := List.mem_map.mp hmem
      rw [String.toList_ofList]
      exact Text.suffix_of_mem_cuts hpiece

/-! ## Putting tokens together -/

section merge
variable {limit : Nat}

theorem mergeItems_of_lt {nextString : String} (h : limit < nextString.utf8ByteSize)
    (items : List String) :
    mergeItems limit nextString items = nextString :: mergeItems limit "" items := by
  have hne : nextString ≠ "" := by
    rintro rfl
    exact absurd h (Nat.not_lt_zero limit)
  cases items with
  | nil => simp [mergeItems, hne]
  | cons item items =>
    rw [mergeItems, if_neg (by omega), if_neg hne, mergeItems]
    split
    next => rw [String.empty_append]; rfl
    next => rfl

/-- Empty items are put nowhere. -/
theorem mergeItems_filter (nextString : String) (items : List String) :
    mergeItems limit nextString items = mergeItems limit nextString (items.filter (· ≠ "")) := by
  induction items generalizing nextString with
  | nil => rfl
  | cons item items ih =>
    by_cases h : item = ""
    · subst h
      rw [List.filter_cons_of_neg (by simp), ← ih, mergeItems]
      split
      next => rw [String.append_empty]
      next hlt =>
        have hlt : limit < nextString.utf8ByteSize := by simpa using hlt
        have hne : nextString ≠ "" := by
          rintro rfl
          exact absurd hlt (Nat.not_lt_zero limit)
        rw [mergeItems_of_lt hlt, if_neg hne]
        rfl
    · rw [List.filter_cons_of_pos (by simpa using h), mergeItems, mergeItems, ih, ih]

theorem join_ne_empty {block : List String} (hne : block ≠ []) (h : ∀ item ∈ block, item ≠ "") :
    String.join block ≠ "" := by
  obtain ⟨item, block, rfl⟩ := List.exists_cons_of_ne_nil hne
  intro hempty
  have hlist := congrArg String.toList hempty
  rw [String.join_cons, String.toList_append, String.toList_empty, List.append_eq_nil_iff] at hlist
  exact h item List.mem_cons_self (String.toList_eq_nil_iff.mp hlist.1)

variable (limit) in
/-- Items are packed behind the last block. -/
theorem mergeItems_join {block : List String} (hne : block ≠ [])
    (hblock : ∀ item ∈ block, item ≠ "") {items : List String}
    (hitems : ∀ item ∈ items, item ≠ "") (blocks : List (List String)) :
    blocks.map String.join ++ mergeItems limit (String.join block) items =
      (items.foldl (Packing.push (FitsIn limit)) (blocks ++ [block])).map String.join := by
  induction items generalizing block blocks with
  | nil => simp [mergeItems, join_ne_empty hne hblock]
  | cons item items ih =>
    obtain ⟨hitem, hitems⟩ := List.forall_mem_cons.mp hitems
    have hjoin : String.join (block ++ [item]) = String.join block ++ item := by
      simp [String.join_append, String.join_cons]
    have hfits : FitsIn limit (block ++ [item]) ↔
        (String.join block).utf8ByteSize + item.utf8ByteSize ≤ limit := by
      rw [FitsIn, hjoin, String.utf8ByteSize_append]
    have hone : ∀ other ∈ [item], other ≠ "" := by simpa using hitem
    rw [List.foldl_cons, Packing.push_concat, mergeItems]
    by_cases h : FitsIn limit (block ++ [item])
    · rw [if_pos h, if_pos (hfits.mp h), ← hjoin]
      refine ih (by simp) (fun other hother => ?_) hitems blocks
      exact (List.mem_append.mp hother).elim (hblock other) (hone other)
    · -- the block is done, and the item begins the next one
      have hnext := ih (List.cons_ne_nil item []) hone hitems (blocks ++ [block])
      rw [if_neg h, if_neg (mt hfits.mpr h), if_neg (join_ne_empty hne hblock)]
      simpa [String.join_cons] using hnext

/-- **Items are packed**, if none is empty. -/
theorem mergeItems_eq_pack {items : List String} (hitems : ∀ item ∈ items, item ≠ "") :
    mergeItems limit "" items = (Packing.pack (FitsIn limit) items).map String.join := by
  cases items with
  | nil => rfl
  | cons item items =>
    obtain ⟨hitem, hitems⟩ := List.forall_mem_cons.mp hitems
    have hfirst : mergeItems limit "" (item :: items) = mergeItems limit item items := by
      rw [mergeItems]
      split <;> simp
    have hone : ∀ other ∈ [item], other ≠ "" := by simpa using hitem
    have hrest := mergeItems_join limit (List.cons_ne_nil item []) hone hitems []
    have hpack : Packing.pack (FitsIn limit) (item :: items) =
        items.foldl (Packing.push (FitsIn limit)) [[item]] := rfl
    rw [hfirst, hpack]
    simpa [String.join_cons] using hrest

end merge

/-! ## Lines -/

section lines
variable {limit : Nat} {delimiter line : String}

theorem ne_empty_of_mem_block {blocks : List (List String)}
    (h : Packing.Packed (FitsIn limit) (lineTokens delimiter line) blocks) {block : List String}
    (hblock : block ∈ blocks) : ∀ item ∈ block, item ≠ "" := by
  intro item hitem
  refine (tokens_lineTokens delimiter line).nonempty item ?_
  rw [← h.flatten]
  exact List.mem_flatten_of_mem hblock hitem

/-- A packing of the tokens is a greedy split. -/
theorem greedySplit_of_packed (hlong : limit < line.utf8ByteSize) {blocks : List (List String)}
    (h : Packing.Packed (FitsIn limit) (lineTokens delimiter line) blocks) :
    GreedySplit limit delimiter line (blocks.map String.join) where
  tokens := tokens_lineTokens delimiter line
  lossless := by
    rw [join_map_join, h.flatten, (tokens_lineTokens delimiter line).lossless]
  short hshort := absurd hshort (Nat.not_le.mpr hlong)
  nonempty _ piece hpiece := by
    obtain ⟨block, hblock, rfl⟩ := List.mem_map.mp hpiece
    exact join_ne_empty (h.ne_nil block hblock) (ne_empty_of_mem_block h hblock)
  bounded piece hpiece := by
    obtain ⟨block, hblock, rfl⟩ := List.mem_map.mp hpiece
    rcases h.fits block hblock with hone | hfits
    · obtain ⟨item, rfl⟩ := List.length_eq_one_iff.mp hone
      refine .inr ?_
      rw [← h.flatten]
      exact List.mem_flatten_of_mem hblock (by simp [String.join_cons])
    · exact .inl hfits
  greedy earlier piece next later hsplit := by
    obtain ⟨pre, tail, rfl, -, htail⟩ := List.map_eq_append_iff.mp hsplit
    obtain ⟨block, rest, rfl, rfl, hrest⟩ := List.map_eq_cons_iff.mp htail
    obtain ⟨nextBlock, post, rfl, rfl, -⟩ := List.map_eq_cons_iff.mp hrest
    obtain ⟨token, tokens, rfl⟩ := List.exists_cons_of_ne_nil (h.ne_nil nextBlock (by simp))
    refine ⟨token, String.join tokens, ?_, String.join_cons, ?_⟩
    · rw [← h.flatten]
      exact List.mem_flatten_of_mem (l := token :: tokens) (by simp) List.mem_cons_self
    · have hfull := h.full pre block token tokens post rfl
      rw [FitsIn, Nat.not_le] at hfull
      simpa [String.join_append, String.join_cons] using hfull
  packed _ := ⟨blocks, h, rfl⟩

/-- A line that is not longer than the limit is kept. -/
theorem greedySplit_short (hshort : line.utf8ByteSize ≤ limit) :
    GreedySplit limit delimiter line [line] where
  tokens := tokens_lineTokens delimiter line
  lossless := by simp [String.join_cons]
  short _ := rfl
  nonempty hlong := absurd hlong (Nat.not_lt.mpr hshort)
  bounded piece hpiece := .inl (List.mem_singleton.mp hpiece ▸ hshort)
  greedy earlier piece next later hsplit := by
    have hlength := congrArg List.length hsplit
    simp at hlength
    omega
  packed hlong := absurd hlong (Nat.not_lt.mpr hshort)

end lines

theorem asUsize_toInt {limit : Int32} (h : 0 ≤ limit) :
    asUsize limit.toInt = limit.toInt.toNat := by
  have hle : 0 ≤ limit.toInt := Int32.le_iff_toInt_le.mp h
  have hlt := limit.toInt_lt
  rw [asUsize, Int.emod_eq_of_lt hle (by omega)]

theorem greedySplit_linePieces {limit : Int32} (h : 0 ≤ limit) (delimiter line : String) :
    GreedySplit limit.toInt.toNat delimiter line (linePieces limit.toInt delimiter line) := by
  rw [linePieces, asUsize_toInt h]
  split
  next hshort => exact greedySplit_short hshort
  next hlong =>
    rw [mergeItems_filter, ← lineTokens,
      mergeItems_eq_pack (tokens_lineTokens delimiter line).nonempty]
    exact greedySplit_of_packed (Nat.lt_of_not_le hlong) (Packing.pack_packed _)

/-- **`split_long_lines` is a lossless greedy split**: line by line, in order. -/
theorem splitLongLines_greedy (msg : String) {limit : Int32} (h : 0 ≤ limit) (delimiter : String) :
    ∃ pieces, splitLongLines msg limit.toInt delimiter = pieces.flatten ∧
      List.Forall₂ (GreedySplit limit.toInt.toNat delimiter) (Text.split '\n' msg) pieces := by
  refine ⟨(Text.split '\n' msg).map (linePieces limit.toInt delimiter), rfl, ?_⟩
  rw [List.forall₂_map_right_iff, List.forall₂_same]
  exact fun line _ => greedySplit_linePieces h delimiter line

/-- A message of three lines. -/
theorem splitLongLines_greedy_three : ∃ pieces,
    splitLongLines "one two\n\nthree" (4 : Int32).toInt " " = pieces.flatten ∧
      List.Forall₂ (GreedySplit (4 : Int32).toInt.toNat " ")
        (Text.split '\n' "one two\n\nthree") pieces :=
  splitLongLines_greedy _ (by decide) _

end ShinQlx.ChatReply
