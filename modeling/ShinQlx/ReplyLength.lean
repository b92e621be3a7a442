import ShinQlx.ChatReply

/-! # The length of the texts of a reply

The pieces of a message are put together as long as a text has at most `maxMsgLength`
bytes, but the colour tag that continues the colour of the texts before comes in front of
it afterwards.  `bounded_iff` says when the texts are short enough nevertheless: where a
tag has to be continued, there must be room for it, two bytes.

The condition speaks of the one packing of the pieces, which `Packing.Packed` describes
without the loop that makes it.
-/
namespace ShinQlx.ChatReply

/-- The texts that are handed to the format are at most `maxMsgLength` bytes long, but for
those that consist of a single piece that is longer. -/
def Bounded (msg : String) (limit : Int) (delimiter : String) : Prop :=
  ∀ (w : ReplyWorld) (i : Nat) (p : String), (reply w msg limit delimiter).payloads[i]? = some p →
    p.utf8ByteSize ≤ maxMsgLength ∨
      ∃ s, (blocks msg limit delimiter)[i]? = some [s] ∧ maxMsgLength < s.utf8ByteSize

/-- There is a colour tag in a piece. -/
def Tagged (s : String) : Prop := ∃ color, .tag color ∈ ColorToken.tokens s.toList

/-- Behind a piece with a colour tag, the texts that the pieces are packed into leave two
bytes for it, but for those that consist of a single piece that is too long anyway. -/
def Roomy (msg : String) (limit : Int) (delimiter : String) : Prop :=
  ∀ earlier b later,
    Packing.Packed Fits (splitLongLines (cleanedMsg msg) limit delimiter) (earlier ++ b :: later) →
      (∃ s ∈ earlier.flatten, Tagged s) →
        (joined b).utf8ByteSize + 2 ≤ maxMsgLength ∨ ∃ s, b = [s] ∧ maxMsgLength < s.utf8ByteSize

/-! ## The tag in front of a text -/

/-- The colour behind some texts. -/
def colorAfter (color : Option Char) (texts : List String) : Option Char :=
  texts.foldl colorBehind color

theorem colored_append (color : Option Char) (texts more : List String) :
    colored color (texts ++ more) =
      colored color texts ++ colored (colorAfter color texts) more := by
  induction texts generalizing color with
  | nil => rfl
  | cons s texts ih => exact congrArg _ (ih (colorBehind color s))

theorem lastColor?_isSome {ts : List ColorToken} :
    (ColorToken.lastColor? ts).isSome = true ↔ ∃ color, .tag color ∈ ts := by
  rw [ColorToken.lastColor?, List.getLast?_isSome]
  constructor
  · intro hne
    obtain ⟨color, hcolor⟩ := List.exists_mem_of_ne_nil _ hne
    obtain ⟨t, ht, htag⟩ := List.mem_filterMap.mp hcolor
    cases t with
    | char c => cases htag
    | tag k => exact ⟨k, ht⟩
  · rintro ⟨color, hcolor⟩
    exact List.ne_nil_of_mem (List.mem_filterMap.mpr ⟨_, hcolor, rfl⟩)

theorem colorAfter_isSome {color : Option Char} {texts : List String} :
    (colorAfter color texts).isSome = true ↔ color.isSome = true ∨ ∃ s ∈ texts, Tagged s := by
  induction texts generalizing color with
  | nil => simp [colorAfter]
  | cons s texts ih =>
    have hbehind : (colorBehind color s).isSome = true ↔ color.isSome = true ∨ Tagged s := by
      rw [colorBehind, Option.isSome_or, Bool.or_eq_true, lastColor?_isSome, or_comm]
      rfl
    have hstep := @ih (colorBehind color s)
    rw [hbehind, or_assoc] at hstep
    rw [colorAfter, List.foldl_cons]
    refine hstep.trans ?_
    simp only [List.mem_cons, exists_eq_or_imp]

/-- The tags of a text are those of its pieces. -/
theorem tagged_joined {block : List String} : Tagged (joined block) ↔ ∃ s ∈ block, Tagged s := by
  have htagged : ∀ s, Tagged s ↔ ∃ color, .tag color ∈ tokensOf s := by
    intro s
    simp [Tagged, tokensOf, ColorToken.char?]
  simp only [htagged, tokensOf_joined, List.mem_flatMap]
  constructor
  · rintro ⟨k, s, hs, hk⟩
    exact ⟨s, hs, k, hk⟩
  · rintro ⟨s, hs, k, hk⟩
    exact ⟨k, s, hs, hk⟩

/-- A tag has two bytes. -/
theorem utf8ByteSize_tagOf {color : Option Char}
    (hcolor : ∀ c ∈ color, ColorToken.isColor c = true) :
    (tagOf color).utf8ByteSize = if color.isSome then 2 else 0 := by
  cases color with
  | none => rfl
  | some c =>
    have hc := hcolor c rfl
    have hascii : c.utf8Size = 1 := by
      rw [Char.utf8Size_eq_one_iff]
      simp only [ColorToken.isColor, Bool.and_eq_true, decide_eq_true_eq, Char.le_def] at hc
      exact UInt32.le_trans hc.2 (by decide)
    have hsize : (tagOf (some c)).utf8ByteSize = '^'.utf8Size + (c.utf8Size + 0) :=
      Text.utf8ByteSize_ofList ['^', c]
    rw [hsize, hascii]
    rfl

theorem fits_of_append {a b : List String} (ha : a ≠ []) (h : Fits (a ++ b)) : Fits a := by
  rcases eq_or_ne b [] with rfl | hb
  · rwa [List.append_nil] at h
  · rw [Fits, joined, String.intercalate_append_of_ne_nil ha hb] at h
    simp only [String.utf8ByteSize_append] at h
    rw [Fits, joined]
    omega

/-! ## The texts of a packing -/

section packing
variable {msg : String} {limit : Int} {delimiter : String} {earlier later : List (List String)}
  {b : List String}

/-- The colour that a text continues. -/
def colorBefore (earlier : List (List String)) : Option Char :=
  colorAfter none (earlier.map joined)

theorem isColor_colorBefore (earlier : List (List String)) :
    ∀ c ∈ colorBefore earlier, ColorToken.isColor c = true := by
  intro c hc
  have hmem : (colorBefore earlier, "") ∈ colored none (earlier.map joined ++ [""]) := by
    rw [colored_append]
    exact List.mem_append_right _ List.mem_cons_self
  exact isColor_of_mem_colored (by simp) hmem c hc

theorem colorBefore_isSome :
    (colorBefore earlier).isSome = true ↔ ∃ s ∈ earlier.flatten, Tagged s := by
  rw [colorBefore, colorAfter_isSome]
  simp only [Option.isSome_none, Bool.false_eq_true, false_or, List.mem_map,
    exists_exists_and_eq_and, tagged_joined, List.mem_flatten]
  constructor
  · rintro ⟨c, hc, s, hs, ht⟩
    exact ⟨s, ⟨c, hc, hs⟩, ht⟩
  · rintro ⟨s, ⟨c, hc, hs⟩, ht⟩
    exact ⟨c, hc, s, hs, ht⟩

/-- The text that is sent for a block. -/
theorem payloads_getElem? (h : blocks msg limit delimiter = earlier ++ b :: later) :
    (payloads msg limit delimiter)[earlier.length]? = some (colorBefore earlier, joined b) := by
  have hlength : (colored none (earlier.map joined)).length = earlier.length := by
    rw [← List.length_map (·.2), colored_map_snd, List.length_map]
  rw [payloads, h, List.map_append, colored_append, ← hlength, List.map_cons, colored]
  simp [colorBefore]

theorem payloads_split {i : Nat} {x : Option Char × String}
    (h : (payloads msg limit delimiter)[i]? = some x) :
    ∃ earlier b later, blocks msg limit delimiter = earlier ++ b :: later ∧
      earlier.length = i ∧ x = (colorBefore earlier, joined b) := by
  have hlength : (payloads msg limit delimiter).length = (blocks msg limit delimiter).length := by
    rw [← List.length_map (·.2), payloads_map_snd, List.length_map]
  obtain ⟨hlt, -⟩ := List.getElem?_eq_some_iff.mp h
  rw [hlength] at hlt
  have hsplit : blocks msg limit delimiter = (blocks msg limit delimiter).take i ++
      (blocks msg limit delimiter)[i] :: (blocks msg limit delimiter).drop (i + 1) := by
    rw [List.getElem_cons_drop, List.take_append_drop]
  have htake : ((blocks msg limit delimiter).take i).length = i :=
    List.length_take_of_le (Nat.le_of_lt hlt)
  have hpayload := payloads_getElem? hsplit
  rw [htake, h] at hpayload
  exact ⟨_, _, _, hsplit, htake, Option.some.inj hpayload⟩

theorem utf8ByteSize_payload (earlier : List (List String)) (s : String) :
    (payload (colorBefore earlier, s)).utf8ByteSize =
      (if (colorBefore earlier).isSome then 2 else 0) + s.utf8ByteSize := by
  rw [payload, String.utf8ByteSize_append, utf8ByteSize_tagOf (isColor_colorBefore earlier)]

/-- Every text of the message is handed to the format in some run. -/
theorem bounded_iff_payloads : Bounded msg limit delimiter ↔
    ∀ (i : Nat) (x : Option Char × String), (payloads msg limit delimiter)[i]? = some x →
      (payload x).utf8ByteSize ≤ maxMsgLength ∨
        ∃ s, (blocks msg limit delimiter)[i]? = some [s] ∧ maxMsgLength < s.utf8ByteSize := by
  constructor
  · intro hbounded i x hx
    let w : ReplyWorld := ⟨.ok none, .ok, fun _ _ => .ok ()⟩
    have hreturns : (reply w msg limit delimiter).result = .ok () := by
      rw [reply_eq rfl]
      exact sendMsgs_returns (by simp) fun x _ => ⟨payload x, rfl, fun _ _ => rfl⟩
    refine hbounded w i (payload x) ?_
    rw [(reply_payloads w msg limit delimiter).2 hreturns, List.getElem?_map, hx]
    rfl
  · intro hbounded w i p hp
    obtain ⟨rest, hrest⟩ := (reply_payloads w msg limit delimiter).1
    have hp : ((payloads msg limit delimiter).map payload)[i]? = some p := by
      obtain ⟨hlt, -⟩ := List.getElem?_eq_some_iff.mp hp
      rw [← hrest, List.getElem?_append_left hlt, hp]
    rw [List.getElem?_map] at hp
    obtain ⟨x, hx, rfl⟩ := Option.map_eq_some_iff.mp hp
    exact hbounded i x hx

end packing

/-- **The texts are short enough, if there is room for the tags.** -/
theorem bounded_iff (msg : String) (limit : Int) (delimiter : String) :
    Bounded msg limit delimiter ↔ Roomy msg limit delimiter := by
  rw [bounded_iff_payloads]
  constructor
  · -- the packing is the one that is sent
    intro hbounded earlier b later hpacked htagged
    have hblocks : blocks msg limit delimiter = earlier ++ b :: later :=
      (blocks_packed msg limit delimiter).unique (fun _ _ => fits_of_append) hpacked
    have hsize := hbounded _ _ (payloads_getElem? hblocks)
    rw [utf8ByteSize_payload, if_pos (colorBefore_isSome.mpr htagged), hblocks] at hsize
    simp only [List.getElem?_append_right, Nat.le_refl,
      Nat.sub_self, List.getElem?_cons_zero, Option.some.injEq] at hsize
    rwa [Nat.add_comm] at hsize
  · intro hroomy i x hx
    obtain ⟨earlier, b, later, hblocks, rfl, rfl⟩ := payloads_split hx
    have hpacked : Packing.Packed Fits (pieces msg limit delimiter) (earlier ++ b :: later) :=
      hblocks ▸ blocks_packed msg limit delimiter
    have hget : (blocks msg limit delimiter)[earlier.length]? = some b := by
      rw [hblocks]
      simp
    rw [utf8ByteSize_payload, hget]
    by_cases htagged : ∃ s ∈ earlier.flatten, Tagged s
    · rw [if_pos (colorBefore_isSome.mpr htagged), Nat.add_comm]
      rcases hroomy earlier b later hpacked htagged with hroom | ⟨s, hs, hlong⟩
      · exact .inl hroom
      · exact .inr ⟨s, congrArg some hs, hlong⟩
    · -- without a tag in front of it, a text is as long as it was put together
      rw [if_neg fun h => htagged (colorBefore_isSome.mp h), Nat.zero_add]
      rcases hpacked.fits b (by simp) with hone | hfits
      · obtain ⟨s, hs⟩ := List.length_eq_one_iff.mp hone
        rw [hs, joined, String.intercalate_singleton]
        rcases Nat.lt_or_ge maxMsgLength s.utf8ByteSize with hlong | hshort
        · exact .inr ⟨s, rfl, hlong⟩
        · exact .inl hshort
      · exact .inl hfits

/-- A line of many characters. -/
def fullLine (n : Nat) : String := String.ofList (List.replicate n 'a')

theorem utf8ByteSize_fullLine (n : Nat) : (fullLine n).utf8ByteSize = n := by
  rw [fullLine, Text.utf8ByteSize_ofList, List.map_replicate,
    List.sum_replicate_nat]
  exact Nat.mul_one n

/-- A coloured line, and one that takes up all the room. -/
theorem pieces_fullLine {n : Nat} (h : n ≤ 1000) :
    pieces ("^1\n" ++ fullLine n) 1000 " " = ["^1", fullLine n] := by
  have hcleaned : (cleanedMsg ("^1\n" ++ fullLine n)).toList =
      ['\n'].intercalate [['^', '1'], List.replicate n 'a'] := by
    simp [toList_cleanedMsg, fullLine, unquoted, List.intercalate]
  have hsplit : Text.split '\n' (cleanedMsg ("^1\n" ++ fullLine n)) = ["^1", fullLine n] := by
    rw [Text.split, hcleaned, List.splitOn_intercalate _ _ (by simp)]
    · rfl
    · intro l hl
      rcases List.mem_cons.mp hl with rfl | hl
      · decide
      · rw [List.mem_singleton.mp hl, List.mem_replicate]
        exact fun hmem => absurd hmem.2 (by decide)
  have hone : linePieces 1000 " " "^1" = ["^1"] := by decide +kernel
  have hfull : linePieces 1000 " " (fullLine n) = [fullLine n] :=
    if_pos (by rwa [utf8ByteSize_fullLine])
  rw [pieces_eq, hsplit, List.flatMap_cons, List.flatMap_cons, hone, hfull]
  rfl

theorem pack_pair {a s : String} (h : ¬ Fits [a, s]) : Packing.pack Fits [a, s] = [[a], [s]] :=
  (Packing.push_concat Fits [] [a] s).trans (if_neg h)

theorem not_bounded_full : ¬ Bounded ("^1\n" ++ fullLine 1000) 1000 " " := by
  have hfull : ¬ Fits ["^1", fullLine 1000] := by
    rw [Fits, ← List.singleton_append, joined_concat (by simp)]
    simp only [String.utf8ByteSize_append, utf8ByteSize_fullLine]
    decide
  have hblocks : blocks ("^1\n" ++ fullLine 1000) 1000 " " =
      [["^1"]] ++ [fullLine 1000] :: [] := by
    rw [blocks, pieces_fullLine (Nat.le_refl 1000), pack_pair hfull, List.singleton_append]
  rw [bounded_iff_payloads]
  intro hbounded
  have hsize := hbounded _ _ (payloads_getElem? hblocks)
  have htag : (colorBefore [["^1"]]).isSome = true := by decide +kernel
  have hsingle : joined [fullLine 1000] = fullLine 1000 := String.intercalate_singleton
  rw [utf8ByteSize_payload, if_pos htag, hsingle, utf8ByteSize_fullLine, hblocks] at hsize
  rcases hsize with hshort | ⟨s, hs, hlong⟩
  · exact absurd hshort (by decide)
  · obtain rfl : fullLine 1000 = s := by simpa using hs
    rw [utf8ByteSize_fullLine] at hlong
    exact absurd hlong (by decide)

end ShinQlx.ChatReply
