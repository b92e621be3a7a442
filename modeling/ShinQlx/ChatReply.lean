import ShinQlx.ColorTag
import ShinQlx.Packing
import ShinQlx.Python
import ShinQlx.Text

/-! # Replies to a channel

`ChatChannel.reply` sends a message of any length.  The message is split into pieces, at
its line feeds and, where a line is longer than the limit, behind a delimiter; the pieces
are put together again, with line feeds between them, into texts that are not too long for
a server command; and each text begins with the last colour tag that was sent before it.

`reply_delivers` says that nothing is lost on the way, and that every character keeps the
colour it has in the message.
-/
namespace ShinQlx

/-- What a reply finds: the recipients, where `none` stands for everybody; what the format
of the channel makes of a text; and whether a command for a recipient can be queued for the
next frame. -/
structure ReplyWorld where
  recipients : PyResult (Option (List Int))
  format : String → PyResult String
  putNowait : Option Int → String → PyResult Unit

/-- What a reply did: its result, the texts it handed to the format, and the commands it
queued, with their recipients. -/
structure Replied where
  result : PyResult Unit
  payloads : List String
  tasks : List (Option Int × String)

namespace ChatReply

/-- `MAX_MSG_LENGTH`. -/
def maxMsgLength : Nat := 1000

/-- `as usize` of an `i32`. -/
def asUsize (limit : Int) : Nat := (limit % 2 ^ 64).toNat

/-- The items of a line, put together up to the limit. -/
def mergeItems (limit : Nat) : String → List String → List String
  | nextString, [] => if nextString = "" then [] else [nextString]
  | nextString, item :: items =>
    if nextString.utf8ByteSize + item.utf8ByteSize ≤ limit then
      mergeItems limit (nextString ++ item) items
    else (if nextString = "" then [] else [nextString]) ++ mergeItems limit item items

/-- `AbstractChannel::split_long_lines`. -/
def splitLongLines (msg : String) (limit : Int) (delimiter : String) : List String :=
  (Text.split '\n' msg).flatMap fun value =>
    if value.utf8ByteSize ≤ asUsize limit then [value]
    else mergeItems (asUsize limit) "" (Text.splitInclusive delimiter value)

/-- One more piece for the texts that are sent. -/
def joinMsgs (joinedMsgs : List String) (s : String) : List String :=
  match joinedMsgs.getLast? with
  | none => [s]
  | some lastMsg =>
    let sNew := lastMsg ++ "\n" ++ s
    if sNew.utf8ByteSize > maxMsgLength then joinedMsgs ++ [s]
    else joinedMsgs.dropLast ++ [sNew]

/-- The text of the last colour tag of a message, or of the one before. -/
def nextColor (lastColor message : String) : String :=
  match ColorToken.lastColor? (ColorToken.tokens message.toList) with
  | some color => String.ofList (ColorToken.tagText color)
  | none => lastColor

/-- Queues a command for the recipients. -/
def putCommand (w : ReplyWorld) (serverCommand : String) :
    List (Option Int) → PyResult Unit × List (Option Int × String)
  | [] => (.ok (), [])
  | cid :: cids =>
    match w.putNowait cid serverCommand with
    | .error e => (.error e, [])
    | .ok () =>
      let (result, tasks) := putCommand w serverCommand cids
      (result, (cid, serverCommand) :: tasks)

/-- Sends the texts one after the other. -/
def sendMsgs (w : ReplyWorld) (targets : List (Option Int)) : String → List String → Replied
  | _, [] => ⟨.ok (), [], []⟩
  | lastColor, s :: rest =>
    let message := lastColor ++ s
    match w.format message with
    | .error e => ⟨.error e, [message], []⟩
    | .ok serverCommand =>
      match putCommand w serverCommand targets with
      | (.error e, tasks) => ⟨.error e, [message], tasks⟩
      | (.ok (), tasks) =>
        let sent := sendMsgs w targets (nextColor lastColor message) rest
        ⟨sent.result, message :: sent.payloads, tasks ++ sent.tasks⟩

/-- The message as it is sent. -/
def cleanedMsg (msg : String) : String := Text.replace '"' '\'' msg

/-- Those a command is queued for. -/
def targetsOf : Option (List Int) → List (Option Int)
  | none => [none]
  | some cids => cids.map some

/-- The pieces of a message. -/
def pieces (msg : String) (limit : Int) (delimiter : String) : List String :=
  splitLongLines (cleanedMsg msg) limit delimiter

/-- `reply` of a `ChatChannel`. -/
def reply (w : ReplyWorld) (msg : String) (limit : Int) (delimiter : String) : Replied :=
  match w.recipients with
  | .error e => ⟨.error e, [], []⟩
  | .ok targets =>
    sendMsgs w (targetsOf targets) "" ((pieces msg limit delimiter).foldl joinMsgs [])

/-! ## The texts that are sent -/

/-- Pieces with line feeds between them. -/
def joined (block : List String) : String := "\n".intercalate block

/-- A text that is not too long. -/
def Fits (block : List String) : Prop := (joined block).utf8ByteSize ≤ maxMsgLength

instance : DecidablePred Fits := fun _ => inferInstanceAs (Decidable (_ ≤ _))

/-- The blocks of pieces that are sent as one text. -/
def blocks (msg : String) (limit : Int) (delimiter : String) : List (List String) :=
  Packing.pack Fits (pieces msg limit delimiter)

theorem blocks_packed (msg : String) (limit : Int) (delimiter : String) :
    Packing.Packed Fits (pieces msg limit delimiter) (blocks msg limit delimiter) :=
  Packing.pack_packed _

/-- The text of a colour tag, if there is one. -/
def tagOf (color : Option Char) : String :=
  (color.map fun color => String.ofList (ColorToken.tagText color)).getD ""

/-- The last colour of a text, or the one before. -/
def colorBehind (color : Option Char) (s : String) : Option Char :=
  (ColorToken.lastColor? (ColorToken.tokens s.toList)).or color

/-- The texts behind a colour: each with the tag that it begins with. -/
def colored : Option Char → List String → List (Option Char × String)
  | _, [] => []
  | color, s :: rest => (color, s) :: colored (colorBehind color s) rest

/-- The payloads of a message, as pairs of the colour they begin with and their text. -/
def payloads (msg : String) (limit : Int) (delimiter : String) : List (Option Char × String) :=
  colored none ((blocks msg limit delimiter).map joined)

/-- A payload. -/
def payload (x : Option Char × String) : String := tagOf x.1 ++ x.2

theorem joined_concat {block : List String} (h : block ≠ []) (s : String) :
    joined (block ++ [s]) = joined block ++ "\n" ++ s := by
  rw [joined, String.intercalate_append_of_ne_nil h (by simp), String.intercalate_singleton]
  rfl

/-- The pieces are packed. -/
theorem foldl_joinMsgs (pieces : List String) :
    pieces.foldl joinMsgs [] = (Packing.pack Fits pieces).map joined := by
  induction pieces using List.reverseRecOn with
  | nil => rfl
  | append_singleton pieces s ih =>
    rw [List.foldl_concat, Packing.pack_concat, ih]
    have hpacked : Packing.Packed Fits pieces (Packing.pack Fits pieces) :=
      Packing.pack_packed pieces
    rcases List.eq_nil_or_concat (Packing.pack Fits pieces) with hnil | ⟨blocks, b, hblocks⟩
    · rw [hnil]
      rfl
    · rw [List.concat_eq_append] at hblocks
      have hb : b ≠ [] := hpacked.ne_nil b (by simp [hblocks])
      have hfits : Fits (b ++ [s]) ↔ (joined b ++ "\n" ++ s).utf8ByteSize ≤ maxMsgLength := by
        rw [Fits, joined_concat hb]
      rw [hblocks, Packing.push_concat]
      simp only [joinMsgs, List.map_append, List.map_cons, List.map_nil, List.getLast?_concat,
        List.dropLast_concat]
      by_cases h : Fits (b ++ [s])
      · rw [if_pos h, if_neg (Nat.not_lt.mpr (hfits.mp h)), ← joined_concat hb]
        simp
      · rw [if_neg h, if_pos (Nat.lt_of_not_le fun hle => h (hfits.mpr hle))]
        simp [joined]

/-- A tag in front of a text changes none of its own. -/
theorem tokens_tagOf (color : Option Char) (hcolor : ∀ c ∈ color, ColorToken.isColor c = true)
    (s : String) :
    ColorToken.tokens (tagOf color ++ s).toList =
      (color.map ColorToken.tag).toList ++ ColorToken.tokens s.toList := by
  cases color with
  | none => simp [tagOf]
  | some c =>
    have hc := hcolor c rfl
    simp [tagOf, ColorToken.tagText, ColorToken.tokens, hc]

theorem nextColor_tagOf {color : Option Char} (hcolor : ∀ c ∈ color, ColorToken.isColor c = true)
    (s : String) : nextColor (tagOf color) (tagOf color ++ s) = tagOf (colorBehind color s) := by
  have hlast : ColorToken.lastColor? (ColorToken.tokens (tagOf color ++ s).toList) =
      colorBehind color s := by
    rw [tokens_tagOf color hcolor, colorBehind]
    simp only [ColorToken.lastColor?, List.filterMap_append, List.getLast?_append]
    cases color <;> rfl
  rw [nextColor, hlast]
  cases hbehind : colorBehind color s with
  | some c => rfl
  | none =>
    rw [colorBehind, Option.or_eq_none_iff] at hbehind
    rw [hbehind.2]

theorem isColor_colorBehind {color : Option Char}
    (hcolor : ∀ c ∈ color, ColorToken.isColor c = true) (s : String) :
    ∀ c ∈ colorBehind color s, ColorToken.isColor c = true := by
  intro c hc
  rcases Option.or_eq_some_iff.mp hc with hlast | ⟨-, hbefore⟩
  · exact ColorToken.isColor_of_lastColor? hlast
  · exact hcolor c hbefore

theorem isColor_of_mem_colored {color : Option Char} {texts : List String}
    (hcolor : ∀ c ∈ color, ColorToken.isColor c = true) {x : Option Char × String}
    (hx : x ∈ colored color texts) : ∀ c ∈ x.1, ColorToken.isColor c = true := by
  induction texts generalizing color with
  | nil => cases hx
  | cons s texts ih =>
    rcases List.mem_cons.mp hx with rfl | hx
    · exact hcolor
    · exact ih (isColor_colorBehind hcolor s) hx

theorem colored_map_snd (color : Option Char) (texts : List String) :
    (colored color texts).map (·.2) = texts := by
  induction texts generalizing color with
  | nil => rfl
  | cons s texts ih => rw [colored, List.map_cons, ih]

/-! ## What becomes of them -/

/-- The commands made of some payloads. -/
def Formatted (w : ReplyWorld) (sent : List (Option Char × String)) (commands : List String) :
    Prop :=
  sent.map (fun x => w.format (payload x)) = commands.map .ok

/-- The commands that a recipient gets. -/
def receivedBy (cid : Option Int) (tasks : List (Option Int × String)) : List String :=
  (tasks.filter (·.1 = cid)).map (·.2)

theorem putCommand_ok {w : ReplyWorld} {serverCommand : String} {cids : List (Option Int)}
    (h : (putCommand w serverCommand cids).1 = .ok ()) :
    (putCommand w serverCommand cids).2 = cids.map (·, serverCommand) := by
  induction cids with
  | nil => rfl
  | cons cid cids ih =>
    rw [putCommand] at h ⊢
    cases hput : w.putNowait cid serverCommand with
    | error e =>
      rw [hput] at h
      cases h
    | ok u =>
      rw [hput] at h
      exact congrArg _ (ih h)

theorem putCommand_returns {w : ReplyWorld} {serverCommand : String} {cids : List (Option Int)}
    (h : ∀ cid ∈ cids, w.putNowait cid serverCommand = .ok ()) :
    (putCommand w serverCommand cids).1 = .ok () := by
  induction cids with
  | nil => rfl
  | cons cid cids ih =>
    rw [putCommand, h cid List.mem_cons_self]
    exact ih fun cid' hcid' => h cid' (List.mem_cons_of_mem cid hcid')

theorem receivedBy_map (cid : Option Int) (cids : List (Option Int)) (command : String) :
    receivedBy cid (cids.map (·, command)) = List.replicate (cids.count cid) command := by
  induction cids with
  | nil => rfl
  | cons cid' cids ih =>
    by_cases h : cid' = cid
    · subst h
      simp [receivedBy, List.replicate_succ] at ih ⊢
      exact ih
    · simp [receivedBy, h] at ih ⊢
      exact ih

section send
variable {w : ReplyWorld} {targets : List (Option Int)} {color : Option Char}

/-- What becomes of a text: an exception ends the reply, or its command is queued for all
recipients and the reply goes on. -/
theorem sendMsgs_cons_cases (w : ReplyWorld) (targets : List (Option Int))
    (lastColor s : String) (rest : List String) :
    ((sendMsgs w targets lastColor (s :: rest)).payloads = [lastColor ++ s] ∧
        ∃ e, (sendMsgs w targets lastColor (s :: rest)).result = .error e) ∨
      ∃ command, w.format (lastColor ++ s) = .ok command ∧
        sendMsgs w targets lastColor (s :: rest) =
          let sent := sendMsgs w targets (nextColor lastColor (lastColor ++ s)) rest
          ⟨sent.result, (lastColor ++ s) :: sent.payloads,
            targets.map (·, command) ++ sent.tasks⟩ := by
  rw [sendMsgs]
  cases hformat : w.format (lastColor ++ s) with
  | error e => exact .inl ⟨rfl, e, rfl⟩
  | ok command =>
    have hqueued := @putCommand_ok w command targets
    simp only
    generalize putCommand w command targets = queued at hqueued ⊢
    obtain ⟨result, tasks⟩ := queued
    cases result with
    | error e => exact .inl ⟨rfl, e, rfl⟩
    | ok u =>
      obtain rfl := hqueued rfl
      exact .inr ⟨command, rfl, rfl⟩

/-- The texts are handed to the format as far as nothing is raised, and that is all of them
if nothing is. -/
theorem sendMsgs_payloads (hcolor : ∀ c ∈ color, ColorToken.isColor c = true)
    (texts : List String) :
    (sendMsgs w targets (tagOf color) texts).payloads <+: (colored color texts).map payload ∧
      ((sendMsgs w targets (tagOf color) texts).result = .ok () →
        (sendMsgs w targets (tagOf color) texts).payloads = (colored color texts).map payload) := by
  induction texts generalizing color with
  | nil => exact ⟨List.nil_prefix, fun _ => rfl⟩
  | cons s texts ih =>
    obtain ⟨hpre, hall⟩ := ih (isColor_colorBehind hcolor s)
    rw [← nextColor_tagOf hcolor s] at hpre hall
    rcases sendMsgs_cons_cases w targets (tagOf color) s texts with
      ⟨hpayloads, e, herror⟩ | ⟨command, -, hsent⟩
    · -- what is raised ends the loop, after this text was handed over
      rw [hpayloads, herror]
      exact ⟨by simp [colored, payload], fun h => by cases h⟩
    · rw [hsent]
      exact ⟨(List.prefix_cons_inj _).mpr hpre, fun h => congrArg _ (hall h)⟩

/-- The commands that are queued if nothing is raised. -/
theorem sendMsgs_tasks (hcolor : ∀ c ∈ color, ColorToken.isColor c = true) {texts : List String}
    (h : (sendMsgs w targets (tagOf color) texts).result = .ok ()) :
    ∃ commands, Formatted w (colored color texts) commands ∧
      (sendMsgs w targets (tagOf color) texts).tasks =
        commands.flatMap fun command => targets.map (·, command) := by
  induction texts generalizing color with
  | nil => exact ⟨[], rfl, rfl⟩
  | cons s texts ih =>
    rcases sendMsgs_cons_cases w targets (tagOf color) s texts with
      ⟨-, e, herror⟩ | ⟨command, hformat, hsent⟩
    · rw [herror] at h
      cases h
    · rw [hsent, nextColor_tagOf hcolor] at h
      obtain ⟨commands, hformatted, htasks⟩ := ih (isColor_colorBehind hcolor s) h
      refine ⟨command :: commands, ?_, ?_⟩
      · rw [Formatted, colored, List.map_cons, List.map_cons]
        exact congrArg₂ _ hformat hformatted
      · rw [hsent, nextColor_tagOf hcolor]
        exact congrArg _ htasks

theorem sendMsgs_returns (hcolor : ∀ c ∈ color, ColorToken.isColor c = true)
    {texts : List String}
    (h : ∀ x ∈ colored color texts, ∃ command, w.format (payload x) = .ok command ∧
      ∀ cid ∈ targets, w.putNowait cid command = .ok ()) :
    (sendMsgs w targets (tagOf color) texts).result = .ok () := by
  induction texts generalizing color with
  | nil => rfl
  | cons s texts ih =>
    obtain ⟨command, hformat, hput⟩ := h (color, s) List.mem_cons_self
    have hrest := ih (isColor_colorBehind hcolor s) fun x hx => h x (List.mem_cons_of_mem _ hx)
    have hformat : w.format (tagOf color ++ s) = .ok command := hformat
    have hqueued := putCommand_returns hput
    rw [← nextColor_tagOf hcolor] at hrest
    rw [sendMsgs]
    simp only [hformat]
    generalize putCommand w command targets = queued at hqueued
    obtain ⟨result, tasks⟩ := queued
    obtain rfl : result = .ok () := hqueued
    exact hrest

end send


/-! ## What the pieces are made of -/

theorem flatten_mergeItems (limit : Nat) (nextString : String) (items : List String) :
    ((mergeItems limit nextString items).map String.toList).flatten =
      nextString.toList ++ (items.map String.toList).flatten := by
  induction items generalizing nextString with
  | nil =>
    rw [mergeItems]
    split
    next h => simp [h]
    next => simp
  | cons item items ih =>
    rw [mergeItems]
    split
    next => simp [ih]
    next =>
      rw [List.map_append, List.flatten_append, ih]
      split
      next h => simp [h]
      next => simp

/-- Items that are put together are cut where the items were. -/
theorem uncut_mergeItems (limit : Nat) {nextString : String} {items : List String}
    (h : ColorToken.Uncut ((nextString :: items).map String.toList)) :
    ColorToken.Uncut ((mergeItems limit nextString items).map String.toList) := by
  induction items generalizing nextString with
  | nil =>
    rw [mergeItems]
    split
    next => exact fun l hl => absurd hl (by simp)
    next => exact h
  | cons item items ih =>
    obtain ⟨hnext, hitems⟩ := h.tail
    rw [mergeItems]
    split
    next =>
      -- the item is put behind the text so far, whose end may be a caret
      refine ih ?_
      cases items with
      | nil => exact fun l hl => absurd hl (by simp)
      | cons item' items =>
        obtain ⟨hitem, hrest⟩ := hitems.tail
        refine .cons ?_ hrest
        rw [String.toList_append, List.getLast?_append]
        intro hlast
        rcases Option.or_eq_some_iff.mp hlast with hlast | ⟨-, hlast⟩
        · exact hitem hlast
        · exact hnext hlast
    next =>
      rw [List.map_append]
      split
      next => exact ih hitems
      next => exact .cons hnext (ih hitems)

theorem flatten_splitInclusive {delimiter : String} (hne : delimiter ≠ "") (s : String) :
    ((Text.splitInclusive delimiter s).map String.toList).flatten = s.toList := by
  rw [Text.splitInclusive, if_neg hne, Text.map_toList_ofList, Text.flatten_cuts]

theorem uncut_splitInclusive {delimiter : String} (hne : delimiter ≠ "")
    (hend : delimiter.toList.getLast? ≠ some '^') (s : String) :
    ColorToken.Uncut ((Text.splitInclusive delimiter s).map String.toList) := by
  rw [Text.splitInclusive, if_neg hne, Text.map_toList_ofList]
  intro piece hpiece
  obtain ⟨start, rfl⟩ := Text.suffix_of_mem_cuts hpiece
  have hdelimiter : delimiter.toList ≠ [] := fun h => hne (String.toList_eq_nil_iff.mp h)
  rwa [List.getLast?_append_of_ne_nil _ hdelimiter]

/-- The pieces that a line is split into. -/
def linePieces (limit : Int) (delimiter value : String) : List String :=
  if value.utf8ByteSize ≤ asUsize limit then [value]
  else mergeItems (asUsize limit) "" (Text.splitInclusive delimiter value)

theorem pieces_eq (msg : String) (limit : Int) (delimiter : String) :
    pieces msg limit delimiter =
      (Text.split '\n' (cleanedMsg msg)).flatMap (linePieces limit delimiter) := rfl

theorem flatten_linePieces {delimiter : String} (hne : delimiter ≠ "") (limit : Int)
    (value : String) :
    ((linePieces limit delimiter value).map String.toList).flatten = value.toList := by
  rw [linePieces]
  split
  next => simp
  next =>
    rw [flatten_mergeItems, flatten_splitInclusive hne]
    rfl

theorem uncut_linePieces {delimiter : String} (hne : delimiter ≠ "")
    (hend : delimiter.toList.getLast? ≠ some '^') (limit : Int) (value : String) :
    ColorToken.Uncut ((linePieces limit delimiter value).map String.toList) := by
  rw [linePieces]
  split
  next => exact fun l hl => absurd hl (by simp)
  next =>
    refine uncut_mergeItems _ ?_
    exact .cons (by simp) (uncut_splitInclusive hne hend value)

/-- The message with other quotes. -/
def unquoted (c : Char) : Char := if c = '"' then '\'' else c

theorem toList_cleanedMsg (msg : String) : (cleanedMsg msg).toList = msg.toList.map unquoted := by
  rw [cleanedMsg, Text.replace, String.toList_ofList]
  rfl

/-- No piece contains a double quote. -/
theorem not_mem_of_mem_pieces {msg : String} {limit : Int} {delimiter : String}
    (hne : delimiter ≠ "") {s : String} (hs : s ∈ pieces msg limit delimiter) :
    '"' ∉ s.toList := by
  intro hquote
  rw [pieces_eq] at hs
  obtain ⟨value, hvalue, hs⟩ := List.mem_flatMap.mp hs
  have hline : '"' ∈ value.toList := by
    rw [← flatten_linePieces hne limit value]
    exact List.mem_flatten_of_mem (List.mem_map_of_mem hs) hquote
  have hmsg : '"' ∈ (cleanedMsg msg).toList := by
    rw [← Text.intercalate_split '\n', Text.mem_intercalate (by decide)]
    exact ⟨_, List.mem_map_of_mem hvalue, hline⟩
  rw [toList_cleanedMsg] at hmsg
  obtain ⟨c, -, hc⟩ := List.mem_map.mp hmsg
  rw [unquoted] at hc
  split at hc
  next => exact absurd hc (by decide)
  next hc' => exact hc' hc

/-! ## The texts and the message -/

theorem toList_joined (block : List String) :
    (joined block).toList = ['\n'].intercalate (block.map String.toList) :=
  String.toList_intercalate

/-- Texts are joined to the pieces that they are made of. -/
theorem joined_map_joined {blocks : List (List String)} (h : ∀ b ∈ blocks, b ≠ []) :
    joined (blocks.map joined) = joined blocks.flatten := by
  induction blocks with
  | nil => rfl
  | cons b blocks ih =>
    have hrest := ih fun c hc => h c (List.mem_cons_of_mem b hc)
    cases blocks with
    | nil => simp [joined]
    | cons c blocks =>
      have hb : b ≠ [] := h b List.mem_cons_self
      have hc : (c :: blocks).flatten ≠ [] := by
        rw [List.flatten_cons]
        exact List.append_ne_nil_of_left_ne_nil (h c (by simp)) _
      have hflatten : joined (b :: c :: blocks).flatten =
          joined b ++ "\n" ++ joined (c :: blocks).flatten := by
        rw [List.flatten_cons, joined, String.intercalate_append_of_ne_nil hb hc]
        rfl
      rw [hflatten, ← hrest]
      exact String.intercalate_cons_cons

/-- The tokens of a text, line feeds left out. -/
def tokensOf (s : String) : List ColorToken :=
  (ColorToken.tokens s.toList).filter fun t => t.char?.all (· ≠ '\n')

theorem tokensOf_joined (block : List String) :
    tokensOf (joined block) = block.flatMap tokensOf := by
  rw [tokensOf, toList_joined, ColorToken.filter_tokens_intercalate (by decide) (by decide),
    List.flatMap_map]
  rfl

theorem flatMap_tokensOf_linePieces {delimiter : String} (hne : delimiter ≠ "")
    (hend : delimiter.toList.getLast? ≠ some '^') (limit : Int) (value : String) :
    (linePieces limit delimiter value).flatMap tokensOf = tokensOf value := by
  have htokens := ColorToken.tokens_flatten (uncut_linePieces hne hend limit value)
  rw [flatten_linePieces hne] at htokens
  rw [tokensOf, htokens, List.filter_flatMap, List.flatMap_map]
  rfl

/-- The pieces have the tokens of the message. -/
theorem flatMap_tokensOf_pieces {delimiter : String} (hne : delimiter ≠ "")
    (hend : delimiter.toList.getLast? ≠ some '^') (msg : String) (limit : Int) :
    (pieces msg limit delimiter).flatMap tokensOf = tokensOf (cleanedMsg msg) := by
  rw [pieces_eq, List.flatMap_assoc]
  simp only [flatMap_tokensOf_linePieces hne hend]
  rw [tokensOf, ← Text.intercalate_split '\n' (cleanedMsg msg),
    ColorToken.filter_tokens_intercalate (by decide) (by decide), List.flatMap_map]
  rfl

/-- The characters of a text with their colours, without the line feeds. -/
def shown (s : String) : List (Char × Option Char) :=
  (ColorToken.paint none (ColorToken.tokens s.toList)).filter (·.1 ≠ '\n')

theorem shown_eq (s : String) : shown s = ColorToken.paint none (tokensOf s) :=
  ColorToken.filter_paint (· ≠ '\n') none _

/-- Texts that begin with the colour behind the ones before are shown like one text. -/
theorem flatMap_paint_colored (color : Option Char)
    (hcolor : ∀ c ∈ color, ColorToken.isColor c = true) (texts : List String) :
    (colored color texts).flatMap
        (fun x => ColorToken.paint none (ColorToken.tokens (payload x).toList)) =
      ColorToken.paint color (texts.flatMap fun s => ColorToken.tokens s.toList) := by
  induction texts generalizing color with
  | nil => rfl
  | cons s texts ih =>
    have htag : ColorToken.paint none (ColorToken.tokens (payload (color, s)).toList) =
        ColorToken.paint color (ColorToken.tokens s.toList) := by
      rw [payload, tokens_tagOf color hcolor]
      cases color <;> rfl
    rw [colored, List.flatMap_cons, List.flatMap_cons, htag, ih _ (isColor_colorBehind hcolor s),
      ColorToken.paint_append]
    rfl

theorem flatMap_shown_payloads {delimiter : String} (hne : delimiter ≠ "")
    (hend : delimiter.toList.getLast? ≠ some '^') (msg : String) (limit : Int) :
    (payloads msg limit delimiter).flatMap (fun x => shown (payload x)) =
      shown (cleanedMsg msg) := by
  have hpainted := flatMap_paint_colored none (by simp)
    ((blocks msg limit delimiter).map joined)
  have hflatten := (blocks_packed msg limit delimiter).flatten
  calc (payloads msg limit delimiter).flatMap (fun x => shown (payload x))
    _ = ((payloads msg limit delimiter).flatMap fun x =>
          ColorToken.paint none (ColorToken.tokens (payload x).toList)).filter (·.1 ≠ '\n') := by
      rw [List.filter_flatMap]
      rfl
    _ = ColorToken.paint none (((blocks msg limit delimiter).map joined).flatMap tokensOf) := by
      rw [payloads, hpainted, ColorToken.filter_paint (· ≠ '\n'), List.filter_flatMap]
      rfl
    _ = ColorToken.paint none ((pieces msg limit delimiter).flatMap tokensOf) := by
      rw [List.flatMap_map, ← hflatten, ← List.flatMap_id, List.flatMap_assoc]
      simp only [tokensOf_joined]
      rfl
    _ = shown (cleanedMsg msg) := by
      rw [flatMap_tokensOf_pieces hne hend, shown_eq]

theorem unquoted_eq_iff {c d : Char} (hd : d ≠ '"') (hd' : d ≠ '\'') :
    unquoted c = d ↔ c = d := by
  rw [unquoted]
  split
  next h =>
    subst h
    exact ⟨fun h => absurd h.symm hd', fun h => absurd h.symm hd⟩
  next => exact Iff.rfl

theorem isColor_unquoted (c : Char) : ColorToken.isColor (unquoted c) = ColorToken.isColor c := by
  rw [unquoted]
  split
  next h =>
    subst h
    rfl
  next => rfl

theorem unquoted_of_isColor {c : Char} (h : ColorToken.isColor c = true) : unquoted c = c := by
  rw [unquoted, if_neg]
  rintro rfl
  exact absurd h (by decide)

/-- Other quotes do not change the colours. -/
theorem shown_cleanedMsg (msg : String) :
    shown (cleanedMsg msg) = (shown msg).map fun x => (unquoted x.1, x.2) := by
  have hline : (fun x : Char × Option Char => decide (x.1 ≠ '\n')) ∘
      (fun x : Char × Option Char => (unquoted x.1, x.2)) = fun x => decide (x.1 ≠ '\n') := by
    funext x
    simp [unquoted_eq_iff]
  rw [shown, shown, toList_cleanedMsg,
    ColorToken.tokens_map (fun c => unquoted_eq_iff (by decide) (by decide)) isColor_unquoted
      (fun c => unquoted_of_isColor),
    ColorToken.paint_map, List.filter_map, hline]

/-! ## The delivery -/

/-- What a reply does with a message, where `sent` are the texts that it sends, each with the
colour of the tag in front of it.

The texts are handed to the format in their order, up to an exception, and all of them if
there is none. -/
structure Delivers (w : ReplyWorld) (msg : String) (limit : Int) (delimiter : String)
    (sent : List (Option Char × String)) (out : Replied) : Prop where
  /-- Up to an exception, the texts are handed to the format with their tags. -/
  handed : out.payloads <+: sent.map payload
  /-- Without an exception, these are all texts. -/
  complete : out.result = .ok () → out.payloads = sent.map payload
  /-- Exceptions come from the recipients, the format and the queue. -/
  returns : ∀ targets, w.recipients = .ok targets →
    (∀ x ∈ sent, ∃ command, w.format (payload x) = .ok command ∧
      ∀ cid ∈ targetsOf targets, w.putNowait cid command = .ok ()) → out.result = .ok ()
  /-- The texts without their tags are the pieces of the message. -/
  whole : joined (sent.map (·.2)) = joined (splitLongLines (cleanedMsg msg) limit delimiter)
  /-- The first text has no tag in front of it, and the tags are tags. -/
  first : ∀ x ∈ sent.head?, x.1 = none
  tags : ∀ x ∈ sent, ∀ color ∈ x.1, ColorToken.isColor color = true
  unquoted : ∀ x ∈ sent, '"' ∉ (payload x).toList
  /-- Each recipient gets the commands of all texts in their order, once for each time it is
  among the recipients. -/
  received : ∀ targets, w.recipients = .ok targets → out.result = .ok () →
    ∃ commands, Formatted w sent commands ∧ ∀ cid,
      receivedBy cid out.tasks =
        commands.flatMap (List.replicate ((targetsOf targets).count cid))
  /-- The characters have the colours that they have in the message. -/
  colors : (sent.flatMap fun x => shown (payload x)) =
    (shown msg).map fun x => (ChatReply.unquoted x.1, x.2)

theorem mem_tagOf {color : Option Char} {c : Char} (h : c ∈ (tagOf color).toList) :
    c = '^' ∨ color = some c := by
  cases color with
  | none => cases h
  | some k =>
    have h : c ∈ ['^', k] := by simpa [tagOf, ColorToken.tagText] using h
    rcases List.mem_cons.mp h with rfl | h
    · exact .inl rfl
    · exact .inr (congrArg some (List.mem_singleton.mp h).symm)

theorem isColor_of_mem_payloads {msg : String} {limit : Int} {delimiter : String}
    {x : Option Char × String} (hx : x ∈ payloads msg limit delimiter) :
    ∀ color ∈ x.1, ColorToken.isColor color = true :=
  isColor_of_mem_colored (by simp) hx

theorem payloads_map_snd (msg : String) (limit : Int) (delimiter : String) :
    (payloads msg limit delimiter).map (·.2) = (blocks msg limit delimiter).map joined :=
  colored_map_snd none _

theorem not_mem_payload {msg : String} {limit : Int} {delimiter : String} (hne : delimiter ≠ "")
    {x : Option Char × String} (hx : x ∈ payloads msg limit delimiter) :
    '"' ∉ (payload x).toList := by
  intro hquote
  rw [payload, String.toList_append] at hquote
  rcases List.mem_append.mp hquote with htag | htext
  · rcases mem_tagOf htag with hcaret | hcolor
    · exact absurd hcaret (by decide)
    · exact absurd (isColor_of_mem_payloads hx _ hcolor) (by decide)
  · have hsnd : x.2 ∈ (blocks msg limit delimiter).map joined :=
      payloads_map_snd msg limit delimiter ▸ List.mem_map_of_mem hx
    obtain ⟨b, hb, heq⟩ := List.mem_map.mp hsnd
    rw [← heq, toList_joined, Text.mem_intercalate (by decide)] at htext
    obtain ⟨l, hl, hquote⟩ := htext
    obtain ⟨s, hs, rfl⟩ := List.mem_map.mp hl
    have hpieces : s ∈ pieces msg limit delimiter := by
      rw [← (blocks_packed msg limit delimiter).flatten]
      exact List.mem_flatten_of_mem hb hs
    exact not_mem_of_mem_pieces hne hpieces hquote

theorem receivedBy_flatMap (cid : Option Int) (targets : List (Option Int))
    (commands : List String) :
    receivedBy cid (commands.flatMap fun command => targets.map (·, command)) =
      commands.flatMap (List.replicate (targets.count cid)) := by
  induction commands with
  | nil => rfl
  | cons command commands ih =>
    rw [List.flatMap_cons, List.flatMap_cons, ← ih, ← receivedBy_map]
    simp only [receivedBy, List.filter_append, List.map_append]

theorem payloads_head?_fst {msg : String} {limit : Int} {delimiter : String}
    {x : Option Char × String} (hx : x ∈ (payloads msg limit delimiter).head?) : x.1 = none := by
  rw [payloads] at hx
  cases hblocks : (blocks msg limit delimiter).map joined with
  | nil =>
    rw [hblocks] at hx
    cases hx
  | cons s texts =>
    rw [hblocks] at hx
    obtain rfl := Option.some.inj hx
    rfl

theorem reply_eq {w : ReplyWorld} {targets : Option (List Int)} (h : w.recipients = .ok targets)
    (msg : String) (limit : Int) (delimiter : String) :
    reply w msg limit delimiter =
      sendMsgs w (targetsOf targets) (tagOf none) ((blocks msg limit delimiter).map joined) := by
  have htag : tagOf none = "" := rfl
  rw [reply, h, htag, blocks, ← foldl_joinMsgs]

theorem reply_payloads (w : ReplyWorld) (msg : String) (limit : Int) (delimiter : String) :
    (reply w msg limit delimiter).payloads <+: (payloads msg limit delimiter).map payload ∧
      ((reply w msg limit delimiter).result = .ok () →
        (reply w msg limit delimiter).payloads = (payloads msg limit delimiter).map payload) := by
  cases htargets : w.recipients with
  | error e =>
    rw [reply, htargets]
    exact ⟨List.nil_prefix, fun h => by cases h⟩
  | ok targets =>
    rw [reply_eq htargets]
    exact sendMsgs_payloads (by simp) _

/-- **A reply delivers the whole message with its colours.** -/
theorem reply_delivers (w : ReplyWorld) (msg : String) (limit : Int) {delimiter : String}
    (hne : delimiter ≠ "") (hend : delimiter.toList.getLast? ≠ some '^') :
    Delivers w msg limit delimiter (payloads msg limit delimiter)
      (reply w msg limit delimiter) := by
  have hpacked := blocks_packed msg limit delimiter
  have hpayloads := reply_payloads w msg limit delimiter
  exact {
    handed := hpayloads.1
    complete := hpayloads.2
    returns := fun targets htargets h => by
      rw [reply_eq htargets]
      exact sendMsgs_returns (by simp) h
    whole := by
      rw [payloads_map_snd, joined_map_joined hpacked.ne_nil, hpacked.flatten]
      rfl
    first := fun x hx => payloads_head?_fst hx
    tags := fun x hx => isColor_of_mem_payloads hx
    unquoted := fun x hx => not_mem_payload hne hx
    received := fun targets htargets h => by
      rw [reply_eq htargets] at h ⊢
      obtain ⟨commands, hformatted, htasks⟩ := sendMsgs_tasks (by simp) h
      refine ⟨commands, hformatted, fun cid => ?_⟩
      rw [htasks, receivedBy_flatMap]
    colors := by rw [flatMap_shown_payloads hne hend, shown_cleanedMsg] }

theorem cleanedMsg_lines (s t : String) :
    cleanedMsg (s ++ "\n" ++ t) = cleanedMsg s ++ "\n" ++ cleanedMsg t := by
  rw [cleanedMsg, cleanedMsg, cleanedMsg, ← String.toList_inj]
  simp [Text.replace, String.toList_append, String.toList_ofList]

/-- Two lines that are not long are the pieces of their message. -/
theorem pieces_lines {s t : String} {limit : Int} {delimiter : String}
    (hs : '\n' ∉ (cleanedMsg s).toList ∧ (cleanedMsg s).utf8ByteSize ≤ asUsize limit)
    (ht : '\n' ∉ (cleanedMsg t).toList ∧ (cleanedMsg t).utf8ByteSize ≤ asUsize limit) :
    pieces (s ++ "\n" ++ t) limit delimiter = [cleanedMsg s, cleanedMsg t] := by
  rw [pieces, splitLongLines, cleanedMsg_lines, Text.split_append (by decide),
    Text.split_of_notMem hs.1, Text.split_of_notMem ht.1]
  simp [hs.2, ht.2]

/-- If they are too long together, the second one is sent as a text of its own, behind the last
colour of the first one. -/
theorem payloads_lines {s t : String} {limit : Int} {delimiter : String}
    (hs : '\n' ∉ (cleanedMsg s).toList ∧ (cleanedMsg s).utf8ByteSize ≤ asUsize limit)
    (ht : '\n' ∉ (cleanedMsg t).toList ∧ (cleanedMsg t).utf8ByteSize ≤ asUsize limit)
    (hlong : ¬Fits [cleanedMsg s, cleanedMsg t]) :
    payloads (s ++ "\n" ++ t) limit delimiter =
      [(none, cleanedMsg s), (colorBehind none (cleanedMsg s), cleanedMsg t)] := by
  have hblocks : blocks (s ++ "\n" ++ t) limit delimiter = [[cleanedMsg s], [cleanedMsg t]] := by
    rw [blocks, pieces_lines hs ht]
    show Packing.push Fits [[cleanedMsg s]] (cleanedMsg t) = _
    rw [← List.nil_append [[cleanedMsg s]], Packing.push_concat]
    simp [hlong]
  simp [payloads, hblocks, colored, joined]

/-- A line that begins with a tag and a quote. -/
def redLine (n : Nat) : String := "^1\"" ++ String.ofList (List.replicate n 'a')

/-- A line in the colour of the one before. -/
def plainLine (n : Nat) : String := String.ofList (List.replicate n 'b')

theorem toList_redLine (n : Nat) :
    (cleanedMsg (redLine n)).toList = ['^', '1', '\''] ++ List.replicate n 'a' := by
  simp [redLine, cleanedMsg, Text.replace]

theorem toList_plainLine (n : Nat) :
    (cleanedMsg (plainLine n)).toList = List.replicate n 'b' := by
  simp [plainLine, cleanedMsg, Text.replace]

theorem size_redLine (n : Nat) : (cleanedMsg (redLine n)).utf8ByteSize = n + 3 := by
  have ha : 'a'.utf8Size = 1 := by decide
  have htag : (['^', '1', '\''].map Char.utf8Size).sum = 3 := by decide
  rw [← String.ofList_toList (s := cleanedMsg (redLine n)), Text.utf8ByteSize_ofList,
    toList_redLine, List.map_append, List.sum_append, htag, List.map_replicate, ha,
    List.sum_replicate_nat]
  omega

theorem size_plainLine (n : Nat) : (cleanedMsg (plainLine n)).utf8ByteSize = n := by
  have hb : 'b'.utf8Size = 1 := by decide
  rw [← String.ofList_toList (s := cleanedMsg (plainLine n)), Text.utf8ByteSize_ofList,
    toList_plainLine, List.map_replicate, hb, List.sum_replicate_nat, Nat.mul_one]

theorem tokens_replicate {c : Char} (hc : c ≠ '^') (n : Nat) :
    ColorToken.tokens (List.replicate n c) = List.replicate n (.char c) := by
  induction n with
  | zero => rfl
  | succ n ih =>
    rw [List.replicate_succ, ColorToken.tokens_cons_of_apart (.inl (by simpa using hc)), ih,
      List.replicate_succ]

theorem colorBehind_redLine (n : Nat) : colorBehind none (cleanedMsg (redLine n)) = some '1' := by
  have happart : ColorToken.Apart ['^', '1', '\''] (List.replicate n 'a') := .inl (by simp)
  rw [colorBehind, toList_redLine, ColorToken.tokens_append happart,
    tokens_replicate (by decide), ColorToken.lastColor?, List.filterMap_append,
    List.filterMap_replicate_of_none rfl, List.append_nil]
  rfl

/-- A red line and a plain one that do not fit into one text are two of them, both of them red. -/
theorem payloads_redLine {m n : Nat} {limit : Int} {delimiter : String}
    (hm : m + 3 ≤ asUsize limit) (hn : n ≤ asUsize limit) (hlong : maxMsgLength < m + n + 4) :
    payloads (redLine m ++ "\n" ++ plainLine n) limit delimiter =
      [(none, cleanedMsg (redLine m)), (some '1', cleanedMsg (plainLine n))] := by
  have hred : '\n' ∉ (cleanedMsg (redLine m)).toList := by simp [toList_redLine]
  have hplain : '\n' ∉ (cleanedMsg (plainLine n)).toList := by simp [toList_plainLine]
  have hnot : ¬Fits [cleanedMsg (redLine m), cleanedMsg (plainLine n)] := by
    have hsize : (joined [cleanedMsg (redLine m), cleanedMsg (plainLine n)]).utf8ByteSize =
        m + 3 + 1 + n := by
      have hfeed : "\n".utf8ByteSize = 1 := by decide
      simp [joined, size_redLine, size_plainLine, hfeed]
    rw [Fits, hsize]
    omega
  rw [payloads_lines ⟨hred, by rwa [size_redLine]⟩ ⟨hplain, by rwa [size_plainLine]⟩ hnot,
    colorBehind_redLine]

/-- A channel with two clients. -/
def printWorld : ReplyWorld :=
  ⟨.ok (some [4, 7]), fun s => .ok ("print \"" ++ s ++ "\""), fun _ _ => .ok ()⟩

/-- Both clients get a message of two texts, the second one with the colour of the first. -/
theorem reply_delivers_quoted :
    payloads (redLine 600 ++ "\n" ++ plainLine 500) 1000 " " =
        [(none, cleanedMsg (redLine 600)), (some '1', cleanedMsg (plainLine 500))] ∧
      Delivers printWorld (redLine 600 ++ "\n" ++ plainLine 500) 1000 " "
        (payloads (redLine 600 ++ "\n" ++ plainLine 500) 1000 " ")
        (reply printWorld (redLine 600 ++ "\n" ++ plainLine 500) 1000 " ") :=
  ⟨payloads_redLine (by decide) (by decide) (by decide),
    reply_delivers _ _ _ (by decide +kernel) (by decide +kernel)⟩

end ChatReply
end ShinQlx
