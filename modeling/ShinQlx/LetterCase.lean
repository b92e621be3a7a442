import ShinQlx.ChatMessage

/-! # Commands in upper and lower case

The expressions for client commands read the word of a command in any case, but the letters
that `vote` and `team` select by are compared with lists: that of the votes has both cases
of each letter, that of the teams has the small ones only.

So two spellings of a command mean the same (`sameMeaning_iff`), unless they are spellings
of `team` of which one is asked about and the other is not.
-/
namespace ShinQlx.ClientCommand
open Regex

/-- The text behind the command word. -/
def behindWord (cmd : String) : List Char := cmd.toList.dropWhile (· ≠ ' ')

/-- The first character behind the command word and the blanks. -/
def selector (cmd : String) : Option Char := (body cmd).head?

/-- The word of a command, in any case. -/
def HasWord (cmd name : String) : Prop :=
  (commandWord cmd).map foldCase = name.toList.map foldCase

instance (cmd name : String) : Decidable (HasWord cmd name) := inferInstanceAs (Decidable (_ = _))

/-- Two texts behind a command word that differ in the case of the selector at most. -/
def SelectorCase (t t' : List Char) : Prop :=
  ∃ blanks c c' rest, (∀ d ∈ blanks, d = ' ') ∧ t = blanks ++ c :: rest ∧
    t' = blanks ++ c' :: rest ∧ c ≠ ' ' ∧ c.toLower = c'.toLower

/-- Two spellings of a command, for the word of it that is not case-sensitive. -/
structure Respelled (name cmd cmd' : String) : Prop where
  command : name ∈ ["say", "say_team", "callvote", "cv", "vote", "team"]
  line : '\n' ∉ cmd.toList
  line' : '\n' ∉ cmd'.toList
  named : HasWord cmd name
  word : (commandWord cmd').map Char.toLower = (commandWord cmd).map Char.toLower
  behind : behindWord cmd' = behindWord cmd ∨
    (name = "vote" ∨ name = "team") ∧ SelectorCase (behindWord cmd) (behindWord cmd')

/-- What is executed of two commands: neither, each as it is, or the same. -/
def Alike (cmd cmd' : String) (executed executed' : Option String) : Prop :=
  executed = executed' ∨ executed = some cmd ∧ executed' = some cmd'

/-- Whatever the game is like and the handlers do, both commands lead to the same events,
and are forwarded or stopped alike. -/
def SameMeaning (cmd cmd' : String) : Prop :=
  ∀ (P : Type) (w : ClientCommandWorld P) (caller : Option P),
    PassedThrough w cmd → PassedThrough w cmd' →
      (tryHandleClientCommand w cmd caller).events =
        (tryHandleClientCommand w cmd' caller).events ∧
      Alike cmd cmd' (clientCommandDispatcher w cmd caller) (clientCommandDispatcher w cmd' caller)

/-- A letter for a team. -/
def teamLetters : List Char := ['f', 'r', 'b', 's', 'a']

/-! ## Letters -/

theorem toLower_cases (c : Char) :
    c.toLower = c ∨ 65 ≤ c.toNat ∧ c.toNat ≤ 90 ∧ c.toLower.toNat = c.toNat + 32 := by
  unfold Char.toLower
  split
  next h =>
    have hlow : 65 ≤ c.toNat := h.1
    have hhigh : c.toNat ≤ 90 := h.2
    refine .inr ⟨hlow, hhigh, ?_⟩
    show (c.val + 32).toNat = c.val.toNat + 32
    have hhigh : c.val.toNat ≤ 90 := hhigh
    have h32 : (32 : UInt32).toNat = 32 := rfl
    rw [UInt32.toNat_add]
    omega
  next => exact .inl rfl

theorem toNat_inj {c d : Char} (h : c.toNat = d.toNat) : c = d := by
  rw [← Char.ofNat_toNat c, ← Char.ofNat_toNat d, h]

/-- A character that is not a letter of ASCII has one case. -/
theorem eq_of_toLower_eq {c d : Char} (h : c.toLower = d.toLower) (hd : 128 ≤ d.toNat) : c = d := by
  have hnat := congrArg Char.toNat h
  rcases toLower_cases c with hc | ⟨-, hc, hc'⟩ <;> rcases toLower_cases d with hd' | ⟨-, hd', -⟩
  · rw [hc, hd'] at h
    exact h
  · omega
  · rw [hd'] at hnat
    omega
  · omega

theorem foldCase_of_toLower_eq {c d : Char} (h : c.toLower = d.toLower) :
    foldCase c = foldCase d := by
  have hlong : ∀ {c d e : Char}, c.toLower = d.toLower → 128 ≤ e.toNat → c = e → d = e := by
    rintro c d e h he rfl
    exact eq_of_toLower_eq h.symm he
  unfold foldCase
  have hs : c = '\u017f' ↔ d = '\u017f' :=
    ⟨hlong h (by decide), hlong h.symm (by decide)⟩
  have hk : c = '\u212a' ↔ d = '\u212a' :=
    ⟨hlong h (by decide), hlong h.symm (by decide)⟩
  simp only [hs, hk, h]

/-- Two letters of one case are one letter. -/
theorem eq_of_toLower_ne {c d : Char} (h : c.toLower = d.toLower) (hc : c.toLower ≠ c)
    (hd : d.toLower ≠ d) : c = d := by
  have hnat := congrArg Char.toNat h
  obtain ⟨-, -, hc⟩ := (toLower_cases c).resolve_left hc
  obtain ⟨-, -, hd⟩ := (toLower_cases d).resolve_left hd
  exact toNat_inj (by omega)

/-! ## What is read off a command -/

theorem HasWord.not_other {cmd name : String} (h : HasWord cmd name) (other : String)
    (hne : name.toList.map foldCase ≠ other.toList.map foldCase) : ¬ HasWord cmd other :=
  fun hother => hne (h.symm.trans hother)

/-- What is read behind the word of a command. -/
def readBehind {α : Type} (r : Regex) (f : Match → Option α) (cmd : String) : Option α :=
  (run (.seq (many1 true (· = ' ')) r) none (behindWord cmd)).head?.bind f

/-- `(?P<arg>.)` -/
def argBehind : Regex := .seq (.group "arg" (.char isAny)) .empty

section line
variable {cmd : String} (hcmd : '\n' ∉ cmd.toList)
include hcmd

theorem chat_eq {name : String} (hname : ' ' ∉ name.toList) :
    (captures (reChat name) cmd).bind reformattedMsg =
      if HasWord cmd name then readBehind quotedMsg reformattedMsg cmd else none :=
  bind_captures_command (f := reformattedMsg) (r := quotedMsg)
    (fun m n hm => by simp [reformattedMsg, Match.name, Match.append, hm]) hname rfl hcmd

theorem arg_eq {name : String} (hname : ' ' ∉ name.toList) :
    (captures (reArg name) cmd).bind (·.name "arg") =
      if HasWord cmd name then readBehind argBehind (·.name "arg") cmd else none :=
  bind_captures_command (f := (·.name "arg")) (r := argBehind)
    (fun m n hm => by simp [Match.name, Match.append, hm]) hname rfl hcmd

theorem callvote_eq :
    (captures reCallvote cmd).bind votedFor =
      if HasWord cmd "cv" ∨ HasWord cmd "callvote" then readBehind callvoteVote votedFor cmd
      else none := by
  have hname {name : String} (hname : ' ' ∉ name.toList) :
      (captures (command name callvoteVote) cmd).bind votedFor =
        if HasWord cmd name then readBehind callvoteVote votedFor cmd else none :=
    bind_captures_command (fun m n hm => votedFor_append hm n) hname rfl hcmd
  have halt : captures reCallvote cmd = (captures (command "cv" callvoteVote) cmd).or
      (captures (command "callvote" callvoteVote) cmd) :=
    captures_alt (word true "cv") (word true "callvote")
      (.seq (many1 true (· = ' ')) callvoteVote) hcmd
  rw [halt]
  by_cases hcv : HasWord cmd "cv"
  · have hother : ¬ HasWord cmd "callvote" := by
      rw [HasWord, show (commandWord cmd).map foldCase = _ from hcv]
      decide
    have hnone : captures (command "callvote" callvoteVote) cmd = none := by
      rw [captures_command (by decide) _ hcmd]
      exact if_neg hother
    rw [hnone, Option.or_none, hname (by decide), if_pos hcv, if_pos (.inl hcv)]
  · have hnone : captures (command "cv" callvoteVote) cmd = none := by
      rw [captures_command (by decide) _ hcmd]
      exact if_neg hcv
    rw [hnone, Option.none_or, hname (by decide)]
    simp only [hcv, false_or]

theorem userinfo_eq_none (hword : ¬ HasWord cmd "userinfo") : captures reUserinfo cmd = none := by
  by_contra hsome
  have hmatch : isMatch reUserinfo cmd = true := Option.isSome_iff_ne_none.mpr hsome
  obtain ⟨rest, hrest⟩ := foldCase_of_captures hcmd hmatch
  refine hword ?_
  rw [HasWord, map_foldCase_commandWord, hrest]
  rfl

/-- The requests that are read off a command, by its word. -/
theorem attempts_eq (hword : ¬ HasWord cmd "userinfo") : attempts cmd =
    [(if HasWord cmd "say" then readBehind quotedMsg reformattedMsg cmd else none).map .say,
      (if HasWord cmd "say_team" then readBehind quotedMsg reformattedMsg cmd else none).map
        .sayTeam,
      (if HasWord cmd "cv" ∨ HasWord cmd "callvote" then readBehind callvoteVote votedFor cmd
        else none).map fun x => .callvote x.1 x.2,
      (if HasWord cmd "vote" then readBehind argBehind (·.name "arg") cmd else none).map .vote,
      (if HasWord cmd "team" then readBehind argBehind (·.name "arg") cmd else none).map .team,
      none] := by
  have hsay : (captures (reChat "say") cmd).bind reformattedMsg = _ := chat_eq hcmd (by decide)
  have hsayTeam : (captures (reChat "say_team") cmd).bind reformattedMsg = _ :=
    chat_eq hcmd (by decide)
  have hvote : (captures (reArg "vote") cmd).bind (·.name "arg") = _ := arg_eq hcmd (by decide)
  have hteam : (captures (reArg "team") cmd).bind (·.name "arg") = _ := arg_eq hcmd (by decide)
  rw [attempts, reSay, reSayTeam, reVote, reTeam, hsay, hsayTeam, hvote, hteam, callvote_eq hcmd,
    userinfo_eq_none hcmd hword]
  rfl

end line

/-- **What a command is read as** depends on its word only up to the case of letters. -/
theorem classify_congr {cmd cmd' : String} (hcmd : '\n' ∉ cmd.toList) (hcmd' : '\n' ∉ cmd'.toList)
    (hword : (commandWord cmd').map foldCase = (commandWord cmd).map foldCase)
    (hbehind : behindWord cmd' = behindWord cmd) (huserinfo : ¬ HasWord cmd "userinfo") :
    classify cmd' = classify cmd := by
  have hhas : ∀ name, HasWord cmd' name ↔ HasWord cmd name := by
    intro name
    rw [HasWord, HasWord, hword]
  have hread : ∀ {α : Type} (r : Regex) (f : Match → Option α),
      readBehind r f cmd' = readBehind r f cmd := by
    intro α r f
    rw [readBehind, readBehind, hbehind]
  rw [classify_eq, classify_eq, attempts_eq hcmd huserinfo,
    attempts_eq hcmd' (by rwa [hhas])]
  simp only [hhas, hread]

/-- Behind the word of a command there is a blank, if there is anything. -/
theorem head?_behindWord {cmd : String} {c : Char} (h : c ∈ (behindWord cmd).head?) : c = ' ' := by
  have hhead := List.head?_dropWhile_not (· ≠ ' ') cmd.toList
  rw [behindWord] at h
  rw [h] at hhead
  exact of_decide_eq_false hhead |> not_not.mp

/-- The selector of a command. -/
theorem readBehind_arg {cmd : String} {blanks rest : List Char} {c : Char}
    (hcmd : '\n' ∉ cmd.toList) (hblanks : ∀ d ∈ blanks, d = ' ')
    (hbehind : behindWord cmd = blanks ++ c :: rest) (hc : c ≠ ' ') :
    readBehind argBehind (·.name "arg") cmd = some (String.ofList [c]) ∧ selector cmd = some c := by
  have hline : c ≠ '\n' := by
    rintro rfl
    refine hcmd ((List.dropWhile_sublist (· ≠ ' ')).subset ?_)
    rw [show cmd.toList.dropWhile (· ≠ ' ') = _ from hbehind]
    simp
  cases blanks with
  | nil => exact absurd (head?_behindWord (by rw [hbehind]; rfl)) hc
  | cons d a =>
    obtain ⟨rfl, ha⟩ := List.forall_mem_cons.mp hblanks
    have hhead : ∀ d ∈ (c :: rest).head?, decide (d = ' ') = false := by
      intro d hd
      obtain rfl : c = d := Option.some.inj hd
      exact decide_eq_false hc
    have harg : ∀ prev, (run argBehind prev (c :: rest)).head? =
        some ⟨[c], rest, [("arg", [c])]⟩ := by
      intro prev
      simp [argBehind, run, isAny, isNot, hline, Match.append]
    have hrun : (run (.seq (many1 true (· = ' ')) argBehind) none
        (' ' :: (a ++ c :: rest))).head? = some _ := head?_run_many1_seq
      (List.forall_mem_cons.mpr ⟨decide_eq_true rfl, fun d hd => decide_eq_true (ha d hd)⟩) hhead
      (harg _)
    refine ⟨?_, ?_⟩
    · rw [readBehind, hbehind, List.cons_append, hrun]
      rfl
    · rw [selector, body, show cmd.toList.dropWhile (· ≠ ' ') = _ from hbehind,
        List.dropWhile_append_of_pos fun d hd => decide_eq_true (hblanks d hd),
        List.dropWhile_cons_of_neg (by simpa using hc)]
      rfl

/-- A command with a selector is read as that selector. -/
theorem classify_vote {cmd : String} {blanks rest : List Char} {c : Char}
    (hcmd : '\n' ∉ cmd.toList) (hblanks : ∀ d ∈ blanks, d = ' ')
    (hbehind : behindWord cmd = blanks ++ c :: rest) (hc : c ≠ ' ') (hword : HasWord cmd "vote") :
    classify cmd = .vote (String.ofList [c]) := by
  rw [classify_eq, attempts_eq hcmd (hword.not_other "userinfo" (by decide)),
    (readBehind_arg hcmd hblanks hbehind hc).1]
  simp [hword.not_other "say" (by decide), hword.not_other "say_team" (by decide),
    hword.not_other "cv" (by decide), hword.not_other "callvote" (by decide), hword, firstOf]

theorem classify_team {cmd : String} {blanks rest : List Char} {c : Char}
    (hcmd : '\n' ∉ cmd.toList) (hblanks : ∀ d ∈ blanks, d = ' ')
    (hbehind : behindWord cmd = blanks ++ c :: rest) (hc : c ≠ ' ') (hword : HasWord cmd "team") :
    classify cmd = .team (String.ofList [c]) := by
  rw [classify_eq, attempts_eq hcmd (hword.not_other "userinfo" (by decide)),
    (readBehind_arg hcmd hblanks hbehind hc).1]
  simp [hword.not_other "say" (by decide), hword.not_other "say_team" (by decide),
    hword.not_other "cv" (by decide), hword.not_other "callvote" (by decide),
    hword.not_other "vote" (by decide), hword, firstOf]

/-! ## What is executed -/

/-- What is executed of a command with a result. -/
def executedOf (cmd : String) : PyResult PyValue → Option String
  | .error _ => some cmd
  | .ok value => if value.isFalse then none else some (value.extractString.getD cmd)

theorem clientCommandDispatcher_eq {P : Type} (w : ClientCommandWorld P) (cmd : String)
    (caller : Option P) :
    clientCommandDispatcher w cmd caller =
      if w.initialized then executedOf cmd (tryHandleClientCommand w cmd caller).result
      else some cmd := by
  cases hinit : w.initialized with
  | false => simp [clientCommandDispatcher, hinit]
  | true =>
    cases hresult : (tryHandleClientCommand w cmd caller).result with
    | error e =>
      have hhandle : handleClientCommand w cmd caller = .bool true := by
        simp [handleClientCommand, hresult]
      simp [clientCommandDispatcher, hinit, hhandle, executedOf, PyValue.isFalse,
        PyValue.extractString]
    | ok value =>
      have hhandle : handleClientCommand w cmd caller = value := by
        simp [handleClientCommand, hresult]
      simp [clientCommandDispatcher, hinit, hhandle, executedOf]

section alike
variable {P : Type} {w : ClientCommandWorld P} {player : P} {cmd cmd' : String}
  {caller : Option P}

/-- Two results that are executed alike. -/
def AlikeResults (cmd cmd' : String) (result result' : PyResult PyValue) : Prop :=
  Alike cmd cmd' (executedOf cmd result) (executedOf cmd' result')

/-- One result leads to the same command, unless it leaves the command as it is. -/
theorem alikeResults_self (cmd cmd' : String) (result : PyResult PyValue) :
    AlikeResults cmd cmd' result result := by
  cases result with
  | error e => exact .inr ⟨rfl, rfl⟩
  | ok value =>
    cases hfalse : value.isFalse with
    | true => exact .inl (by simp [executedOf, hfalse])
    | false =>
      cases hstr : value.extractString with
      | none => exact .inr (by simp [executedOf, hfalse, hstr])
      | some text => exact .inl (by simp [executedOf, hfalse, hstr])

theorem alikeResults_str (cmd cmd' : String) :
    AlikeResults cmd cmd' (.ok (.str cmd)) (.ok (.str cmd')) := .inr ⟨rfl, rfl⟩

theorem alikeResults_passOn (cmd cmd' : String) (result : PyResult PyValue) :
    AlikeResults cmd cmd' (passOn cmd result) (passOn cmd' result) := by
  cases result with
  | error e => exact .inr ⟨rfl, rfl⟩
  | ok value =>
    simp only [passOn]
    split
    · exact .inl rfl
    · exact alikeResults_str cmd cmd'

/-- A request is handled alike, whatever command it was found in. -/
theorem alikeResults_act (w : ClientCommandWorld P) (player : P) (cmd cmd' : String)
    (caller : Option P) (r : ClientRequest) :
    AlikeResults cmd cmd' (act w player cmd caller r).result
      (act w player cmd' caller r).result := by
  cases r with
  -- what is executed of a message is made from the message
  | say msg => exact alikeResults_self cmd cmd' _
  | sayTeam msg => exact alikeResults_self cmd cmd' _
  | callvote vote args =>
    simp only [act, callvote]
    split
    · exact alikeResults_str cmd cmd'
    · split
      · exact alikeResults_self cmd cmd' _
      · exact alikeResults_passOn cmd cmd' _
  | vote arg =>
    simp only [act, vote]
    split
    · exact alikeResults_str cmd cmd'
    · exact alikeResults_passOn cmd cmd' _
  | team arg =>
    simp only [act, team]
    split
    · exact alikeResults_self cmd cmd' _
    · split
      · exact alikeResults_str cmd cmd'
      · exact alikeResults_passOn cmd cmd' _
  | userinfo vars =>
    simp only [act, userinfo]
    split
    · exact alikeResults_str cmd cmd'
    · cases (raiseEvent w player "userinfo" "userinfo" _).1 with
      | error e => exact .inr ⟨rfl, rfl⟩
      | ok result =>
        simp only [changedUserinfo]
        split
        · exact .inl rfl
        · split
          · exact alikeResults_str cmd cmd'
          · exact alikeResults_self cmd cmd' _
  | other => exact alikeResults_str cmd cmd'

/-- Commands that lead to the same events and alike results mean the same. -/
theorem sameMeaning_of_act
    (h : ∀ (P : Type) (w : ClientCommandWorld P) (player : P) (caller : Option P),
      (act w player cmd caller (classify cmd)).events =
        (act w player cmd' caller (classify cmd')).events ∧
      AlikeResults cmd cmd' (act w player cmd caller (classify cmd)).result
        (act w player cmd' caller (classify cmd')).result) : SameMeaning cmd cmd' := by
  intro P w caller hpass hpass'
  have hhandled : (tryHandleClientCommand w cmd caller).events =
        (tryHandleClientCommand w cmd' caller).events ∧
      AlikeResults cmd cmd' (tryHandleClientCommand w cmd caller).result
        (tryHandleClientCommand w cmd' caller).result := by
    rw [tryHandle_of_passedThrough hpass, tryHandle_of_passedThrough hpass']
    cases w.player with
    | error e => exact ⟨rfl, alikeResults_self cmd cmd' _⟩
    | ok player =>
      simp only
      split
      · exact ⟨rfl, alikeResults_self cmd cmd' _⟩
      · exact h P w player caller
  refine ⟨hhandled.1, ?_⟩
  rw [clientCommandDispatcher_eq, clientCommandDispatcher_eq]
  split
  · exact hhandled.2
  · exact .inr ⟨rfl, rfl⟩

end alike

/-! ## Spellings that mean the same -/

section spellings
variable {cmd cmd' : String}

theorem sameMeaning_of_classify (h : classify cmd' = classify cmd) : SameMeaning cmd cmd' := by
  refine sameMeaning_of_act fun P w player caller => ?_
  rw [h]
  exact ⟨act_events w player cmd cmd' caller _, alikeResults_act w player cmd cmd' caller _⟩

/-- Requests that lead to nothing mean the same. -/
theorem sameMeaning_of_idle (h : (classify cmd).Idle) (h' : (classify cmd').Idle) :
    SameMeaning cmd cmd' := by
  refine sameMeaning_of_act fun P w player caller => ?_
  obtain ⟨hevents, hresult⟩ := act_of_idle w player cmd caller h
  obtain ⟨hevents', hresult'⟩ := act_of_idle w player cmd' caller h'
  have hexecuted : ∀ {cmd : String} {result : PyResult PyValue},
      (result = .ok (.str cmd) ∨ ∃ e, result = .error e) → executedOf cmd result = some cmd := by
    rintro cmd result (rfl | ⟨e, rfl⟩) <;> rfl
  exact ⟨hevents.trans hevents'.symm, .inr ⟨hexecuted hresult, hexecuted hresult'⟩⟩

theorem mem_ofList_iff {c : Char} {letters : List Char} :
    String.ofList [c] ∈ letters.map (fun d => String.ofList [d]) ↔ c ∈ letters := by
  simp

/-- A list of letters that has both cases of each has both or none of two spellings. -/
theorem mem_iff_of_toLower_eq {letters : List Char}
    (hboth : letters.all (fun c => c.toLower ∈ letters ∧
      (97 ≤ c.toNat → Char.ofNat (c.toNat - 32) ∈ letters)) = true)
    {c c' : Char} (h : c.toLower = c'.toLower) : c ∈ letters ↔ c' ∈ letters := by
  have hboth := fun c hc => of_decide_eq_true (List.all_eq_true.mp hboth c hc)
  have hmem : ∀ {c c' : Char}, c.toLower = c'.toLower → c ∈ letters → c' ∈ letters := by
    intro c c' h hc
    by_cases hlow' : c'.toLower = c'
    · rw [← hlow', ← h]
      exact (hboth c hc).1
    · by_cases hlow : c.toLower = c
      · -- the capital letter is 32 before the small one
        obtain ⟨hA, -, hnat⟩ := (toLower_cases c').resolve_left hlow'
        have hc' : Char.ofNat (c.toNat - 32) = c' := by
          rw [← hlow, h, hnat, Nat.add_sub_cancel, Char.ofNat_toNat]
        have hsmall : 97 ≤ c.toNat := by
          rw [← hlow, h, hnat]
          omega
        exact hc' ▸ (hboth c hc).2 hsmall
      · exact eq_of_toLower_ne h hlow hlow' ▸ hc
  exact ⟨hmem h, hmem h.symm⟩

/-- A vote is the same in both cases. -/
theorem vote_congr {P : Type} (w : ClientCommandWorld P) (player : P) (cmd : String)
    (caller : Option P) {c c' : Char} (h : c.toLower = c'.toLower) :
    vote w player cmd (String.ofList [c']) caller =
      vote w player cmd (String.ofList [c]) caller := by
  have hvalid : String.ofList [c'] ∈ ["y", "Y", "1", "n", "N", "2"] ↔
      String.ofList [c] ∈ ["y", "Y", "1", "n", "N", "2"] := by
    have hletters : ["y", "Y", "1", "n", "N", "2"] =
        ['y', 'Y', '1', 'n', 'N', '2'].map (fun d => String.ofList [d]) := rfl
    rw [hletters, mem_ofList_iff, mem_ofList_iff]
    exact mem_iff_of_toLower_eq (by decide) h.symm
  have hyes : String.ofList [c'] ∈ ["y", "Y", "1"] ↔ String.ofList [c] ∈ ["y", "Y", "1"] := by
    have hletters : ["y", "Y", "1"] = ['y', 'Y', '1'].map (fun d => String.ofList [d]) := rfl
    rw [hletters, mem_ofList_iff, mem_ofList_iff]
    exact mem_iff_of_toLower_eq (by decide) h.symm
  simp only [vote, hvalid, hyes]

theorem team_idle_iff {c : Char} :
    (ClientRequest.team (String.ofList [c])).Idle ↔ c ∉ teamLetters := by
  have hletters : ["f", "r", "b", "s", "a"] = teamLetters.map (fun d => String.ofList [d]) := rfl
  rw [ClientRequest.Idle, hletters, mem_ofList_iff]

/-- The letters for the teams are small ones. -/
theorem toLower_of_mem_teamLetters {c : Char} (h : c ∈ teamLetters) : c.toLower = c := by
  have hsmall : teamLetters.all (fun c => c.toLower = c) = true := by decide
  exact of_decide_eq_true (List.all_eq_true.mp hsmall c h)

theorem map_foldCase_of_map_toLower {l l' : List Char}
    (h : l'.map Char.toLower = l.map Char.toLower) : l'.map foldCase = l.map foldCase := by
  induction l generalizing l' with
  | nil => simpa using h
  | cons c l ih =>
    cases l' with
    | nil => cases h
    | cons c' l' =>
      obtain ⟨hc, hl⟩ := List.cons.inj h
      rw [List.map_cons, List.map_cons, foldCase_of_toLower_eq hc, ih hl]

/-- Commands that mean the same both lead to an event in some game, or neither does. -/
theorem idle_of_sameMeaning (h : SameMeaning cmd cmd') (hidle : (classify cmd).Idle) :
    (classify cmd').Idle := by
  by_contra hevent
  obtain ⟨active, hne⟩ := exists_event hevent
  have hpass := passedThrough_openWorld active
  have hevents := (h Unit (openWorld active) none (hpass cmd) (hpass cmd')).1
  rw [tryHandle_of_passedThrough (hpass cmd), tryHandle_of_passedThrough (hpass cmd')] at hevents
  have hevents : (act (openWorld active) () cmd none (classify cmd)).events =
      (act (openWorld active) () cmd' none (classify cmd')).events := hevents
  rw [(act_of_idle _ _ _ _ hidle).1, act_events _ _ cmd' ""] at hevents
  exact hne hevents.symm

theorem SameMeaning.symm (h : SameMeaning cmd cmd') : SameMeaning cmd' cmd := by
  intro P w caller hpass' hpass
  obtain ⟨hevents, halike⟩ := h P w caller hpass hpass'
  exact ⟨hevents.symm, halike.imp Eq.symm And.symm⟩

/-- A team that is selected by one letter in two cases is asked about for one of them. -/
theorem not_sameMeaning_team {c c' : Char} (h : c.toLower = c'.toLower) (hne : c' ≠ c)
    (hteam : c.toLower ∈ teamLetters) (hclass : classify cmd = .team (String.ofList [c]))
    (hclass' : classify cmd' = .team (String.ofList [c'])) : ¬ SameMeaning cmd cmd' := by
  intro hsame
  have hidle : c ∉ teamLetters ↔ c' ∉ teamLetters := by
    rw [← team_idle_iff, ← team_idle_iff, ← hclass, ← hclass']
    exact ⟨idle_of_sameMeaning hsame, idle_of_sameMeaning hsame.symm⟩
  by_cases hc : c ∈ teamLetters
  · have hc' := not_not.mp (mt hidle.mpr (not_not.mpr hc))
    rw [toLower_of_mem_teamLetters hc, toLower_of_mem_teamLetters hc'] at h
    exact hne h.symm
  · have hlow : ∀ {d : Char}, d.toLower ∈ teamLetters → d ∉ teamLetters → d.toLower ≠ d :=
      fun hd hd' heq => hd' (heq ▸ hd)
    exact hne (eq_of_toLower_ne h (hlow hteam hc) (hlow (h ▸ hteam) (hidle.mp hc))).symm

end spellings

/-- **Two spellings mean the same**, unless they are spellings of `team` with different
selectors, for a letter that stands for a team. -/
theorem sameMeaning_iff {name cmd cmd' : String} (h : Respelled name cmd cmd') :
    SameMeaning cmd cmd' ↔
      (name = "team" → selector cmd' = selector cmd ∨
        ∀ c ∈ selector cmd, c.toLower ∉ teamLetters) := by
  have hword' := map_foldCase_of_map_toLower h.word
  have hnamed' : HasWord cmd' name := hword'.trans h.named
  rcases h.behind with hbehind | ⟨hname, blanks, c, c', rest, hblanks, ht, ht', hc, hcase⟩
  · -- only the word is spelled differently
    have huserinfo : ¬ HasWord cmd "userinfo" := by
      refine h.named.not_other "userinfo" ?_
      have hcommand := h.command
      simp only [List.mem_cons, List.not_mem_nil, or_false] at hcommand
      rcases hcommand with rfl | rfl | rfl | rfl | rfl | rfl <;> decide
    refine iff_of_true ?_ fun _ => .inl ?_
    · exact sameMeaning_of_classify (classify_congr h.line h.line' hword' hbehind huserinfo)
    · rw [selector, selector, body, body]
      exact congrArg (fun t => (t.dropWhile (· = ' ')).head?) hbehind
  · have hc' : c' ≠ ' ' := by
      rintro rfl
      exact hc (toLower_eq_blank.mp hcase)
    have hselector := (readBehind_arg h.line hblanks ht hc).2
    have hselector' := (readBehind_arg h.line' hblanks ht' hc').2
    rcases hname with rfl | rfl
    · -- the list of votes has both cases
      refine iff_of_true (sameMeaning_of_act fun P w player caller => ?_) fun hteam =>
        absurd hteam (by decide)
      have hclass := classify_vote h.line hblanks ht hc h.named
      have hclass' := classify_vote h.line' hblanks ht' hc' hnamed'
      have hact : act w player cmd' caller (classify cmd') =
          act w player cmd' caller (classify cmd) := by
        rw [hclass, hclass']
        exact vote_congr w player cmd' caller hcase
      rw [hact]
      exact ⟨act_events w player cmd cmd' caller _, alikeResults_act w player cmd cmd' caller _⟩
    · have hclass := classify_team h.line hblanks ht hc h.named
      have hclass' := classify_team h.line' hblanks ht' hc' hnamed'
      rw [hselector, hselector']
      constructor
      · intro hsame _
        by_cases heq : c' = c
        · exact .inl (congrArg some heq)
        · refine .inr fun d hd hteam => ?_
          obtain rfl : c = d := Option.some.inj hd
          exact not_sameMeaning_team hcase heq hteam hclass hclass' hsame
      · intro hcond
        rcases hcond rfl with heq | hother
        · obtain rfl := Option.some.inj heq
          exact sameMeaning_of_classify (hclass'.trans hclass.symm)
        · -- neither letter stands for a team
          have hidle : ∀ {d : Char}, d.toLower ∉ teamLetters →
              (ClientRequest.team (String.ofList [d])).Idle := by
            intro d hd
            refine team_idle_iff.mpr fun hmem => hd ?_
            rwa [toLower_of_mem_teamLetters hmem]
          have hlower := hother c rfl
          refine sameMeaning_of_idle ?_ ?_
          · rw [hclass]
            exact hidle hlower
          · rw [hclass']
            exact hidle (hcase ▸ hlower)

/-- A vote that is spelled in two ways. -/
theorem sameMeaning_vote : SameMeaning "vote  y" "VOTE  Y" := by
  have hrespelled : Respelled "vote" "vote  y" "VOTE  Y" :=
    ⟨by decide, by decide, by decide, by decide, by decide, .inr ⟨.inl rfl, [' ', ' '], 'y', 'Y',
      [], by simp, by decide, by decide, by decide, by decide⟩⟩
  exact (sameMeaning_iff hrespelled).mpr fun h => absurd h (by decide)

/-- A switch to the red team that nobody is asked about. -/
theorem not_sameMeaning_red : ¬ SameMeaning "team r" "team R" := by
  intro h
  have hpass := passedThrough_openWorld false
  exact absurd (h Unit (openWorld false) none (hpass _) (hpass _)).1 (by decide +kernel)

end ShinQlx.ClientCommand
