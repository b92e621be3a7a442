import ShinQlx.CallvoteLines

/-! # Client commands of more than one line

A text behind the first line of a client command changes nothing exactly when no line of it
is read instead (`Undisturbed`): `firstLineOnly_iff`.  That the condition is needed is shown
by games in which everything is there (`openWorld`).
-/
namespace ShinQlx

/-- The request leads to no event, whatever the state. -/
def ClientRequest.Idle : ClientRequest → Prop
  | .say _ | .sayTeam _ | .callvote _ _ => False
  | .vote arg => arg ∉ ["y", "Y", "1", "n", "N", "2"]
  | .team arg => arg ∉ ["f", "r", "b", "s", "a"]
  | .userinfo vars => parseVariables vars = []
  | .other => True

/-- The place of the request that an event comes from. -/
def ClientEvent.rank : ClientEvent → Nat
  | .chat _ .main => 0
  | .chat _ _ => 1
  | .voteCalled _ _ => 2
  | .vote _ => 3
  | .teamSwitchAttempt _ _ => 4
  | .userinfo _ => 5

namespace ClientCommand
open Regex

/-! ## What a request leads to -/

section requests
variable {P : Type}

/-- The events of a request do not depend on the text it was found in. -/
theorem act_events (w : ClientCommandWorld P) (player : P) (cmd cmd' : String)
    (caller : Option P) (r : ClientRequest) :
    (act w player cmd caller r).events = (act w player cmd' caller r).events := by
  cases r with
  | say | sayTeam | other => rfl
  | callvote vote args =>
    simp only [act, callvote]
    split
    · rfl
    · split <;> rfl
  | vote arg =>
    simp only [act, vote]
    split <;> rfl
  | team arg =>
    simp only [act, team]
    split
    · rfl
    · split <;> rfl
  | userinfo vars =>
    simp only [act, userinfo]
    split <;> rfl

theorem eq_of_mem_raiseEvent {w : ClientCommandWorld P} {player : P} {name what : String}
    {event e : ClientEvent} (he : e ∈ (raiseEvent w player name what event).2) : e = event := by
  unfold raiseEvent at he
  split at he
  · exact List.mem_singleton.mp he
  · cases he

theorem eq_of_mem_chat {w : ClientCommandWorld P} {player : P} {command msg what : String}
    {channel : PyResult ChatChannel} {caller : Option P} {e : ClientEvent}
    (he : e ∈ (chat w player command msg what channel caller).events) :
    ∃ c, channel = .ok c ∧ e = .chat msg c := by
  unfold chat at he
  split at he
  · cases he
  · split at he
    · cases he
    next c =>
      split at he
      · cases he
      · exact ⟨c, rfl, List.mem_singleton.mp he⟩

/-- Every event comes from a request of its rank. -/
theorem rank_of_mem_act {w : ClientCommandWorld P} {player : P} {cmd : String} {caller : Option P}
    {r : ClientRequest} {e : ClientEvent} (he : e ∈ (act w player cmd caller r).events) :
    e.rank = r.rank := by
  cases r with
  | say msg =>
    obtain ⟨c, hc, rfl⟩ := eq_of_mem_chat he
    cases hc
    rfl
  | sayTeam msg =>
    obtain ⟨c, hc, rfl⟩ := eq_of_mem_chat he
    cases hteam : w.team player with
    | error e =>
      rw [hteam] at hc
      cases hc
    | ok team =>
      rw [hteam] at hc
      obtain rfl : teamChannel team = c := Except.ok.inj hc
      unfold teamChannel
      split
      · rfl
      · split
        · rfl
        · split <;> rfl
  | callvote vote args =>
    simp only [act, callvote] at he
    split at he
    · cases he
    · split at he
      · cases he
      · rw [eq_of_mem_raiseEvent he]
        rfl
  | vote arg =>
    simp only [act, vote] at he
    split at he
    · cases he
    · rw [eq_of_mem_raiseEvent he]
      rfl
  | team arg =>
    simp only [act, team] at he
    split at he
    · cases he
    · split at he
      · cases he
      · rw [eq_of_mem_raiseEvent he]
        rfl
  | userinfo vars =>
    simp only [act, userinfo] at he
    split at he
    · cases he
    · rw [eq_of_mem_raiseEvent he]
      rfl
  | other => cases he

/-- An idle request leads to no event, and the command stays as it is. -/
theorem act_of_idle (w : ClientCommandWorld P) (player : P) (cmd : String) (caller : Option P)
    {r : ClientRequest} (h : r.Idle) :
    (act w player cmd caller r).events = [] ∧
      ((act w player cmd caller r).result = .ok (.str cmd) ∨
        ∃ e, (act w player cmd caller r).result = .error e) := by
  cases r with
  | say | sayTeam | callvote => exact h.elim
  | vote arg =>
    have hvote : act w player cmd caller (.vote arg) = ⟨.ok (.str cmd), [], caller⟩ := by
      have harg : arg ∉ ["y", "Y", "1", "n", "N", "2"] := h
      simp [act, vote, harg]
    rw [hvote]
    exact ⟨rfl, .inl rfl⟩
  | team arg =>
    have harg : arg ∉ ["f", "r", "b", "s", "a"] := h
    cases hteam : w.team player with
    | error e =>
      have hact : act w player cmd caller (.team arg) = ⟨.error e, [], caller⟩ := by
        simp [act, team, hteam]
      rw [hact]
      exact ⟨rfl, .inr ⟨e, rfl⟩⟩
    | ok currentTeam =>
      have hact : act w player cmd caller (.team arg) = ⟨.ok (.str cmd), [], caller⟩ := by
        simp [act, team, hteam, harg]
      rw [hact]
      exact ⟨rfl, .inl rfl⟩
  | userinfo vars =>
    have hvars : parseVariables vars = [] := h
    have hact : act w player cmd caller (.userinfo vars) = ⟨.ok (.str cmd), [], caller⟩ := by
      simp [act, userinfo, hvars, changed]
    rw [hact]
    exact ⟨rfl, .inl rfl⟩
  | other => exact ⟨rfl, .inl rfl⟩

/-- A game in which everything is there and every event is let through. -/
def openWorld (active : Bool) : ClientCommandWorld Unit where
  initialized := true
  player := .ok ()
  userInfo := fun _ => ""
  registered := fun _ => true
  dispatch := fun _ _ => .ok (.bool true)
  raise := fun _ _ => .ok (.bool true)
  channel := fun _ => true
  isVoteActive := active
  team := fun _ => .ok ""
  pick := id
  update := fun d _ => .ok d
  display := fun _ => ""

/-- Every variable is a change of an empty userinfo. -/
theorem changed_nil (pick : Nat → Nat) (newInfo : ParsedVariables) :
    changed pick newInfo [] = newInfo := by
  have hget : ∀ k key, ParsedVariables.get k key [] = none := by simp [ParsedVariables.get]
  have hall : ∀ x ∈ newInfo.zipIdx,
      decide (ParsedVariables.get (pick x.2) x.1.1 [] ≠ some x.1.2) = true := by
    intro x _
    rw [hget]
    rfl
  rw [changed, List.filter_eq_self.mpr hall, List.zipIdx_map_fst]

/-- What is not idle leads to an event in some game. -/
theorem exists_event {r : ClientRequest} (h : ¬ r.Idle) :
    ∃ active, (act (openWorld active) () "" none r).events ≠ [] := by
  cases r with
  | say msg => exact ⟨false, List.cons_ne_nil _ _⟩
  | sayTeam msg => exact ⟨false, List.cons_ne_nil _ _⟩
  | callvote vote args => exact ⟨false, List.cons_ne_nil _ _⟩
  | vote arg =>
    have harg : arg ∈ ["y", "Y", "1", "n", "N", "2"] := not_not.mp h
    refine ⟨true, ?_⟩
    simp [act, vote, raiseEvent, openWorld, harg]
  | team arg =>
    have harg : arg ∈ ["f", "r", "b", "s", "a"] := not_not.mp h
    have hteam : (Text.stripPrefix arg "").isSome = false := by
      simp only [List.mem_cons, List.not_mem_nil, or_false] at harg
      rcases harg with rfl | rfl | rfl | rfl | rfl <;> rfl
    refine ⟨true, ?_⟩
    simp [act, team, raiseEvent, openWorld, harg, hteam]
  | userinfo vars =>
    have hvars : parseVariables vars ≠ [] := h
    have hnone : parseVariables "" = [] := rfl
    refine ⟨true, ?_⟩
    simp [act, userinfo, raiseEvent, openWorld, hnone, changed_nil, hvars]
  | other => exact absurd trivial h

/-- What a command that is made anew begins with. -/
def rebuiltFrom : ClientRequest → Option String
  | .say _ => some "say \""
  | .sayTeam _ => some "say_team \""
  | .userinfo _ => some "userinfo \""
  | _ => none

theorem changedUserinfo_result {w : ClientCommandWorld P} {cmd : String}
    {newInfo : ParsedVariables} {result : PyResult PyValue} {value : PyValue}
    (h : changedUserinfo w cmd newInfo result = .ok value) :
    value.isFalse = true ∨ value = .str cmd ∨
      ∃ text start, value = .str text ∧ some "userinfo \"" = some start ∧
        start.toList <+: text.toList := by
  cases result with
  | error e => cases h
  | ok result =>
    simp only [changedUserinfo] at h
    split at h
    · obtain rfl := Except.ok.inj h
      exact .inl rfl
    · split at h
      · exact .inr (.inl (Except.ok.inj h).symm)
      next changedValues _ =>
        cases hupdate : w.update (intoPyDict newInfo) changedValues with
        | error e =>
          rw [hupdate] at h
          cases h
        | ok info =>
          rw [hupdate] at h
          obtain rfl := Except.ok.inj h
          refine .inr (.inr ⟨_, _, rfl, rfl, ?_⟩)
          simp [userinfoCommand]

/-- The results of a request: the command is stopped, passed on, or made anew. -/
theorem act_result {w : ClientCommandWorld P} {player : P} {cmd : String} {caller : Option P}
    {r : ClientRequest} {value : PyValue} (h : (act w player cmd caller r).result = .ok value) :
    value.isFalse = true ∨ value = .str cmd ∨
      ∃ text start, value = .str text ∧ rebuiltFrom r = some start ∧
        start.toList <+: text.toList := by
  have hpass : ∀ {text : String} {result : PyResult PyValue}, passOn text result = .ok value →
      value.isFalse = true ∨ value = .str text := by
    intro text result h
    cases result with
    | error e => cases h
    | ok result =>
      simp only [passOn] at h
      split at h
      · obtain rfl := Except.ok.inj h
        exact .inl rfl
      · exact .inr (Except.ok.inj h).symm
  have hchat : ∀ {command msg what : String} {channel : PyResult ChatChannel},
      (chat w player command msg what channel caller).result = .ok value →
        value.isFalse = true ∨ value = .str (command ++ " \"" ++ msg ++ "\"") := by
    intro command msg what channel h
    unfold chat at h
    split at h
    · cases h
    · split at h
      · cases h
      · split at h
        · cases h
        · exact hpass h
  cases r with
  | say msg =>
    rcases hchat h with h | h
    · exact .inl h
    · refine .inr (.inr ⟨_, _, h, rfl, ?_⟩)
      simp
  | sayTeam msg =>
    rcases hchat h with h | h
    · exact .inl h
    · refine .inr (.inr ⟨_, _, h, rfl, ?_⟩)
      simp
  | callvote vote args =>
    simp only [act, callvote] at h
    split at h
    · exact .inr (.inl (Except.ok.inj h).symm)
    · split at h
      · cases h
      · exact (hpass h).imp_right .inl
  | vote arg =>
    simp only [act, vote] at h
    split at h
    · exact .inr (.inl (Except.ok.inj h).symm)
    · exact (hpass h).imp_right .inl
  | team arg =>
    simp only [act, team] at h
    split at h
    · cases h
    · split at h
      · exact .inr (.inl (Except.ok.inj h).symm)
      · exact (hpass h).imp_right .inl
  | userinfo vars =>
    simp only [act, userinfo] at h
    split at h
    · exact .inr (.inl (Except.ok.inj h).symm)
    · exact changedUserinfo_result h
  | other => exact .inr (.inl (Except.ok.inj h).symm)

end requests

/-! ## The word of a command -/

/-- The command word of a text. -/
def commandWord (s : String) : List Char := s.toList.takeWhile (· ≠ ' ')

theorem takeWhile_word {name : List Char} (hname : ' ' ∉ name) (rest : List Char) :
    (name ++ ' ' :: rest).takeWhile (· ≠ ' ') = name := by
  rw [List.takeWhile_append_of_pos]
  · simp
  · intro c hc
    exact decide_eq_true fun heq => hname (heq ▸ hc)

/-- A text begins with a word, up to the case of letters. -/
def StartsWith (word : List Char) (text : String) : Prop :=
  word.map foldCase <+: text.toList.map foldCase

theorem map_foldCase_commandWord (s : String) :
    (commandWord s).map foldCase = (s.toList.map foldCase).takeWhile (· ≠ ' ') := by
  rw [commandWord, List.takeWhile_map]
  congr 2
  funext c
  simp [foldCase_eq_blank]

/-- An expression that begins with a word is found in a line that begins with the word. -/
theorem foldCase_of_captures {caseInsensitive : Bool} {name s : String} {r : Regex}
    (hs : '\n' ∉ s.toList)
    (h : isMatch (.seq .lineStart (.seq (word caseInsensitive name) r)) s = true) :
    ∃ rest : List Char,
      s.toList.map foldCase = name.toList.map foldCase ++ rest.map foldCase := by
  obtain ⟨m, hm⟩ := Option.isSome_iff_exists.mp h
  rw [captures, find_lineStart _ hs] at hm
  obtain ⟨m₁, hline, m₂, hrest, rfl⟩ := mem_run_seq.mp (List.mem_of_mem_head? hm)
  obtain rfl : m₁ = ⟨[], s.toList, []⟩ := by simpa [run, atLineStart] using hline
  obtain ⟨m₃, hword, -, -, -⟩ := mem_run_seq.mp hrest
  refine ⟨m₃.rest, ?_⟩
  have htext := text_append_rest hword
  rw [← (map_foldCase_of_mem_letters hword).1, ← List.map_append, htext]

/-- What a request was read by. -/
def ReadBy (cmd : String) : ClientRequest → Prop
  | .say _ => reSay.isMatch cmd = true
  | .sayTeam _ => reSayTeam.isMatch cmd = true
  | .callvote vote args => callvoteOf cmd = some (vote, args)
  | .userinfo _ => reUserinfo.isMatch cmd = true
  | _ => True

theorem classify_readBy (cmd : String) : ReadBy cmd (classify cmd) := by
  have hmatch : ∀ {α : Type} {r : Regex} {f : Match → Option α} {a : α},
      (captures r cmd).bind f = some a → r.isMatch cmd = true := by
    intro α r f a h
    obtain ⟨m, hm, -⟩ := Option.bind_eq_some_iff.mp h
    rw [isMatch, hm]
    rfl
  unfold classify
  split
  next h => exact hmatch h
  next =>
    split
    next h => exact hmatch h
    next =>
      split
      next h => exact h
      next =>
        split
        next => trivial
        next =>
          split
          next => trivial
          next =>
            split
            next h => exact hmatch h
            next => trivial

/-- A text that an expression for a command is found in has the word of the command. -/
theorem commandWord_of_isMatch {name s : String} {r : Regex} (hname : ' ' ∉ name.toList)
    (hs : '\n' ∉ s.toList) (h : isMatch (command name r) s = true) :
    (commandWord s).map foldCase = name.toList.map foldCase := by
  rw [isMatch, captures_command hname r hs] at h
  split at h
  next hword => exact hword
  next => cases h

/-- A command that is made anew begins with the word of the command it was made from. -/
theorem startsWith_of_rebuiltFrom {s start : String} (hs : '\n' ∉ s.toList)
    (h : rebuiltFrom (classify s) = some start) : StartsWith (commandWord s) start := by
  have hread := classify_readBy s
  rw [StartsWith]
  cases hr : classify s with
  | say msg =>
    rw [hr] at h hread
    obtain rfl := Option.some.inj h
    rw [commandWord_of_isMatch (by decide) hs hread]
    decide
  | sayTeam msg =>
    rw [hr] at h hread
    obtain rfl := Option.some.inj h
    rw [commandWord_of_isMatch (by decide) hs hread]
    decide
  | userinfo vars =>
    rw [hr] at h hread
    obtain rfl := Option.some.inj h
    obtain ⟨rest, hrest⟩ := foldCase_of_captures hs hread
    -- the word of this expression goes on behind the blank
    have hname : "userinfo \"".toList.map foldCase ++ rest.map foldCase =
        "userinfo".toList.map foldCase ++ ' ' :: '"' :: rest.map foldCase := rfl
    rw [map_foldCase_commandWord, hrest, hname, takeWhile_word (by decide)]
    decide
  | callvote | vote | team | other =>
    rw [hr] at h
    cases h

/-! ## The text behind the first line -/

/-- The handlers of `client_command` let a command through as it is. -/
def PassedThrough {P : Type} (w : ClientCommandWorld P) (cmd : String) : Prop :=
  ∀ player, ∃ value, w.dispatch player cmd = .ok value ∧ value.isFalse = false ∧
    value.extractString.getD cmd = cmd

/-- A text behind the line `s` changes no event, and what is executed begins with the word
of `s`. -/
def FirstLineOnly (s t : String) : Prop :=
  ∀ (P : Type) (w : ClientCommandWorld P) (caller : Option P),
    PassedThrough w s → PassedThrough w (s ++ "\n" ++ t) →
      (tryHandleClientCommand w (s ++ "\n" ++ t) caller).events =
        (tryHandleClientCommand w s caller).events ∧
      ∀ text, clientCommandDispatcher w (s ++ "\n" ++ t) caller = some text →
        StartsWith (commandWord s) text

/-- No line of `t` is read instead of `s`, unless neither leads to an event; a vote without
arguments is not continued; and no vote is read that begins in `s`. -/
def Undisturbed (s t : String) : Prop :=
  ((classify t).rank < (classify s).rank → (classify s).Idle ∧ (classify t).Idle) ∧
  (∀ vote, classify s = .callvote vote "" → OneWord t.toList) ∧
  (2 < (classify s).rank → reCallvote.isMatch (s ++ "\n" ++ t) = false)

theorem tryHandle_of_passedThrough {P : Type} {w : ClientCommandWorld P} {cmd : String}
    (h : PassedThrough w cmd) (caller : Option P) :
    tryHandleClientCommand w cmd caller =
      match w.player with
      | .error e => ⟨.error e, [], caller⟩
      | .ok player =>
        if !w.registered "client_command" then ⟨.error (noDispatcher "client command"), [], caller⟩
        else act w player cmd caller (classify cmd) := by
  rw [tryHandleClientCommand]
  cases w.player with
  | error e => rfl
  | ok player =>
    obtain ⟨value, hdispatch, hfalse, htext⟩ := h player
    simp only [hdispatch, hfalse, htext, derive]
    rfl

/-- What is executed, if anything. -/
theorem executed_cases {P : Type} {w : ClientCommandWorld P} {cmd text : String}
    {caller : Option P} (h : clientCommandDispatcher w cmd caller = some text) :
    text = cmd ∨ ∃ value, (tryHandleClientCommand w cmd caller).result = .ok value ∧
      value.isFalse = false ∧ text = value.extractString.getD cmd := by
  rw [clientCommandDispatcher] at h
  split at h
  · exact .inl (Option.some.inj h).symm
  · simp only [Option.ite_none_left_eq_some] at h
    obtain ⟨hfalse, htext⟩ := h
    cases hresult : (tryHandleClientCommand w cmd caller).result with
    | error e =>
      have hhandle : handleClientCommand w cmd caller = .bool true := by
        simp [handleClientCommand, hresult]
      rw [hhandle] at htext
      exact .inl (Option.some.inj htext).symm
    | ok value =>
      have hhandle : handleClientCommand w cmd caller = value := by
        simp [handleClientCommand, hresult]
      rw [hhandle] at hfalse htext
      exact .inr ⟨value, rfl, Bool.eq_false_iff.mpr hfalse, (Option.some.inj htext).symm⟩

theorem startsWith_append (s t : String) : StartsWith (commandWord s) (s ++ t) := by
  rw [StartsWith, String.toList_append, List.map_append]
  exact ((List.takeWhile_prefix _).map _).trans (List.prefix_append _ _)

/-- Where nothing disturbs the first line, the command is what it is, or leads to nothing. -/
theorem classify_of_undisturbed {s t : String} (hs : '\n' ∉ s.toList) (h : Undisturbed s t) :
    classify (s ++ "\n" ++ t) = classify s ∨
      ((classify (s ++ "\n" ++ t)).Idle ∧ (classify s).Idle) := by
  obtain ⟨hrank, hcallvote, hnovote⟩ := h
  have hvote : 2 ≤ (classify s).rank → 2 ≤ (classify t).rank →
      callvoteOf (s ++ "\n" ++ t) = (callvoteOf s).or (callvoteOf t) := by
    intro h2 _
    rcases Nat.lt_or_eq_of_le h2 with h2 | h2
    · -- no vote is read anywhere
      have hnone : callvoteOf (s ++ "\n" ++ t) = none := by
        have h := callvoteOf_isSome (s ++ "\n" ++ t)
        rw [hnovote h2] at h
        simpa using h
      obtain ⟨hs', ht'⟩ := callvoteOf_eq_none hs hnone
      rw [hnone, hs', ht']
      rfl
    · -- a vote is read in the first line
      obtain ⟨vote, args, hvote⟩ : ∃ vote args, classify s = .callvote vote args := by
        cases hr : classify s with
        | callvote vote args => exact ⟨vote, args, rfl⟩
        | _ => simp [hr, ClientRequest.rank] at h2
      have hread := classify_readBy s
      rw [hvote] at hread
      have hsame := (callvoteOf_line hs hread t).1 <| by
        by_cases hargs : args = ""
        · exact .inr (hcallvote vote (hargs ▸ hvote))
        · exact .inl hargs
      rw [hsame, show callvoteOf s = some (vote, args) from hread, Option.some_or]
  rw [classify_line hs hvote]
  split
  · exact .inl rfl
  next hlt =>
    obtain ⟨hidle, hidle'⟩ := hrank (Nat.lt_of_not_le hlt)
    exact .inr ⟨hidle', hidle⟩

/-- Requests of different ranks lead to different events in some game, unless neither leads
to any. -/
theorem exists_different_events {r r' : ClientRequest} (hrank : r.rank ≠ r'.rank)
    (hidle : ¬ (r.Idle ∧ r'.Idle)) :
    ∃ active, (act (openWorld active) () "" none r).events ≠
      (act (openWorld active) () "" none r').events := by
  have hone : ∀ {r r' : ClientRequest}, r.rank ≠ r'.rank → ¬ r.Idle →
      ∃ active, (act (openWorld active) () "" none r).events ≠
        (act (openWorld active) () "" none r').events := by
    intro r r' hrank hidle
    obtain ⟨active, hne⟩ := exists_event hidle
    obtain ⟨e, he⟩ := List.exists_mem_of_ne_nil _ hne
    refine ⟨active, fun heq => hrank ?_⟩
    rw [← rank_of_mem_act he, ← rank_of_mem_act (heq ▸ he)]
  rcases not_and_or.mp hidle with hidle | hidle
  · exact hone hrank hidle
  · obtain ⟨active, hne⟩ := hone hrank.symm hidle
    exact ⟨active, hne.symm⟩

section firstLine
variable {s t : String}

theorem passedThrough_openWorld (active : Bool) (cmd : String) :
    PassedThrough (openWorld active) cmd := fun _ => ⟨_, rfl, rfl, rfl⟩

theorem events_openWorld (h : FirstLineOnly s t) (active : Bool) :
    (act (openWorld active) () "" none (classify (s ++ "\n" ++ t))).events =
      (act (openWorld active) () "" none (classify s)).events := by
  have hpass := passedThrough_openWorld active
  have hev := (h Unit (openWorld active) none (hpass s) (hpass _)).1
  rw [tryHandle_of_passedThrough (hpass s), tryHandle_of_passedThrough (hpass _)] at hev
  rw [act_events _ _ "" (s ++ "\n" ++ t), act_events _ _ "" s]
  exact hev

/-- Two ranks can only be told apart where nothing happens. -/
theorem rank_of_firstLineOnly (h : FirstLineOnly s t) :
    (classify (s ++ "\n" ++ t)).rank = (classify s).rank ∨
      ((classify (s ++ "\n" ++ t)).Idle ∧ (classify s).Idle) := by
  by_contra hne
  obtain ⟨hrank, hidle⟩ := not_or.mp hne
  obtain ⟨active, hdiffer⟩ := exists_different_events hrank hidle
  exact hdiffer (events_openWorld h active)

/-- A vote that is found keeps the rank of the first line, or that is idle. -/
theorem rank_of_callvote (h : FirstLineOnly s t)
    (hvote : (classify (s ++ "\n" ++ t)).rank = 2)
    (hactive : ¬ (classify (s ++ "\n" ++ t)).Idle) : (classify s).rank = 2 := by
  rcases rank_of_firstLineOnly h with hrank | ⟨hidle, -⟩
  · exact hrank.symm.trans hvote
  · exact absurd hidle hactive

theorem idle_of_rank_lt (hs : '\n' ∉ s.toList) (h : FirstLineOnly s t)
    (hlt : (classify t).rank < (classify s).rank) : (classify s).Idle ∧ (classify t).Idle := by
  have hline : 2 ≤ (classify s).rank → 2 ≤ (classify t).rank →
      callvoteOf (s ++ "\n" ++ t) = (callvoteOf s).or (callvoteOf t) := by
    intro h2 h2'
    cases hvote : callvoteOf (s ++ "\n" ++ t) with
    | none =>
      obtain ⟨hs', ht'⟩ := callvoteOf_eq_none hs hvote
      rw [hs', ht']
      rfl
    | some x =>
      have hclass := classify_of_callvoteOf hs h2 h2' hvote
      have hrank := rank_of_callvote h (by rw [hclass]; rfl) (by rw [hclass]; exact id)
      omega
  have hranks := rank_of_firstLineOnly h
  rw [classify_line hs hline, if_neg (Nat.not_le_of_lt hlt)] at hranks
  rcases hranks with hrank | ⟨hidle, hidle'⟩
  · omega
  · exact ⟨hidle', hidle⟩

/-- A line that is read before a vote is not idle. -/
theorem two_le_rank (hs : '\n' ∉ s.toList) (h : FirstLineOnly s t) (h2 : 2 ≤ (classify s).rank) :
    2 ≤ (classify t).rank := by
  by_contra hlt
  have hidle := (idle_of_rank_lt hs h (by omega)).2
  cases hr : classify t <;> simp_all [ClientRequest.rank, ClientRequest.Idle]

theorem oneWord_of_firstLineOnly (hs : '\n' ∉ s.toList) (h : FirstLineOnly s t) {vote : String}
    (hvote : classify s = .callvote vote "") : OneWord t.toList := by
  by_contra hone
  have hread := classify_readBy s
  rw [hvote] at hread
  obtain ⟨vote', args', hvote', hne⟩ := (callvoteOf_line hs hread t).2 rfl hone
  have hrank : 2 ≤ (classify s).rank := by
    rw [hvote]
    exact Nat.le_refl 2
  have hev := events_openWorld h false
  rw [classify_of_callvoteOf hs hrank (two_le_rank hs h hrank) hvote', hvote] at hev
  have heq : [ClientEvent.voteCalled vote' args'] = [ClientEvent.voteCalled vote ""] := hev
  simp [hne] at heq

theorem no_callvote_of_firstLineOnly (hs : '\n' ∉ s.toList) (h : FirstLineOnly s t)
    (hlt : 2 < (classify s).rank) : reCallvote.isMatch (s ++ "\n" ++ t) = false := by
  rw [← callvoteOf_isSome]
  by_contra hsome
  obtain ⟨x, hx⟩ := Option.isSome_iff_exists.mp (Bool.not_eq_false _ ▸ hsome)
  have hclass := classify_of_callvoteOf hs (by omega) (two_le_rank hs h (by omega)) hx
  have hrank := rank_of_callvote h (by rw [hclass]; rfl) (by rw [hclass]; exact id)
  omega

theorem undisturbed_of_firstLineOnly (hs : '\n' ∉ s.toList) (h : FirstLineOnly s t) :
    Undisturbed s t :=
  ⟨idle_of_rank_lt hs h, fun _ => oneWord_of_firstLineOnly hs h,
    no_callvote_of_firstLineOnly hs h⟩

variable {P : Type} {w : ClientCommandWorld P}

theorem events_of_undisturbed (hs : '\n' ∉ s.toList) (h : Undisturbed s t)
    (hpass : PassedThrough w s) (hpass' : PassedThrough w (s ++ "\n" ++ t)) (caller : Option P) :
    (tryHandleClientCommand w (s ++ "\n" ++ t) caller).events =
      (tryHandleClientCommand w s caller).events := by
  rw [tryHandle_of_passedThrough hpass, tryHandle_of_passedThrough hpass']
  cases w.player with
  | error e => rfl
  | ok player =>
    simp only
    split
    · rfl
    · rcases classify_of_undisturbed hs h with heq | ⟨hidle, hidle'⟩
      · rw [heq]
        exact act_events w player _ _ caller _
      · rw [(act_of_idle w player _ caller hidle).1, (act_of_idle w player _ caller hidle').1]

/-- What the branch of an undisturbed command returns. -/
theorem startsWith_of_act (hs : '\n' ∉ s.toList) (h : Undisturbed s t) {player : P}
    {caller : Option P} {value : PyValue} (hfalse : value.isFalse = false)
    (hvalue : (act w player (s ++ "\n" ++ t) caller (classify (s ++ "\n" ++ t))).result =
      .ok value) :
    StartsWith (commandWord s) (value.extractString.getD (s ++ "\n" ++ t)) := by
  have hline : s ++ "\n" ++ t = s ++ ("\n" ++ t) := String.append_assoc
  have hwhole : StartsWith (commandWord s) (s ++ "\n" ++ t) := hline ▸ startsWith_append s _
  rcases act_result hvalue with hstop | rfl | ⟨text, start, rfl, hstart, hbegins⟩
  · rw [hfalse] at hstop
    cases hstop
  · exact hwhole
  · rcases classify_of_undisturbed hs h with heq | ⟨hidle, -⟩
    · rw [heq] at hstart
      exact (startsWith_of_rebuiltFrom hs hstart).trans (hbegins.map _)
    · rcases (act_of_idle w player (s ++ "\n" ++ t) caller hidle).2 with hcmd | ⟨e, he⟩
      · rw [hcmd] at hvalue
        obtain rfl : s ++ "\n" ++ t = text := by simpa using hvalue
        exact hwhole
      · rw [he] at hvalue
        cases hvalue

theorem startsWith_of_undisturbed (hs : '\n' ∉ s.toList) (h : Undisturbed s t)
    (hpass : PassedThrough w (s ++ "\n" ++ t)) {caller : Option P} {text : String}
    (htext : clientCommandDispatcher w (s ++ "\n" ++ t) caller = some text) :
    StartsWith (commandWord s) text := by
  rcases executed_cases htext with rfl | ⟨value, hvalue, hfalse, rfl⟩
  · have hline : s ++ "\n" ++ t = s ++ ("\n" ++ t) := String.append_assoc
    exact hline ▸ startsWith_append s _
  · rw [tryHandle_of_passedThrough hpass] at hvalue
    cases hplayer : w.player with
    | error e =>
      rw [hplayer] at hvalue
      cases hvalue
    | ok player =>
      simp only [hplayer] at hvalue
      split at hvalue
      · cases hvalue
      · exact startsWith_of_act hs h hfalse hvalue

end firstLine

/-- **The first line decides** exactly where nothing disturbs it. -/
theorem firstLineOnly_iff {s : String} (hs : '\n' ∉ s.toList) (t : String) :
    FirstLineOnly s t ↔ Undisturbed s t := by
  constructor
  · exact undisturbed_of_firstLineOnly hs
  · intro h P w caller hpass hpass'
    exact ⟨events_of_undisturbed hs h hpass hpass' caller,
      fun _ => startsWith_of_undisturbed hs h hpass'⟩

/-- A chat message stays what it is, whatever is behind its line. -/
theorem firstLineOnly_say : FirstLineOnly "say hi" "team r\ncallvote map" := by
  have hclass : classify "say hi" = .say "hi" := by decide +kernel
  refine (firstLineOnly_iff (by decide) "team r\ncallvote map").mpr ⟨?_, ?_, ?_⟩
  · rw [hclass]
    exact fun h => absurd h (Nat.not_lt_zero _)
  · rw [hclass]
    exact fun vote h => by cases h
  · rw [hclass]
    exact fun h => absurd h (by decide)

/-- A chat message behind a command of no interest is a chat message. -/
theorem firstLineOnly_scores : ¬ FirstLineOnly "scores" "say hi" := by
  intro h
  have hpass := passedThrough_openWorld false
  exact absurd (h Unit (openWorld false) none (hpass _) (hpass _)).1 (by decide +kernel)

end ClientCommand
end ShinQlx
