import ShinQlx.FirstLine

/-! # Chat messages

Of a client command `say` or `say_team`, the handler takes the message out of its quotes,
puts single quotes for the double quotes that are left, and dispatches `chat`.  Unless the
event is stopped, the command that is passed on is made anew from the message.

`chat_normalised` says which message the handlers see, and that the command that is made
from it stands for the same message: it is read like the one it was made from, and made
anew it stays what it is.
-/
namespace ShinQlx

/-- The commands for chat messages. -/
inductive ChatCommand where
  | say
  | sayTeam
  deriving DecidableEq, Repr

namespace ChatCommand

/-- The word of the command. -/
def name : ChatCommand → String
  | .say => "say"
  | .sayTeam => "say_team"

/-- What a command with a message is found to be. -/
def request (msg : String) : ChatCommand → ClientRequest
  | .say => .say msg
  | .sayTeam => .sayTeam msg

/-- The channel that the message is for. -/
def channel {P : Type} (w : ClientCommandWorld P) (player : P) :
    ChatCommand → PyResult ChatChannel
  | .say => .ok .main
  | .sayTeam => (w.team player).map ClientCommand.teamChannel

/-- The command that is made from a message. -/
def forwarded (k : ChatCommand) (m : String) : String := k.name ++ " \"" ++ m ++ "\""

end ChatCommand

namespace ClientCommand
open Regex

/-- `dispatch` of a `ChatEventDispatcher`: `handleInput` is what `handle_input` of the
commands returns, and `dispatched` what the handlers of `chat` do if they are asked. -/
def chatDispatch (handleInput : PyResult Bool) (dispatched : PyValue) : PyResult PyValue :=
  match handleInput with
  | .error _ => .ok dispatched
  | .ok false => .ok (.bool false)
  | .ok true => .ok dispatched

/-- A chat command: the word in any case, a blank, and anything behind it. -/
def IsChat (k : ChatCommand) (cmd : String) : Prop :=
  (commandWord cmd).map foldCase = k.name.toList.map foldCase ∧
    ∃ c rest, cmd.toList.dropWhile (· ≠ ' ') = ' ' :: c :: rest

/-- The text behind the command word and the blanks. -/
def body (cmd : String) : List Char := (cmd.toList.dropWhile (· ≠ ' ')).dropWhile (· = ' ')

/-- The text without an opening quote and, only if there was one, a final quote. -/
def unwrapped : List Char → List Char
  | '"' :: t => if t.getLast? = some '"' then t.dropLast else t
  | t => t

/-- The message of a chat command. -/
def Faithful (cmd m : String) : Prop :=
  '"' ∉ m.toList ∧
    (body cmd ≠ [] → body cmd ≠ ['"'] →
      m = Text.replace '"' '\'' (String.ofList (unwrapped (body cmd))))

/-- The command `cmd` gets to the chat handlers: the client sends a command that the
handlers of `client_command` make `cmd` of, and the dispatcher and the channel are there. -/
structure ChatReady {P : Type} (w : ClientCommandWorld P) (k : ChatCommand) (sent cmd m : String)
    (player : P) (channel : ChatChannel) (handleInput : PyResult Bool) (dispatched : PyValue) :
    Prop where
  initialized : w.initialized = true
  client : w.player = .ok player
  command : w.registered "client_command" = true
  passed : ∃ value, w.dispatch player sent = .ok value ∧ value.isFalse = false ∧
    value.extractString.getD sent = cmd
  chat : w.registered "chat" = true
  chosen : k.channel w player = .ok channel
  there : w.channel channel = true
  raised : w.raise player (.chat m channel) = chatDispatch handleInput dispatched

/-- The command `cmd` is handled as the message `m`: that is what the event gets, and unless
the commands or the handlers stop it, the command that is executed is made from it. -/
def Chats (k : ChatCommand) (cmd m : String) : Prop :=
  ∀ (P : Type) (w : ClientCommandWorld P) (sent : String) (player : P) (channel : ChatChannel)
    (handleInput : PyResult Bool) (dispatched : PyValue) (caller : Option P),
    ChatReady w k sent cmd m player channel handleInput dispatched →
      (tryHandleClientCommand w sent caller).events = [.chat m channel] ∧
      (handleInput = .ok false ∨ dispatched.isFalse = true →
        clientCommandDispatcher w sent caller = none) ∧
      (handleInput ≠ .ok false → dispatched.isFalse = false →
        clientCommandDispatcher w sent caller = some (k.forwarded m))

/-! ## What the expressions find -/

/-- `(?P<quote>"?)(?P<msg>.+)$` -/
def quotedMsg : Regex :=
  .seq (.group "quote" (optional (only '"'))) (.seq (.group "msg" (many1 true isAny))
    (.seq .lineEnd .empty))

/-- The rest of the line is the message. -/
theorem head?_run_msg (prev : Option Char) {c : Char} {t : List Char} (h : '\n' ∉ c :: t) :
    (run (.seq (.group "msg" (many1 true isAny)) (.seq .lineEnd .empty)) prev (c :: t)).head? =
      some ⟨c :: t, [], [("msg", c :: t)]⟩ := by
  have hall : ∀ d ∈ c :: t, isAny d = true := fun d hd =>
    decide_eq_true fun heq => h (heq ▸ hd)
  obtain ⟨hc, ht⟩ := List.forall_mem_cons.mp hall
  obtain ⟨less, hless⟩ := splits_append_of_all ht []
  rw [List.append_nil] at hless
  rw [head?_run_seq, run_group, run_many1_cons, if_pos hc, hless]
  simp [run, splits, atLineEnd, Match.append]

/-- What the groups take: the quote in front, if there is more behind it, and the rest. -/
def quotedCaptures : List Char → List (String × List Char)
  | ['"'] => [("quote", []), ("msg", ['"'])]
  | '"' :: t => [("quote", ['"']), ("msg", t)]
  | t => [("quote", []), ("msg", t)]

theorem head?_run_quotedMsg (prev : Option Char) {t : List Char} (hne : t ≠ []) (h : '\n' ∉ t) :
    (run quotedMsg prev t).head? = some ⟨t, [], quotedCaptures t⟩ := by
  obtain ⟨c, t, rfl⟩ := List.exists_cons_of_ne_nil hne
  rw [quotedMsg, head?_run_seq, run_group, run_optional]
  by_cases hc : c = '"'
  · subst hc
    have hquote : run (only '"') prev ('"' :: t) = [⟨['"'], t, []⟩] := by simp [only, run]
    rw [hquote]
    cases t with
    | nil =>
      -- the quote alone is the message
      have hnone : ∀ p, run (.seq (.group "msg" (many1 true isAny)) (.seq .lineEnd .empty)) p [] =
          [] := fun p => rfl
      simp [hnone, head?_run_msg _ h, quotedCaptures, Match.append]
    | cons d t =>
      have ht : '\n' ∉ d :: t := fun hmem => h (List.mem_cons_of_mem _ hmem)
      simp [head?_run_msg _ ht, quotedCaptures, Match.append]
  · have hquote : run (only '"') prev (c :: t) = [] := by simp [only, run, hc]
    rw [hquote]
    simp [head?_run_msg _ h, quotedCaptures, hc, Match.append]

/-- The message of the text behind the blanks.  A quote that nothing follows is one. -/
def spoken : List Char → List Char
  | ['"'] => ['"']
  | t => unwrapped t

theorem stripSuffix_quote (t : List Char) :
    (Text.stripSuffix "\"" (String.ofList t)).getD (String.ofList t) =
      String.ofList (if t.getLast? = some '"' then t.dropLast else t) := by
  rcases List.eq_nil_or_concat t with rfl | ⟨t, d, rfl⟩
  · rfl
  · by_cases hd : d = '"'
    · simp [Text.stripSuffix, List.isPrefixOf?, hd]
    · simp [Text.stripSuffix, List.isPrefixOf?, hd, Ne.symm hd]

theorem reformattedMsg_groups (text rest q msg : List Char) :
    reformattedMsg ⟨text, rest, [("quote", q), ("msg", msg)]⟩ =
      some (Text.replace '"' '\'' (if q = [] then String.ofList msg
        else (Text.stripSuffix (String.ofList q) (String.ofList msg)).getD
          (String.ofList msg))) := by
  by_cases hq : q = []
  · subst hq
    rfl
  · simp [reformattedMsg, Match.name, List.lookup_cons, Option.filter_some, hq]

/-- What the groups took is taken out of the quotes. -/
theorem reformattedMsg_quotedCaptures (text rest t : List Char) :
    reformattedMsg ⟨text, rest, quotedCaptures t⟩ =
      some (Text.replace '"' '\'' (String.ofList (spoken t))) := by
  rcases t with _ | ⟨c, t⟩
  · exact reformattedMsg_groups text rest [] []
  · by_cases hc : c = '"'
    · subst hc
      rcases t with _ | ⟨d, t⟩
      · exact reformattedMsg_groups text rest [] ['"']
      · have hstrip := stripSuffix_quote (d :: t)
        refine (reformattedMsg_groups text rest ['"'] (d :: t)).trans ?_
        rw [if_neg (by simp), show String.ofList ['"'] = "\"" from rfl, hstrip]
        rfl
    · have hcaptures : quotedCaptures (c :: t) = [("quote", []), ("msg", c :: t)] := by
        simp [quotedCaptures, hc]
      have hspoken : spoken (c :: t) = c :: t := by simp [spoken, unwrapped, hc]
      rw [hcaptures, hspoken]
      exact reformattedMsg_groups text rest [] (c :: t)

/-- What the expression finds behind the word: the last blank, where there are only blanks,
and otherwise what is behind them. -/
theorem head?_run_message (prev : Option Char) {c : Char} {rest : List Char}
    (h : '\n' ∉ c :: rest) :
    ∃ t, (run (.seq (many1 true (· = ' ')) quotedMsg) prev (' ' :: c :: rest)).head? =
        some ⟨' ' :: c :: rest, [], quotedCaptures t⟩ ∧ '\n' ∉ t ∧
      ((c :: rest).dropWhile (· = ' ') = [] ∧ t = [' '] ∨
        (c :: rest).dropWhile (· = ' ') = t ∧ t ≠ []) := by
  cases ht : (c :: rest).dropWhile (· = ' ') with
  | nil =>
    have hall := List.dropWhile_eq_nil_iff.mp ht
    rcases List.eq_nil_or_concat (c :: rest) with hnil | ⟨a, d, hconcat⟩
    · cases hnil
    · rw [List.concat_eq_append] at hconcat
      rw [hconcat] at hall ⊢
      obtain rfl : d = ' ' := of_decide_eq_true (hall d (by simp))
      have ha : ∀ d ∈ a, decide (d = ' ') = true := fun d hd =>
        hall d (List.mem_append_left _ hd)
      obtain ⟨less, hless⟩ := splits_append_of_all ha [' ']
      have hnone : ∀ p, run quotedMsg p [] = [] := fun p => rfl
      refine ⟨[' '], ?_, by decide, .inl ⟨rfl, rfl⟩⟩
      rw [head?_run_seq, run_many1_cons, if_pos (decide_eq_true rfl), hless]
      simp [splits, hnone, head?_run_quotedMsg _ (List.cons_ne_nil ' ' []) (by decide),
        Match.append]
  | cons d t =>
    have hsplit := List.takeWhile_append_dropWhile (p := (· = ' ')) (l := c :: rest)
    rw [ht] at hsplit
    have hd : ∀ e ∈ (d :: t).head?, decide (e = ' ') = false := by
      have hhead := List.head?_dropWhile_not (· = ' ') (c :: rest)
      rw [ht] at hhead
      intro e he
      obtain rfl : d = e := Option.some.inj he
      exact hhead
    have hline : '\n' ∉ d :: t := fun hmem => h (hsplit ▸ List.mem_append_right _ hmem)
    refine ⟨d :: t, ?_, hline, .inr ⟨rfl, List.cons_ne_nil d t⟩⟩
    have hblanks : ∀ e ∈ (c :: rest).takeWhile (· = ' '), decide (e = ' ') = true := by
      intro e he
      have hpass := List.mem_takeWhile_imp he
      exact hpass
    generalize (c :: rest).takeWhile (· = ' ') = a at hsplit hblanks
    rw [← hsplit]
    exact head?_run_many1_seq (List.forall_mem_cons.mpr ⟨decide_eq_true rfl, hblanks⟩) hd
      (head?_run_quotedMsg _ (List.cons_ne_nil d t) hline)

/-! ## The message of a command -/

theorem captures_reChat {name cmd : String} (hname : ' ' ∉ name.toList) (hcmd : '\n' ∉ cmd.toList) :
    captures (reChat name) cmd =
      if (commandWord cmd).map foldCase = name.toList.map foldCase then
        (run (.seq (many1 true (· = ' ')) quotedMsg) (commandWord cmd).getLast?
          (cmd.toList.dropWhile (· ≠ ' '))).head?.map
            (Match.append ⟨commandWord cmd, cmd.toList.dropWhile (· ≠ ' '), []⟩)
      else none :=
  captures_command hname quotedMsg hcmd

/-- A chat command is read as a message. -/
theorem classify_of_isChat {k : ChatCommand} {cmd : String} (hcmd : '\n' ∉ cmd.toList)
    (h : IsChat k cmd) :
    ∃ t, '\n' ∉ t ∧ (body cmd = [] ∧ t = [' '] ∨ body cmd = t ∧ t ≠ []) ∧
      classify cmd = k.request (Text.replace '"' '\'' (String.ofList (spoken t))) := by
  obtain ⟨hword, c, rest, htail⟩ := h
  have hline : '\n' ∉ c :: rest := by
    intro hmem
    refine hcmd ((List.dropWhile_sublist (· ≠ ' ')).subset ?_)
    rw [htail]
    exact List.mem_cons_of_mem _ hmem
  have hbody : body cmd = (c :: rest).dropWhile (· = ' ') := by
    rw [body, htail]
    exact List.dropWhile_cons_of_pos (decide_eq_true rfl)
  obtain ⟨t, hrun, ht, hcases⟩ := head?_run_message (commandWord cmd).getLast? hline
  rw [← hbody] at hcases
  refine ⟨t, ht, hcases, ?_⟩
  have hblank : ' ' ∉ k.name.toList := by cases k <;> decide
  have hfound : (captures (reChat k.name) cmd).bind reformattedMsg =
      some (Text.replace '"' '\'' (String.ofList (spoken t))) := by
    rw [captures_reChat hblank hcmd, if_pos hword, htail, hrun]
    exact reformattedMsg_quotedCaptures _ _ t
  cases k with
  | say =>
    rw [classify, show captures reSay cmd = captures (reChat ChatCommand.say.name) cmd from rfl,
      hfound]
    rfl
  | sayTeam =>
    have hother : captures reSay cmd = none := by
      have hne : ¬ (commandWord cmd).map foldCase = "say".toList.map foldCase := by
        rw [hword]
        decide
      exact (captures_reChat (by decide) hcmd).trans (if_neg hne)
    rw [classify, hother,
      show captures reSayTeam cmd = captures (reChat ChatCommand.sayTeam.name) cmd from rfl, hfound]
    rfl

/-- Nothing else is. -/
theorem isChat_of_classify {k : ChatCommand} {cmd m : String} (hcmd : '\n' ∉ cmd.toList)
    (h : classify cmd = k.request m) : IsChat k cmd := by
  have hread := classify_readBy cmd
  rw [h] at hread
  have hmatch : isMatch (reChat k.name) cmd = true := by cases k <;> exact hread
  obtain ⟨n, hn⟩ := Option.isSome_iff_exists.mp hmatch
  rw [captures_reChat (by cases k <;> decide) hcmd] at hn
  split at hn
  next hword =>
    refine ⟨hword, ?_⟩
    obtain ⟨x, hx, -⟩ := Option.map_eq_some_iff.mp hn
    obtain ⟨m₁, hblanks, m₂, hquoted, -⟩ := mem_run_seq.mp (List.mem_of_mem_head? hx)
    obtain ⟨c, a, rest, htail, hc, rfl⟩ := mem_run_many1.mp hblanks
    obtain rfl := of_decide_eq_true (hc c List.mem_cons_self)
    rw [htail]
    cases hrest : a ++ rest with
    | nil =>
      obtain ⟨-, rfl⟩ := List.append_eq_nil_iff.mp hrest
      cases hquoted
    | cons d t => exact ⟨d, t, rfl⟩
  next => cases hn

/-- What the message is made of. -/
theorem not_mem_replace (s : String) : '"' ∉ (Text.replace '"' '\'' s).toList := by
  rw [Text.replace, String.toList_ofList]
  intro h
  obtain ⟨c, -, hc⟩ := List.mem_map.mp h
  split at hc
  next => exact absurd hc (by decide)
  next hne => exact hne hc

theorem newline_not_mem_replace {t : List Char} (ht : '\n' ∉ t) :
    '\n' ∉ (Text.replace '"' '\'' (String.ofList t)).toList := by
  rw [Text.replace, String.toList_ofList, String.toList_ofList]
  intro h
  obtain ⟨c, hc, heq⟩ := List.mem_map.mp h
  split at heq
  next => exact absurd heq (by decide)
  next =>
    obtain rfl : c = '\n' := heq
    exact ht hc

theorem spoken_subset (t : List Char) : spoken t ⊆ t := by
  unfold spoken unwrapped
  split
  next => exact fun _ h => h
  next =>
    split
    next t _ =>
      split
      next => exact fun c hc => List.mem_cons_of_mem _ (List.dropLast_subset t hc)
      next => exact fun c hc => List.mem_cons_of_mem _ hc
    next => exact fun _ h => h

theorem spoken_of_ne {t : List Char} (h : t ≠ ['"']) : spoken t = unwrapped t := by
  unfold spoken
  split
  next => exact absurd rfl h
  next => rfl

theorem toList_forwarded (k : ChatCommand) (m : String) :
    (k.forwarded m).toList = k.name.toList ++ ' ' :: '"' :: (m.toList ++ ['"']) := by
  simp [ChatCommand.forwarded]

theorem ne_blank_of_mem_name (k : ChatCommand) : ∀ c ∈ k.name.toList, decide (c ≠ ' ') = true := by
  have hblank : ' ' ∉ k.name.toList := by cases k <;> decide
  exact fun c hc => decide_eq_true fun heq => hblank (heq ▸ hc)

theorem isChat_forwarded (k : ChatCommand) (m : String) : IsChat k (k.forwarded m) := by
  have hname := ne_blank_of_mem_name k
  rw [IsChat, commandWord, toList_forwarded, List.takeWhile_append_of_pos hname,
    List.dropWhile_append_of_pos hname]
  exact ⟨by simp, '"', m.toList ++ ['"'], by simp⟩

theorem body_forwarded (k : ChatCommand) (m : String) :
    body (k.forwarded m) = '"' :: (m.toList ++ ['"']) := by
  have hname := ne_blank_of_mem_name k
  rw [body, toList_forwarded, List.dropWhile_append_of_pos hname]
  simp

/-- A command that is made from a message is read as that message. -/
theorem classify_forwarded (k : ChatCommand) {m : String} (hm : '"' ∉ m.toList)
    (hline : '\n' ∉ m.toList) : classify (k.forwarded m) = k.request m := by
  have hforwarded : '\n' ∉ (k.forwarded m).toList := by
    rw [toList_forwarded]
    cases k <;> simp [ChatCommand.name, hline]
  obtain ⟨t, -, hbody, hclass⟩ := classify_of_isChat hforwarded (isChat_forwarded k m)
  rw [body_forwarded] at hbody
  obtain rfl : '"' :: (m.toList ++ ['"']) = t := (hbody.resolve_left fun h => by simp at h).1
  have hspoken : spoken ('"' :: (m.toList ++ ['"'])) = m.toList := by
    rw [spoken_of_ne (by simp), unwrapped]
    simp
  have hsame : Text.replace '"' '\'' m = m := by
    have hid : ∀ c ∈ m.toList, (if c = '"' then '\'' else c) = id c := by
      intro c hc
      refine if_neg ?_
      rintro rfl
      exact hm hc
    rw [Text.replace, List.map_congr_left hid, List.map_id, String.ofList_toList]
  rw [hclass, hspoken, String.ofList_toList, hsame]

/-! ## What becomes of it -/

theorem chatDispatch_isFalse (handleInput : PyResult Bool) (dispatched : PyValue) :
    ∃ result, chatDispatch handleInput dispatched = .ok result ∧
      (result.isFalse = true ↔ handleInput = .ok false ∨ dispatched.isFalse = true) := by
  cases handleInput with
  | error e => exact ⟨dispatched, rfl, by simp⟩
  | ok goesOn =>
    cases goesOn with
    | false => exact ⟨.bool false, rfl, by simp [PyValue.isFalse]⟩
    | true => exact ⟨dispatched, rfl, by simp⟩

theorem act_of_chatReady {P : Type} {w : ClientCommandWorld P} {k : ChatCommand}
    {sent cmd m : String} {player : P} {channel : ChatChannel} {handleInput : PyResult Bool}
    {dispatched : PyValue}
    (h : ChatReady w k sent cmd m player channel handleInput dispatched) (caller : Option P) :
    act w player cmd caller (k.request m) =
      ⟨passOn (k.forwarded m) (chatDispatch handleInput dispatched), [.chat m channel],
        caller⟩ := by
  have hchosen := h.chosen
  rw [← h.raised]
  cases k with
  | say =>
    obtain rfl : ChatChannel.main = channel := Except.ok.inj hchosen
    simp [act, ChatCommand.request, chat, h.chat, h.there, ChatCommand.forwarded,
      ChatCommand.name]
  | sayTeam =>
    have hteam : (w.team player).map teamChannel = .ok channel := hchosen
    simp [act, ChatCommand.request, chat, h.chat, h.there, hteam, ChatCommand.forwarded,
      ChatCommand.name]

/-- A command that is found to be a message is handled as the message. -/
theorem chats_of_classify {k : ChatCommand} {cmd m : String} (h : classify cmd = k.request m) :
    Chats k cmd m := by
  intro P w sent player channel handleInput dispatched caller hready
  obtain ⟨value, hdispatch, hfalse, hcmd⟩ := hready.passed
  obtain ⟨result, hresult, hstopped⟩ := chatDispatch_isFalse handleInput dispatched
  have hhandled : tryHandleClientCommand w sent caller =
      ⟨passOn (k.forwarded m) (.ok result), [.chat m channel], caller⟩ := by
    rw [tryHandleClientCommand, hready.client]
    simp only [hready.command, hdispatch, hfalse, hcmd, derive, h, act_of_chatReady hready,
      hresult]
    rfl
  have hexecuted : clientCommandDispatcher w sent caller =
      if result.isFalse = true then none else some (k.forwarded m) := by
    simp only [clientCommandDispatcher, hready.initialized, handleClientCommand, hhandled, passOn]
    cases result.isFalse <;> rfl
  refine ⟨by rw [hhandled], fun hstop => ?_, fun hinput hgo => ?_⟩
  · rw [hexecuted, if_pos (hstopped.mpr hstop)]
  · rw [hexecuted, if_neg fun hfalse => ?_]
    rcases hstopped.mp hfalse with hstop | hstop
    · exact hinput hstop
    · rw [hgo] at hstop
      cases hstop

/-- **Chat messages are normalised**: the handlers see the message without the quotes around
it, what is executed is made from the message they saw, and stands for the same one. -/
theorem chat_normalised {k : ChatCommand} {cmd : String} (hcmd : '\n' ∉ cmd.toList)
    (h : IsChat k cmd) :
    ∃ m, Faithful cmd m ∧ Chats k cmd m ∧ Chats k (k.forwarded m) m ∧
      ∀ k', IsChat k' (k.forwarded m) → k' = k := by
  obtain ⟨t, ht, hbody, hclass⟩ := classify_of_isChat hcmd h
  have hline := newline_not_mem_replace fun hmem => ht (spoken_subset t hmem)
  refine ⟨_, ⟨not_mem_replace _, fun hne hne' => ?_⟩, chats_of_classify hclass,
    chats_of_classify (classify_forwarded k (not_mem_replace _) hline), fun k' hk' => ?_⟩
  · obtain ⟨rfl, -⟩ := hbody.resolve_left fun h => hne h.1
    rw [spoken_of_ne hne']
  · -- the two words are different
    have hword := hk'.1.symm.trans (isChat_forwarded k _).1
    cases k <;> cases k' <;> first | rfl | exact absurd hword (by decide)

/-- A message in quotes, with another quote in it. -/
theorem chat_normalised_quoted :
    ∃ m, Faithful "sAy  \"hi \"you\"" m ∧ Chats .say "sAy  \"hi \"you\"" m ∧
      Chats .say (ChatCommand.forwarded .say m) m ∧
      ∀ k', IsChat k' (ChatCommand.forwarded .say m) → k' = .say :=
  chat_normalised (by decide) ⟨by decide, ' ', "\"hi \"you\"".toList, by decide⟩

end ClientCommand
end ShinQlx
