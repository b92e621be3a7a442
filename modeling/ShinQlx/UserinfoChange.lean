import ShinQlx.LetterCase
import ShinQlx.RewritingDispatch

/-! # Changes of the userinfo

A client that changes its settings sends its whole userinfo.  The handler compares it with
the one the player has, dispatches `userinfo` with the variables that are new or have a new
value, and writes a dict that comes back over the userinfo that was sent.

`userinfo_handled` follows a userinfo on its way, for variables that can stand in an info
string in quotes: what the handlers are told are exactly the differences, a returned dict
is written over the variables and nothing else is lost or added, and the command that is
made of them is read back as what it was made from, and makes no further difference.
-/
namespace ShinQlx.ClientCommand
open Regex

/-- A text that ends neither an item nor the command that it stands in. -/
def Plain (s : String) : Prop := '\\' ∉ s.toList ∧ '"' ∉ s.toList ∧ '\n' ∉ s.toList

instance : DecidablePred Plain := fun _ => inferInstanceAs (Decidable (_ ∧ _))

/-- Variables that can be sent. -/
structure Clean (vars : ParsedVariables) : Prop where
  distinct : (vars.map Prod.fst).Nodup
  plain : ∀ x ∈ vars, Plain x.1 ∧ Plain x.2

/-- The command of a client that sends its userinfo. -/
def userinfoText (vars : ParsedVariables) : String :=
  "userinfo \"" ++ ParsedVariables.infoString vars ++ "\""

/-- Variables as a dict. -/
def strDict (vars : ParsedVariables) : PyDict := vars.map fun x => (.str x.1, .str x.2)

/-- The variables that the old ones do not have, or have with another value. -/
def differences (old new : ParsedVariables) : ParsedVariables :=
  new.filter fun x => Assoc.lookup x.1 old ≠ some x.2

/-- What Python does with dicts of strings: `update` stores the items of one dict in another,
and a string is displayed as it is. -/
structure PythonStrings {P : Type} (w : ClientCommandWorld P) : Prop where
  update : ∀ d changes : ParsedVariables,
    w.update (strDict d) (strDict changes) = .ok (Assoc.update (strDict d) (strDict changes))
  display : ∀ s, w.display (.str s) = s

/-- `d` written over `new`: a variable of `d` has the value it has there, every other one the
value it has in `new`.  The command made of the variables is read back as them. -/
structure Merged (new d p : ParsedVariables) : Prop where
  lookup : ∀ k, Assoc.lookup k p = (Assoc.lookup k d).or (Assoc.lookup k new)
  distinct : (p.map Prod.fst).Nodup
  read : classify (userinfoText p) = .userinfo (ParsedVariables.infoString p)
  parse : parseVariables (ParsedVariables.infoString p) = p

/-- A userinfo gets to the branch for it: the handlers of `client_command` let it through,
and the dispatchers are there. -/
structure UserinfoReady {P : Type} (w : ClientCommandWorld P) (player : P) (new : ParsedVariables) :
    Prop where
  initialized : w.initialized = true
  client : w.player = .ok player
  command : w.registered "client_command" = true
  passed : PassedThrough w (userinfoText new)
  userinfo : w.registered "userinfo" = true
  strings : PythonStrings w

/-- A client that has some variables and sends them again: no event, and the command is
executed as it is. -/
def Settled (vars : ParsedVariables) : Prop :=
  ∀ (P : Type) (w : ClientCommandWorld P) (player : P) (caller : Option P),
    UserinfoReady w player vars → parseVariables (w.userInfo player) = vars →
      (tryHandleClientCommand w (userinfoText vars) caller).events = [] ∧
        clientCommandDispatcher w (userinfoText vars) caller = some (userinfoText vars)

/-- The first handler of `userinfo` is called with the player and `d`. -/
def FirstTold {P : Type} (player : P) (d : PyDict) : Prop :=
  ∀ (H : Type) (repr : P → PyResult String) (reprDict : PyDict → PyResult String)
    (copy : PyDict → PyResult Unit) (call : Nat → H → P × PyDict → PyResult PyValue)
    (plugins : Plugins H) (text dictText : String),
    repr player = .ok text → reprDict d = .ok dictText →
      (EventDispatcher.userinfoDispatch repr reprDict copy call player d plugins).calls.head? =
        (EventDispatcher.handlers plugins).head?.map fun handler => (handler, (player, d))

/-- The differences between what a player has and what it sends. -/
def sentDifferences {P : Type} (w : ClientCommandWorld P) (player : P) (new : ParsedVariables) :
    ParsedVariables := differences (parseVariables (w.userInfo player)) new

/-- What the dispatch of `userinfo` results in. -/
def answer {P : Type} (w : ClientCommandWorld P) (player : P) (new : ParsedVariables) :
    PyResult PyValue := w.raise player (.userinfo (strDict (sentDifferences w player new)))

/-- How a userinfo is handled. -/
structure UserinfoHandled {P : Type} (w : ClientCommandWorld P) (player : P)
    (new : ParsedVariables) (caller : Option P) : Prop where
  same : sentDifferences w player new = [] →
    (tryHandleClientCommand w (userinfoText new) caller).events = [] ∧
      clientCommandDispatcher w (userinfoText new) caller = some (userinfoText new)
  told : sentDifferences w player new ≠ [] →
    (tryHandleClientCommand w (userinfoText new) caller).events =
      [.userinfo (strDict (sentDifferences w player new))]
  first : FirstTold player (strDict (sentDifferences w player new))
  replaced : sentDifferences w player new ≠ [] →
    ∀ d, Clean d → answer w player new = .ok (.dict (strDict d)) →
      ∃ p, clientCommandDispatcher w (userinfoText new) caller = some (userinfoText p) ∧
        Merged new d p ∧ Settled p
  stopped : sentDifferences w player new ≠ [] →
    ∀ result, answer w player new = .ok result → result.isFalse = true →
      clientCommandDispatcher w (userinfoText new) caller = none
  otherwise : sentDifferences w player new ≠ [] →
    (∀ result, answer w player new = .ok result →
      result.isFalse = false ∧ result.castDict = none) →
      clientCommandDispatcher w (userinfoText new) caller = some (userinfoText new)

/-! ## Reading a userinfo -/

section text
variable {vars : ParsedVariables}

theorem not_mem_infoString {c : Char} (hc : c ≠ '\\')
    (h : ∀ x ∈ vars, c ∉ x.1.toList ∧ c ∉ x.2.toList) :
    c ∉ (ParsedVariables.infoString vars).toList := by
  rw [ParsedVariables.infoString, String.toList_join]
  intro hmem
  obtain ⟨s, hs, hmem⟩ := List.mem_flatMap.mp hmem
  obtain ⟨x, hx, rfl⟩ := List.mem_map.mp hs
  obtain ⟨hkey, hvalue⟩ := h x hx
  simp [hc, hkey, hvalue] at hmem

theorem Clean.infoString_newline (h : Clean vars) :
    '\n' ∉ (ParsedVariables.infoString vars).toList :=
  not_mem_infoString (by decide) fun x hx => ⟨(h.plain x hx).1.2.2, (h.plain x hx).2.2.2⟩

theorem Clean.newline (h : Clean vars) : '\n' ∉ (userinfoText vars).toList := by
  simp [userinfoText, h.infoString_newline]

theorem Clean.parse (h : Clean vars) (hne : vars ≠ []) :
    parseVariables (ParsedVariables.infoString vars) = vars :=
  ParsedVariables.parseVariables_infoString hne fun x hx => ⟨(h.plain x hx).1.1, (h.plain x hx).2.1⟩

theorem hasWord_userinfoText (vars : ParsedVariables) : HasWord (userinfoText vars) "userinfo" := by
  rw [HasWord, commandWord, userinfoText]
  simp

/-- The last quote is not part of the text in the quotes. -/
theorem head?_run_vars (prev : Option Char) {u : List Char} (hne : u ≠ []) (hu : '\n' ∉ u) :
    (run (.seq (.group "vars" (many1 true isAny)) (.seq (only '"') (.seq .lineEnd .empty))) prev
      (u ++ ['"'])).head? = some ⟨u ++ ['"'], [], [("vars", u)]⟩ := by
  have hall : ∀ d ∈ u, isAny d = true := fun d hd => decide_eq_true fun heq => hu (heq ▸ hd)
  obtain ⟨c, u, rfl⟩ := List.exists_cons_of_ne_nil hne
  obtain ⟨hc, hu⟩ := List.forall_mem_cons.mp hall
  obtain ⟨less, hless⟩ := splits_append_of_all hu ['"']
  have hquote : isAny '"' = true := rfl
  rw [head?_run_seq, run_group, List.cons_append, run_many1_cons, if_pos hc, hless]
  simp [splits, hquote, run, only, atLineEnd, Match.append]

/-- The text in the quotes is found, if it is one line. -/
theorem captures_userinfoText (hnewline : '\n' ∉ (ParsedVariables.infoString vars).toList)
    (hne : vars ≠ []) :
    (captures reUserinfo (userinfoText vars)).bind (·.name "vars") =
      some (ParsedVariables.infoString vars) := by
  have hlist : (userinfoText vars).toList =
      "userinfo \"".toList ++ ((ParsedVariables.infoString vars).toList ++ ['"']) := by
    simp [userinfoText]
  have hline : '\n' ∉ (userinfoText vars).toList := by
    rw [hlist]
    simp [hnewline]
  have hinfo_ne : (ParsedVariables.infoString vars).toList ≠ [] := by
    rw [ParsedVariables.toList_infoString hne]
    exact List.cons_ne_nil _ _
  -- the expression takes the word with the quote, and the rest up to the last quote
  have hword := run_letters_self false "userinfo \"".toList none
    ((ParsedVariables.infoString vars).toList ++ ['"'])
  have hrun : (run reUserinfo none (userinfoText vars).toList).head? =
      some (Match.append
        ⟨"userinfo \"".toList, (ParsedVariables.infoString vars).toList ++ ['"'], []⟩
        ⟨(ParsedVariables.infoString vars).toList ++ ['"'], [],
          [("vars", (ParsedVariables.infoString vars).toList)]⟩) := by
    show (run (.seq .lineStart (.seq (word false "userinfo \"") _)) none _).head? = _
    rw [run_lineStart_seq, head?_run_seq, word, hlist, hword]
    simp [head?_run_vars _ hinfo_ne hnewline]
  have hfind : captures reUserinfo (userinfoText vars) =
      (run reUserinfo none (userinfoText vars).toList).head? := find_lineStart _ hline
  rw [hfind, hrun]
  simp [Match.name, Match.append]

/-- A userinfo is read as what was sent. -/
theorem classify_userinfoText (h : Clean vars) (hne : vars ≠ []) :
    classify (userinfoText vars) = .userinfo (ParsedVariables.infoString vars) := by
  have hword := hasWord_userinfoText vars
  have hnewline := h.newline
  -- the expressions that are tried before ask for other words
  have hsay : (captures reSay (userinfoText vars)).bind reformattedMsg = none :=
    (chat_eq hnewline (by decide)).trans (if_neg (hword.not_other "say" (by decide)))
  have hsayTeam : (captures reSayTeam (userinfoText vars)).bind reformattedMsg = none :=
    (chat_eq hnewline (by decide)).trans (if_neg (hword.not_other "say_team" (by decide)))
  have hcallvote : (captures reCallvote (userinfoText vars)).bind votedFor = none :=
    (callvote_eq hnewline).trans (if_neg (not_or.mpr
      ⟨hword.not_other "cv" (by decide), hword.not_other "callvote" (by decide)⟩))
  have hvote : (captures reVote (userinfoText vars)).bind (·.name "arg") = none :=
    (arg_eq hnewline (by decide)).trans (if_neg (hword.not_other "vote" (by decide)))
  have hteam : (captures reTeam (userinfoText vars)).bind (·.name "arg") = none :=
    (arg_eq hnewline (by decide)).trans (if_neg (hword.not_other "team" (by decide)))
  rw [classify, hsay, hsayTeam, hcallvote, hvote, hteam,
    captures_userinfoText h.infoString_newline hne]

end text

/-! ## What the handlers are told -/

theorem scalar_str_injective : Function.Injective PyScalar.str := fun _ _ h => PyScalar.str.inj h

theorem nodup_keys_strDict {vars : ParsedVariables} (h : (vars.map Prod.fst).Nodup) :
    ((strDict vars).map Prod.fst).Nodup := by
  have hkeys : (strDict vars).map Prod.fst = (vars.map Prod.fst).map PyScalar.str := by
    simp [strDict]
  rw [hkeys]
  exact h.map scalar_str_injective

/-- Variables with distinct keys are a dict as they are. -/
theorem intoPyDict_eq {vars : ParsedVariables} (h : (vars.map Prod.fst).Nodup) :
    intoPyDict vars = strDict vars := by
  have hupdate : intoPyDict vars = Assoc.update [] (strDict vars) := by
    rw [intoPyDict, Assoc.update, strDict, List.foldl_map]
  rw [hupdate, Assoc.update_of_nodup (by simpa using nodup_keys_strDict h), List.nil_append]

theorem changed_eq (pick : Nat → Nat) {old new : ParsedVariables}
    (hold : (old.map Prod.fst).Nodup) : changed pick new old = differences old new := by
  have hget : (fun x : (String × String) × Nat =>
      decide (ParsedVariables.get (pick x.2) x.1.1 old ≠ some x.1.2)) =
        (fun x : String × String => decide (Assoc.lookup x.1 old ≠ some x.2)) ∘ Prod.fst := by
    funext x
    simp [ParsedVariables.get_eq_lookup _ _ hold]
  rw [changed, hget, ← List.filter_map, List.zipIdx_map_fst, differences]

theorem Clean.update {new d : ParsedVariables} (hnew : Clean new) (hd : Clean d) :
    Clean (Assoc.update new d) := by
  refine ⟨Assoc.nodup_keys_update hnew.distinct d, fun x hx => ?_⟩
  rcases Assoc.mem_of_mem_update hnew.distinct hd.distinct hx with hx | hx
  · exact hnew.plain x hx
  · exact hd.plain x hx

theorem userinfoCommand_strDict {display : PyScalar → String} (h : ∀ s, display (.str s) = s)
    (vars : ParsedVariables) : userinfoCommand display (strDict vars) = userinfoText vars := by
  simp [userinfoCommand, strDict, userinfoText, ParsedVariables.infoString, h, Function.comp_def]

theorem firstTold {P : Type} (player : P) (d : PyDict) : FirstTold player d := by
  intro H repr reprDict copy call plugins text dictText hrepr hreprDict
  rw [EventDispatcher.userinfoDispatch, hrepr, hreprDict]
  exact (EventDispatcher.rewrite_exact call _ id plugins d).1.head

/-! ## What becomes of a userinfo -/

theorem differences_self {vars : ParsedVariables} (h : (vars.map Prod.fst).Nodup) :
    differences vars vars = [] := by
  refine List.filter_eq_nil_iff.mpr fun x hx => ?_
  simp [Assoc.lookup_of_mem h hx]

theorem merged_ne_nil {new d p : ParsedVariables} (hnew : (new.map Prod.fst).Nodup)
    (hne : new ≠ []) (hp : ∀ k, Assoc.lookup k p = (Assoc.lookup k d).or (Assoc.lookup k new)) :
    p ≠ [] := by
  rintro rfl
  obtain ⟨x, new, rfl⟩ := List.exists_cons_of_ne_nil hne
  have hx := hp x.1
  rw [Assoc.lookup_of_mem hnew List.mem_cons_self] at hx
  cases hd : Assoc.lookup x.1 d <;> simp [hd, Assoc.lookup] at hx

theorem merged_update {new d : ParsedVariables} (hnew : Clean new) (hne : new ≠ [])
    (hd : Clean d) : Merged new d (Assoc.update new d) := by
  have hlookup := fun k => Assoc.lookup_update k new hd.distinct
  have hclean := hnew.update hd
  have hne := merged_ne_nil hnew.distinct hne hlookup
  exact ⟨hlookup, hclean.distinct, classify_userinfoText hclean hne, hclean.parse hne⟩

section handled
variable {P : Type} {w : ClientCommandWorld P} {player : P} {new : ParsedVariables}

/-- A userinfo is handled by the branch for it. -/
theorem tryHandle_userinfo (hready : UserinfoReady w player new)
    (hold : ((parseVariables (w.userInfo player)).map Prod.fst).Nodup) (hnew : Clean new)
    (hne : new ≠ []) (caller : Option P) :
    tryHandleClientCommand w (userinfoText new) caller =
      if sentDifferences w player new = [] then ⟨.ok (.str (userinfoText new)), [], caller⟩
      else ⟨changedUserinfo w (userinfoText new) new (answer w player new),
        [.userinfo (strDict (sentDifferences w player new))], caller⟩ := by
  have hdifferences : changed w.pick new (parseVariables (w.userInfo player)) =
      sentDifferences w player new := changed_eq w.pick hold
  have hdistinct : ((sentDifferences w player new).map Prod.fst).Nodup :=
    hnew.distinct.sublist (List.filter_sublist.map _)
  rw [tryHandle_of_passedThrough hready.passed, hready.client, hready.command,
    classify_userinfoText hnew hne]
  simp only [act, userinfo, hnew.parse hne, hdifferences, intoPyDict_eq hdistinct, raiseEvent,
    hready.userinfo]
  rfl

/-- What is executed of a userinfo with differences. -/
theorem dispatcher_of_differences (hready : UserinfoReady w player new)
    (hold : ((parseVariables (w.userInfo player)).map Prod.fst).Nodup) (hnew : Clean new)
    (hne : new ≠ []) (caller : Option P) (hdifferences : sentDifferences w player new ≠ []) :
    clientCommandDispatcher w (userinfoText new) caller =
      executedOf (userinfoText new)
        (changedUserinfo w (userinfoText new) new (answer w player new)) := by
  rw [clientCommandDispatcher_eq, hready.initialized, if_pos rfl,
    tryHandle_userinfo hready hold hnew hne, if_neg hdifferences]

theorem unchanged_of_same (hready : UserinfoReady w player new)
    (hold : ((parseVariables (w.userInfo player)).map Prod.fst).Nodup) (hnew : Clean new)
    (hne : new ≠ []) (caller : Option P) (hsame : sentDifferences w player new = []) :
    (tryHandleClientCommand w (userinfoText new) caller).events = [] ∧
      clientCommandDispatcher w (userinfoText new) caller = some (userinfoText new) := by
  rw [clientCommandDispatcher_eq, hready.initialized, if_pos rfl,
    tryHandle_userinfo hready hold hnew hne, if_pos hsame]
  exact ⟨rfl, rfl⟩

theorem Clean.settled (hnew : Clean new) (hne : new ≠ []) : Settled new := by
  intro P w player caller hready hold
  have hdistinct : ((parseVariables (w.userInfo player)).map Prod.fst).Nodup := by
    rw [hold]
    exact hnew.distinct
  refine unchanged_of_same hready hdistinct hnew hne caller ?_
  rw [sentDifferences, hold]
  exact differences_self hnew.distinct

/-- A dict that comes back is written over the variables. -/
theorem changedUserinfo_dict (hstrings : PythonStrings w) (cmd : String) (hnew : Clean new)
    (d : ParsedVariables) :
    changedUserinfo w cmd new (.ok (.dict (strDict d))) =
      .ok (.str (userinfoText (Assoc.update new d))) := by
  have hupdate : Assoc.update (strDict new) (strDict d) = strDict (Assoc.update new d) :=
    Assoc.update_map_pairs scalar_str_injective PyScalar.str new d
  simp [changedUserinfo, PyValue.castDict, PyValue.isFalse, intoPyDict_eq hnew.distinct,
    hstrings.update, hupdate, userinfoCommand_strDict hstrings.display, Except.map]

/-- **A userinfo is handled** by telling the handlers the differences and writing what they
return over it, and what is executed is read back as what it was made from. -/
theorem userinfo_handled (hready : UserinfoReady w player new)
    (hold : ((parseVariables (w.userInfo player)).map Prod.fst).Nodup) (hnew : Clean new)
    (hne : new ≠ []) (caller : Option P) : UserinfoHandled w player new caller := by
  have hexecuted := dispatcher_of_differences hready hold hnew hne caller
  refine ⟨unchanged_of_same hready hold hnew hne caller, fun hdiff => ?_, firstTold _ _,
    fun hdiff d hd hanswer => ?_, fun hdiff result hanswer hfalse => ?_, fun hdiff hother => ?_⟩
  · rw [tryHandle_userinfo hready hold hnew hne, if_neg hdiff]
  · -- the dict is written over what was sent
    have hmerged := merged_update hnew hne hd
    have hupdated := merged_ne_nil hnew.distinct hne hmerged.lookup
    refine ⟨Assoc.update new d, ?_, hmerged, (hnew.update hd).settled hupdated⟩
    rw [hexecuted hdiff, hanswer, changedUserinfo_dict hready.strings _ hnew]
    rfl
  · -- the event was stopped
    rw [hexecuted hdiff, hanswer, changedUserinfo, if_pos hfalse]
    rfl
  · rw [hexecuted hdiff]
    cases hanswer : answer w player new with
    | error e => rfl
    | ok result =>
      obtain ⟨hfalse, hdict⟩ := hother result hanswer
      have hchanged : changedUserinfo w (userinfoText new) new (.ok result) =
          .ok (.str (userinfoText new)) := by
        rw [changedUserinfo, if_neg (Bool.eq_false_iff.mp hfalse), hdict]
      rw [hchanged]
      rfl

end handled

/-- A game with one player, whose userinfo is given, and a dispatch of `userinfo` with a given
result. -/
def answeringWorld (current : String) (result : PyResult PyValue) : ClientCommandWorld Unit :=
  { initialized := true
    player := .ok ()
    userInfo := fun _ => current
    registered := fun _ => true
    dispatch := fun _ _ => .ok (.bool true)
    raise := fun _ _ => result
    channel := fun _ => true
    isVoteActive := false
    team := fun _ => .ok "free"
    pick := id
    update := fun d changes => .ok (Assoc.update d changes)
    display := fun
      | .str s => s
      | .int i => toString i
      | _ => "None" }

theorem userinfoReady_answeringWorld (current : String) (result : PyResult PyValue)
    (new : ParsedVariables) : UserinfoReady (answeringWorld current result) () new :=
  ⟨rfl, rfl, rfl, fun _ => ⟨_, rfl, rfl, rfl⟩, rfl, ⟨fun _ _ => rfl, fun _ => rfl⟩⟩

/-- A player that takes another name, and is given a third one. -/
theorem userinfo_handled_name :
    UserinfoHandled (answeringWorld "\\name\\a\\rate\\1" (.ok (.dict (strDict [("name", "c")])))) ()
      [("name", "b"), ("rate", "1")] none :=
  userinfo_handled (userinfoReady_answeringWorld _ _ _) (by decide +kernel)
    ⟨by decide, by decide⟩ (by decide) none

/-- Every result but `False` and a dict of variables that can be sent leaves a userinfo as it
is. -/
def OtherwiseUnchanged {P : Type} (w : ClientCommandWorld P) (player : P) (new : ParsedVariables)
    (caller : Option P) : Prop :=
  sentDifferences w player new ≠ [] →
    (∀ result, answer w player new = .ok result →
      result.isFalse = false ∧ ∀ d, Clean d → result ≠ .dict (strDict d)) →
      clientCommandDispatcher w (userinfoText new) caller = some (userinfoText new)

/-- A name that is a number is written over the name that was sent. -/
theorem not_otherwiseUnchanged_number :
    ¬ OtherwiseUnchanged (answeringWorld "" (.ok (.dict [(.str "name", .int 5)]))) ()
      [("name", "b")] none := by
  intro h
  have hother : ∀ d : ParsedVariables,
      PyValue.dict [(.str "name", .int 5)] ≠ .dict (strDict d) := by
    intro d heq
    have hdict : [(PyScalar.str "name", PyScalar.int 5)] = strDict d := PyValue.dict.inj heq
    cases d with
    | nil => cases hdict
    | cons x d => cases congrArg Prod.snd (List.cons.inj hdict).1
  have hunchanged := h (by decide +kernel) fun result hresult => by
    obtain rfl := Except.ok.inj hresult
    exact ⟨rfl, fun d _ => hother d⟩
  exact absurd hunchanged (by decide +kernel)

end ShinQlx.ClientCommand
