import ShinQlx.Python

/-! # Clients whose slot may be free

While Python handles that a player connects or disconnects, the slot of the client may
be free already, and `player_info` is to answer for it all the same.  So both dispatchers
set a bit of the client in `ALLOW_FREE_CLIENT` around the call into Python.  The handlers
may do anything in between, and may drop a client themselves, which dispatches again.

A `Script` is what Python does, in whole, with its dispatches nested.  The bits are a
bracket around the dispatches exactly if no dispatch for a client runs inside another one
for the same client (`conforms_iff`): the inner one clears the bit that the outer one has
set.
-/
namespace ShinQlx

/-- `clientState_t`. -/
inductive ClientState where
  | csFree
  | csZombie
  | csConnected
  | csPrimed
  | csActive
  deriving DecidableEq

/-- One of the `MAX_CLIENTS` clients. -/
abbrev ClientId := Fin 64

/-- What can be seen of a run: what the bits are while Python runs, the stores to them,
the end of a dispatch, and an answer of `player_info`.  `handling` are the clients whose
dispatches run, the innermost first. -/
inductive FreeClientEvent (I : Type) where
  | python (handling : List ClientId) (bits : BitVec 64)
  | stored (client : ClientId) (before after : BitVec 64)
  | ended (client : ClientId) (handling : List ClientId) (previous after : BitVec 64)
  | answered (handling : List ClientId) (clientId : Int) (reply : PyResult (Option I))
  deriving DecidableEq

/-- `ALLOW_FREE_CLIENT`, the clients whose dispatches run, and what was seen so far. -/
structure FreeClients (I : Type) where
  allowFreeClient : BitVec 64
  handling : List ClientId
  trace : List (FreeClientEvent I)

/-- `1 << client_id as u64`. -/
def clientBit (clientId : Nat) : BitVec 64 := 1#64 <<< clientId

namespace FreeClients
variable {I : Type}

/-- No bit is set and no dispatch runs. -/
def start : FreeClients I := ⟨0, [], []⟩

/-- Python runs between two calls into the server. -/
def observe (w : FreeClients I) : FreeClients I :=
  { w with trace := w.trace ++ [.python w.handling w.allowFreeClient] }

/-- A store to `ALLOW_FREE_CLIENT`. -/
def store (w : FreeClients I) (client : ClientId) (bits : BitVec 64) : FreeClients I :=
  { w with allowFreeClient := bits
           trace := w.trace ++ [.stored client w.allowFreeClient bits] }

/-- The bit of a client is set, Python is called, and the bit is cleared. -/
def bracket {R : Type} (client : ClientId) (call : FreeClients I → R × FreeClients I)
    (w : FreeClients I) : R × FreeClients I :=
  let opened := w.store client (w.allowFreeClient ||| clientBit client)
  let (result, w') := call { opened with handling := client :: w.handling }
  let closed := w'.store client (w'.allowFreeClient &&& ~~~clientBit client)
  (result, { closed with
    handling := w.handling
    trace := closed.trace ++
      [.ended client w.handling w.allowFreeClient closed.allowFreeClient] })

/-- `client_connect_dispatcher`: the text that the client is turned away with. -/
def clientConnectDispatcher (pyshinqlxIsInitialized : Bool)
    (handlePlayerConnect : ClientId → Bool → FreeClients I → PyValue × FreeClients I)
    (clientId : ClientId) (isBot : Bool) (w : FreeClients I) : Option String × FreeClients I :=
  if pyshinqlxIsInitialized then
    bracket clientId (fun w =>
      let (result, w) := handlePlayerConnect clientId isBot w
      (if result.isFalse then some "You are banned from this server."
        else result.extractString, w)) w
  else (none, w)

/-- `client_disconnect_dispatcher`. -/
def clientDisconnectDispatcher (pyshinqlxIsInitialized : Bool)
    (handlePlayerDisconnect : ClientId → Option String → FreeClients I → PyValue × FreeClients I)
    (clientId : ClientId) (reason : String) (w : FreeClients I) : FreeClients I :=
  if pyshinqlxIsInitialized then
    (bracket clientId (handlePlayerDisconnect clientId (some reason)) w).2
  else w

/-- `player_info`, for a client slot as it is, if there is one, and the information that
would be read off it.  A refusal is `none`. -/
def playerInfo (allowFreeClient : BitVec 64) (slot : Option ClientState) (info : I)
    (clientId : Int) : PyResult (Option I) :=
  if ¬(0 ≤ clientId ∧ clientId < 64) then
    .error (.valueError "client_id needs to be a number from 0 to 63, or None.")
  else if slot = some .csFree ∧ allowFreeClient &&& clientBit clientId.toNat = 0#64 then .ok none
  else .ok (some info)

end FreeClients

/-- What Python does until it returns: dispatches that it causes, with what it does while
they run, and calls of `player_info`. -/
inductive Script (I : Type) where
  | done
  | connect (client : ClientId) (isBot : Bool) (during : Script I) (result : PyValue)
    (next : Script I)
  | disconnect (client : ClientId) (reason : String) (during : Script I) (result : PyValue)
    (next : Script I)
  | playerInfo (clientId : Int) (slot : Option ClientState) (info : I) (next : Script I)

namespace Script
open FreeClients
variable {I : Type}

/-- The run of a script, with the interpreter initialised. -/
def run : Script I → FreeClients I → FreeClients I
  | done, w => w.observe
  | connect client isBot during result next, w =>
    next.run (clientConnectDispatcher true (fun _ _ w => (result, during.run w)) client isBot
      w.observe).2
  | disconnect client reason during result next, w =>
    next.run (clientDisconnectDispatcher true (fun _ _ w => (result, during.run w)) client reason
      w.observe)
  | playerInfo clientId slot info next, w =>
    let reply := FreeClients.playerInfo w.allowFreeClient slot info clientId
    let w := w.observe
    next.run { w with trace := w.trace ++ [.answered w.handling clientId reply] }

/-- No dispatch for a client runs inside another one for the same client. -/
def Avoids : Script I → List ClientId → Prop
  | done, _ => True
  | connect client _ during _ next, handling =>
    client ∉ handling ∧ during.Avoids (client :: handling) ∧ next.Avoids handling
  | disconnect client _ during _ next, handling =>
    client ∉ handling ∧ during.Avoids (client :: handling) ∧ next.Avoids handling
  | playerInfo _ _ _ next, handling => next.Avoids handling

end Script

/-- What is expected of a bracket: the bits of the clients that are handled are set, a
store changes no other bit, the end of an outermost dispatch brings its bit back to what
it was, and `player_info` never refuses a client that is handled. -/
def FreeClientEvent.Conforms {I : Type} : FreeClientEvent I → Prop
  | .python handling bits => ∀ client ∈ handling, bits.getLsbD client = true
  | .stored client before after => ∀ other ≠ client, after.getLsbD other = before.getLsbD other
  | .ended client handling previous after =>
    client ∉ handling → after.getLsbD client = previous.getLsbD client
  | .answered handling clientId reply =>
    ∀ client ∈ handling, (client : Int) = clientId → reply ≠ .ok none

namespace FreeClients
variable {I : Type}

/-! ## The bits -/

theorem getLsbD_clientBit (client other : ClientId) :
    (clientBit client).getLsbD other = decide (other = client) := by
  have hother := other.isLt
  by_cases h : other = client
  · subst h
    simp [clientBit, hother]
  · have hne : (other : Nat) ≠ client := fun heq => h (Fin.ext heq)
    simp only [clientBit, BitVec.getLsbD_shiftLeft, BitVec.getLsbD_one, h, decide_false]
    rcases Nat.lt_or_gt_of_ne hne with hlt | hgt
    · simp [hlt]
    · simp [Nat.sub_eq_zero_iff_le, Nat.not_le.mpr hgt]

@[simp] theorem getLsbD_set (bits : BitVec 64) (client other : ClientId) :
    (bits ||| clientBit client).getLsbD other =
      (bits.getLsbD other || decide (other = client)) := by
  rw [BitVec.getLsbD_or, getLsbD_clientBit]

@[simp] theorem getLsbD_clear (bits : BitVec 64) (client other : ClientId) :
    (bits &&& ~~~clientBit client).getLsbD other =
      (bits.getLsbD other && !decide (other = client)) := by
  rw [BitVec.getLsbD_and, BitVec.getLsbD_not, getLsbD_clientBit]
  simp [other.isLt]

/-- The test of `player_info` reads the bit of the client. -/
theorem and_clientBit_eq_zero {bits : BitVec 64} {client : ClientId} :
    bits &&& clientBit client = 0#64 ↔ bits.getLsbD client = false := by
  constructor
  · intro h
    have hbit := congrArg (BitVec.getLsbD · client) h
    simp only [BitVec.getLsbD_and, getLsbD_clientBit, decide_true, Bool.and_true] at hbit
    exact hbit.trans BitVec.getLsbD_zero
  · intro h
    refine BitVec.eq_of_getLsbD_eq fun i hi => ?_
    have hbit := getLsbD_clientBit client ⟨i, hi⟩
    rw [BitVec.getLsbD_and, BitVec.getLsbD_zero, hbit]
    by_cases heq : (⟨i, hi⟩ : ClientId) = client
    · subst heq
      rw [h, Bool.false_and]
    · rw [decide_eq_false heq, Bool.and_false]

/-- Only clients that are handled have their bit set. -/
def Within (w : FreeClients I) : Prop :=
  ∀ client : ClientId, w.allowFreeClient.getLsbD client = true → client ∈ w.handling

/-- All clients that are handled have their bit set. -/
def Open (w : FreeClients I) : Prop :=
  ∀ client ∈ w.handling, w.allowFreeClient.getLsbD client = true

/-- `player_info` does not refuse a client whose bit is set. -/
theorem playerInfo_ne_none {bits : BitVec 64} {client : ClientId}
    (h : bits.getLsbD client = true) (slot : Option ClientState) (info : I) :
    playerInfo bits slot info client ≠ .ok none := by
  have hbit : ¬bits &&& clientBit client = 0#64 := by
    rw [and_clientBit_eq_zero, h]
    simp
  unfold playerInfo
  rw [Int.toNat_natCast]
  split
  · rintro ⟨⟩
  · rw [if_neg fun hfree => hbit hfree.2]
    rintro ⟨⟩

end FreeClients

/-! ## One dispatch -/

namespace Script
open FreeClients
variable {I : Type}

/-- What a part of a run does, if `good` says whether it avoids the clients handled: it
conforms exactly if it is good and starts with the bits of these clients set, and then it
leaves them set. -/
structure Tracks (part : FreeClients I → FreeClients I) (good : List ClientId → Prop)
    (w : FreeClients I) : Prop where
  handling : (part w).handling = w.handling
  within : (part w).Within
  events : ∃ events, (part w).trace = w.trace ++ events ∧
    ((∀ e ∈ events, e.Conforms) ↔ good w.handling ∧ w.Open)
  stays : good w.handling → w.Open → (part w).Open

section Bracket
variable {R : Type} {client : ClientId} {call : FreeClients I → R × FreeClients I}
  {good : List ClientId → Prop}

/-- The state in which a dispatch calls Python. -/
def opened (w : FreeClients I) (client : ClientId) : FreeClients I :=
  { w.observe.store client (w.allowFreeClient ||| clientBit client) with
    handling := client :: w.handling }

theorem opened_within {w : FreeClients I} (hw : w.Within) (client : ClientId) :
    (opened w client).Within := by
  intro other hother
  have hbit : (w.allowFreeClient ||| clientBit client).getLsbD other = true := hother
  rw [getLsbD_set, Bool.or_eq_true, decide_eq_true_eq] at hbit
  rcases hbit with hbit | rfl
  · exact List.mem_cons_of_mem _ (hw other hbit)
  · exact List.mem_cons_self ..

theorem opened_open {w : FreeClients I} (hw : w.Open) (client : ClientId) :
    (opened w client).Open := by
  intro other hother
  show (w.allowFreeClient ||| clientBit client).getLsbD other = true
  rw [getLsbD_set, Bool.or_eq_true, decide_eq_true_eq]
  rcases List.mem_cons.mp hother with rfl | hmem
  · exact .inr rfl
  · exact .inl (hw other hmem)

/-- The end of a dispatch clears the bit of its client and no other. -/
theorem bracket_within (client : ClientId)
    (hcall : ∀ w, w.Within → Tracks (fun w => (call w).2) good w)
    {w : FreeClients I} (hw : w.Within) :
    (bracket client call w.observe).2.Within := by
  have hcalled := hcall _ (opened_within hw client)
  intro other hother
  have hbit : ((call (opened w client)).2.allowFreeClient &&& ~~~clientBit client).getLsbD other =
      true := hother
  rw [getLsbD_clear, Bool.and_eq_true, Bool.not_eq_true', decide_eq_false_iff_not] at hbit
  have hmem := hcalled.within other hbit.1
  rw [hcalled.handling] at hmem
  exact (List.mem_cons.mp hmem).resolve_left hbit.2

theorem bracket_open (client : ClientId)
    (hcall : ∀ w, w.Within → Tracks (fun w => (call w).2) good w)
    {w : FreeClients I} (hw : w.Within) (hopen : w.Open) (hgood : good (client :: w.handling)) :
    (bracket client call w.observe).2.Open ↔ client ∉ w.handling := by
  have hcalled := hcall _ (opened_within hw client)
  have hstays := hcalled.stays hgood (opened_open hopen client)
  have hbit (other : ClientId) : (bracket client call w.observe).2.allowFreeClient.getLsbD other =
      ((call (opened w client)).2.allowFreeClient.getLsbD other && !decide (other = client)) :=
    getLsbD_clear _ _ _
  constructor
  · intro hafter hmem
    have hset := hafter client hmem
    rw [hbit, decide_eq_true rfl] at hset
    simp at hset
  · intro hmem other hother
    have hne : other ≠ client := by
      rintro rfl
      exact hmem hother
    rw [hbit, decide_eq_false hne, hstays other]
    · rfl
    · rw [hcalled.handling]
      exact List.mem_cons_of_mem _ hother

theorem bracket_events (client : ClientId)
    (hcall : ∀ w, w.Within → Tracks (fun w => (call w).2) good w)
    {w : FreeClients I} (hw : w.Within) :
    ∃ events, (bracket client call w.observe).2.trace = w.trace ++ events ∧
      ((∀ e ∈ events, e.Conforms) ↔ good (client :: w.handling) ∧ w.Open) := by
  obtain ⟨-, -, ⟨during, htrace, hduring⟩, -⟩ := hcall _ (opened_within hw client)
  generalize hbits : (call (opened w client)).2.allowFreeClient &&& ~~~clientBit client = bits
  refine ⟨[.python w.handling w.allowFreeClient,
    .stored client w.allowFreeClient (w.allowFreeClient ||| clientBit client)] ++ during ++
    [.stored client (call (opened w client)).2.allowFreeClient bits,
      .ended client w.handling w.allowFreeClient bits], ?_, ?_⟩
  · subst hbits
    show (call (opened w client)).2.trace ++ _ ++ _ = _
    rw [show (call (opened w client)).2.trace = _ from htrace]
    simp [opened, observe, store]
  · have hset : FreeClientEvent.Conforms (I := I) (.stored client w.allowFreeClient
        (w.allowFreeClient ||| clientBit client)) := by
      intro other hne
      rw [getLsbD_set, decide_eq_false hne, Bool.or_false]
    have hclear : FreeClientEvent.Conforms (I := I) (.stored client
        (call (opened w client)).2.allowFreeClient bits) := by
      intro other hne
      rw [← hbits, getLsbD_clear, decide_eq_false hne, Bool.not_false, Bool.and_true]
    have hended : FreeClientEvent.Conforms (I := I) (.ended client w.handling
        w.allowFreeClient bits) := by
      intro hmem
      have hbefore : w.allowFreeClient.getLsbD client = false :=
        Bool.eq_false_iff.mpr fun hset => hmem (hw client hset)
      rw [hbefore, ← hbits, getLsbD_clear, decide_eq_true rfl, Bool.not_true, Bool.and_false]
    simp only [List.forall_mem_append, List.forall_mem_cons, List.not_mem_nil, false_implies,
      implies_true, hset, hclear, hended, hduring, and_true]
    constructor
    · rintro ⟨hpython, hgood, -⟩
      exact ⟨hgood, hpython⟩
    · rintro ⟨hgood, hopen⟩
      exact ⟨hopen, hgood, opened_open hopen client⟩

/-- **One dispatch**, and what Python does before and after it. -/
theorem Tracks.bracket (client : ClientId) (call : FreeClients I → R × FreeClients I)
    {next : FreeClients I → FreeClients I} {good' : List ClientId → Prop}
    (hcall : ∀ w, w.Within → Tracks (fun w => (call w).2) good w)
    (hnext : ∀ w, w.Within → Tracks next good' w) {w : FreeClients I} (hw : w.Within) :
    Tracks (fun w => next (FreeClients.bracket client call w.observe).2)
      (fun handling => client ∉ handling ∧ good (client :: handling) ∧ good' handling) w := by
  have hopen := bracket_open client hcall hw
  obtain ⟨during, htrace, hduring⟩ := bracket_events client hcall hw
  obtain ⟨hhandling, hwithin, ⟨after, htrace', hafter⟩, hstays⟩ :=
    hnext _ (bracket_within client hcall hw)
  refine ⟨hhandling, hwithin, ⟨during ++ after, ?_, ?_⟩, ?_⟩
  · rw [htrace', htrace, List.append_assoc]
  · rw [List.forall_mem_append, hduring, hafter]
    constructor
    · rintro ⟨⟨hgood, hw⟩, hgood', hclosed⟩
      exact ⟨⟨(hopen hw hgood).mp hclosed, hgood, hgood'⟩, hw⟩
    · rintro ⟨⟨hmem, hgood, hgood'⟩, hw⟩
      exact ⟨⟨hgood, hw⟩, hgood', (hopen hw hgood).mpr hmem⟩
  · rintro ⟨hmem, hgood, hgood'⟩ hw
    exact hstays hgood' ((hopen hw hgood).mpr hmem)

end Bracket

/-- **The run of a script** conforms exactly if it avoids the clients that are handled. -/
theorem tracks_run (script : Script I) {w : FreeClients I} (hw : w.Within) :
    Tracks script.run script.Avoids w := by
  induction script generalizing w with
  | done =>
    refine ⟨rfl, hw, ⟨[.python w.handling w.allowFreeClient], rfl, ?_⟩, fun _ hopen => hopen⟩
    simp only [List.forall_mem_singleton]
    exact ⟨fun hpython => ⟨trivial, hpython⟩, And.right⟩
  | connect client isBot during result next ihDuring ihNext =>
    exact Tracks.bracket client (fun w => (isBot, during.run w)) (fun _ hw => ihDuring hw)
      (fun _ hw => ihNext hw) hw
  | disconnect client reason during result next ihDuring ihNext =>
    exact Tracks.bracket client (fun w => (result, during.run w)) (fun _ hw => ihDuring hw)
      (fun _ hw => ihNext hw) hw
  | playerInfo clientId slot info next ih =>
    obtain ⟨hhandling, hwithin, ⟨events, htrace, hevents⟩, hstays⟩ :=
      ih (w := { w.observe with trace := w.observe.trace ++ [.answered w.handling clientId
        (FreeClients.playerInfo w.allowFreeClient slot info clientId)] }) hw
    refine ⟨hhandling, hwithin, ⟨.python w.handling w.allowFreeClient :: .answered w.handling
      clientId (FreeClients.playerInfo w.allowFreeClient slot info clientId) :: events, ?_, ?_⟩,
      hstays⟩
    · refine htrace.trans ?_
      simp [observe]
    · rw [List.forall_mem_cons, List.forall_mem_cons, hevents]
      constructor
      · rintro ⟨hpython, -, hgood, -⟩
        exact ⟨hgood, hpython⟩
      · rintro ⟨hgood, hopen⟩
        refine ⟨hopen, ?_, hgood, hopen⟩
        rintro client hmem rfl
        exact playerInfo_ne_none (hopen client hmem) slot info

/-- **The bits of free clients**, for a run of whatever Python does from the start: they
are a bracket around the dispatches, and `player_info` never refuses a client that is
handled, exactly if no dispatch for a client runs inside another one for the same
client. -/
theorem conforms_iff (script : Script I) :
    (∀ e ∈ (script.run start).trace, e.Conforms) ↔ script.Avoids [] := by
  have hstart : (start : FreeClients I).Within := by
    intro client hbit
    exact absurd hbit (by simp [start])
  obtain ⟨-, -, ⟨events, htrace, hevents⟩, -⟩ := tracks_run script hstart
  have htrace' : (script.run start).trace = events := htrace
  rw [htrace', hevents]
  exact ⟨And.left, fun hgood => ⟨hgood, by simp [Open, start]⟩⟩

/-- Client 3 disconnects; a handler drops it once more, and asks for its information when
its slot has become free. -/
def dropsTwice : Script Unit :=
  .disconnect 3 "quit" (.disconnect 3 "was kicked." .done .none
    (.playerInfo 3 (some .csFree) () .done)) .none .done

theorem dropsTwice_refused :
    ¬(∀ e ∈ (dropsTwice.run start).trace, e.Conforms) ∧
      .answered [3] 3 (.ok none) ∈ (dropsTwice.run start).trace := by
  have hrefused : .answered [3] 3 (.ok none) ∈ (dropsTwice.run start).trace := by decide
  exact ⟨fun h => h _ hrefused 3 (by decide) rfl rfl, hrefused⟩

end Script
end ShinQlx
