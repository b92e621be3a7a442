import ShinQlx.ArrayVec
import ShinQlx.CurrentLevel
import ShinQlx.FreeClients
import ShinQlx.ReplyLength
import ShinQlx.Run

/-! # Turning a client away

When a client connects, the handlers can turn it away with a message.  The engine is handed a
pointer to a buffer that belongs to the client, with room for `MAX_STRING_CHARS` bytes; the
message is copied to it, and a zero is put behind.  A message that does not leave room for the
zero panics.

`refusal_iff` says which messages reach the client.
-/
namespace ShinQlx

/-- `MAX_STRING_CHARS`. -/
def maxStringChars : Nat := 1024

/-- `CLIENT_CONNECT_BUFFER`. -/
abbrev ConnectBuffers := ClientId → ArrayVec UInt8 maxStringChars

/-- What the engine gets: a pointer to the buffer of a client, what its own function returns,
or a panic. -/
inductive ConnectEnd where
  | buffer (client : ClientId)
  | engine (reason : Option String)
  | panicked
  deriving DecidableEq

/-- What a connect finds: whether the interpreter is initialised, what becomes of the event,
and the function of the engine. -/
structure ConnectWorld (I : Type) where
  pyshinqlxIsInitialized : Bool
  handlePlayerConnect : ClientId → Bool → FreeClients I → PyValue × FreeClients I
  clientConnect : ClientId → Bool → Bool → Option String

namespace ClientConnect

/-- `to_return_string`. -/
def toReturnString (client : ClientId) (input : String) (buffers : ConnectBuffers) :
    ConnectEnd × ConnectBuffers :=
  match ArrayVec.collect maxStringChars (utf8Bytes input) with
  | none => (.panicked, buffers)
  | some text =>
    let buffers := Function.update buffers client text
    match text.push 0 with
    | none => (.panicked, buffers)
    | some text => (.buffer client, Function.update buffers client text)

section world
variable {I : Type} (w : ConnectWorld I) (client : ClientId)

/-- `shinqlx_client_connect`. -/
def shinqlxClientConnect (firstTime isBot : Bool) (s : FreeClients I × ConnectBuffers) :
    ConnectEnd × FreeClients I × ConnectBuffers :=
  if firstTime then
    let (res, clients) := FreeClients.clientConnectDispatcher w.pyshinqlxIsInitialized
      w.handlePlayerConnect client isBot s.1
    match res, isBot with
    | some res, false =>
      let (result, buffers) := toReturnString client res s.2
      (result, clients, buffers)
    | _, _ => (.engine (w.clientConnect client firstTime isBot), clients, s.2)
  else (.engine (w.clientConnect client firstTime isBot), s)

/-- The message that the handlers turn a client away with. -/
def refusal (s : FreeClients I × ConnectBuffers) : Option String :=
  (FreeClients.clientConnectDispatcher w.pyshinqlxIsInitialized w.handlePlayerConnect client
    false s.1).1

end world

/-- A message that leaves room for a zero. -/
def Fits (msg : String) : Prop := (utf8Bytes msg).length < maxStringChars

/-- **What should become of a message**: the engine gets the buffer of the client, with the
message, as much of it as fits, and a zero behind it, and the other buffers are as they were. -/
structure Reaches (client : ClientId) (msg : String) (before : ConnectBuffers)
    (call : ConnectEnd × ConnectBuffers) : Prop where
  returned : call.1 = .buffer client
  text : (call.2 client).toList = (utf8Bytes msg).take (maxStringChars - 1) ++ [0]
  others : ∀ c, c ≠ client → call.2 c = before c

/-- The message of the handlers reaches a client that connects for the first time. -/
def RefusalReaches {I : Type} (w : ConnectWorld I) (client : ClientId)
    (s : FreeClients I × ConnectBuffers) : Prop :=
  ∀ msg, refusal w client s = some msg →
    Reaches client msg s.2 ((shinqlxClientConnect w client true false s).1,
      (shinqlxClientConnect w client true false s).2.2)

/-- Clients are turned away one after the other. -/
def refuse (buffers : ConnectBuffers) (r : ClientId × String) : ConnectEnd × ConnectBuffers :=
  toReturnString r.1 r.2 buffers

/-! ## One message -/

section message
variable {client : ClientId} {msg : String} {before : ConnectBuffers}

/-- A message that fits is handed over in full. -/
theorem reaches_of_fits (h : Fits msg) :
    Reaches client msg before (toReturnString client msg before) := by
  rw [Fits] at h
  obtain ⟨text, htext⟩ := ArrayVec.exists_collect (Nat.le_of_lt h)
  have hlist := ArrayVec.collect_eq_some_iff.mp htext
  have hlength : (text.toList ++ [0]).length ≤ maxStringChars := by
    rw [hlist, List.length_append, List.length_singleton]
    omega
  obtain ⟨ended, hended⟩ := ArrayVec.exists_collect hlength
  have hcall : toReturnString client msg before =
      (.buffer client, Function.update (Function.update before client text) client ended) := by
    rw [toReturnString, htext]
    dsimp only
    rw [ArrayVec.push, hended]
  have htake : (utf8Bytes msg).take (maxStringChars - 1) = utf8Bytes msg :=
    List.take_of_length_le (by omega)
  rw [hcall]
  refine ⟨rfl, ?_, fun c hc => ?_⟩
  · dsimp only
    rw [htake, Function.update_self, ArrayVec.collect_eq_some_iff.mp hended, hlist]
  · dsimp only
    rw [Function.update_of_ne hc, Function.update_of_ne hc]

/-- Any other message panics. -/
theorem panicked_of_not_fits (h : ¬ Fits msg) :
    (toReturnString client msg before).1 = .panicked := by
  rw [Fits] at h
  rw [toReturnString]
  cases htext : ArrayVec.collect maxStringChars (utf8Bytes msg) with
  | none => rfl
  | some text =>
    have hlist := ArrayVec.collect_eq_some_iff.mp htext
    have hlength : maxStringChars < (text.toList ++ [0]).length := by
      rw [hlist, List.length_append, List.length_singleton]
      omega
    dsimp only
    rw [ArrayVec.push, ArrayVec.collect_eq_none hlength]

theorem reaches_iff : Reaches client msg before (toReturnString client msg before) ↔ Fits msg := by
  constructor
  · intro h
    by_contra hlong
    have hreturned := h.returned
    rw [panicked_of_not_fits hlong] at hreturned
    cases hreturned
  · exact reaches_of_fits

end message

theorem shinqlxClientConnect_of_refusal {I : Type} {w : ConnectWorld I} {client : ClientId}
    {s : FreeClients I × ConnectBuffers} {msg : String} (h : refusal w client s = some msg) :
    ((shinqlxClientConnect w client true false s).1,
      (shinqlxClientConnect w client true false s).2.2) = toReturnString client msg s.2 := by
  rw [refusal] at h
  rw [shinqlxClientConnect, if_pos rfl]
  dsimp only
  rw [h]

theorem refusalReaches_iff {I : Type} (w : ConnectWorld I) (client : ClientId)
    (s : FreeClients I × ConnectBuffers) :
    RefusalReaches w client s ↔ ∀ msg, refusal w client s = some msg → Fits msg := by
  refine forall_congr' fun msg => forall_congr' fun h => ?_
  rw [shinqlxClientConnect_of_refusal h]
  exact reaches_iff

/-! ## One message after the other -/

section run
variable {before : ConnectBuffers} {refusals : List (ClientId × String)}

/-- Every message of a run reaches its client iff all of them fit. -/
theorem reaches_run_iff :
    (∀ st ∈ Run.steps refuse before refusals,
      Reaches st.call.1 st.call.2 st.before (st.result, st.after)) ↔
      ∀ r ∈ refusals, Fits r.2 := by
  induction refusals generalizing before with
  | nil => exact iff_of_true nofun nofun
  | cons r refusals ih =>
    rw [Run.steps_cons, List.forall_mem_cons, List.forall_mem_cons, ih]
    exact and_congr_left fun _ => reaches_iff

/-- What a run leaves in the buffer of a client: the last message to it. -/
theorem final_buffer (h : ∀ r ∈ refusals, Fits r.2) (client : ClientId) :
    (Run.final refuse before refusals client).toList =
      match (refusals.filter (·.1 = client)).getLast? with
      | none => (before client).toList
      | some r => utf8Bytes r.2 ++ [0] := by
  induction refusals using List.reverseRecOn with
  | nil => rfl
  | append_singleton refusals r ih =>
    have hfits : Fits r.2 := h r (by simp)
    have hbefore := ih fun q hq => h q (List.mem_append_left _ hq)
    have hreaches : Reaches r.1 r.2 (Run.final refuse before refusals)
        (refuse (Run.final refuse before refusals) r) := reaches_of_fits hfits
    rw [Run.final_append, Run.final_cons, Run.final_nil, List.filter_append]
    by_cases hclient : r.1 = client
    · have htake : (utf8Bytes r.2).take (maxStringChars - 1) = utf8Bytes r.2 := by
        rw [Fits] at hfits
        exact List.take_of_length_le (by omega)
      have htext := hreaches.text
      rw [hclient, htake] at htext
      rw [htext]
      simp [hclient]
    · rw [hreaches.others client fun heq => hclient heq.symm, hbefore]
      simp [hclient]

end run

/-- **Which messages reach the client**: those that are shorter than `MAX_STRING_CHARS`, for
whatever the handlers say, and in any run. -/
theorem refusal_iff {I : Type} (w : ConnectWorld I) (client : ClientId)
    (s : FreeClients I × ConnectBuffers) (msg : String) (before : ConnectBuffers)
    (refusals : List (ClientId × String)) :
    (Reaches client msg before (toReturnString client msg before) ↔ Fits msg) ∧
    (RefusalReaches w client s ↔ ∀ msg, refusal w client s = some msg → Fits msg) ∧
    ((∀ st ∈ Run.steps refuse before refusals,
        Reaches st.call.1 st.call.2 st.before (st.result, st.after)) ↔
      ∀ r ∈ refusals, Fits r.2) :=
  ⟨reaches_iff, refusalReaches_iff w client s, reaches_run_iff⟩

theorem length_utf8Bytes (s : String) : (utf8Bytes s).length = s.utf8ByteSize :=
  Array.length_toList ..

/-- A message that takes up the whole buffer does not reach the client. -/
theorem not_reaches_full :
    ¬ Reaches 0 (ChatReply.fullLine 1024) (fun _ => .empty)
      (toReturnString 0 (ChatReply.fullLine 1024) fun _ => .empty) := by
  intro h
  have hfits := reaches_iff.mp h
  rw [Fits, length_utf8Bytes, ChatReply.utf8ByteSize_fullLine] at hfits
  exact absurd hfits (Nat.lt_irrefl 1024)

end ClientConnect
end ShinQlx
