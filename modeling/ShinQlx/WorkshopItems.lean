import ShinQlx.GameStart
import ShinQlx.NumberList

/-! # Workshop items

The ids of the workshop items are a configstring of the engine, with blanks between them.  What is
set is read in a buffer of 1024 bytes, and what is no number is left out.

`workshopItems_kept` says what is read of items that were set, after any run of games and restarts:
all of them exactly if their text fits; otherwise the last ones are missing, and an id that is cut
off is read as that of another item.  Items that were read can be set again.
-/
namespace ShinQlx

/-- `CS_STEAM_WORKSHOP_IDS`. -/
def csSteamWorkshopIds : Nat := 715

namespace GameServer
variable {M : Type}

/-- `get_workshop_items`. -/
def getWorkshopItems (engine : Bool) (s : GameServer M) : PyResult (List Nat) :=
  if engine then
    .ok ((Text.split ' ' (getConfigstring csSteamWorkshopIds s)).filterMap (NumberList.parseUInt 64))
  else .error (.environmentError "main quake live engine not set")

/-- `set_workshop_items`; the argument is the texts of its items, if it is a sequence. -/
def setWorkshopItems (engine : Bool) (value : Option (List String)) (s : GameServer M) :
    PyResult Unit × GameServer M :=
  match value with
  | none => (.error (.valueError "The value needs to be an iterable."), s)
  | some newWorkshopItems =>
    if engine then
      (.ok (), setConfigstring csSteamWorkshopIds (" ".intercalate newWorkshopItems) s)
    else (.error (.environmentError "main quake live engine not set"), s)

/-- The text of ids. -/
def idText (ids : List Nat) : String := NumberList.write " " ids

/-- Nothing else sets the workshop items. -/
def KeepsItems : GameServerCall M → Prop
  | .initGame _ original _ => ∀ cs, original.configstrings cs csSteamWorkshopIds =
      cs csSteamWorkshopIds
  | .server w => ∀ cs, w.configstrings cs csSteamWorkshopIds = cs csSteamWorkshopIds
  | _ => True

/-- What is read after items were set and a run in which nothing else sets them. -/
def itemsAfter (version : String) (s : GameServer M) (calls : List (GameServerCall M))
    (newWorkshopItems : List String) : PyResult (List Nat) :=
  getWorkshopItems true
    (Run.final (step version) (setWorkshopItems true (some newWorkshopItems) s).2 calls)

/-- What is read of workshop items. -/
structure ItemsKept (version : String) (s : GameServer M)
    (calls : List (GameServerCall M)) : Prop where
  texts : ∀ texts, Fits (" ".intercalate texts) → itemsAfter version s calls texts =
    .ok (texts.flatMap fun text => (Text.split ' ' text).filterMap (NumberList.parseUInt 64))
  ids : ∀ ids : List Nat, (∀ id ∈ ids, id < 2 ^ 64) →
    (itemsAfter version s calls (ids.map toString) = .ok ids ↔
      (idText ids).toList.length ≤ 1023)
  cutOff : ∀ ids : List Nat, (∀ id ∈ ids, id < 2 ^ 64) → 1023 < (idText ids).toList.length →
    ∃ kept id lost, ids = kept ++ id :: lost ∧
      (itemsAfter version s calls (ids.map toString) = .ok kept ∨
        ∃ m, 0 < m ∧ 10 ^ m ≤ id ∧
          itemsAfter version s calls (ids.map toString) = .ok (kept ++ [id / 10 ^ m]))
  again : ∀ ids, getWorkshopItems true s = .ok ids →
    itemsAfter version s calls (ids.map toString) = .ok ids
  refused : ∀ engine value, (setWorkshopItems engine value s).1 ≠ .ok () →
    (setWorkshopItems engine value s).2 = s

section items
variable {version : String} {s : GameServer M} {call : GameServerCall M}

/-- No game sets the workshop items. -/
theorem items_step (h : KeepsItems call) :
    (step version s call).2.configstrings csSteamWorkshopIds =
      s.configstrings csSteamWorkshopIds := by
  have hbase : changed s.configstrings call csSteamWorkshopIds =
      s.configstrings csSteamWorkshopIds := by
    cases call with
    | initGame restart original env => exact h _
    | server w => exact h _
    | spawned | pyshinqlxInitialize | pyrestart | plugins => rfl
  rw [(stepped version s call).configstrings, ← hbase]
  cases announced s.python call with
  | none => rfl
  | some env =>
    have hauthor : csSteamWorkshopIds ≠ csAuthor := by decide
    have hauthor2 : csSteamWorkshopIds ≠ csAuthor2 := by decide
    rw [Option.elim_some, noticed, Function.update_of_ne hauthor2, Function.update_of_ne hauthor]

theorem items_final (s : GameServer M) (calls : List (GameServerCall M))
    (h : ∀ call ∈ calls, KeepsItems call) :
    (Run.final (step version) s calls).configstrings csSteamWorkshopIds =
      s.configstrings csSteamWorkshopIds := by
  induction calls generalizing s with
  | nil => rfl
  | cons call calls ih =>
    obtain ⟨hcall, hcalls⟩ := List.forall_mem_cons.mp h
    rw [Run.final_cons, ih _ hcalls, items_step hcall]

/-- A text without a NUL is read after the run as it is after it was set. -/
theorem itemsAfter_eq (calls : List (GameServerCall M)) (h : ∀ call ∈ calls, KeepsItems call)
    {newWorkshopItems : List String} (hnul : '\x00' ∉ (" ".intercalate newWorkshopItems).toList) :
    itemsAfter version s calls newWorkshopItems =
      .ok (NumberList.read 64 ' ' (readText (" ".intercalate newWorkshopItems))) := by
  have hset : (setWorkshopItems true (some newWorkshopItems) s).2.configstrings csSteamWorkshopIds =
      " ".intercalate newWorkshopItems := by
    show (setConfigstring csSteamWorkshopIds (" ".intercalate newWorkshopItems) s).configstrings
      csSteamWorkshopIds = _
    rw [setConfigstring, if_neg hnul]
    dsimp only
    exact if_pos rfl
  rw [itemsAfter, getWorkshopItems, if_pos rfl, getConfigstring, items_final _ calls h, hset]
  rfl

/-- The text of ids has digits and blanks. -/
theorem mem_idText {ids : List Nat} {c : Char} (hc : c ∈ (idText ids).toList) :
    c = ' ' ∨ c.isDigit = true := by
  by_cases hblank : c = ' '
  · exact .inl hblank
  · rw [idText, NumberList.write, String.toList_intercalate] at hc
    obtain ⟨cs, hcs, hmem⟩ := (Text.mem_intercalate hblank _).mp hc
    obtain ⟨text, htext, rfl⟩ := List.mem_map.mp hcs
    obtain ⟨id, -, rfl⟩ := List.mem_map.mp htext
    exact .inr (NumberList.isDigit_of_mem_toString hmem)

theorem notMem_idText (ids : List Nat) : '\x00' ∉ (idText ids).toList := by
  intro hmem
  rcases mem_idText hmem with h | h
  · exact absurd h (by decide)
  · exact absurd h (by decide)

/-- Ids are read as far as there is room. -/
theorem readText_idText (ids : List Nat) :
    readText (idText ids) = String.ofList ((idText ids).toList.take 1023) := by
  refine congrArg String.ofList (ByteText.truncate_of_one_byte (fun c hc => ?_) 1023)
  rcases mem_idText hc with rfl | hdigit
  · rfl
  · have hle : c.toNat ≤ 57 := (Char.isDigit_iff_toNat.mp hdigit).2
    exact Char.utf8Size_eq_one_iff.mpr (UInt32.le_iff_toNat_le.mpr (Nat.le_trans hle (by decide)))

theorem itemsAfter_ids (calls : List (GameServerCall M)) (h : ∀ call ∈ calls, KeepsItems call)
    (ids : List Nat) :
    itemsAfter version s calls (ids.map toString) =
      .ok (NumberList.read 64 ' ' (String.ofList ((idText ids).toList.take 1023))) := by
  rw [itemsAfter_eq calls h (notMem_idText ids)]
  show Except.ok (NumberList.read 64 ' ' (readText (idText ids))) = _
  rw [readText_idText]

/-- Ids whose text fits are read back. -/
theorem itemsAfter_of_length_le {calls : List (GameServerCall M)}
    (h : ∀ call ∈ calls, KeepsItems call) {ids : List Nat} (hids : ∀ id ∈ ids, id < 2 ^ 64)
    (hlength : (idText ids).toList.length ≤ 1023) :
    itemsAfter version s calls (ids.map toString) = .ok ids := by
  rw [itemsAfter_ids calls h, List.take_of_length_le hlength, String.ofList_toList, idText,
    NumberList.read_write rfl rfl hids]

/-- Of ids whose text does not fit the last ones are missing. -/
theorem itemsAfter_of_lt_length {calls : List (GameServerCall M)}
    (h : ∀ call ∈ calls, KeepsItems call) {ids : List Nat} (hids : ∀ id ∈ ids, id < 2 ^ 64)
    (hlength : 1023 < (idText ids).toList.length) :
    ∃ kept id lost, ids = kept ++ id :: lost ∧
      (itemsAfter version s calls (ids.map toString) = .ok kept ∨
        ∃ m, 0 < m ∧ 10 ^ m ≤ id ∧
          itemsAfter version s calls (ids.map toString) = .ok (kept ++ [id / 10 ^ m])) := by
  have hback : (idText ids).toList.drop 1023 ≠ [] := by
    intro hnil
    exact absurd (List.drop_eq_nil_iff.mp hnil) (Nat.not_le_of_lt hlength)
  obtain ⟨kept, id, lost, hsplit, hread⟩ := NumberList.read_front rfl rfl hids hback
    (List.take_append_drop 1023 (idText ids).toList).symm
  rw [itemsAfter_ids calls h]
  refine ⟨kept, id, lost, hsplit, hread.imp (congrArg _) ?_⟩
  rintro ⟨m, hpos, hle, hread⟩
  exact ⟨m, hpos, hle, congrArg _ hread⟩

/-- Ids that were read fit. -/
theorem length_idText_le {ids : List Nat} (h : getWorkshopItems true s = .ok ids) :
    (∀ id ∈ ids, id < 2 ^ 64) ∧ (idText ids).toList.length ≤ 1023 := by
  rw [getWorkshopItems, if_pos rfl] at h
  obtain rfl := Except.ok.inj h
  refine ⟨fun id hid => ?_, ?_⟩
  · obtain ⟨piece, -, hpiece⟩ := List.mem_filterMap.mp hid
    exact NumberList.lt_of_parseUInt hpiece
  · refine Nat.le_trans (NumberList.length_write_read_le rfl _) ?_
    rw [getConfigstring, readText, String.toList_ofList]
    exact ByteText.length_truncate_le 1023 _

end items

/-- **Workshop items.**  After any run in which nothing else sets them, all that is a number among
the pieces of the texts that were set is read if they fit; ids are read back exactly if their text
has at most 1023 characters, and otherwise the last of them are missing and at most one is read as
the id that its leading digits make; what was read at first can be set again; and a call that is
refused sets nothing. -/
theorem workshopItems_kept (version : String) (s : GameServer M)
    (calls : List (GameServerCall M)) (h : ∀ call ∈ calls, KeepsItems call) :
    ItemsKept version s calls := by
  refine ⟨?_, ?_, ?_, ?_, ?_⟩
  · intro texts hfits
    rw [itemsAfter_eq calls h hfits.2, readText_of_fits hfits, NumberList.read_intercalate rfl]
    rfl
  · intro ids hids
    constructor
    · intro hread
      by_contra hlong
      obtain ⟨kept, id, lost, rfl, hcut⟩ :=
        itemsAfter_of_lt_length (s := s) h hids (Nat.lt_of_not_le hlong)
      rw [hread] at hcut
      rcases hcut with hcut | ⟨m, hpos, hle, hcut⟩
      · have hlength := congrArg List.length (Except.ok.inj hcut)
        rw [List.length_append, List.length_cons] at hlength
        omega
      · obtain ⟨hid, -⟩ := List.cons.inj (List.append_cancel_left (Except.ok.inj hcut))
        have hten : 1 < 10 ^ m := Nat.one_lt_pow (Nat.ne_of_gt hpos) (by decide)
        have hlt := Nat.div_lt_self (Nat.lt_of_lt_of_le (Nat.pow_pos (by decide)) hle) hten
        omega
    · exact itemsAfter_of_length_le h hids
  · exact fun ids hids => itemsAfter_of_lt_length h hids
  · intro ids hread
    obtain ⟨hids, hlength⟩ := length_idText_le hread
    exact itemsAfter_of_length_le h hids hlength
  · intro engine value hrefused
    cases value with
    | none => rfl
    | some newWorkshopItems =>
      cases engine with
      | false => rfl
      | true => exact absurd rfl hrefused

/-- Two items are kept when the map changes and Python is initialised. -/
theorem workshopItems_kept_mapChange :
    itemsAfter "1.0" ⟨none, fun _ => "", none, none, none, PyServer.start ()⟩
      [.server ⟨id, fun cs => Function.update cs csMessage "Campgrounds"⟩,
        .pyshinqlxInitialize (.ok ())]
      ([547252823, 1733859113].map toString) = .ok [547252823, 1733859113] := by
  refine ((workshopItems_kept "1.0" _ _ ?_).ids _ (by decide)).mpr (by decide)
  intro call hcall
  rcases List.mem_pair.mp hcall with rfl | rfl
  · have hne : csSteamWorkshopIds ≠ csMessage := by decide
    exact fun cs => Function.update_of_ne hne "Campgrounds" cs
  · trivial

end GameServer
end ShinQlx
