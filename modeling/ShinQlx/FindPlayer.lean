import ShinQlx.ClientId
import ShinQlx.TagRegex

/-! # Names and searches for them

Names are compared, and searched for a text, without their colour tags and in lower case.
`clean_text` leaves the tags out once, so that what was around one can come to be a tag, which
is left out when the cleaned name is cleaned again.

`namesAndSearch_iff` says for which texts and players a name is found by its cleaned name, as
by all that the search promises.
-/
namespace ShinQlx

/-- What a search for names finds; no letters are lowered to none. -/
structure SearchWorld extends ClientIdWorld where
  toLowercase_empty : toLowercase "" = ""

namespace FindPlayer

open ClientId ColorToken

/-- The players that are searched: the given ones, or all of them. -/
def players (w : ClientIdWorld) (playerList : Option (List Player)) : List Player :=
  playerList.getD (w.allPlayers.unwrapOr [])

/-- `get_clean_name`. -/
def getCleanName (p : Player) : String := cleanText p.name

/-- `Plugin::find_player`. -/
def findPlayer (w : ClientIdWorld) (name : String) (playerList : Option (List Player)) :
    List Player :=
  let players := players w playerList
  if name = "" then players
  else
    let cleanedText := w.toLowercase (cleanText name)
    players.filter fun player => Text.contains (w.toLowercase (cleanText player.name)) cleanedText

/-- `Plugin::colored_name`. -/
def coloredName (w : ClientIdWorld) (pick : Nat) (name : ClientArg)
    (playerList : Option (List Player)) : Option String :=
  match name with
  | .player p => some p.name
  | name =>
    let cleanName := w.toLowercase (cleanText name.toString)
    (findAny pick (fun player => w.toLowercase (cleanText player.name) = cleanName)
      (players w playerList)).map (·.name)

/-- **What cleaning a text should do**: no tag is left, cleaning again changes nothing, and
nothing but the tags is left out. -/
structure CleansText (text : String) : Prop where
  noTag : ¬ HasTag (cleanText text).toList
  idempotent : cleanText (cleanText text) = cleanText text
  keeps : WithoutTags text.toList (cleanText text).toList

/-- **What a search should do**, for a text and the players that are searched: the text and the
names of the players are cleaned, each player is found by its cleaned name, and the one that
`client_id` finds by its name is found by the text; the cleaned name of who is found contains
the cleaned text, in lower case. -/
structure NamesAndSearch (w : ClientIdWorld) (text : String) (playerList : Option (List Player)) :
    Prop where
  cleans : ∀ t ∈ text :: (players w playerList).map (·.name), CleansText t
  ownName : ∀ p ∈ players w playerList, p ∈ findPlayer w (getCleanName p) playerList
  exactMatch : ∀ pick id, idOf (.str text) = none → numberOf 64 (.str text) = none →
    clientId w pick (.str text) playerList = some id →
    ∃ p ∈ findPlayer w text playerList, p.id = id
  found : ∀ p ∈ findPlayer w text playerList,
    Text.contains (cleanName w p.name) (cleanName w text) = true

/-! ## Cleaning a text -/

theorem toList_cleanText (text : String) : (cleanText text).toList = strip text.toList :=
  String.toList_ofList

/-- `clean_text` replaces what its expression finds by nothing. -/
theorem cleanText_eq_replaceAll (text : String) :
    cleanText text = Regex.replaceAll tagRegex "" text :=
  congrArg String.ofList (replaceFrom_tagRegex none text.toList).symm

/-- **A text is cleaned iff** no caret in it has tags and a digit behind it. -/
theorem cleansText_iff (text : String) : CleansText text ↔ ¬ FormsTag text.toList := by
  rw [← hasTag_strip_iff, ← toList_cleanText]
  constructor
  · exact fun h => h.noTag
  · intro h
    refine ⟨h, ?_, withoutTags_iff.mpr (toList_cleanText text)⟩
    rw [← String.toList_inj, toList_cleanText]
    exact strip_eq_self_iff.mpr h

/-! ## The searches -/

section search
variable {w : ClientIdWorld} {playerList : Option (List Player)}

theorem contains_self (s : String) : Text.contains s s = true :=
  decide_eq_true (List.infix_refl s.toList)

/-- A player whose cleaned name is the cleaned text in lower case is found. -/
theorem mem_findPlayer {name : String} {p : Player} (hp : p ∈ players w playerList)
    (h : cleanName w p.name = cleanName w name) : p ∈ findPlayer w name playerList := by
  rw [findPlayer]
  split
  · exact hp
  · refine List.mem_filter.mpr ⟨hp, ?_⟩
    show Text.contains (cleanName w p.name) (cleanName w name) = true
    rw [h]
    exact contains_self _

/-- Who a search by name comes up with is found. -/
theorem mem_findPlayer_of_findAny {pick : Nat} {text : String} {p : Player}
    (h : findAny pick (fun player => cleanName w player.name = cleanName w text)
      (players w playerList) = some p) : p ∈ findPlayer w text playerList := by
  obtain ⟨hp, hname⟩ := mem_of_findAny h
  exact mem_findPlayer hp (of_decide_eq_true hname)

/-- What `client_id` finds by a name is found by that name. -/
theorem exists_mem_findPlayer {pick : Nat} {text : String} {id : Int}
    (hid : idOf (.str text) = none) (hnumber : numberOf 64 (.str text) = none)
    (h : clientId w pick (.str text) playerList = some id) :
    ∃ p ∈ findPlayer w text playerList, p.id = id := by
  have hplayers : clientId w pick (.str text) playerList =
      clientId w pick (.str text) (some (players w playerList)) := rfl
  rw [hplayers, clientId_of_str hid hnumber] at h
  obtain ⟨p, hfound, rfl⟩ := Option.map_eq_some_iff.mp h
  exact ⟨p, mem_findPlayer_of_findAny hfound, rfl⟩

/-- The name that `colored_name` finds is that of a player that is found. -/
theorem exists_coloredName {pick : Nat} {text name : String}
    (h : coloredName w pick (.str text) playerList = some name) :
    ∃ p ∈ findPlayer w text playerList, p.name = name := by
  obtain ⟨p, hfound, rfl⟩ := Option.map_eq_some_iff.mp h
  exact ⟨p, mem_findPlayer_of_findAny hfound, rfl⟩

end search

/-- Who is found has the text in its name. -/
theorem contains_of_mem_findPlayer {w : SearchWorld} {playerList : Option (List Player)}
    {text : String} {p : Player} (h : p ∈ findPlayer w.toClientIdWorld text playerList) :
    Text.contains (cleanName w.toClientIdWorld p.name) (cleanName w.toClientIdWorld text) =
      true := by
  rw [findPlayer] at h
  split at h
  next hempty =>
    obtain rfl := hempty
    have hnothing : cleanName w.toClientIdWorld "" = "" := w.toLowercase_empty
    rw [hnothing]
    exact decide_eq_true (List.nil_infix)
  next => exact (List.mem_filter.mp h).2

/-- **Names are cleaned and found iff** no caret of the text or of a name has tags and a digit
behind it. -/
theorem namesAndSearch_iff (w : SearchWorld) (text : String)
    (playerList : Option (List Player)) :
    NamesAndSearch w.toClientIdWorld text playerList ↔
      ∀ t ∈ text :: (players w.toClientIdWorld playerList).map (·.name),
        ¬ FormsTag t.toList := by
  constructor
  · exact fun h t ht => (cleansText_iff t).mp (h.cleans t ht)
  · intro h
    have hcleans := fun t ht => (cleansText_iff t).mpr (h t ht)
    refine ⟨hcleans, fun p hp => ?_, fun pick id hid hnumber => exists_mem_findPlayer hid hnumber,
      fun p hp => contains_of_mem_findPlayer hp⟩
    have hname := hcleans p.name (List.mem_cons_of_mem text (List.mem_map_of_mem hp))
    refine mem_findPlayer hp ?_
    rw [cleanName, cleanName, getCleanName, hname.idempotent]

/-- Letters as they are. -/
def lowerWorld : SearchWorld := ⟨⟨id, .ok []⟩, rfl⟩

/-- A player is not found by the name `a^1b`, to which `a^^11b` is cleaned. -/
theorem not_namesAndSearch_formed :
    ¬ NamesAndSearch lowerWorld.toClientIdWorld "a" (some [playerNamed 3 "a^^11b"]) := by
  intro h
  exact absurd (h.ownName (playerNamed 3 "a^^11b") List.mem_cons_self) (by decide)

end FindPlayer
end ShinQlx
