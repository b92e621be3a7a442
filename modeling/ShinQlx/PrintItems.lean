import ShinQlx.ArrayVec
import ShinQlx.ItemGame
import ShinQlx.Parallel
import ShinQlx.Text

/-! # Printing the items of a map

`dev_print_items` makes an entry of each entity that is an item.  It sends the first ones in one
server command, as long as the lengths of the entries come to less than 1024, and prints the
others to the console, in parallel.  The length of the command is that of the entries with line
feeds between them, and some more.

`reportsItems_iff` says for which items this reports each once and in order.
-/
namespace ShinQlx

/-- A command that `dev_print_items` sends to everybody. -/
inductive ItemsCommand where
  | listing (items : List String)
  | noItems
  | otherItems
  deriving DecidableEq

namespace ItemsCommand

/-- The text of a command. -/
def text : ItemsCommand → String
  | .listing items => "print \"" ++ "\n".intercalate items ++ "\n\""
  | .noItems => "print \"No items found in the map\n\""
  | .otherItems => "print \"Check server console for other items\n\"\n"

/-- The entries in a command. -/
def items : ItemsCommand → List String
  | .listing items => items
  | .noItems | .otherItems => []

end ItemsCommand

/-- What `dev_print_items` does: its result, the commands that it sends, and the entries that it
prints in parallel. -/
structure ItemsPrint where
  result : PyResult Unit
  commands : List ItemsCommand
  remaining : List String

namespace PrintItems

/-- The entry of an entity. -/
def entry (entityId : Int) (e : GameEntity) : String := toString entityId ++ " " ++ e.classname

/-- The entry of an entity, if it is an item. -/
def entryOf (g : ItemGame) (i : Nat) : Option String :=
  ((g.entity i).filter (·.isUsedItem)).map (entry i)

/-- The entries of the items. -/
def formattedItems (g : ItemGame) : List String :=
  (List.range maxGentities).filterMap (entryOf g)

/-- The first entries, as long as their lengths come to less than 1024. -/
def takeShort : Nat → List String → List String
  | _, [] => []
  | strLength, item :: items =>
    let strLength := strLength + item.utf8ByteSize
    if strLength < 1024 then item :: takeShort strLength items else []

/-- `dev_print_items`. -/
def devPrintItems (g : ItemGame) : ItemsPrint :=
  let formatted := formattedItems g
  let printed := takeShort 0 formatted
  if g.engine then
    if printed = [] then ⟨.ok (), [.noItems], []⟩
    else
      let remaining := formatted.drop printed.length
      ⟨.ok (), .listing printed :: if remaining = [] then [] else [.otherItems], remaining⟩
  else ⟨.error (.environmentError "main quake live engine not set"), [], []⟩

/-- **What printing should do**: the entries of the commands and of the console are those of the
items, in their order, each command is short enough, and no items are reported only where there
are none. -/
structure ReportsItems (g : ItemGame) (commands : List ItemsCommand) (console : List String) :
    Prop where
  items : commands.flatMap ItemsCommand.items ++ console = formattedItems g
  short : ∀ c ∈ commands, c.text.utf8ByteSize < 1024
  noItems : .noItems ∈ commands → formattedItems g = []

/-- The items are reported in whatever order the console gets its entries. -/
def AlwaysReports (g : ItemGame) : Prop :=
  g.engine = true → ∀ console, Parallel.ForEach (devPrintItems g).remaining console →
    ReportsItems g (devPrintItems g).commands console

/-- The length of entries. -/
def total (items : List String) : Nat := (items.map String.utf8ByteSize).sum

/-- There are no entries; or some first ones leave room for a line feed each and eight bytes
more, and at most one is left over, which makes them too long. -/
def Packed (items : List String) : Prop :=
  items = [] ∨ ∃ first rest, items = first ++ rest ∧ first ≠ [] ∧
    total first + first.length + 8 < 1024 ∧ rest.length ≤ 1 ∧
    ∀ item ∈ rest, 1024 ≤ total first + item.utf8ByteSize

/-! ## The entries -/

theorem not_mem_toString (i : Int) : ' ' ∉ (toString i).toList := by
  intro h
  rcases Text.mem_toString h with hplus | hminus | hdigit
  · exact absurd hplus (by decide)
  · exact absurd hminus (by decide)
  · exact absurd hdigit (by decide)

theorem toList_entry (i : Int) (e : GameEntity) :
    (entry i e).toList = (toString i).toList ++ ' ' :: e.classname.toList := by
  rw [entry, String.toList_append, String.toList_append, List.append_assoc]
  rfl

theorem entry_injective {i j : Int} {e f : GameEntity} (h : entry i e = entry j f) : i = j := by
  have hlist := congrArg String.toList h
  rw [toList_entry, toList_entry,
    Text.append_cons_inj (not_mem_toString i) (not_mem_toString j)] at hlist
  exact Text.toString_injective (String.toList_injective hlist.1)

/-- No two entries are the same. -/
theorem nodup_formattedItems (g : ItemGame) : (formattedItems g).Nodup := by
  have hdistinct : ∀ (n : Nat), ((List.range n).filterMap (entryOf g)).Nodup := by
    intro n
    refine List.Nodup.filterMap (fun i j b hi hj => ?_) List.nodup_range
    obtain ⟨e, -, rfl⟩ := Option.map_eq_some_iff.mp hi
    obtain ⟨f, -, heq⟩ := Option.map_eq_some_iff.mp hj
    exact Int.ofNat_inj.mp (entry_injective heq).symm
  exact hdistinct maxGentities

/-- There is room for the entries of all entities. -/
theorem collect_formattedItems (g : ItemGame) :
    ∃ items : ArrayVec String maxGentities,
      ArrayVec.collect maxGentities (formattedItems g) = some items := by
  have hlength : ∀ n, ((List.range n).filterMap (entryOf g)).length ≤ n := by
    intro n
    exact (List.length_filterMap_le ..).trans (Nat.le_of_eq List.length_range)
  exact ArrayVec.exists_collect (hlength maxGentities)

/-! ## The first entries -/

theorem total_cons (item : String) (items : List String) :
    total (item :: items) = item.utf8ByteSize + total items := rfl

/-- Entries that are followed by one that makes them too long are the first ones. -/
theorem takeShort_append {n : Nat} {first rest : List String}
    (h : first ≠ [] → n + total first < 1024)
    (hrest : ∀ item ∈ rest.head?, 1024 ≤ n + total first + item.utf8ByteSize) :
    takeShort n (first ++ rest) = first := by
  induction first generalizing n with
  | nil =>
    cases rest with
    | nil => rfl
    | cons item rest =>
      have hlong : 1024 ≤ n + 0 + item.utf8ByteSize := hrest item rfl
      rw [List.nil_append, takeShort]
      rw [if_neg (by omega)]
  | cons item first ih =>
    have hshort := h (List.cons_ne_nil item first)
    rw [total_cons] at hshort hrest
    rw [List.cons_append, takeShort]
    rw [if_pos (by omega), ih (fun _ => by omega) fun x hx => ?_]
    have := hrest x hx
    omega

/-- How the first entries are cut off. -/
theorem exists_takeShort (n : Nat) (items : List String) :
    ∃ rest, items = takeShort n items ++ rest ∧
      (takeShort n items ≠ [] → n + total (takeShort n items) < 1024) ∧
      ∀ item ∈ rest.head?, 1024 ≤ n + total (takeShort n items) + item.utf8ByteSize := by
  induction items generalizing n with
  | nil => exact ⟨[], rfl, fun h => absurd rfl h, nofun⟩
  | cons item items ih =>
    rw [takeShort]
    by_cases hshort : n + item.utf8ByteSize < 1024
    · rw [if_pos hshort]
      obtain ⟨rest, hitems, hfits, hrest⟩ := ih (n + item.utf8ByteSize)
      refine ⟨rest, congrArg (item :: ·) hitems, fun _ => ?_, fun x hx => ?_⟩
      · rw [total_cons]
        by_cases hnil : takeShort (n + item.utf8ByteSize) items = []
        · rw [hnil]
          have : total [] = 0 := rfl
          omega
        · have := hfits hnil
          omega
      · have := hrest x hx
        rw [total_cons]
        omega
    · rw [if_neg hshort]
      refine ⟨item :: items, rfl, fun h => absurd rfl h, fun x hx => ?_⟩
      obtain rfl := Option.some.inj hx
      have : total [] = 0 := rfl
      omega

/-- The length of entries with line feeds between them. -/
theorem utf8ByteSize_intercalate {items : List String} (h : items ≠ []) :
    ("\n".intercalate items).utf8ByteSize + 1 = total items + items.length := by
  induction items with
  | nil => exact absurd rfl h
  | cons item items ih =>
    cases items with
    | nil => simp [total]
    | cons next items =>
      have hnext := ih (List.cons_ne_nil next items)
      have hsize : ("\n" : String).utf8ByteSize = 1 := rfl
      rw [String.intercalate_cons_cons, String.utf8ByteSize_append, String.utf8ByteSize_append,
        hsize, total_cons, List.length_cons]
      omega

theorem utf8ByteSize_listing {items : List String} (h : items ≠ []) :
    (ItemsCommand.listing items).text.utf8ByteSize = total items + items.length + 8 := by
  have hjoined := utf8ByteSize_intercalate h
  have hfront : ("print \"" : String).utf8ByteSize = 7 := rfl
  have hback : ("\n\"" : String).utf8ByteSize = 2 := rfl
  rw [ItemsCommand.text, String.utf8ByteSize_append, String.utf8ByteSize_append, hfront, hback]
  omega

theorem short_otherItems : ItemsCommand.otherItems.text.utf8ByteSize < 1024 := by decide

theorem short_noItems : ItemsCommand.noItems.text.utf8ByteSize < 1024 := by decide

/-! ## The report -/

section report
variable {g : ItemGame} {first rest : List String}

theorem devPrintItems_of_nil (hengine : g.engine = true) (h : takeShort 0 (formattedItems g) = []) :
    devPrintItems g = ⟨.ok (), [.noItems], []⟩ := by
  rw [devPrintItems]
  dsimp only
  rw [if_pos hengine, if_pos h]

theorem devPrintItems_of_first (hengine : g.engine = true)
    (hitems : formattedItems g = first ++ rest) (h : takeShort 0 (formattedItems g) = first)
    (hfirst : first ≠ []) :
    devPrintItems g =
      ⟨.ok (), .listing first :: if rest = [] then [] else [.otherItems], rest⟩ := by
  have hdrop : (formattedItems g).drop first.length = rest := by
    rw [hitems, List.drop_left]
  rw [devPrintItems]
  dsimp only
  rw [if_pos hengine, h, if_neg hfirst, hdrop]

theorem flatMap_commands (first rest : List String) :
    (ItemsCommand.listing first :: if rest = [] then [] else [.otherItems]).flatMap
      ItemsCommand.items = first := by
  rw [List.flatMap_cons]
  split <;> simp [ItemsCommand.items]

/-- Each entry is in the command or on the console once, in some order. -/
theorem devPrintItems_perm (hengine : g.engine = true)
    (hitems : formattedItems g = first ++ rest) (h : takeShort 0 (formattedItems g) = first)
    (hfirst : first ≠ []) {console : List String}
    (hconsole : Parallel.ForEach (devPrintItems g).remaining console) :
    ((devPrintItems g).commands.flatMap ItemsCommand.items ++ console).Perm
      (formattedItems g) := by
  rw [devPrintItems_of_first hengine hitems h hfirst] at hconsole ⊢
  rw [flatMap_commands, hitems]
  exact hconsole.perm.append_left first

/-- The report of entries of which the first ones are sent. -/
theorem reports_iff_of_first (hengine : g.engine = true)
    (hitems : formattedItems g = first ++ rest) (h : takeShort 0 (formattedItems g) = first)
    (hfirst : first ≠ []) :
    AlwaysReports g ↔ total first + first.length + 8 < 1024 ∧ rest.length ≤ 1 := by
  have hcall := devPrintItems_of_first hengine hitems h hfirst
  constructor
  · intro hreports
    have hall := hreports hengine
    rw [hcall] at hall
    constructor
    · have hshort := (hall rest (.sequential rest)).short (.listing first) List.mem_cons_self
      rwa [utf8ByteSize_listing hfirst] at hshort
    · by_contra hlong
      have hdistinct : rest.Nodup := by
        have := nodup_formattedItems g
        rw [hitems] at this
        exact (List.nodup_append.mp this).2.1
      obtain ⟨console, hconsole, hne⟩ :=
        Parallel.exists_forEach_ne hdistinct (Nat.lt_of_not_le hlong)
      have hentries := (hall console hconsole).items
      rw [flatMap_commands, hitems] at hentries
      exact hne (List.append_cancel_left hentries)
  · rintro ⟨hshort, hone⟩ - console hconsole
    rw [hcall] at hconsole ⊢
    refine ⟨?_, fun c hc => ?_, fun hc => ?_⟩
    · rw [flatMap_commands, hconsole.eq_of_length_le_one hone, hitems]
    · rcases List.mem_cons.mp hc with rfl | hc
      · rw [utf8ByteSize_listing hfirst]
        exact hshort
      · split at hc
        · cases hc
        · rw [List.mem_singleton.mp hc]
          exact short_otherItems
    · rcases List.mem_cons.mp hc with hc | hc
      · cases hc
      · split at hc
        · cases hc
        · cases List.mem_singleton.mp hc

/-- The report when no entry is sent. -/
theorem reports_iff_of_nil (hengine : g.engine = true)
    (h : takeShort 0 (formattedItems g) = []) : AlwaysReports g ↔ formattedItems g = [] := by
  have hcall := devPrintItems_of_nil hengine h
  constructor
  · intro hreports
    have hnone := hreports hengine [] (by rw [hcall]; exact .sequential [])
    rw [hcall] at hnone
    exact hnone.noItems List.mem_cons_self
  · intro hnil _ console hconsole
    rw [hcall] at hconsole ⊢
    obtain rfl := hconsole.eq_of_length_le_one (Nat.zero_le 1)
    refine ⟨hnil.symm, fun c hc => ?_, fun _ => hnil⟩
    rw [List.mem_singleton.mp hc]
    exact short_noItems

/-- How packed entries are cut off. -/
theorem Packed.takeShort_eq {items : List String} (h : Packed items) :
    takeShort 0 items = [] ∧ items = [] ∨
      ∃ rest, items = takeShort 0 items ++ rest ∧ takeShort 0 items ≠ [] ∧
        total (takeShort 0 items) + (takeShort 0 items).length + 8 < 1024 ∧ rest.length ≤ 1 := by
  rcases h with rfl | ⟨first, rest, rfl, hfirst, hshort, hone, hrest⟩
  · exact .inl ⟨rfl, rfl⟩
  · have htake : takeShort 0 (first ++ rest) = first := by
      refine takeShort_append (fun _ => by omega) fun item hitem => ?_
      have := hrest item (List.mem_of_mem_head? hitem)
      omega
    exact .inr ⟨rest, by rw [htake], by rwa [htake], by rwa [htake], hone⟩

end report

/-- **The items are reported iff** there are none, or the first ones leave room for their line
feeds and the command around them, and at most one is left over. -/
theorem reportsItems_iff (g : ItemGame) :
    AlwaysReports g ↔ (g.engine = true → Packed (formattedItems g)) := by
  cases hengine : g.engine with
  | false => exact iff_of_true (fun h => absurd (hengine.symm.trans h) nofun) nofun
  | true =>
    obtain ⟨rest, hitems, -, hrest⟩ := exists_takeShort 0 (formattedItems g)
    by_cases hnil : takeShort 0 (formattedItems g) = []
    · rw [reports_iff_of_nil hengine hnil]
      constructor
      · exact fun h _ => .inl h
      · intro h
        rcases (h rfl).takeShort_eq with ⟨-, h⟩ | ⟨rest, -, hne, -⟩
        · exact h
        · exact absurd hnil hne
    · rw [reports_iff_of_first hengine hitems rfl hnil]
      constructor
      · rintro ⟨hshort, hone⟩ -
        refine .inr ⟨_, rest, hitems, hnil, hshort, hone, fun item hitem => ?_⟩
        obtain ⟨x, rfl⟩ : ∃ x, rest = [x] := by
          cases rest with
          | nil => cases hitem
          | cons x rest =>
            obtain rfl : rest = [] := List.eq_nil_of_length_eq_zero (by simpa using hone)
            exact ⟨x, rfl⟩
        obtain rfl := List.mem_singleton.mp hitem
        have := hrest item rfl
        omega
      · intro h
        rcases (h rfl).takeShort_eq with ⟨h, -⟩ | ⟨rest', hitems', -, hshort, hone⟩
        · exact absurd h hnil
        · have : rest = rest' := List.append_cancel_left (hitems.symm.trans hitems')
          exact ⟨hshort, this ▸ hone⟩

/-- A map on which 64 packs of grenades lie. -/
def grenades : ItemGame where
  engine := true
  bgItemlist := none
  gEntities := some fun entityId =>
    if entityId < 64 then ⟨true, etItem, "ammo_grenades", 0, none⟩ else ⟨false, 0, "", 0, none⟩
  configstrings := fun _ => ""
  writes := []

/-- The entries have 1014 bytes, and the command has 1086. -/
theorem not_alwaysReports_grenades : ¬ AlwaysReports grenades := by
  have hentries : takeShort 0 (formattedItems grenades) = formattedItems grenades ∧
      total (formattedItems grenades) = 1014 ∧ (formattedItems grenades).length = 64 := by
    decide +kernel
  obtain ⟨htake, htotal, hlength⟩ := hentries
  have hne : formattedItems grenades ≠ [] := by
    intro hnil
    rw [hnil] at hlength
    cases hlength
  rw [reports_iff_of_first rfl (List.append_nil _).symm htake hne, htotal, hlength]
  omega

end PrintItems
end ShinQlx
