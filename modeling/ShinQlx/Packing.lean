import Mathlib.Data.List.Basic
import Mathlib.Data.List.Induction

/-! # Packing items into blocks

Items are put into blocks in their order, each into the last block if it still fits there
and into a new one otherwise.  An item on its own always makes a block.

`Packed` says what comes of it, without a word about how: blocks of items that fit, each
of which the next item would not have fitted into.  There is only one such packing if a
block that fits has only starts that fit (`Packed.unique`), and `pack` makes it
(`pack_packed`).
-/
namespace Packing

variable {α : Type} (Fits : List α → Prop)

/-- A packing of some items. -/
structure Packed (xs : List α) (blocks : List (List α)) : Prop where
  flatten : blocks.flatten = xs
  ne_nil : ∀ b ∈ blocks, b ≠ []
  fits : ∀ b ∈ blocks, b.length = 1 ∨ Fits b
  full : ∀ pre b x rest post, blocks = pre ++ b :: (x :: rest) :: post → ¬ Fits (b ++ [x])

section pack
variable [DecidablePred Fits]

/-- Puts an item into the last block, if it fits there. -/
def push (blocks : List (List α)) (x : α) : List (List α) :=
  match blocks.getLast? with
  | none => [[x]]
  | some b => if Fits (b ++ [x]) then blocks.dropLast ++ [b ++ [x]] else blocks ++ [[x]]

/-- The packing of some items. -/
def pack (xs : List α) : List (List α) := xs.foldl (push Fits) []

@[simp] theorem pack_nil : pack Fits ([] : List α) = [] := rfl

theorem pack_concat (xs : List α) (x : α) : pack Fits (xs ++ [x]) = push Fits (pack Fits xs) x := by
  rw [pack, List.foldl_concat]
  rfl

theorem push_concat (blocks : List (List α)) (b : List α) (x : α) :
    push Fits (blocks ++ [b]) x =
      if Fits (b ++ [x]) then blocks ++ [b ++ [x]] else blocks ++ [b, [x]] := by
  simp [push]

end pack

variable {Fits}

theorem Packed.concat_new {xs : List α} {blocks : List (List α)} {b : List α} {x : α}
    (h : Packed Fits xs (blocks ++ [b])) (hx : ¬ Fits (b ++ [x])) :
    Packed Fits (xs ++ [x]) (blocks ++ [b, [x]]) := by
  refine ⟨?_, ?_, ?_, ?_⟩
  · rw [← h.flatten]
    simp
  · intro c hc
    rcases List.mem_append.mp (by simpa using hc : c ∈ (blocks ++ [b]) ++ [[x]]) with hc | hc
    · exact h.ne_nil c hc
    · simp [List.mem_singleton.mp hc]
  · intro c hc
    rcases List.mem_append.mp (by simpa using hc : c ∈ (blocks ++ [b]) ++ [[x]]) with hc | hc
    · exact h.fits c hc
    · simp [List.mem_singleton.mp hc]
  · intro pre c y rest post hsplit
    rcases List.eq_nil_or_concat post with rfl | ⟨post, d, rfl⟩
    · -- the new block is the second of the two
      have hsplit : blocks ++ [b, [x]] = pre ++ [c, y :: rest] := hsplit
      obtain ⟨-, hlast⟩ := List.append_inj' hsplit rfl
      obtain ⟨rfl, hnew⟩ := List.cons.inj hlast
      obtain ⟨rfl, -⟩ := List.cons.inj (List.cons.inj hnew).1
      exact hx
    · have hsplit : (blocks ++ [b]) ++ [[x]] = (pre ++ c :: (y :: rest) :: post) ++ [d] := by
        simpa using hsplit
      exact h.full pre c y rest post (List.append_inj' hsplit rfl).1

theorem Packed.concat_fits {xs : List α} {blocks : List (List α)} {b : List α} {x : α}
    (h : Packed Fits xs (blocks ++ [b])) (hx : Fits (b ++ [x])) :
    Packed Fits (xs ++ [x]) (blocks ++ [b ++ [x]]) := by
  have hb : b ≠ [] := h.ne_nil b (by simp)
  refine ⟨?_, ?_, ?_, ?_⟩
  · rw [← h.flatten]
    simp
  · intro c hc
    rcases List.mem_append.mp hc with hc | hc
    · exact h.ne_nil c (List.mem_append_left _ hc)
    · simp [List.mem_singleton.mp hc]
  · intro c hc
    rcases List.mem_append.mp hc with hc | hc
    · exact h.fits c (List.mem_append_left _ hc)
    · exact .inr (List.mem_singleton.mp hc ▸ hx)
  · intro pre c y rest post hsplit
    rcases List.eq_nil_or_concat post with rfl | ⟨post, d, rfl⟩
    · -- the last block begins as it did
      have hsplit : blocks ++ [b ++ [x]] = (pre ++ [c]) ++ [y :: rest] := by simpa using hsplit
      obtain ⟨hblocks, hlast⟩ := List.append_inj' hsplit rfl
      obtain ⟨z, b', rfl⟩ := List.exists_cons_of_ne_nil hb
      obtain ⟨rfl, -⟩ := List.cons.inj (List.cons.inj hlast).1
      exact h.full pre c z b' [] (by rw [hblocks]; simp)
    · have hsplit : blocks ++ [b ++ [x]] = (pre ++ c :: (y :: rest) :: post) ++ [d] := by
        simpa using hsplit
      obtain ⟨hblocks, -⟩ := List.append_inj' hsplit rfl
      exact h.full pre c y rest (post ++ [b]) (by rw [hblocks]; simp)

theorem Packed.singleton (x : α) : Packed Fits [x] [[x]] := by
  refine ⟨rfl, by simp, by simp, ?_⟩
  intro pre b y rest post hsplit
  have hlength := congrArg List.length hsplit
  simp at hlength
  omega

/-- **The packing is made item by item.** -/
theorem pack_packed [DecidablePred Fits] (xs : List α) : Packed Fits xs (pack Fits xs) := by
  induction xs using List.reverseRecOn with
  | nil => exact ⟨rfl, by simp, by simp, by simp⟩
  | append_singleton xs x ih =>
    rw [pack_concat]
    rcases List.eq_nil_or_concat (pack Fits xs) with hnil | ⟨blocks, b, hblocks⟩
    · have hxs : xs = [] := by rw [← ih.flatten, hnil]; rfl
      rw [hnil, hxs]
      exact .singleton x
    · rw [List.concat_eq_append] at hblocks
      rw [hblocks] at ih ⊢
      rw [push_concat]
      split
      next hx => exact ih.concat_fits hx
      next hx => exact ih.concat_new hx

/-! ## There is one packing -/

theorem Packed.tail {xs : List α} {b : List α} {blocks : List (List α)}
    (h : Packed Fits xs (b :: blocks)) : Packed Fits blocks.flatten blocks :=
  ⟨rfl, fun c hc => h.ne_nil c (List.mem_cons_of_mem b hc),
    fun c hc => h.fits c (List.mem_cons_of_mem b hc),
    fun pre c x rest post hsplit => h.full (b :: pre) c x rest post (by rw [hsplit]; rfl)⟩

/-- The first block of a packing is not a longer one than that of another. -/
theorem Packed.not_longer (hmono : ∀ a b : List α, a ≠ [] → Fits (a ++ b) → Fits a) {xs : List α}
    {b c : List α} {blocks blocks' : List (List α)} (h : Packed Fits xs (b :: blocks))
    (h' : Packed Fits xs (c :: blocks')) : ¬ b.length < c.length := by
  intro hlt
  have hb : b ≠ [] := h.ne_nil b List.mem_cons_self
  have heq : b ++ blocks.flatten = c ++ blocks'.flatten := h.flatten.trans h'.flatten.symm
  obtain ⟨d, rfl⟩ : b <+: c :=
    List.prefix_of_prefix_length_le ⟨_, heq⟩ ⟨_, rfl⟩ (Nat.le_of_lt hlt)
  rw [List.append_assoc] at heq
  have hrest := List.append_cancel_left heq
  have hd : d ≠ [] := by
    rintro rfl
    simp at hlt
  obtain ⟨x, d, rfl⟩ := List.exists_cons_of_ne_nil hd
  -- the item that is left over is the first of the next block
  cases blocks with
  | nil => cases hrest
  | cons b' blocks =>
    obtain ⟨y, b', rfl⟩ := List.exists_cons_of_ne_nil (h.ne_nil b' (by simp))
    obtain ⟨rfl, -⟩ := List.cons.inj hrest
    have hfits : Fits (b ++ y :: d) := by
      refine (h'.fits _ List.mem_cons_self).resolve_left fun hone => ?_
      have hpos := List.length_pos_iff.mpr hb
      rw [List.length_append, List.length_cons] at hone
      omega
    refine h.full [] b y b' blocks rfl (hmono (b ++ [y]) d (by simp) ?_)
    rwa [List.append_assoc]

/-- **There is one packing**, where a block that fits begins with blocks that fit. -/
theorem Packed.unique (hmono : ∀ a b : List α, a ≠ [] → Fits (a ++ b) → Fits a) {xs : List α}
    {blocks blocks' : List (List α)} (h : Packed Fits xs blocks) (h' : Packed Fits xs blocks') :
    blocks = blocks' := by
  induction blocks generalizing xs blocks' with
  | nil =>
    cases blocks' with
    | nil => rfl
    | cons c blocks' =>
      have hnil : c ++ blocks'.flatten = [] := h'.flatten.trans h.flatten.symm
      exact absurd (List.append_eq_nil_iff.mp hnil).1 (h'.ne_nil c List.mem_cons_self)
  | cons b blocks ih =>
    cases blocks' with
    | nil =>
      have hnil : b ++ blocks.flatten = [] := h.flatten.trans h'.flatten.symm
      exact absurd (List.append_eq_nil_iff.mp hnil).1 (h.ne_nil b List.mem_cons_self)
    | cons c blocks' =>
      have hlength : b.length = c.length :=
        Nat.le_antisymm (Nat.le_of_not_lt (h'.not_longer hmono h))
          (Nat.le_of_not_lt (h.not_longer hmono h'))
      have heq : b ++ blocks.flatten = c ++ blocks'.flatten := h.flatten.trans h'.flatten.symm
      obtain ⟨rfl, hrest⟩ := List.append_inj heq hlength
      rw [ih h.tail (hrest ▸ h'.tail)]

end Packing
