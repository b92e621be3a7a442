import Mathlib.Algebra.GroupWithZero.Nat

/-! # Texts by the offsets of their bytes

A byte of a text can be replaced if it is a character of its own.  A buffer holds the
characters of a text as long as they fit, and a character that is cut off is read as the
replacement character.  A replacement in what was read from a buffer is one in the text
itself iff the text was read in full (`replaced_iff_of_truncate`).
-/
namespace ByteText

/-- The number of bytes. -/
def size (cs : List Char) : Nat := (cs.map Char.utf8Size).sum

/-- The replacement of the byte at an offset; there is none if the byte is not a character. -/
def replaceByte (c : Char) : Nat → List Char → Option (List Char)
  | _, [] => none
  | offset, d :: cs =>
    if offset = 0 then
      if d.utf8Size = 1 then some (c :: cs) else none
    else if d.utf8Size ≤ offset then (replaceByte c (offset - d.utf8Size) cs).map (d :: ·)
    else none

/-- What is read from a buffer with room for some bytes. -/
def truncate : Nat → List Char → List Char
  | _, [] => []
  | room, c :: cs =>
    if c.utf8Size ≤ room then c :: truncate (room - c.utf8Size) cs
    else if room = 0 then []
    else [Char.ofNat 0xFFFD]

/-- The character at an offset is replaced, and all others are as they were. -/
def Replaced (c : Char) (offset : Nat) (old new : List Char) : Prop :=
  ∃ before d after, old = before ++ d :: after ∧ size before = offset ∧
    new = before ++ c :: after

@[simp] theorem size_nil : size [] = 0 := rfl

@[simp] theorem size_cons (c : Char) (cs : List Char) : size (c :: cs) = c.utf8Size + size cs := by
  simp [size]

/-- Parts of one text that have the same size are the same. -/
theorem append_inj_of_size {before before' after after' : List Char}
    (h : before ++ after = before' ++ after') (hsize : size before = size before') :
    before = before' ∧ after = after' := by
  induction before generalizing before' with
  | nil =>
    cases before' with
    | nil => exact ⟨rfl, h⟩
    | cons c cs =>
      have := c.utf8Size_pos
      simp only [size_nil, size_cons] at hsize
      omega
  | cons d ds ih =>
    cases before' with
    | nil =>
      have := d.utf8Size_pos
      simp only [size_nil, size_cons] at hsize
      omega
    | cons c cs =>
      obtain ⟨rfl, htail⟩ := List.cons.inj h
      obtain ⟨rfl, hafter⟩ := ih htail (by simpa using hsize)
      exact ⟨rfl, hafter⟩

/-- **Which byte can be replaced**: one that is a character. -/
theorem replaceByte_eq_some_iff {c : Char} {offset : Nat} {cs new : List Char} :
    replaceByte c offset cs = some new ↔
      ∃ before d after, cs = before ++ d :: after ∧ size before = offset ∧ d.utf8Size = 1 ∧
        new = before ++ c :: after := by
  induction cs generalizing offset new with
  | nil => simp [replaceByte]
  | cons e es ih =>
    rw [replaceByte]
    have hpos := e.utf8Size_pos
    by_cases hzero : offset = 0
    · rw [if_pos hzero]
      constructor
      · intro h
        by_cases hone : e.utf8Size = 1
        · rw [if_pos hone] at h
          exact ⟨[], e, es, rfl, hzero.symm, hone, (Option.some.inj h).symm⟩
        · rw [if_neg hone] at h
          cases h
      · rintro ⟨before, d, after, hcs, hsize, hd, rfl⟩
        cases before with
        | nil =>
          obtain ⟨rfl, rfl⟩ := List.cons.inj hcs
          rw [if_pos hd]
          rfl
        | cons b bs =>
          have := b.utf8Size_pos
          simp only [size_cons] at hsize
          omega
    · rw [if_neg hzero]
      constructor
      · intro h
        by_cases hle : e.utf8Size ≤ offset
        · rw [if_pos hle] at h
          obtain ⟨rest, hrest, rfl⟩ := Option.map_eq_some_iff.mp h
          obtain ⟨before, d, after, rfl, hsize, hd, rfl⟩ := ih.mp hrest
          refine ⟨e :: before, d, after, rfl, ?_, hd, rfl⟩
          rw [size_cons, hsize]
          omega
        · rw [if_neg hle] at h
          cases h
      · rintro ⟨before, d, after, hcs, hsize, hd, rfl⟩
        cases before with
        | nil => exact absurd hsize.symm hzero
        | cons b bs =>
          obtain ⟨rfl, rfl⟩ := List.cons.inj hcs
          rw [size_cons] at hsize
          rw [if_pos (by omega), ih.mpr ⟨bs, d, after, rfl, by omega, hd, rfl⟩]
          rfl

/-- What fits is read as it is. -/
theorem truncate_append {room : Nat} {before : List Char} (h : size before ≤ room)
    (after : List Char) :
    truncate room (before ++ after) = before ++ truncate (room - size before) after := by
  induction before generalizing room with
  | nil => rfl
  | cons c cs ih =>
    rw [size_cons] at h
    rw [List.cons_append, truncate, if_pos (by omega), ih (by omega), size_cons, Nat.sub_sub]
    rfl

/-- No more characters are read than there is room for bytes. -/
theorem length_truncate_le (room : Nat) (cs : List Char) : (truncate room cs).length ≤ room := by
  induction cs generalizing room with
  | nil => exact Nat.zero_le room
  | cons c cs ih =>
    have hpos := c.utf8Size_pos
    have hrest := ih (room - c.utf8Size)
    rw [truncate]
    split
    · rw [List.length_cons]
      omega
    · split
      · exact Nat.zero_le room
      · show 1 ≤ room
        omega

/-- Characters of one byte are not cut. -/
theorem truncate_of_one_byte {cs : List Char} (h : ∀ c ∈ cs, c.utf8Size = 1) (room : Nat) :
    truncate room cs = cs.take room := by
  induction cs generalizing room with
  | nil => exact List.take_nil.symm
  | cons c cs ih =>
    obtain ⟨hc, hcs⟩ := List.forall_mem_cons.mp h
    rw [truncate, hc]
    cases room with
    | zero => rfl
    | succ room =>
      rw [if_pos (Nat.le_add_left 1 room), Nat.add_sub_cancel, ih hcs, List.take_succ_cons]

/-- **A byte that was replaced in what was read**: it is replaced in the text itself iff the
text was read in full. -/
theorem replaced_iff_of_truncate {c : Char} {offset room : Nat} {old new : List Char}
    (hroom : offset < room) (h : replaceByte c offset (truncate room old) = some new) :
    Replaced c offset old new ↔ truncate room old = old := by
  obtain ⟨before, d, after, hread, hsize, hone, rfl⟩ := replaceByte_eq_some_iff.mp h
  constructor
  · rintro ⟨before', d', after', rfl, hsize', hnew⟩
    obtain ⟨rfl, htail⟩ := append_inj_of_size hnew (hsize.trans hsize'.symm)
    obtain rfl : after = after' := (List.cons.inj htail).2
    have hcut : truncate (room - size before) (d' :: after) = d :: after := by
      rw [truncate_append (by omega)] at hread
      exact List.append_cancel_left hread
    rw [truncate] at hcut
    by_cases hfits : d'.utf8Size ≤ room - size before
    · rw [if_pos hfits] at hcut
      rw [hread, (List.cons.inj hcut).1]
    · -- the replacement character has three bytes
      rw [if_neg hfits, if_neg (by omega)] at hcut
      obtain rfl : Char.ofNat 0xFFFD = d := (List.cons.inj hcut).1
      exact absurd hone (by decide)
  · intro hfull
    exact ⟨before, d, after, hfull.symm.trans hread, hsize, rfl⟩

end ByteText
