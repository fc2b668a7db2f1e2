import PooledArena.Cursor
import Mathlib.Algebra.GroupWithZero.Nat
import Mathlib.Data.List.Basic
import Mathlib.Data.Set.Lattice
import Mathlib.Order.CompletePartialOrder
import Mathlib.Order.Interval.Set.Defs

/-!
# `PooledArena.Proofs.Tiling`: reservations lie side by side

Each reservation of a cursor begins where the one before it ends. So a reservation begins at the
sum of all sizes before it, as far as a word can tell: the sum of words starts again from zero
when it is too large (`reserve_behind`).

As long as no more bytes are reserved than there are words, this makes no difference. The ranges
are pairwise disjoint (`pairwise_ranges`), and together they are all the numbers below the sum
(`mem_ranges_iff`). With one byte more the word zero is reserved twice (`not_pairwise_of_lt`).

A range can be read as exact numbers (`Word.range`) or as the words that it comes to
(`Word.wrapped`). The first two statements hold of either, and are proved once for both.
`reservations_tile` puts all of them together.
-/

set_option autoImplicit false

namespace PooledArena

/-! ### Ranges -/

namespace Word

/-- The range from `start` on, in exact numbers. It may go on behind the largest word. -/
def range (start size : Word) : Set Nat :=
  Set.Ico start.toNat (start.toNat + size.toNat)

/-- The words from `start` on. Behind the largest word they go on at zero. -/
def wrapped (start size : Word) : Set Word :=
  { word | (word - start).toNat < size.toNat }

variable {bytes : Nat} {size : Word}

/-- There is no difference to the exact range if that ends with the words, or before. -/
theorem range_ofNat (h : bytes + size.toNat ≤ 0x10000000000000000) :
    range (UInt64.ofNat bytes) size = Set.preimage id (Set.Ico bytes (bytes + size.toNat)) := by
  ext offset
  simp only [range, Set.mem_preimage, id_eq, Set.mem_Ico, UInt64.toNat_ofNat']
  -- Only a range without any bytes begins where the words end.
  omega

theorem wrapped_ofNat (h : bytes + size.toNat ≤ 0x10000000000000000) :
    wrapped (UInt64.ofNat bytes) size
      = Set.preimage UInt64.toNat (Set.Ico bytes (bytes + size.toNat)) := by
  ext word
  have hword := word.toNat_lt
  simp only [wrapped, Set.mem_ofPred_eq, Set.mem_preimage, Set.mem_Ico, UInt64.toNat_sub,
    UInt64.toNat_ofNat']
  omega

/-- A range that goes beyond the largest word has come to zero. -/
theorem zero_mem_wrapped (hbytes : bytes ≤ 0x10000000000000000)
    (h : 0x10000000000000000 < bytes + size.toNat) : 0 ∈ wrapped (UInt64.ofNat bytes) size := by
  have hsize := size.toNat_lt
  simp only [wrapped, Set.mem_ofPred_eq, UInt64.toNat_sub, UInt64.toNat_ofNat', UInt64.toNat_zero]
  omega

end Word

namespace Cursor

/-- How many bytes the sizes come to, as an exact number. -/
def total (sizes : List Word) : Nat :=
  (sizes.map UInt64.toNat).sum

@[simp] theorem total_nil : total [] = 0 :=
  rfl

@[simp] theorem total_cons (size : Word) (sizes : List Word) :
    total (size :: sizes) = size.toNat + total sizes :=
  List.sum_cons

/-- What one reservation after another takes, if it takes `part start size` each time. -/
def ranges {α : Type} (part : Word → Word → Set α) (cursor : Cursor) (sizes : List Word) :
    List (Set α) :=
  List.zipWith (fun reserved size => part reserved.1 size) (cursor.reserveAll sizes) sizes

/-! ### Where reservations begin -/

/-- The cursor that has reserved so many bytes. -/
def behind (bytes : Nat) : Cursor :=
  ⟨UInt64.ofNat bytes⟩

theorem reserve_behind (bytes : Nat) (size : Word) :
    (behind bytes).reserve size = (UInt64.ofNat bytes, behind (bytes + size.toNat)) := by
  unfold behind reserve
  rw [UInt64.ofNat_add, UInt64.ofNat_toNat]

theorem reserveAll_behind_cons (bytes : Nat) (size : Word) (sizes : List Word) :
    (behind bytes).reserveAll (size :: sizes) = (UInt64.ofNat bytes, behind (bytes + size.toNat))
      :: (behind (bytes + size.toNat)).reserveAll sizes := by
  rw [reserveAll, reserve_behind]

theorem length_reserveAll (cursor : Cursor) (sizes : List Word) :
    (cursor.reserveAll sizes).length = sizes.length := by
  induction sizes generalizing cursor with
  | nil => rfl
  | cons size sizes ih => exact congrArg (· + 1) (ih _)

/-- A reservation begins behind all the bytes that were reserved before. -/
theorem getElem?_reserveAll {sizes : List Word} {index : Nat} {size : Word}
    (h : sizes[index]? = some size) (bytes : Nat) :
    ((behind bytes).reserveAll sizes)[index]?
      = some ((behind (bytes + total (sizes.take index))).reserve size) := by
  induction sizes generalizing bytes index with
  | nil => cases h
  | cons first sizes ih =>
      rw [reserveAll_behind_cons]
      cases index with
      | zero =>
          obtain rfl := Option.some.inj h
          rw [reserve_behind]
          rfl
      | succ index =>
          rw [List.getElem?_cons_succ] at h ⊢
          rw [ih h, List.take_succ_cons, total_cons, Nat.add_assoc]

/-! ### What reservations take -/

section

variable {α : Type} {part : Word → Word → Set α}

theorem ranges_behind_cons (bytes : Nat) (size : Word) (sizes : List Word) :
    (behind bytes).ranges part (size :: sizes) = part (UInt64.ofNat bytes) size
      :: (behind (bytes + size.toNat)).ranges part sizes := by
  unfold ranges
  rw [reserveAll_behind_cons, List.zipWith_cons_cons]

-- `number` says where something lies: a number lies at itself, and a word at what it stands for.
variable {number : α → Nat}
  (hpart : ∀ bytes size, bytes + UInt64.toNat size ≤ 0x10000000000000000 →
    part (UInt64.ofNat bytes) size = Set.preimage number (Set.Ico bytes (bytes + size.toNat)))
  {sizes : List Word} {bytes : Nat}

include hpart

/-- Reservations leave no gap: what they take is all that lies between the bytes reserved before
and those reserved after them. -/
theorem mem_ranges_iff (h : bytes + total sizes ≤ 0x10000000000000000) (item : α) :
    (∃ range ∈ (behind bytes).ranges part sizes, item ∈ range)
      ↔ bytes ≤ number item ∧ number item < bytes + total sizes := by
  induction sizes generalizing bytes with
  | nil =>
      rw [total_nil, Nat.add_zero]
      refine ⟨fun ⟨_, hrange, _⟩ => (nomatch hrange), fun hempty => ?_⟩
      exact absurd hempty.2 (Nat.not_lt.2 hempty.1)
  | cons size sizes ih =>
      rw [total_cons] at h ⊢
      rw [ranges_behind_cons, List.exists_mem_cons_iff, ih (by omega), hpart _ _ (by omega),
        Set.mem_preimage, Set.mem_Ico]
      omega

/-- No two reservations take the same. -/
theorem pairwise_ranges (h : bytes + total sizes ≤ 0x10000000000000000) :
    ((behind bytes).ranges part sizes).Pairwise Disjoint := by
  induction sizes generalizing bytes with
  | nil => exact List.Pairwise.nil
  | cons size sizes ih =>
      rw [total_cons] at h
      rw [ranges_behind_cons, List.pairwise_cons]
      refine ⟨fun range hrange => ?_, ih (by omega)⟩
      -- All that is taken later has numbers behind the end of this range.
      rw [hpart _ _ (by omega), Set.disjoint_left]
      intro item hfirst hlater
      have hbehind := (mem_ranges_iff hpart (by omega) item).1 ⟨range, hrange, hlater⟩
      rw [Set.mem_preimage, Set.mem_Ico] at hfirst
      omega

end

/-- Reservations that go beyond the largest word come to zero. -/
theorem exists_zero_mem {sizes : List Word} {bytes : Nat} (hbytes : bytes ≤ 0x10000000000000000)
    (h : 0x10000000000000000 < bytes + total sizes) :
    ∃ range ∈ (behind bytes).ranges Word.wrapped sizes, 0 ∈ range := by
  induction sizes generalizing bytes with
  | nil => exact absurd h (Nat.not_lt.2 hbytes)
  | cons size sizes ih =>
      rw [total_cons] at h
      rw [ranges_behind_cons, List.exists_mem_cons_iff]
      rcases Nat.lt_or_ge 0x10000000000000000 (bytes + size.toNat) with hbeyond | hwithin
      · exact .inl (Word.zero_mem_wrapped hbytes hbeyond)
      · exact .inr (ih hwithin (by omega))

/-- Then zero is taken twice: the first reservation that is not empty has it as well. -/
theorem not_pairwise_of_lt {sizes : List Word} (h : 0x10000000000000000 < total sizes) :
    ¬(start.ranges Word.wrapped sizes).Pairwise Disjoint := by
  show ¬((behind 0).ranges Word.wrapped sizes).Pairwise Disjoint
  induction sizes with
  | nil => exact absurd h (by decide)
  | cons size sizes ih =>
      rw [total_cons] at h
      rw [ranges_behind_cons, List.pairwise_cons, Nat.zero_add]
      rintro ⟨hfirst, hlater⟩
      rcases Nat.eq_zero_or_pos size.toNat with hempty | hpos
      · rw [hempty] at h hlater
        exact ih (by omega) hlater
      · have hsize := size.toNat_lt
        obtain ⟨range, hrange, hzero⟩ := exists_zero_mem (Nat.le_of_lt hsize) h
        exact Set.disjoint_left.1 (hfirst range hrange) hpos hzero

/-! ### All reservations -/

/-- What a new cursor does when these sizes are reserved one after another. -/
structure Tiles (sizes : List Word) : Prop where
  length_eq : (start.reserveAll sizes).length = sizes.length
  /-- Where each one begins, and where the cursor is behind it. -/
  reserved_eq : ∀ index size, sizes[index]? = some size →
    ∃ reserved, (start.reserveAll sizes)[index]? = some reserved
      ∧ reserved.1.toNat = total (sizes.take index) % 0x10000000000000000
      ∧ reserved.2.position.toNat = (reserved.1.toNat + size.toNat) % 0x10000000000000000
  /-- As long as there are words enough, the ranges do not overlap and leave no gap. -/
  disjoint : total sizes ≤ 0x10000000000000000 →
    (start.ranges Word.range sizes).Pairwise Disjoint
  covers : total sizes ≤ 0x10000000000000000 →
    ∀ offset, (∃ range ∈ start.ranges Word.range sizes, offset ∈ range) ↔ offset < total sizes
  /-- That is also as long as no word is reserved twice. -/
  wrapped_disjoint_iff :
    (start.ranges Word.wrapped sizes).Pairwise Disjoint ↔ total sizes ≤ 0x10000000000000000

/-- Reservations lie side by side until there are no words left. -/
theorem reservations_tile (sizes : List Word) : Tiles sizes where
  length_eq := length_reserveAll start sizes
  reserved_eq index size h := by
    refine ⟨_, getElem?_reserveAll h 0, ?_, ?_⟩
    · rw [reserve_behind, Nat.zero_add]
      exact UInt64.toNat_ofNat'
    · exact UInt64.toNat_add _ _
  disjoint h := pairwise_ranges (fun _ _ => Word.range_ofNat) (by rwa [Nat.zero_add])
  covers h offset := by
    have hmem := mem_ranges_iff (fun _ _ => Word.range_ofNat) (by rwa [Nat.zero_add]) offset
    rw [Nat.zero_add] at hmem
    exact hmem.trans (and_iff_right (Nat.zero_le _))
  wrapped_disjoint_iff := by
    refine ⟨fun hdisjoint => ?_, fun h => ?_⟩
    · by_contra hlarge
      exact not_pairwise_of_lt (Nat.not_le.1 hlarge) hdisjoint
    · exact pairwise_ranges (fun _ _ => Word.wrapped_ofNat) (by rwa [Nat.zero_add])

/-- The second reservation takes the largest word and zero, and the third one goes on at one. -/
example : (start.reserveAll [0xffffffffffffffff, 2, 1]).map Prod.fst
    = [0, 0xffffffffffffffff, 1] := by
  decide

end Cursor

end PooledArena
