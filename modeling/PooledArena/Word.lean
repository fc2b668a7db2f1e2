/-!
# `PooledArena.Word`: 64-bit sizes, alignments and offsets

Sizes, alignments and cursor positions are 64-bit words, and `+` on them wraps.
This module names the few operations beyond that: the powers of two, rounding up
to one, and the sum that stops at the largest word. Addresses are natural
numbers, so adding an offset to one never wraps.

Exact arithmetic is on natural numbers. There `1 <<< k` is the `k`-th power of
two, and `0x10000000000000000` is the first number that is no word.

The lemmas say what each operation is in exact arithmetic:

* `ceilLog2_le_iff`: `ceilLog2 n` is the least exponent whose power reaches `n`.
* `Word.toNat_alignUp`: rounding up by clearing low bits is rounding up to a
  multiple, as long as the sum before the clearing does not wrap.
* `Word.toNat_saturatingAdd`: the saturating sum is the exact one, cut off.
-/

set_option autoImplicit false

namespace PooledArena

/-- A size, an alignment, an offset or a count. -/
abbrev Word := UInt64

/-- A place in memory. -/
abbrev Addr := Nat

/-- The exponent of the least power of two that is at least `n`. -/
def ceilLog2 (n : Nat) : Nat :=
  if n ≤ 1 then 0 else (n - 1).log2 + 1

/-- Stated for every exponent, so both halves of "least" follow from it. -/
theorem ceilLog2_le_iff {n k : Nat} : ceilLog2 n ≤ k ↔ n ≤ 1 <<< k := by
  rw [Nat.one_shiftLeft]
  unfold ceilLog2
  split
  · have := Nat.two_pow_pos k
    omega
  · have := Nat.log2_lt (n := n - 1) (k := k) (by omega)
    omega

theorem le_one_shiftLeft_ceilLog2 (n : Nat) : n ≤ 1 <<< ceilLog2 n :=
  ceilLog2_le_iff.1 (Nat.le_refl _)

/-- A positive number that stays small when shifted was not shifted far. -/
theorem lt_of_shiftLeft_lt {n k m : Nat} (hn : 0 < n) (h : n <<< k < 1 <<< m) : k < m := by
  rw [Nat.shiftLeft_eq, Nat.one_shiftLeft] at h
  exact (Nat.pow_lt_pow_iff_right (by decide)).1
    (Nat.lt_of_le_of_lt (Nat.le_mul_of_pos_left _ hn) h)

namespace Word

/-- Zero is not a power of two. -/
def IsPowerOfTwo (w : Word) : Prop :=
  ∃ k, w.toNat = 1 <<< k

/-- Only the exponent `log2` can fit, so it is the one to try. -/
theorem isPowerOfTwo_iff {w : Word} : IsPowerOfTwo w ↔ w.toNat = 1 <<< w.toNat.log2 := by
  constructor
  · rintro ⟨k, hk⟩
    simp only [hk, Nat.one_shiftLeft, Nat.log2_two_pow]
  · exact fun h => ⟨_, h⟩

instance (w : Word) : Decidable (IsPowerOfTwo w) :=
  decidable_of_iff' _ isPowerOfTwo_iff

theorem IsPowerOfTwo.pos {w : Word} (h : IsPowerOfTwo w) : 0 < w.toNat := by
  obtain ⟨k, hk⟩ := h
  rw [hk, Nat.one_shiftLeft]
  exact Nat.two_pow_pos k

/-- Of two powers of two, the smaller one divides the larger one. -/
theorem IsPowerOfTwo.dvd {a b : Word} (ha : IsPowerOfTwo a) (hb : IsPowerOfTwo b)
    (h : a.toNat ≤ b.toNat) : a.toNat ∣ b.toNat := by
  obtain ⟨k, hk⟩ := ha
  obtain ⟨l, hl⟩ := hb
  rw [hk, hl, Nat.one_shiftLeft, Nat.one_shiftLeft] at h ⊢
  exact Nat.pow_dvd_pow 2 ((Nat.pow_le_pow_iff_right (by decide)).1 h)

theorem toNat_sub_one {w : Word} (h : 0 < w.toNat) : (w - 1).toNat = w.toNat - 1 := by
  rw [UInt64.toNat_sub_of_le]
  · rfl
  · rw [UInt64.le_iff_toNat_le]
    exact h

theorem toNat_add_of_lt {a b : Word} (h : a.toNat + b.toNat < 0x10000000000000000) :
    (a + b).toNat = a.toNat + b.toNat := by
  rw [UInt64.toNat_add, Nat.mod_eq_of_lt h]

theorem toNat_min (a b : Word) : (min a b).toNat = min a.toNat b.toNat := by
  show (if a ≤ b then a else b : Word).toNat = _
  simp only [UInt64.le_iff_toNat_le]
  split <;> omega

theorem toNat_max (a b : Word) : (max a b).toNat = max a.toNat b.toNat := by
  show (if a ≤ b then b else a : Word).toNat = _
  simp only [UInt64.le_iff_toNat_le]
  split <;> omega

/-- The sum, or the largest word where the sum is larger still. -/
def saturatingAdd (a b : Word) : Word :=
  if a.toNat + b.toNat < 0x10000000000000000 then a + b else 0xffffffffffffffff

theorem toNat_saturatingAdd (a b : Word) :
    (saturatingAdd a b).toNat = min (a.toNat + b.toNat) 0xffffffffffffffff := by
  unfold saturatingAdd
  split
  · rw [toNat_add_of_lt ‹_›]
    omega
  · have hmax : (0xffffffffffffffff : Word).toNat = 0xffffffffffffffff := by decide
    omega

/-- The sum, unless it is too large for a word. -/
def checkedAdd (a b : Word) : Option Word :=
  if a.toNat + b.toNat < 0x10000000000000000 then some (a + b) else none

theorem checkedAdd_eq_some_iff {a b sum : Word} :
    checkedAdd a b = some sum ↔ sum.toNat = a.toNat + b.toNat := by
  have hsum := sum.toNat_lt
  unfold checkedAdd
  split
  · rename_i hlt
    rw [Option.some_inj, ← UInt64.toNat_inj, toNat_add_of_lt hlt, eq_comm]
  · rename_i hge
    exact ⟨nofun, fun heq => absurd (heq ▸ hsum) hge⟩

theorem checkedAdd_eq_none_iff {a b : Word} :
    checkedAdd a b = none ↔ 0x10000000000000000 ≤ a.toNat + b.toNat := by
  unfold checkedAdd
  rw [ite_eq_right_iff, ← Nat.not_lt]
  exact ⟨fun h hlt => Option.some_ne_none _ (h hlt), fun h hlt => absurd hlt h⟩

/-- The least multiple of `align` that is at least `w`. `align` is a power of
two, so the low bits of a word are its distance to the multiple below. -/
def alignUp (w align : Word) : Word :=
  let last := w + (align - 1)
  last - (last &&& (align - 1))

/-- The low bits that a power of two minus one selects are the remainder. -/
theorem toNat_and_sub_one {w align : Word} (h : IsPowerOfTwo align) :
    (w &&& (align - 1)).toNat = w.toNat % align.toNat := by
  obtain ⟨k, hk⟩ := id h
  rw [UInt64.toNat_and, toNat_sub_one h.pos, hk, Nat.one_shiftLeft,
    Nat.and_two_pow_sub_one_eq_mod]

theorem toNat_alignUp {w align : Word} (h : IsPowerOfTwo align)
    (hlt : w.toNat + (align.toNat - 1) < 0x10000000000000000) :
    (alignUp w align).toNat = (w.toNat + (align.toNat - 1)) / align.toNat * align.toNat := by
  have hsum : (w + (align - 1)).toNat = w.toNat + (align.toNat - 1) := by
    rw [toNat_add_of_lt] <;> rw [toNat_sub_one h.pos]
    exact hlt
  unfold alignUp
  rw [UInt64.toNat_sub_of_le]
  · rw [toNat_and_sub_one h, hsum]
    have := Nat.div_add_mod (w.toNat + (align.toNat - 1)) align.toNat
    rw [Nat.mul_comm] at this
    omega
  · rw [UInt64.le_iff_toNat_le, toNat_and_sub_one h]
    exact Nat.mod_le _ _

end Word

end PooledArena
