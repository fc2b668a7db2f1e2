import PooledArena.Arena.Reservation

/-!
# `PooledArena.Proofs.Reservation`: where a reservation comes to lie

The search for room is a loop on words. `Geometry.reserve_induct` opens it once, as
an induction on exact numbers with three cases: the cursor has passed all pools,
the extent fits where the cursor stands, or it straddles and the search goes on
behind it. `reserve_settled` reads off what follows for a search that settles.

A place has a position in the row of all pools (`Geometry.position`). Extents that
do not overlap there do not overlap in their pools either, so the positions are
what the cursor is compared with.
-/

set_option autoImplicit false

namespace PooledArena

namespace Geometry

variable (g : Geometry)

/-- How many bytes of all pools lie before a place. -/
def position (place : Place) : Nat :=
  place.index * g.poolSize.toNat + place.offset.toNat

theorem position_locate (offset : Word) : g.position (g.locate offset) = offset.toNat := by
  unfold position
  rw [locate_index, locate_offset, Nat.mul_comm]
  exact Nat.div_add_mod _ _

theorem locate_offset_lt (offset : Word) :
    (g.locate offset).offset.toNat < g.poolSize.toNat := by
  rw [locate_offset]
  exact Nat.mod_lt _ g.poolSize_pos

/-- Where a position lies, in exact numbers. -/
theorem locate_eq {g : Geometry} {offset : Word} {index rest : Nat}
    (h : offset.toNat = index * g.poolSize.toNat + rest) (hrest : rest < g.poolSize.toNat) :
    (g.locate offset).index = index ∧ (g.locate offset).offset.toNat = rest := by
  rw [locate_index, locate_offset, h, Nat.mul_comm]
  constructor
  · rw [Nat.mul_add_div g.poolSize_pos, Nat.div_eq_of_lt hrest, Nat.add_zero]
  · rw [Nat.mul_add_mod, Nat.mod_eq_of_lt hrest]

/-- The pools end where the capacity does. -/
theorem locate_index_lt_iff (offset : Word) :
    (g.locate offset).index < g.poolCount.toNat ↔ offset.toNat < g.capacity.toNat := by
  rw [locate_index, toNat_capacity]
  exact Nat.div_lt_iff_lt_mul g.poolSize_pos

/-! ### Checking a request -/

/-- The alignment is one that blocks can have. -/
def Supports (g : Geometry) (align : Word) : Prop :=
  Word.IsPowerOfTwo align ∧ align.toNat ≤ min 64 g.poolSize.toNat

instance (g : Geometry) (align : Word) : Decidable (g.Supports align) :=
  inferInstanceAs (Decidable (_ ∧ _))

/-- Whatever does not care for the alignment can be anywhere. -/
theorem supports_one (g : Geometry) : g.Supports 1 :=
  ⟨⟨0, rfl⟩, Nat.le_min.2 ⟨by decide, g.poolSize_pos⟩⟩

/-- The checks look at the alignment of the buffers. -/
theorem supports_iff {g : Geometry} {align : Word} :
    g.Supports align ↔ Word.IsPowerOfTwo align ∧ align ≤ g.bufferLayout.align := by
  unfold Supports
  rw [← toNat_bufferAlign, ← UInt64.le_iff_toNat_le]
  rfl

/-- What a request that is accepted keeps to, and the extent it gets. -/
structure Accepted (size align : Word) (extent : Extent g) : Prop where
  size_pos : 0 < size.toNat
  isPowerOfTwo_align : Word.IsPowerOfTwo align
  align_le : align.toNat ≤ g.bufferAlign.toNat
  bytes_eq : extent.bytes.toNat = size.toNat + (align.toNat - 1)

theorem accept_eq_ok {size align : Word} {extent : Extent g}
    (h : g.accept size align = .ok extent) : g.Accepted size align extent := by
  unfold accept at h
  split at h
  · cases h
  · rename_i hsize
    split at h
    · rename_i halign
      split at h
      · rename_i padded hpadded
        cases h
        have hbytes := (g.padded?_eq_some_iff.1 hpadded).1
        rw [Word.toNat_sub_one halign.1.pos] at hbytes
        exact ⟨Nat.pos_of_ne_zero hsize, halign.1, UInt64.le_iff_toNat_le.1 halign.2, hbytes⟩
      · cases h
    · cases h

/-- No pool has room for the padded request exactly if the exact sum is larger than a pool. -/
theorem padded?_eq_none_iff {g : Geometry} {size align : Word} (halign : 0 < align.toNat) :
    g.padded? size align = none ↔ g.poolSize.toNat < size.toNat + (align.toNat - 1) := by
  have hpred := Word.toNat_sub_one halign
  have hpool := g.poolSize.toNat_lt
  constructor
  · intro hnone
    refine Nat.lt_of_not_le fun hle => ?_
    -- The exact sum is a word, so the checked sum would have been it.
    have hword := Word.toNat_add_of_lt (a := size) (b := align - 1) (by omega)
    have hsome := g.padded?_eq_some_iff.2 ⟨hword, by omega⟩
    cases hnone.symm.trans hsome
  · intro hlarge
    refine Option.eq_none_iff_forall_ne_some.2 fun padded hpadded => ?_
    obtain ⟨hexact, hle⟩ := g.padded?_eq_some_iff.1 hpadded
    omega

/-- A request that keeps to all of it is accepted. -/
theorem exists_accept_eq_ok {size align : Word} (hsize : 0 < size.toNat)
    (halign : Word.IsPowerOfTwo align) (hbuffer : align ≤ g.bufferLayout.align)
    (hpool : size.toNat + (align.toNat - 1) ≤ g.poolSize.toNat) :
    ∃ extent, g.accept size align = .ok extent := by
  have hroom : g.padded? size align ≠ none :=
    mt (padded?_eq_none_iff halign.pos).1 (Nat.not_lt.2 hpool)
  unfold accept
  rw [dif_neg (Nat.ne_of_gt hsize), if_pos ⟨halign, hbuffer⟩]
  split
  · exact ⟨_, rfl⟩
  · exact absurd ‹_› hroom

/-- A request that no pool has room for is rejected. -/
theorem accept_of_poolSize_lt {g : Geometry} {size align : Word} (hsize : 0 < size.toNat)
    (halign : Word.IsPowerOfTwo align) (hbuffer : align ≤ g.bufferLayout.align)
    (hpool : g.poolSize.toNat < size.toNat + (align.toNat - 1)) :
    g.accept size align
      = .error (.requestTooLarge (Word.saturatingAdd size (align - 1)) g.poolSize) := by
  have hnone := (padded?_eq_none_iff halign.pos).2 hpool
  unfold accept
  rw [dif_neg (Nat.ne_of_gt hsize), if_pos ⟨halign, hbuffer⟩]
  split
  · cases hnone.symm.trans ‹_›
  · rfl

/-- The reasons for which a request is rejected. -/
theorem accept_eq_error {size align : Word} {error : Error}
    (h : g.accept size align = .error error) :
    error = .allocZeroSize ∨ error = .invalidAlign align
      ∨ error = .requestTooLarge (Word.saturatingAdd size (align - 1)) g.poolSize := by
  unfold accept at h
  split at h
  · cases h
    exact .inl rfl
  · split at h
    · split at h
      · cases h
      · cases h
        exact .inr (.inr rfl)
    · cases h
      exact .inr (.inl rfl)

/-! ### Moving the cursor -/

variable {g} {extent : Extent g}

/-- The test of the search is on words. Both are small, so it is exact. -/
theorem fits_iff (offset : Word) (extent : Extent g) :
    (g.locate offset).offset + extent.bytes ≤ g.poolSize
      ↔ offset.toNat % g.poolSize.toNat + extent.bytes.toNat ≤ g.poolSize.toNat := by
  have hoffset := g.locate_offset_lt offset
  have hbytes := extent.bytes_le
  have hpool := g.toNat_poolSize_le
  rw [UInt64.le_iff_toNat_le, Word.toNat_add_of_lt (by omega), locate_offset]

/-- A reservation that straddles takes the cursor to the next pool, as far into it as it
reaches beyond the end of the old one. -/
theorem locate_of_straddles {cursor next : Cursor}
    (hnext : next.position.toNat = cursor.position.toNat + extent.bytes.toNat)
    (hstraddles : g.poolSize.toNat
      < cursor.position.toNat % g.poolSize.toNat + extent.bytes.toNat) :
    (g.locate next.position).index = (g.locate cursor.position).index + 1
      ∧ (g.locate next.position).offset.toNat + g.poolSize.toNat
        = (g.locate cursor.position).offset.toNat + extent.bytes.toNat := by
  have hbytes := extent.bytes_le
  have hposition := g.position_locate cursor.position
  have hlt := g.locate_offset_lt cursor.position
  unfold position at hposition
  rw [← g.locate_offset] at hstraddles
  have hplace : next.position.toNat
      = ((g.locate cursor.position).index + 1) * g.poolSize.toNat
        + ((g.locate cursor.position).offset.toNat + extent.bytes.toNat - g.poolSize.toNat) := by
    rw [Nat.succ_mul]
    omega
  obtain ⟨hindex, hoffset⟩ := locate_eq hplace (by omega)
  exact ⟨hindex, by omega⟩

/-- Induction along the search for room, on exact numbers. -/
theorem reserve_induct {motive : Cursor → Reservation → Prop}
    (exhausted : ∀ cursor, g.capacity.toNat ≤ cursor.position.toNat →
      motive cursor { landing := .exhausted, cursor, straddles := 0 })
    (settled : ∀ cursor next : Cursor, cursor.position.toNat < g.capacity.toNat →
      next.position.toNat = cursor.position.toNat + extent.bytes.toNat →
      cursor.position.toNat % g.poolSize.toNat + extent.bytes.toNat ≤ g.poolSize.toNat →
      motive cursor {
        landing := .settled (g.locate cursor.position)
        cursor := next
        straddles := 0
      })
    (straddled : ∀ (cursor next : Cursor) (later : Reservation),
      cursor.position.toNat < g.capacity.toNat →
      next.position.toNat = cursor.position.toNat + extent.bytes.toNat →
      g.poolSize.toNat < cursor.position.toNat % g.poolSize.toNat + extent.bytes.toNat →
      motive next later → motive cursor { later with straddles := later.straddles + 1 })
    (cursor : Cursor) : motive cursor (g.reserve extent cursor) := by
  induction cursor using Geometry.reserve.induct g extent with
  | case1 cursor hpast =>
      unfold reserve
      rw [if_pos hpast]
      exact exhausted cursor (UInt64.le_iff_toNat_le.1 hpast)
  | case2 cursor hpast reserved place hbeyond =>
      -- The position is below the capacity, so it lies in a pool.
      have hlt : cursor.position.toNat < g.capacity.toNat := by
        rw [UInt64.le_iff_toNat_le] at hpast
        omega
      have hindex := (g.locate_index_lt_iff cursor.position).2 hlt
      exact absurd hbeyond (Nat.not_le.2 hindex)
  | case3 cursor hpast reserved place hwithin hfits =>
      have hnext := g.toNat_reserve extent hpast
      have hexact := (fits_iff cursor.position extent).1 hfits
      unfold reserve
      rw [if_neg hpast, if_neg hwithin, if_pos hfits]
      rw [UInt64.le_iff_toNat_le] at hpast
      exact settled cursor _ (by omega) hnext hexact
  | case4 cursor hpast reserved place hwithin hstraddles ih =>
      have hnext := g.toNat_reserve extent hpast
      have hexact := mt (fits_iff cursor.position extent).2 hstraddles
      unfold reserve
      rw [if_neg hpast, if_neg hwithin, if_neg hstraddles]
      rw [UInt64.le_iff_toNat_le] at hpast
      exact straddled cursor _ _ (by omega) hnext (by omega) ih

/-- A search that comes to an end has left the cursor where it was, or moved it on. -/
theorem le_reserve (cursor : Cursor) :
    cursor.position.toNat ≤ (g.reserve extent cursor).cursor.position.toNat := by
  refine reserve_induct (motive := fun cursor later =>
    cursor.position.toNat ≤ later.cursor.position.toNat) ?_ ?_ ?_ cursor
  · intro cursor hpast
    exact Nat.le_refl _
  · intro cursor next hlt hnext hfits
    show cursor.position.toNat ≤ next.position.toNat
    omega
  · intro cursor next later hlt hnext hstraddles ih
    show cursor.position.toNat ≤ later.cursor.position.toNat
    omega

theorem le_of_reserve {cursor next : Cursor} {landing : Landing} {straddles : Nat}
    (h : g.reserve extent cursor = { landing, cursor := next, straddles }) :
    cursor.position.toNat ≤ next.position.toNat := by
  have hle : cursor.position.toNat ≤ (g.reserve extent cursor).cursor.position.toNat :=
    le_reserve cursor
  rw [h] at hle
  exact hle

/-- A cursor that has passed all pools is left alone. -/
theorem reserve_of_capacity_le {cursor : Cursor} (extent : Extent g)
    (h : g.capacity.toNat ≤ cursor.position.toNat) :
    g.reserve extent cursor = { landing := .exhausted, cursor, straddles := 0 } := by
  unfold reserve
  rw [if_pos (UInt64.le_iff_toNat_le.2 h)]

/-- An extent that fits where the cursor stands lies there. -/
theorem reserve_of_fits {cursor : Cursor} (hlt : cursor.position.toNat < g.capacity.toNat)
    (hfits : cursor.position.toNat % g.poolSize.toNat + extent.bytes.toNat ≤ g.poolSize.toNat) :
    g.reserve extent cursor = {
      landing := .settled (g.locate cursor.position)
      cursor := (cursor.reserve extent.bytes).2
      straddles := 0
    } := by
  have hindex := (g.locate_index_lt_iff cursor.position).2 hlt
  unfold reserve
  rw [if_neg (by rw [UInt64.le_iff_toNat_le]; omega)]
  dsimp only [Cursor.reserve]
  rw [if_neg (by omega), if_pos ((fits_iff cursor.position extent).2 hfits)]

/-- An extent that straddles where the cursor stands is looked for behind. -/
theorem reserve_of_straddles {cursor : Cursor} (hlt : cursor.position.toNat < g.capacity.toNat)
    (hstraddles : g.poolSize.toNat
      < cursor.position.toNat % g.poolSize.toNat + extent.bytes.toNat) :
    g.reserve extent cursor = { g.reserve extent (cursor.reserve extent.bytes).2 with
      straddles := (g.reserve extent (cursor.reserve extent.bytes).2).straddles + 1 } := by
  have hindex := (g.locate_index_lt_iff cursor.position).2 hlt
  have hover := mt (fits_iff cursor.position extent).1 (Nat.not_le.2 hstraddles)
  rw [reserve, if_neg (by rw [UInt64.le_iff_toNat_le]; omega)]
  dsimp only [Cursor.reserve] at hover ⊢
  rw [if_neg (by omega), if_neg hover]

/-- A search that finds no room has passed all pools. -/
theorem capacity_le_of_exhausted {cursor next : Cursor} {straddles : Nat}
    (h : g.reserve extent cursor = { landing := .exhausted, cursor := next, straddles }) :
    g.capacity.toNat ≤ next.position.toNat := by
  have hsearch : (g.reserve extent cursor).landing = .exhausted →
      g.capacity.toNat ≤ (g.reserve extent cursor).cursor.position.toNat := by
    refine reserve_induct (motive := fun cursor later => later.landing = .exhausted →
      g.capacity.toNat ≤ later.cursor.position.toNat) ?_ ?_ ?_ cursor
    · intro cursor hpast _
      exact hpast
    · intro cursor next hlt hnext hfits hlanding
      cases hlanding
    · intro cursor next later hlt hnext hstraddles ih
      exact ih
  rw [h] at hsearch
  exact hsearch rfl

/-- The extent lies between the old cursor and the new one, and inside one pool. -/
structure Settled (g : Geometry) (extent : Extent g) (cursor : Cursor) (place : Place)
    (next : Cursor) : Prop where
  le_position : cursor.position.toNat ≤ g.position place
  position_add_bytes : g.position place + extent.bytes.toNat = next.position.toNat
  index_lt : place.index < g.poolCount.toNat
  offset_add_bytes_le : place.offset.toNat + extent.bytes.toNat ≤ g.poolSize.toNat

theorem reserve_settled {cursor next : Cursor} {place : Place} {straddles : Nat}
    (h : g.reserve extent cursor = { landing := .settled place, cursor := next, straddles }) :
    Settled g extent cursor place next := by
  have hsearch : ∀ place, (g.reserve extent cursor).landing = .settled place →
      Settled g extent cursor place (g.reserve extent cursor).cursor := by
    refine reserve_induct (motive := fun cursor later => ∀ place,
      later.landing = .settled place → Settled g extent cursor place later.cursor) ?_ ?_ ?_ cursor
    · intro cursor hpast place hplace
      cases hplace
    · intro cursor next hlt hnext hfits place hplace
      cases hplace
      -- The extent begins at the cursor itself.
      refine ⟨?_, ?_, (g.locate_index_lt_iff _).2 hlt, ?_⟩
      · exact Nat.le_of_eq (g.position_locate _).symm
      · rw [position_locate]
        exact hnext.symm
      · rw [locate_offset]
        exact hfits
    · intro cursor next later hlt hnext hstraddles ih place hplace
      -- What was thrown away lies before the place that is found later.
      have hlater := ih place hplace
      have hbehind := hlater.le_position
      refine ⟨?_, hlater.position_add_bytes, hlater.index_lt, hlater.offset_add_bytes_le⟩
      omega
  rw [h] at hsearch
  exact hsearch place rfl

end Geometry

end PooledArena
