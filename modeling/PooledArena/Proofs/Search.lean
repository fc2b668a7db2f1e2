import PooledArena.Proofs.Accounting
import Mathlib.Order.Bounds.Basic

/-!
# `PooledArena.Proofs.Search`: where a search for room stops

A search makes one reservation behind the other, all of the same size, and throws them away
as long as they straddle. After which of them it stops can be said without the search:
`Geometry.Stops` holds of a number of reservations if the ones before it have used up the
pools, or if the next one lies inside a pool.

* `straddles_isLeast`: the search throws away as many as that takes, and no more.
* `index_of_le_straddles`: each of them takes the cursor into exactly the next pool.
* `landing_of_lt`, `landing_of_le`: where the search comes out.
* `index_add_tries_le`, `straddles_le_one`: how many reservations there are at most.

`System.search_exact` puts this together for an allocation.
-/

set_option autoImplicit false

namespace PooledArena

namespace Geometry

/-- When this many reservations of `bytes` were made from `start` on, there is none that
would have to be thrown away: the pools are used up, or the next one lies inside a pool. -/
def Stops (g : Geometry) (start bytes count : Nat) : Prop :=
  g.capacity.toNat ≤ start + count * bytes
    ∨ (start + count * bytes) % g.poolSize.toNat + bytes ≤ g.poolSize.toNat

/-- The first reservation is the one at the start. -/
theorem stops_zero_iff {g : Geometry} {start bytes : Nat} : g.Stops start bytes 0
    ↔ g.capacity.toNat ≤ start ∨ start % g.poolSize.toNat + bytes ≤ g.poolSize.toNat := by
  unfold Stops
  rw [Nat.zero_mul, Nat.add_zero]

/-- The others are those of a search that begins behind the first one. -/
theorem stops_succ_iff {g : Geometry} {start next bytes count : Nat} (h : next = start + bytes) :
    g.Stops start bytes (count + 1) ↔ g.Stops next bytes count := by
  unfold Stops
  rw [h, Nat.succ_mul, Nat.add_assoc start bytes, Nat.add_comm bytes]

variable {g : Geometry} {extent : Extent g} {cursor : Cursor}

/-! ### What is thrown away -/

theorem straddles_isLeast (extent : Extent g) (cursor : Cursor) :
    IsLeast {count | g.Stops cursor.position.toNat extent.bytes.toNat count}
      (g.reserve extent cursor).straddles := by
  refine reserve_induct (motive := fun cursor found =>
    IsLeast {count | g.Stops cursor.position.toNat extent.bytes.toNat count} found.straddles)
    ?_ ?_ ?_ cursor
  · intro cursor hpast
    exact ⟨stops_zero_iff.2 (.inl hpast), fun count _ => Nat.zero_le count⟩
  · intro cursor next hlt hnext hfits
    exact ⟨stops_zero_iff.2 (.inr hfits), fun count _ => Nat.zero_le count⟩
  · intro cursor next later hlt hnext hstraddles ih
    refine ⟨(stops_succ_iff hnext).2 ih.1, ?_⟩
    intro count hcount
    cases count with
    | zero =>
        -- The first one straddles, and there are pools left.
        have hfirst := stops_zero_iff.1 hcount
        omega
    | succ count => exact Nat.succ_le_succ (ih.2 ((stops_succ_iff hnext).1 hcount))

/-- Each reservation that is thrown away takes the cursor into exactly the next pool. -/
theorem index_of_le_straddles (extent : Extent g) (cursor : Cursor) :
    ∀ count ≤ (g.reserve extent cursor).straddles,
      (cursor.position.toNat + count * extent.bytes.toNat) / g.poolSize.toNat
        = cursor.position.toNat / g.poolSize.toNat + count := by
  refine reserve_induct (motive := fun cursor found => ∀ count ≤ found.straddles,
    (cursor.position.toNat + count * extent.bytes.toNat) / g.poolSize.toNat
      = cursor.position.toNat / g.poolSize.toNat + count) ?_ ?_ ?_ cursor
  · intro cursor hpast count hcount
    obtain rfl := Nat.le_zero.1 hcount
    simp
  · intro cursor next hlt hnext hfits count hcount
    obtain rfl := Nat.le_zero.1 hcount
    simp
  · intro cursor next later hlt hnext hstraddles ih count hcount
    cases count with
    | zero => simp
    | succ count =>
        have hcrossed := (locate_of_straddles hnext hstraddles).1
        rw [locate_index, locate_index] at hcrossed
        have hlater := ih count (Nat.le_of_succ_le_succ hcount)
        rw [Nat.succ_mul, Nat.add_comm _ extent.bytes.toNat, ← Nat.add_assoc, ← hnext, hlater,
          hcrossed]
        omega

/-- The reservations begin one behind the other. -/
theorem reserve_starts (extent : Extent g) (cursor : Cursor) :
    (cursor.reserveAll (List.replicate (g.reserve extent cursor).tries extent.bytes)).map
        (fun reserved => reserved.1.toNat)
      = (List.range (g.reserve extent cursor).tries).map
          fun count => cursor.position.toNat + count * extent.bytes.toNat := by
  refine reserve_induct (motive := fun cursor found =>
    (cursor.reserveAll (List.replicate found.tries extent.bytes)).map
        (fun reserved => reserved.1.toNat)
      = (List.range found.tries).map
          fun count => cursor.position.toNat + count * extent.bytes.toNat) ?_ ?_ ?_ cursor
  · intro cursor hpast
    rfl
  · intro cursor next hlt hnext hfits
    simp [Cursor.reserveAll, Cursor.reserve]
  · intro cursor next later hlt hnext hstraddles ih
    rw [Reservation.tries_succ, List.replicate_succ, Cursor.reserveAll, Cursor.reserve_eq hnext,
      List.range_succ_eq_map, List.map_cons, List.map_cons, ih, List.map_map, Nat.zero_mul,
      Nat.add_zero]
    refine congrArg (_ :: ·) (List.map_congr_left fun count _ => ?_)
    show next.position.toNat + _ = _ + (count + 1) * _
    rw [Nat.succ_mul, hnext]
    omega

/-! ### Where the search comes out -/

/-- If the pools are used up by what was thrown away, there is no room. -/
theorem landing_of_le (extent : Extent g) (cursor : Cursor)
    (h : g.capacity.toNat ≤ cursor.position.toNat
      + (g.reserve extent cursor).straddles * extent.bytes.toNat) :
    (g.reserve extent cursor).landing = .exhausted := by
  revert h
  refine reserve_induct (motive := fun cursor found =>
    g.capacity.toNat ≤ cursor.position.toNat + found.straddles * extent.bytes.toNat →
      found.landing = .exhausted) ?_ ?_ ?_ cursor
  · intro cursor hpast _
    rfl
  · intro cursor next hlt hnext hfits hpast
    rw [Nat.zero_mul] at hpast
    omega
  · intro cursor next later hlt hnext hstraddles ih hpast
    refine ih ?_
    rw [Nat.succ_mul] at hpast
    omega

/-- Otherwise the extent lies right behind what was thrown away. -/
theorem landing_of_lt (extent : Extent g) (cursor : Cursor)
    (h : cursor.position.toNat + (g.reserve extent cursor).straddles * extent.bytes.toNat
      < g.capacity.toNat) :
    ∃ place, (g.reserve extent cursor).landing = .settled place
      ∧ place.index
        = cursor.position.toNat / g.poolSize.toNat + (g.reserve extent cursor).straddles
      ∧ place.offset.toNat = (cursor.position.toNat
          + (g.reserve extent cursor).straddles * extent.bytes.toNat) % g.poolSize.toNat := by
  have hindex := index_of_le_straddles extent cursor _ (Nat.le_refl _)
  have hsearch : cursor.position.toNat
        + (g.reserve extent cursor).straddles * extent.bytes.toNat < g.capacity.toNat →
      ∃ place : Word, (g.reserve extent cursor).landing = .settled (g.locate place)
        ∧ place.toNat = cursor.position.toNat
          + (g.reserve extent cursor).straddles * extent.bytes.toNat := by
    refine reserve_induct (motive := fun cursor found =>
      cursor.position.toNat + found.straddles * extent.bytes.toNat < g.capacity.toNat →
        ∃ place : Word, found.landing = .settled (g.locate place)
          ∧ place.toNat = cursor.position.toNat + found.straddles * extent.bytes.toNat)
      ?_ ?_ ?_ cursor
    · intro cursor hpast hlt
      rw [Nat.zero_mul] at hlt
      omega
    · intro cursor next hlt hnext hfits _
      exact ⟨cursor.position, rfl, by simp⟩
    · intro cursor next later hlt hnext hstraddles ih hbelow
      dsimp only at hbelow ⊢
      rw [Nat.succ_mul] at hbelow ⊢
      obtain ⟨place, hlanding, hplace⟩ := ih (by omega)
      exact ⟨place, hlanding, by omega⟩
  obtain ⟨place, hlanding, hplace⟩ := hsearch h
  refine ⟨g.locate place, hlanding, ?_, ?_⟩
  · rw [locate_index, hplace, hindex]
  · rw [locate_offset, hplace]

/-! ### How many reservations there are -/

/-- Every reservation of a search begins in a pool of its own. -/
theorem index_add_tries_le (extent : Extent g)
    (h : cursor.position.toNat < g.capacity.toNat) :
    cursor.position.toNat / g.poolSize.toNat + (g.reserve extent cursor).tries
      ≤ g.poolCount.toNat := by
  have hwithin : ∀ cursor : Cursor, cursor.position.toNat < g.capacity.toNat →
      cursor.position.toNat / g.poolSize.toNat + 1 ≤ g.poolCount.toNat := by
    intro cursor hlt
    rw [← locate_index]
    exact (g.locate_index_lt_iff cursor.position).2 hlt
  -- A search that begins behind the pools makes no reservation at all.
  have hsearch : cursor.position.toNat / g.poolSize.toNat + (g.reserve extent cursor).tries
      ≤ max g.poolCount.toNat (cursor.position.toNat / g.poolSize.toNat) := by
    refine reserve_induct (motive := fun cursor found =>
      cursor.position.toNat / g.poolSize.toNat + found.tries
        ≤ max g.poolCount.toNat (cursor.position.toNat / g.poolSize.toNat)) ?_ ?_ ?_ cursor
    · intro cursor hpast
      exact Nat.le_max_right _ _
    · intro cursor next hlt hnext hfits
      exact Nat.le_trans (hwithin cursor hlt) (Nat.le_max_left _ _)
    · intro cursor next later hlt hnext hstraddles ih
      have hcrossed := (locate_of_straddles hnext hstraddles).1
      have hcurrent := hwithin cursor hlt
      rw [locate_index, locate_index] at hcrossed
      rw [Reservation.tries_succ]
      omega
  have hcurrent := hwithin cursor h
  omega

/-- An extent of half a pool at the most straddles once, and then fits. -/
theorem straddles_le_one (extent : Extent g) (hhalf : 2 * extent.bytes.toNat ≤ g.poolSize.toNat)
    (cursor : Cursor) : (g.reserve extent cursor).straddles ≤ 1 := by
  have hleast := (straddles_isLeast extent cursor).2
  by_cases hfirst : g.Stops cursor.position.toNat extent.bytes.toNat 0
  · exact Nat.le_trans (hleast hfirst) (Nat.zero_le 1)
  · refine hleast ?_
    have hstraddles := mt stops_zero_iff.2 hfirst
    rw [not_or] at hstraddles
    have hbelow : ¬g.capacity ≤ cursor.position := by
      rw [UInt64.le_iff_toNat_le]
      exact hstraddles.1
    have hnext := g.toNat_reserve extent hbelow
    -- What reaches over into the next pool is shorter than the extent, so twice that fits.
    obtain ⟨_, hoffset⟩ := locate_of_straddles hnext (by omega)
    have hlt := g.locate_offset_lt cursor.position
    rw [g.locate_offset (cursor.reserve _).2.position] at hoffset
    exact (stops_succ_iff hnext).2 (stops_zero_iff.2 (.inr (by omega)))

end Geometry

/-! ### The search of an allocation -/

namespace System

variable {β : Type} [Backing β] (sys : System β) {size align : Word}

/-- An allocation makes the reservations of its search, and no others. -/
theorem tries_alloc (schedule : Schedule) {extent : Extent sys.arena.geometry}
    (haccept : sys.arena.geometry.accept size align = .ok extent) :
    (sys.alloc size align schedule).1.tries
      = (sys.arena.geometry.reserve extent sys.arena.cursor).tries := by
  generalize hreserve : sys.arena.geometry.reserve extent sys.arena.cursor = found
  obtain ⟨landing, cursor, straddles⟩ := found
  cases landing with
  | exhausted =>
      rw [sys.alloc_of_exhausted schedule haccept hreserve]
      rfl
  | settled place =>
      rw [sys.alloc_of_settled schedule haccept hreserve, allocAt]
      -- However the wait ends, the place counts as one more reservation.
      cases ((sys.moveTo cursor).await place.index schedule).arrival with
      | ready buffer => rfl
      | absent => rfl
      | abandoned => rfl

/-- Behind the search, the cursor stays where it is. -/
theorem allocAt_cursor (place : Place) (straddles : Nat) (schedule : Schedule) :
    (sys.allocAt size align place straddles schedule).2.arena.cursor = sys.arena.cursor := by
  have hwait := sys.await_spec place.index schedule
  unfold allocAt
  generalize sys.await place.index schedule = wait at hwait ⊢
  have hcursor : wait.system.arena.cursor = sys.arena.cursor := by
    cases hwait with
    | atOnce hslot => rfl
    | ready relaxes times hpending hready => exact sys.injectTimes_cursor times
    | abandoned relaxes times hpending => exact sys.injectTimes_cursor times
  rw [← hcursor]
  obtain ⟨arrival, relaxes, injections, waited⟩ := wait
  cases arrival with
  | ready buffer => rfl
  | absent => rfl
  | abandoned => rfl

/-- What an allocation of `padded` bytes, padding included, does from the position `start` on
that throws `count` reservations away. -/
structure Searches (sys : System β) (size align : Word) (schedule : Schedule)
    (start padded count : Nat) : Prop where
  /-- It is the least number after which there is nothing to throw away. -/
  isLeast : IsLeast {count | sys.arena.geometry.Stops start padded count} count
  straddles_eq : (sys.alloc size align schedule).1.straddles = count
  /-- The reservations begin one behind the other. -/
  starts : ∃ extent, sys.arena.geometry.accept size align = .ok extent
    ∧ extent.bytes.toNat = padded
    ∧ (sys.arena.cursor.reserveAll
          (List.replicate (sys.alloc size align schedule).1.tries extent.bytes)).map
        (fun reserved => reserved.1.toNat)
      = (List.range (sys.alloc size align schedule).1.tries).map fun made => start + made * padded
  /-- Each that is thrown away takes the cursor into exactly the next pool. -/
  index_eq : ∀ made ≤ count, (start + made * padded) / sys.arena.geometry.poolSize.toNat
    = start / sys.arena.geometry.poolSize.toNat + made
  /-- Where they have used up the pools, there is no other. -/
  exhausted : sys.arena.geometry.capacity.toNat ≤ start + count * padded →
    ∃ cursor : Cursor, cursor.position.toNat = start + count * padded
      ∧ sys.alloc size align schedule
        = (Attempt.failure .capacityExhausted count, sys.moveTo cursor)
  /-- Otherwise there is one more, and the allocation goes on at its place. -/
  settled : start + count * padded < sys.arena.geometry.capacity.toNat →
    ∃ (place : Place) (cursor : Cursor),
      place.index = start / sys.arena.geometry.poolSize.toNat + count
        ∧ place.offset.toNat = (start + count * padded) % sys.arena.geometry.poolSize.toNat
        ∧ cursor.position.toNat = start + (count + 1) * padded
        ∧ sys.alloc size align schedule
          = (sys.moveTo cursor).allocAt size align place count schedule
        ∧ (sys.alloc size align schedule).2.arena.cursor = cursor
  tries_le : (sys.alloc size align schedule).1.tries
    ≤ sys.arena.geometry.poolCount.toNat - start / sys.arena.geometry.poolSize.toNat
  tries_le_two : 2 * padded ≤ sys.arena.geometry.poolSize.toNat →
    (sys.alloc size align schedule).1.tries ≤ 2

/-- The search of an allocation, for every cursor below the capacity and every request that
is accepted, in exact numbers. It always comes to an end, and there is one number of
reservations that it can have thrown away until then. -/
theorem search_exact (size align : Word) (schedule : Schedule)
    (hbelow : sys.arena.cursor.position.toNat < sys.arena.geometry.capacity.toNat)
    (hsize : 0 < size.toNat) (halign : Word.IsPowerOfTwo align)
    (hbuffer : align ≤ sys.arena.geometry.bufferLayout.align)
    (hpool : size.toNat + (align.toNat - 1) ≤ sys.arena.geometry.poolSize.toNat) :
    ∃ count, sys.Searches size align schedule sys.arena.cursor.position.toNat
      (size.toNat + (align.toNat - 1)) count := by
  obtain ⟨extent, haccept⟩ := sys.arena.geometry.exists_accept_eq_ok hsize halign hbuffer hpool
  have hbytes := (sys.arena.geometry.accept_eq_ok haccept).bytes_eq
  have htries := sys.tries_alloc schedule haccept
  have hleast := Geometry.straddles_isLeast extent sys.arena.cursor
  have hstarts := Geometry.reserve_starts extent sys.arena.cursor
  have hindex := Geometry.index_of_le_straddles extent sys.arena.cursor
  have hnone := Geometry.landing_of_le extent sys.arena.cursor
  have hplace := Geometry.landing_of_lt extent sys.arena.cursor
  have hmoved := Geometry.reserve_cursor extent sys.arena.cursor
  have hmost := Geometry.index_add_tries_le extent hbelow
  have hone := fun hhalf => Geometry.straddles_le_one extent hhalf sys.arena.cursor
  rw [← hbytes]
  generalize hreserve : sys.arena.geometry.reserve extent sys.arena.cursor = found at *
  obtain ⟨landing, cursor, straddles⟩ := found
  refine ⟨straddles, hleast, ?_, ⟨extent, haccept, rfl, ?_⟩, hindex, ?_, ?_, ?_, ?_⟩
  · cases landing with
    | exhausted =>
        rw [sys.alloc_of_exhausted schedule haccept hreserve]
        rfl
    | settled place =>
        rw [sys.alloc_of_settled schedule haccept hreserve]
        rfl
  · rw [htries]
    exact hstarts
  · intro hpast
    obtain rfl : landing = .exhausted := hnone hpast
    exact ⟨cursor, hmoved, sys.alloc_of_exhausted schedule haccept hreserve⟩
  · intro hlt
    obtain ⟨place, hlanding, hpool, hoffset⟩ := hplace hlt
    obtain rfl : landing = .settled place := hlanding
    have halloc := sys.alloc_of_settled schedule haccept hreserve
    refine ⟨place, cursor, hpool, hoffset, hmoved, halloc, ?_⟩
    rw [halloc, allocAt_cursor]
    rfl
  · rw [htries]
    omega
  · intro hhalf
    have hfew : straddles ≤ 1 := hone hhalf
    rw [htries]
    cases landing with
    | exhausted => exact Nat.le_succ_of_le hfew
    | settled place => exact Nat.succ_le_succ hfew

/-- A block of 48 bytes in the first of three pools, and a request for another 48. Two
reservations straddle, and the third one ends with the last pool. -/
theorem search_exact_smooth :
    let sys := (Run.smooth.andThen [.alloc 48 1 []]).final
    ∃ count, sys.Searches 48 1 [] 48 48 count ∧ count = 2
      ∧ (sys.alloc 48 1 []).1.tries = sys.arena.geometry.poolCount.toNat := by
  intro sys
  obtain ⟨count, hsearch⟩ := sys.search_exact 48 1 [] (by decide +kernel)
    (by decide) ⟨0, rfl⟩ (by decide +kernel) (by decide +kernel)
  have hposition : sys.arena.cursor.position.toNat = 48 := by decide +kernel
  rw [hposition] at hsearch
  refine ⟨count, hsearch, ?_, by decide +kernel⟩
  rw [← hsearch.straddles_eq]
  decide +kernel

end System

end PooledArena
