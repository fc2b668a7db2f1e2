import PooledArena.Proofs.Reservation

/-!
# `PooledArena.Proofs.Tries`: what a search for room costs

A search makes one reservation after another, all of the same size, until one lies in a
single pool or the pools are used up. Here the reservations are counted.

* `reserve_cursor`: every try moves the cursor by the bytes of the extent.
* `index_add_straddles_le`: every try that straddles takes the cursor across the boundary
  of a pool, and no two cross the same one.
* `reserve_cursor_lt`: a try begins below the capacity, so it ends less than a pool size
  beyond it.
* `reserve_tries`: the tries themselves, as reservations of a cursor.
-/

set_option autoImplicit false

namespace PooledArena

/-- How many reservations the search has made. All were thrown away, but for the last one
of a search that settles. -/
def Reservation.tries (found : Reservation) : Nat :=
  match found.landing with
  | .settled _ => found.straddles + 1
  | .exhausted => found.straddles

namespace Reservation

@[simp] theorem tries_settled (place : Place) (cursor : Cursor) (straddles : Nat) :
    tries { landing := .settled place, cursor, straddles } = straddles + 1 :=
  rfl

@[simp] theorem tries_exhausted (cursor : Cursor) (straddles : Nat) :
    tries { landing := .exhausted, cursor, straddles } = straddles :=
  rfl

@[simp] theorem tries_succ (found : Reservation) :
    tries { found with straddles := found.straddles + 1 } = found.tries + 1 := by
  obtain ⟨landing, cursor, straddles⟩ := found
  cases landing with
  | settled place => rfl
  | exhausted => rfl

end Reservation

/-- A cursor that is behind another one by an exact sum is behind it by a reservation. -/
theorem Cursor.reserve_eq {cursor next : Cursor} {size : Word}
    (h : next.position.toNat = cursor.position.toNat + size.toNat) :
    cursor.reserve size = (cursor.position, next) := by
  have hlt := next.position.toNat_lt
  have hsum : (cursor.position + size).toNat = next.position.toNat := by
    rw [Word.toNat_add_of_lt (by omega), h]
  show (cursor.position, Cursor.mk (cursor.position + size)) = _
  rw [UInt64.toNat_inj.1 hsum]

namespace Geometry

variable {g : Geometry} {extent : Extent g}

/-- Every try moves the cursor by the bytes of the extent. -/
theorem reserve_cursor (extent : Extent g) (cursor : Cursor) :
    (g.reserve extent cursor).cursor.position.toNat
      = cursor.position.toNat + (g.reserve extent cursor).tries * extent.bytes.toNat := by
  refine reserve_induct (motive := fun cursor found => found.cursor.position.toNat
    = cursor.position.toNat + found.tries * extent.bytes.toNat) ?_ ?_ ?_ cursor
  · intro cursor hpast
    simp
  · intro cursor next hlt hnext hfits
    simp [hnext]
  · intro cursor next later hlt hnext hstraddles ih
    show later.cursor.position.toNat = _
    rw [Reservation.tries_succ, Nat.succ_mul]
    omega

/-- No two tries that straddle cross the same boundary between pools. -/
theorem index_add_straddles_le (extent : Extent g) (cursor : Cursor) :
    (g.locate cursor.position).index + (g.reserve extent cursor).straddles
      ≤ (g.locate (g.reserve extent cursor).cursor.position).index := by
  refine reserve_induct (motive := fun cursor found =>
    (g.locate cursor.position).index + found.straddles
      ≤ (g.locate found.cursor.position).index) ?_ ?_ ?_ cursor
  · intro cursor hpast
    simp
  · intro cursor next hlt hnext hfits
    show (g.locate cursor.position).index + 0 ≤ (g.locate next.position).index
    rw [locate_index, locate_index]
    exact Nat.div_le_div_right (by omega)
  · intro cursor next later hlt hnext hstraddles ih
    obtain ⟨hcrossed, _⟩ := locate_of_straddles hnext hstraddles
    show _ + (later.straddles + 1) ≤ (g.locate later.cursor.position).index
    omega

/-- A try begins below the capacity, and takes no more than a pool. -/
theorem reserve_cursor_lt {cursor : Cursor}
    (h : cursor.position.toNat < g.capacity.toNat + g.poolSize.toNat) :
    (g.reserve extent cursor).cursor.position.toNat < g.capacity.toNat + g.poolSize.toNat := by
  have hbytes := extent.bytes_le
  revert h
  refine reserve_induct (motive := fun cursor found =>
    cursor.position.toNat < g.capacity.toNat + g.poolSize.toNat →
      found.cursor.position.toNat < g.capacity.toNat + g.poolSize.toNat) ?_ ?_ ?_ cursor
  · intro cursor hpast h
    exact h
  · intro cursor next hlt hnext hfits _
    show next.position.toNat < _
    omega
  · intro cursor next later hlt hnext hstraddles ih _
    exact ih (by omega)

/-- The tries of a search, as reservations of the cursor. Each begins below the capacity and
ends where the exact sum does, and the last one leaves the cursor where the search does. -/
theorem reserve_tries (cursor : Cursor) :
    (∀ reserved ∈ cursor.reserveAll
        (List.replicate (g.reserve extent cursor).tries extent.bytes),
      reserved.1.toNat < g.capacity.toNat
        ∧ reserved.2.position.toNat = reserved.1.toNat + extent.bytes.toNat)
      ∧ ((cursor.reserveAll
          (List.replicate (g.reserve extent cursor).tries extent.bytes)).getLast?.elim
            cursor Prod.snd) = (g.reserve extent cursor).cursor := by
  refine reserve_induct (motive := fun cursor found =>
    (∀ reserved ∈ cursor.reserveAll (List.replicate found.tries extent.bytes),
      reserved.1.toNat < g.capacity.toNat
        ∧ reserved.2.position.toNat = reserved.1.toNat + extent.bytes.toNat)
      ∧ ((cursor.reserveAll (List.replicate found.tries extent.bytes)).getLast?.elim
          cursor Prod.snd) = found.cursor) ?_ ?_ ?_ cursor
  · intro cursor hpast
    simp [Cursor.reserveAll]
  · intro cursor next hlt hnext hfits
    simp [Cursor.reserveAll, Cursor.reserve_eq hnext, hnext, hlt]
  · intro cursor next later hlt hnext hstraddles ih
    rw [Reservation.tries_succ, List.replicate_succ, Cursor.reserveAll, Cursor.reserve_eq hnext]
    refine ⟨?_, ?_⟩
    · simp only [List.forall_mem_cons]
      exact ⟨⟨hlt, hnext⟩, ih.1⟩
    · rw [List.getLast?_cons, Option.elim_some, ← ih.2]
      cases (next.reserveAll (List.replicate later.tries extent.bytes)).getLast? with
      | none => rfl
      | some last => rfl

end Geometry

end PooledArena
