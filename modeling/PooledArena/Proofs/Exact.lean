import PooledArena.Proofs.Blocks
import PooledArena.Proofs.Tries

/-!
# `PooledArena.Proofs.Exact`: no sum of words wraps around

Sizes and offsets are words, and a sum of words that is too large starts again from zero.
None of those that a run works out is. All pools together take up less than half of the
words, and a reservation begins below the capacity and is no larger than a pool. So the
cursor stays less than a pool size beyond the capacity (`Run.cursor_lt`), and inside a pool
the numbers are smaller still (`Geometry.Accepted.exactAt`).

`Run.sums_exact` goes through all of them.
-/

set_option autoImplicit false

namespace PooledArena

/-! ### The shape -/

namespace Geometry

/-- The shape has as many pools as were asked for. -/
theorem poolCount_of_ofSizes {poolCount minPoolSize : Word} {g : Geometry}
    (h : ofSizes poolCount minPoolSize = .ok g) : g.poolCount = poolCount := by
  unfold ofSizes at h
  dsimp only at h
  split at h
  · cases h
  · split at h
    · cases h
      rfl
    · cases h

/-- Beyond the capacity there is room for more than another pool. -/
theorem capacity_add_poolSize_lt (g : Geometry) :
    g.capacity.toNat + g.poolSize.toNat < 0x10000000000000000 := by
  have hcapacity := g.toNat_capacity_lt
  have hpool := g.toNat_poolSize_le
  omega

/-- Nobody takes one from an alignment of zero: such an alignment is rejected first. -/
theorem align_pos_of_accept (g : Geometry) {size align : Word}
    (hzero : g.accept size align ≠ .error .allocZeroSize)
    (halign : g.accept size align ≠ .error (.invalidAlign align)) : 0 < align.toNat := by
  unfold accept at hzero halign
  split at halign
  · rename_i hsize
    exact absurd (dif_pos hsize) hzero
  · split at halign
    · rename_i hvalid
      exact hvalid.1.pos
    · exact absurd rfl halign

/-- The sums of words that are worked out for a reservation of so many bytes. The place of
its start is `g.locate start`. -/
structure ExactAt (g : Geometry) (bytes align start : Word) : Prop where
  /-- Where the reservation ends, which is where the cursor goes. -/
  end_eq : (start + bytes).toNat = start.toNat + bytes.toNat
  end_lt : start.toNat + bytes.toNat < g.capacity.toNat + g.poolSize.toNat
  /-- Where it ends in its pool, if that is not beyond. -/
  fit_eq : ((g.locate start).offset + bytes).toNat
    = (g.locate start).offset.toNat + bytes.toNat
  /-- What is rounded down to find an aligned start, and what it would be plus one. -/
  align_eq : ((g.locate start).offset + align).toNat
    = (g.locate start).offset.toNat + align.toNat
  pad_eq : ((g.locate start).offset + (align - 1)).toNat
    = (g.locate start).offset.toNat + align.toNat - 1
  /-- The number of the next pool. -/
  index_lt : (g.locate start).index + 1 < 0x10000000000000000

theorem Accepted.exactAt {g : Geometry} {size align start : Word} {extent : Extent g}
    (h : g.Accepted size align extent) (hstart : start.toNat < g.capacity.toNat) :
    g.ExactAt extent.bytes align start := by
  have hroom := g.capacity_add_poolSize_lt
  have hcapacity := g.toNat_capacity_lt
  have hpool := g.toNat_poolSize_le
  have hbytes := extent.bytes_le
  have halign := Nat.le_trans h.align_le g.bufferAlign_le_poolSize
  have hpos := h.isPowerOfTwo_align.pos
  have hpred := Word.toNat_sub_one hpos
  have hoffset := g.locate_offset_lt start
  have hindex := (g.locate_index_lt_iff start).2 hstart
  have hcount := g.poolCount.toNat_lt
  exact {
    end_eq := Word.toNat_add_of_lt (by omega)
    end_lt := by omega
    fit_eq := Word.toNat_add_of_lt (by omega)
    align_eq := Word.toNat_add_of_lt (by omega)
    pad_eq := by
      rw [Word.toNat_add_of_lt (by omega)]
      omega
    index_lt := by omega
  }

end Geometry

/-- The bytes that count as reserved are those before the cursor, up to the capacity. -/
theorem Arena.toNat_reserved (arena : Arena) : arena.reserved.toNat
    = min arena.cursor.position.toNat arena.geometry.capacity.toNat :=
  Word.toNat_min _ _

/-! ### Along a run -/

namespace System

variable {β : Type} [Backing β] {sys : System β}

/-- A creation that succeeds has found a shape for the sizes that were asked for. -/
theorem ofSizes_of_create {label : String} {poolCount minPoolSize : Word} {host : Host β}
    (h : Arena.create label poolCount minPoolSize host = (.ok sys.arena, sys.host)) :
    Geometry.ofSizes poolCount minPoolSize = .ok sys.arena.geometry := by
  unfold Arena.create at h
  split at h
  · cases h
  · rename_i g hg
    split at h
    · cases h
    · rename_i layout hlayout
      split at h
      · cases h
      · rename_i addr tableHost htable
        dsimp only at h
        -- The injection leaves the shape alone.
        have hframe := (inject_spec ⟨Arena.blank label g ⟨addr, layout⟩, tableHost⟩).frame
        split at h
        · cases h
        · rename_i opened hopened
          rw [hopened] at hframe
          obtain ⟨arena, opening⟩ := sys
          cases h
          rw [hg, hframe.geometry_eq]
          rfl

theorem perform_cursor_lt (operation : Operation)
    (h : sys.arena.cursor.position.toNat
      < sys.arena.geometry.capacity.toNat + sys.arena.geometry.poolSize.toNat) :
    (sys.perform operation).2.arena.cursor.position.toNat
      < sys.arena.geometry.capacity.toNat + sys.arena.geometry.poolSize.toNat := by
  cases operation with
  | alloc size align schedule =>
      show (sys.alloc size align schedule).2.arena.cursor.position.toNat < _
      rcases (sys.alloc_spec size align schedule).cursor_eq with hsame | ⟨extent, _, hmoved⟩
      · rw [hsame]
        exact h
      · rw [hmoved]
        exact Geometry.reserve_cursor_lt h
  | inject =>
      show sys.inject.2.arena.cursor.position.toNat < _
      rw [sys.inject_spec.cursor_eq]
      exact h

end System

namespace Run

variable {β : Type} [Backing β] (run : Run β)

/-- The cursor runs past the last pool by less than a pool. -/
theorem cursor_lt : run.final.arena.cursor.position.toNat
    < run.geometry.capacity.toNat + run.geometry.poolSize.toNat := by
  induction run using Run.induct with
  | opening run hnone hopening =>
      obtain ⟨buffer, hcreated⟩ := create_spec run.create_eq
      have hpool := run.geometry.poolSize_pos
      rw [hopening, hcreated.cursor_eq]
      show 0 < _
      omega
  | andThen run operation ih =>
      rw [final_step]
      rw [← run.geometry_final] at ih
      have hlater := System.perform_cursor_lt operation ih
      rw [run.geometry_final] at hlater
      exact hlater

/-- The cursor never moves back. -/
theorem cursor_le_andThen (later : List Operation) : run.final.arena.cursor.position.toNat
    ≤ (run.andThen later).final.arena.cursor.position.toNat := by
  induction later using List.reverseRecOn with
  | nil =>
      rw [final_andThen]
      exact Nat.le_refl _
  | append_singleton later operation ih =>
      have hstep := (run.andThen later).final.perform_le_cursor operation
      rw [← final_step] at hstep
      have hsplit : (run.andThen (later ++ [operation])).final
          = ((run.andThen later).andThen [operation]).final := by
        simp [andThen]
      rw [hsplit]
      exact Nat.le_trans ih hstep

/-- No sum of words that a run works out wraps around. -/
structure Exact : Prop where
  /-- Whatever sizes are accepted, shifting the count loses no bit, and there is room for
  another pool beyond the capacity. -/
  shape : ∀ poolCount minPoolSize g, Geometry.ofSizes poolCount minPoolSize = .ok g →
    g.capacity = poolCount <<< g.shift
      ∧ (poolCount <<< g.shift).toNat = poolCount.toNat <<< g.shift.toNat
      ∧ g.capacity.toNat + g.poolSize.toNat < 0x10000000000000000
  /-- The shape of the arena is that of the sizes it was created with. -/
  ofSizes_eq : Geometry.ofSizes run.poolCount run.minPoolSize = .ok run.geometry
  /-- The cursor stays within the room that is left beyond the capacity. -/
  cursor_lt : run.final.arena.cursor.position.toNat
    < run.geometry.capacity.toNat + run.geometry.poolSize.toNat
  cursor_le : ∀ later, run.final.arena.cursor.position.toNat
    ≤ (run.andThen later).final.arena.cursor.position.toNat
  /-- One is taken only from alignments that are positive. -/
  pred_align_eq : ∀ size align, run.geometry.accept size align ≠ .error .allocZeroSize →
    run.geometry.accept size align ≠ .error (.invalidAlign align) →
      (align - 1).toNat + 1 = align.toNat
  /-- All reservations that the next request makes are exact. -/
  reservations : ∀ size align extent, run.geometry.accept size align = .ok extent →
    ∀ reserved ∈ run.final.arena.cursor.reserveAll (List.replicate
        (run.geometry.reserve extent run.final.arena.cursor).tries extent.bytes),
      run.geometry.ExactAt extent.bytes align reserved.1
  /-- They are the ones after which the cursor is left. -/
  last_reservation : ∀ size align extent, run.geometry.accept size align = .ok extent →
    ((run.final.arena.cursor.reserveAll (List.replicate
        (run.geometry.reserve extent run.final.arena.cursor).tries extent.bytes)).getLast?.elim
      run.final.arena.cursor Prod.snd) = (run.geometry.reserve extent run.final.arena.cursor).cursor
  /-- The address of a block is exact as well, where that of its buffer's end is a word. -/
  block_eq : ∀ block ∈ run.blocks,
    block.buffer + run.geometry.poolSize.toNat < 0x10000000000000000 →
      (UInt64.ofNat block.buffer + block.start).toNat = block.addr
        ∧ (UInt64.ofNat block.buffer + block.start + block.size).toNat
          = block.addr + block.size.toNat

theorem sums_exact : run.Exact := by
  refine ⟨?_, System.ofSizes_of_create run.create_eq, run.cursor_lt, run.cursor_le_andThen,
    ?_, ?_, ?_, ?_⟩
  · intro poolCount minPoolSize g hsizes
    obtain rfl := Geometry.poolCount_of_ofSizes hsizes
    exact ⟨rfl, g.toNat_capacity_eq_shiftLeft, g.capacity_add_poolSize_lt⟩
  · intro size align hzero halign
    have hpos := run.geometry.align_pos_of_accept hzero halign
    rw [Word.toNat_sub_one hpos]
    omega
  · intro size align extent haccept reserved hreserved
    have htry := (Geometry.reserve_tries run.final.arena.cursor).1 reserved hreserved
    exact (run.geometry.accept_eq_ok haccept).exactAt htry.1
  · intro size align extent haccept
    exact (Geometry.reserve_tries run.final.arena.cursor).2
  · intro block hblock hroom
    change _ < (_ : Nat) at hroom
    obtain ⟨size, align, attempt, hentry, hattempt⟩ := run.exists_entry hblock
    have hend := (run.fit size align attempt block hentry hattempt).start_add_size_le
    have hbuffer : (UInt64.ofNat block.buffer).toNat = block.buffer := by
      rw [UInt64.toNat_ofNat', Nat.mod_eq_of_lt (by omega)]
    have haddr : (UInt64.ofNat block.buffer + block.start).toNat = block.addr := by
      rw [Word.toNat_add_of_lt (by omega), hbuffer]
      rfl
    refine ⟨haddr, ?_⟩
    rw [Word.toNat_add_of_lt, haddr]
    rw [haddr]
    unfold Block.addr
    omega

/-- Two blocks. The second one straddles first, which moves the cursor twice. -/
theorem sums_exact_smooth :
    let run := smooth.andThen [.alloc 50 8 [], .inject, .alloc 20 4 []]
    run.final.arena.cursor.position.toNat = 103 ∧ run.blocks.length = 2
      ∧ ∀ block ∈ run.blocks, (UInt64.ofNat block.buffer + block.start + block.size).toNat
        = block.addr + block.size.toNat := by
  intro run
  have hroom : ∀ block ∈ run.blocks,
      block.buffer + run.geometry.poolSize.toNat < 0x10000000000000000 := by
    decide +kernel
  refine ⟨by decide +kernel, by decide +kernel, ?_⟩
  intro block hblock
  exact (run.sums_exact.block_eq block hblock (hroom block hblock)).2

end Run

end PooledArena
