import PooledArena.Proofs.TableOrder

/-!
# `PooledArena.Proofs.Blocks`: where the blocks of a run lie

In the row of all pools every block begins where the cursor was before it was
handed out, or later, and ends before the cursor of afterwards. The cursor never
moves back. So the blocks of a run lie one behind the other (`Run.ascending`), and
all of them before the cursor and in pools that have their buffers (`Run.holds`).

What a block owes to its request alone is a `Fit`: its size, an aligned start, and
that it ends inside its pool (`Run.fit`).
-/

set_option autoImplicit false

namespace PooledArena

/-! ### Rounding up -/

/-- Rounding up to an alignment adds less than the alignment. -/
theorem Word.alignUp_bounds {w align : Word} (h : Word.IsPowerOfTwo align)
    (hlt : w.toNat + (align.toNat - 1) < 0x10000000000000000) :
    w.toNat ≤ (Word.alignUp w align).toNat
      ∧ (Word.alignUp w align).toNat ≤ w.toNat + (align.toNat - 1)
      ∧ align.toNat ∣ (Word.alignUp w align).toNat := by
  have hpos := h.pos
  rw [Word.toNat_alignUp h hlt]
  have hparts := Nat.div_add_mod (w.toNat + (align.toNat - 1)) align.toNat
  have hmod := Nat.mod_lt (w.toNat + (align.toNat - 1)) hpos
  rw [Nat.mul_comm] at hparts
  refine ⟨by omega, by omega, ?_⟩
  exact Nat.dvd_mul_left _ _

/-! ### A block and its request -/

/-- Where the block begins in the row of all pools. -/
def Block.place (block : Block) : Place :=
  ⟨block.pool, block.start⟩

theorem Block.position_place (block : Block) (g : Geometry) :
    g.position block.place = block.pool * g.poolSize.toNat + block.start.toNat :=
  rfl

/-- What a block has of its request: the size and the alignment it asked for, in a
single pool. -/
structure Block.Fit (block : Block) (g : Geometry) (size align : Word) : Prop where
  size_eq : block.size = size
  size_pos : 0 < block.size.toNat
  dvd_start : align.toNat ∣ block.start.toNat
  dvd_bufferAlign : align.toNat ∣ g.bufferAlign.toNat
  start_add_size_le : block.start.toNat + block.size.toNat ≤ g.poolSize.toNat

/-- The block lies in a pool that has its buffer, and before the cursor. -/
structure Arena.Holds (arena : Arena) (block : Block) : Prop where
  slot_eq : arena.table.slot block.pool = .ready block.buffer
  position_add_size_le : arena.geometry.position block.place + block.size.toNat
    ≤ arena.cursor.position.toNat

/-- A block that is held stays so while the cursor moves on and slots advance. -/
theorem Arena.Holds.later {arena later : Arena} {block : Block} (h : arena.Holds block)
    (hgeometry : later.geometry = arena.geometry)
    (hcursor : arena.cursor.position.toNat ≤ later.cursor.position.toNat)
    (hslot : ∀ index, (arena.table.slot index).Advances (later.table.slot index)) :
    later.Holds block := by
  have hadvances := hslot block.pool
  rw [h.slot_eq] at hadvances
  refine ⟨hadvances, ?_⟩
  rw [hgeometry]
  exact Nat.le_trans h.position_add_size_le hcursor

/-- The padding of an extent is room enough for an aligned start. -/
theorem Geometry.Settled.block {g : Geometry} {size align : Word} {extent : Extent g}
    {cursor next : Cursor} {place : Place} (hsettled : Geometry.Settled g extent cursor place next)
    (haccepted : g.Accepted size align extent) (buffer : Addr) (moreNeeded : Bool) :
    let block : Block := ⟨place.index, buffer, Word.alignUp place.offset align, size, moreNeeded⟩
    block.Fit g size align ∧ cursor.position.toNat ≤ g.position block.place
      ∧ g.position block.place + block.size.toNat ≤ next.position.toNat := by
  have hinside := hsettled.offset_add_bytes_le
  have hbehind := hsettled.le_position
  have hnext := hsettled.position_add_bytes
  have hpool := g.toNat_poolSize_le
  have hsize := haccepted.size_pos
  rw [haccepted.bytes_eq] at hinside hnext
  -- Rounding up costs less than the alignment, and that is what the extent was padded by.
  obtain ⟨hle, hge, hdvd⟩ := Word.alignUp_bounds (w := place.offset)
    haccepted.isPowerOfTwo_align (by omega)
  unfold Geometry.position at hbehind hnext
  refine ⟨⟨rfl, hsize, hdvd, ?_, ?_⟩, ?_, ?_⟩
  · exact haccepted.isPowerOfTwo_align.dvd g.isPowerOfTwo_bufferAlign haccepted.align_le
  · show (Word.alignUp place.offset align).toNat + size.toNat ≤ _
    omega
  · rw [Block.position_place]
    dsimp only
    omega
  · rw [Block.position_place]
    dsimp only
    omega

/-! ### One operation -/

/-- Asking for a buffer leaves those alone that are there. -/
theorem SlotTable.slot_request_of_ready {table : SlotTable} {index : Nat} {buffer : Addr}
    (h : table.slot index = .ready buffer) (asked : Nat) :
    (table.request asked).2.slot index = .ready buffer := by
  rw [slot_request, h]
  split
  · rfl
  · rfl

namespace System

variable {β : Type} [Backing β] {sys later : System β}

theorem Allocation.le_cursor {size align : Word} {attempt : Attempt}
    (h : Allocation sys size align attempt later) :
    sys.arena.cursor.position.toNat ≤ later.arena.cursor.position.toNat := by
  rcases h.cursor_eq with hsame | ⟨extent, haccept, hmoved⟩
  · exact Nat.le_of_eq (congrArg (·.position.toNat) hsame.symm)
  · rw [hmoved]
    exact Geometry.le_reserve _

theorem perform_le_cursor (sys : System β) (operation : Operation) :
    sys.arena.cursor.position.toNat ≤ (sys.perform operation).2.arena.cursor.position.toNat := by
  cases operation with
  | alloc size align schedule => exact (sys.alloc_spec size align schedule).le_cursor
  | inject =>
      exact Nat.le_of_eq (congrArg (·.position.toNat) sys.inject_spec.cursor_eq.symm)

/-- A block that is handed out begins behind the old cursor and ends before the new
one, in a pool that has its buffer. -/
theorem Allocation.block {size align : Word} {attempt : Attempt} {block : Block}
    (h : Allocation sys size align attempt later) (hblock : attempt.block? = some block) :
    block.Fit sys.arena.geometry size align ∧ later.arena.Holds block
      ∧ sys.arena.cursor.position.toNat ≤ sys.arena.geometry.position block.place := by
  cases h with
  | rejected haccept => cases hblock
  | exhausted haccept hreserve => cases hblock
  | absent haccept hreserve habsent => cases hblock
  | abandoned relaxes times haccept hreserve hpending => cases hblock
  | @granted extent cursor straddles place buffer relaxes times haccept hreserve hready hwait =>
      cases hblock
      -- The wait leaves the shape alone, and the cursor where the reservation put it.
      generalize hwaited : ((sys.moveTo cursor).injectTimes times).2 = waited at hready ⊢
      have hcursor : waited.arena.cursor = cursor := by
        rw [← hwaited, moved_cursor]
      have hgeometry : waited.arena.geometry = sys.arena.geometry := by
        rw [← hwaited, (sys.moved_frame cursor times).geometry_eq]
      have hsettled := Geometry.reserve_settled hreserve
      obtain ⟨hfit, hbehind, hbefore⟩ := hsettled.block
        (sys.arena.geometry.accept_eq_ok haccept) buffer
        (waited.arena.request (place.index + 1)).1
      refine ⟨hfit, ⟨SlotTable.slot_request_of_ready hready _, ?_⟩, hbehind⟩
      show waited.arena.geometry.position _ + _ ≤ waited.arena.cursor.position.toNat
      rw [hgeometry, hcursor]
      exact hbefore

end System

/-! ### Along a run -/

namespace Run

variable {β : Type} [Backing β] (run : Run β)

/-- What a block that was just handed out is like. -/
theorem new_block {operation : Operation} {block : Block}
    (h : (run.final.perform operation).1.block? = some block) :
    (run.final.perform operation).2.arena.Holds block
      ∧ run.final.arena.cursor.position.toNat ≤ run.geometry.position block.place := by
  cases operation with
  | alloc size align schedule =>
      have hblock := (run.final.alloc_spec size align schedule).block h
      rw [geometry_final] at hblock
      exact hblock.2
  | inject => cases h

/-- An operation keeps what was handed out before. -/
theorem holds_perform {block : Block} (h : run.final.arena.Holds block) (operation : Operation) :
    (run.final.perform operation).2.arena.Holds block := by
  obtain ⟨stage, hstage, _⟩ := run.exists_stage
  have hchanges := run.final.perform_changes operation
  obtain ⟨next, hnext, hreaches⟩ := hchanges.reaches hstage
  exact h.later hchanges.frame.geometry_eq (run.final.perform_le_cursor operation)
    fun index => hstage.slot_advances hnext hreaches.advances index

/-- Every block of a run lies before the cursor, in a pool that has its buffer. -/
theorem holds : ∀ block ∈ run.blocks, run.final.arena.Holds block := by
  induction run using Run.induct with
  | opening run hnone hopening =>
      intro block hblock
      rw [run.blocks_eq_nil hnone] at hblock
      cases hblock
  | andThen run operation ih =>
      intro block hblock
      rw [final_step]
      rcases run.mem_blocks_step.1 hblock with hold | hnew
      · exact run.holds_perform (ih block hold) operation
      · exact (run.new_block hnew).1

/-- The blocks of a run lie one behind the other in the row of all pools. -/
theorem ascending : run.blocks.Pairwise fun first second =>
    run.geometry.position first.place + first.size.toNat ≤ run.geometry.position second.place := by
  induction run using Run.induct with
  | opening run hnone hopening =>
      rw [run.blocks_eq_nil hnone]
      exact List.Pairwise.nil
  | andThen run operation ih =>
      rw [blocks_step, List.pairwise_append]
      refine ⟨ih, ?_, ?_⟩
      · cases (run.final.perform operation).1.block? with
        | none => exact List.Pairwise.nil
        | some block => exact List.pairwise_singleton _ block
      · intro first hfirst second hsecond
        rw [Option.mem_toList] at hsecond
        -- The older block ends before the cursor, and the new one begins behind it.
        have hbefore := (run.holds first hfirst).position_add_size_le
        rw [geometry_final] at hbefore
        exact Nat.le_trans hbefore (run.new_block hsecond).2

/-- Every block fits the request that it was handed out for. -/
theorem fit : ∀ size align attempt block, .alloc size align attempt ∈ run.transcript →
    attempt.block? = some block → block.Fit run.geometry size align := by
  induction run using Run.induct with
  | opening run hnone hopening =>
      intro size align attempt block hentry hblock
      rw [hnone] at hentry
      cases hentry
  | andThen run operation ih =>
      intro size align attempt block hentry hblock
      rw [transcript_step, List.mem_append, List.mem_singleton] at hentry
      rcases hentry with hold | hnew
      · exact ih size align attempt block hold hblock
      · cases operation with
        | alloc size' align' schedule =>
            cases hnew
            have hfit := ((run.final.alloc_spec size align schedule).block hblock).1
            rw [geometry_final] at hfit
            exact hfit
        | inject => cases hnew

/-- A block comes with the entry about it. -/
theorem exists_entry {block : Block} (h : block ∈ run.blocks) : ∃ size align attempt,
    .alloc size align attempt ∈ run.transcript ∧ attempt.block? = some block := by
  obtain ⟨entry, hentry, hblock⟩ := List.mem_filterMap.1 h
  cases entry with
  | alloc size align attempt => exact ⟨size, align, attempt, hentry, hblock⟩
  | inject result => cases hblock

end Run

end PooledArena
