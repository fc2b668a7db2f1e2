import PooledArena.Proofs.Loans
import Mathlib.Order.Bounds.Basic

/-!
# `PooledArena.Proofs.Padding`: an aligned block is a part of a padded one

An aligned block needs room for the bytes that rounding up its start may cost. So a request
is checked and looked for as one of `size + (align - 1)` bytes, and the alignment comes in
again only when the block is handed out. A request of that many bytes without an alignment
gets by as it does, to the last step, and there it gets the whole extent.

* `Geometry.accept_padded`: the checks give both the same extent, or the same error.
* `Arena.settle_padded`: the last step leaves the same arena, and one block lies in the
  other (`Block.Inside`).
* `Word.isLeast_alignUp`: rounding up the offset is rounding up the address, as long as the
  buffer is aligned itself.

`System.alloc_eq_padded` puts them together.
-/

set_option autoImplicit false

namespace PooledArena

/-! ### Rounding up -/

namespace Word

theorem alignUp_one (w : Word) : alignUp w 1 = w := by
  simp [alignUp]

/-- Behind a base that is a multiple of the alignment, rounding up an offset finds the first
multiple that is no less than the two together. -/
theorem isLeast_alignUp {w align : Word} {base : Nat} (h : IsPowerOfTwo align)
    (hlt : w.toNat + (align.toNat - 1) < 0x10000000000000000) (hbase : align.toNat ∣ base) :
    IsLeast {addr | align.toNat ∣ addr ∧ base + w.toNat ≤ addr}
      (base + (alignUp w align).toNat) := by
  have hpos := h.pos
  obtain ⟨hle, hge, hdvd⟩ := alignUp_bounds h hlt
  refine ⟨⟨Nat.dvd_add hbase hdvd, Nat.add_le_add_left hle base⟩, ?_⟩
  rintro addr ⟨⟨factor, rfl⟩, hbehind⟩
  obtain ⟨multiple, hmultiple⟩ := Nat.dvd_add hbase hdvd
  rw [hmultiple]
  refine Nat.mul_le_mul_left _ ?_
  -- A multiple below would be less by a whole alignment, and rounding up costs less.
  by_contra hbelow
  have hstep := Nat.mul_le_mul_left align.toNat (Nat.succ_le_of_lt (Nat.lt_of_not_le hbelow))
  rw [Nat.mul_succ] at hstep
  omega

end Word

/-! ### The checks -/

namespace Geometry

variable {g : Geometry} {size align padded : Word}

/-- Whatever is aligned as the buffers are has the smaller alignments too. -/
theorem Supports.dvd_bufferAlign (h : g.Supports align) : align.toNat ∣ g.bufferAlign.toNat := by
  obtain ⟨hpower, hle⟩ := h
  rw [← toNat_bufferAlign] at hle
  exact hpower.dvd g.isPowerOfTwo_bufferAlign hle

/-- A request and one of its padded size get the same extent, or the same error. -/
theorem accept_padded (hsize : 0 < size.toNat) (hsupports : g.Supports align)
    (hpadded : padded.toNat = size.toNat + (align.toNat - 1)) :
    g.accept size align = g.accept padded 1 := by
  obtain ⟨halign, hbuffer⟩ := supports_iff.1 hsupports
  obtain ⟨hpower, hone⟩ := supports_iff.1 g.supports_one
  have hsame : padded.toNat + ((1 : Word).toNat - 1) = size.toNat + (align.toNat - 1) := hpadded
  have hpos : 0 < padded.toNat := by omega
  by_cases hroom : size.toNat + (align.toNat - 1) ≤ g.poolSize.toNat
  · obtain ⟨extent, haccept⟩ := g.exists_accept_eq_ok hsize halign hbuffer hroom
    obtain ⟨extent', haccept'⟩ := g.exists_accept_eq_ok hpos hpower hone (hsame ▸ hroom)
    have hbytes := (g.accept_eq_ok haccept).bytes_eq
    have hbytes' := (g.accept_eq_ok haccept').bytes_eq
    have hextent : extent = extent' := by
      apply Extent.ext
      rw [← UInt64.toNat_inj, hbytes, hbytes', hsame]
    rw [haccept, haccept', hextent]
  · rw [accept_of_poolSize_lt hsize halign hbuffer (Nat.lt_of_not_le hroom),
      accept_of_poolSize_lt hpos hpower hone (hsame ▸ Nat.lt_of_not_le hroom)]
    -- The padded size is a word, so neither sum is cut off.
    have hsum : Word.saturatingAdd size (align - 1) = Word.saturatingAdd padded (1 - 1) := by
      rw [← UInt64.toNat_inj, Word.toNat_saturatingAdd, Word.toNat_saturatingAdd,
        Word.toNat_sub_one halign.pos, ← hsame]
      rfl
    rw [hsum]

end Geometry

/-! ### The last step -/

/-- The block was handed out for `size` bytes at a multiple of `align`, and the outer one for
the padded size. It is the part of the outer block that begins at the first multiple of the
alignment there. -/
structure Block.Inside (block outer : Block) (g : Geometry) (size align : Word) : Prop where
  pool_eq : block.pool = outer.pool
  buffer_eq : block.buffer = outer.buffer
  moreNeeded_eq : block.moreNeeded = outer.moreNeeded
  size_eq : block.size = size
  outer_size_eq : outer.size.toNat = size.toNat + (align.toNat - 1)
  le_addr : outer.addr ≤ block.addr
  end_le : block.addr + block.size.toNat ≤ outer.addr + outer.size.toNat
  isLeast_addr : g.bufferAlign.toNat ∣ outer.buffer →
    IsLeast {addr | align.toNat ∣ addr ∧ outer.addr ≤ addr} block.addr

/-- Both end in the same way, and where they hand out blocks one lies inside the other. -/
inductive Outcome.Inside (g : Geometry) (size align : Word) : Outcome → Outcome → Prop
  | granted {block outer : Block} (h : block.Inside outer g size align) :
      Outcome.Inside g size align (.granted block) (.granted outer)
  | failed (error : Error) : Outcome.Inside g size align (.failed error) (.failed error)
  | abandoned : Outcome.Inside g size align .abandoned .abandoned

/-- Both took the same course, and the same turns. -/
structure Attempt.Inside (attempt outer : Attempt) (g : Geometry) (size align : Word) : Prop where
  outcome : Outcome.Inside g size align attempt.outcome outer.outcome
  straddles_eq : attempt.straddles = outer.straddles
  relaxes_eq : attempt.relaxes = outer.relaxes
  injections_eq : attempt.injections = outer.injections

theorem Attempt.inside_failure (error : Error) (straddles : Nat) (g : Geometry)
    (size align : Word) :
    (failure error straddles).Inside (failure error straddles) g size align :=
  ⟨.failed error, rfl, rfl, rfl⟩

section

variable {g : Geometry} {size align padded : Word} (hsupports : g.Supports align)
  (hpadded : padded.toNat = size.toNat + (align.toNat - 1))

include hsupports hpadded

/-- Two blocks at the same place, one with the alignment and one with the padding. -/
theorem Block.inside_of_place {place : Place}
    (hroom : place.offset.toNat + padded.toNat ≤ g.poolSize.toNat) (buffer : Addr)
    (moreNeeded : Bool) :
    Block.Inside ⟨place.index, buffer, Word.alignUp place.offset align, size, moreNeeded⟩
      ⟨place.index, buffer, Word.alignUp place.offset 1, padded, moreNeeded⟩ g size align := by
  have hpool := g.toNat_poolSize_le
  have hlt : place.offset.toNat + (align.toNat - 1) < 0x10000000000000000 := by omega
  obtain ⟨hbehind, hcost, _⟩ := Word.alignUp_bounds hsupports.1 hlt
  rw [Word.alignUp_one]
  refine ⟨rfl, rfl, rfl, rfl, hpadded, Nat.add_le_add_left hbehind buffer, ?_, ?_⟩
  · show buffer + (Word.alignUp place.offset align).toNat + size.toNat
      ≤ buffer + place.offset.toNat + padded.toNat
    rw [Nat.add_assoc, Nat.add_assoc]
    exact Nat.add_le_add_left (by omega) buffer
  · intro hbuffer
    exact Word.isLeast_alignUp hsupports.1 hlt (Nat.dvd_trans hsupports.dvd_bufferAlign hbuffer)

theorem Arena.settle_padded (arena : Arena) {place : Place}
    (hroom : place.offset.toNat + padded.toNat ≤ g.poolSize.toNat) (arrival : Arrival) :
    (arena.settle size align place arrival).2 = (arena.settle padded 1 place arrival).2
      ∧ Outcome.Inside g size align (arena.settle size align place arrival).1
        (arena.settle padded 1 place arrival).1 := by
  cases arrival with
  | ready buffer =>
      have hinside := Block.inside_of_place hsupports hpadded hroom buffer
        (arena.request (place.index + 1)).1
      exact ⟨rfl, .granted hinside⟩
  | absent => exact ⟨rfl, .failed _⟩
  | abandoned => exact ⟨rfl, .abandoned⟩

end

/-! ### The whole allocation -/

namespace System

variable {β : Type} [Backing β]

/-- An allocation of `size` bytes at a multiple of `align` is one of `size + (align - 1)`
bytes without an alignment, in every state and by every schedule: the cursor, the slots, the
host and all that happens on the way are the same. It fails as the other one does, or its
block lies in the other one's block. -/
theorem alloc_eq_padded (sys : System β) {size align padded : Word} (schedule : Schedule)
    (hsize : 0 < size.toNat) (hsupports : sys.arena.geometry.Supports align)
    (hpadded : padded.toNat = size.toNat + (align.toNat - 1)) :
    (sys.alloc size align schedule).2 = (sys.alloc padded 1 schedule).2
      ∧ (sys.alloc size align schedule).1.Inside (sys.alloc padded 1 schedule).1
        sys.arena.geometry size align := by
  have hsame := Geometry.accept_padded hsize hsupports hpadded
  cases haccept : sys.arena.geometry.accept size align with
  | error error =>
      rw [sys.alloc_of_rejected schedule haccept,
        sys.alloc_of_rejected schedule (hsame.symm.trans haccept)]
      exact ⟨rfl, Attempt.inside_failure ..⟩
  | ok extent =>
      have haccept' := hsame.symm.trans haccept
      generalize hreserve : sys.arena.geometry.reserve extent sys.arena.cursor = reservation
      obtain ⟨landing, cursor, straddles⟩ := reservation
      cases landing with
      | exhausted =>
          rw [sys.alloc_of_exhausted schedule haccept hreserve,
            sys.alloc_of_exhausted schedule haccept' hreserve]
          exact ⟨rfl, Attempt.inside_failure ..⟩
      | settled place =>
          rw [sys.alloc_of_settled schedule haccept hreserve,
            sys.alloc_of_settled schedule haccept' hreserve]
          -- Both wait for the same pool, and so through the same turns.
          unfold allocAt
          generalize (sys.moveTo cursor).await place.index schedule = wait
          have hroom := (Geometry.reserve_settled hreserve).offset_add_bytes_le
          rw [(sys.arena.geometry.accept_eq_ok haccept).bytes_eq, ← hpadded] at hroom
          obtain ⟨harena, houtcome⟩ :=
            wait.system.arena.settle_padded hsupports hpadded hroom wait.arrival
          refine ⟨?_, houtcome, rfl, rfl, rfl⟩
          exact congrArg (fun arena => { wait.system with arena }) harena

/-- After 57 bytes neither ten bytes nor three at a multiple of eight fit in the pool. Both
lie in the next one, behind the three bytes that go to waste there. -/
theorem alloc_eq_padded_smooth :
    let sys := (Run.smooth.andThen [.alloc 50 8 []]).final
    (sys.alloc 3 8 [1, 0]).1.block?.map Block.start = some 8
      ∧ (sys.alloc 10 1 [1, 0]).1.block?.map Block.start = some 3
      ∧ (sys.alloc 3 8 [1, 0]).2 = (sys.alloc 10 1 [1, 0]).2
      ∧ (sys.alloc 3 8 [1, 0]).1.Inside (sys.alloc 10 1 [1, 0]).1 sys.arena.geometry 3 8 := by
  intro sys
  refine ⟨by decide +kernel, by decide +kernel, ?_⟩
  exact sys.alloc_eq_padded [1, 0] (by decide) (by decide +kernel) (by decide)

end System

end PooledArena
