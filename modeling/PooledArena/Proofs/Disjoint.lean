import PooledArena.Proofs.Loans

/-!
# `PooledArena.Proofs.Disjoint`: blocks do not overlap

Blocks of one pool are apart because they lie one behind the other in the row of
all pools. Blocks of two pools are apart because the buffers are, and those are on
loan together, so the backing must keep them apart. That is what `Host.Sound` asks
of a backing, and that buffers are aligned as they were asked for.

`Run.blocks_disjoint` is the outcome, for every run whose backing is sound.
-/

set_option autoImplicit false

namespace PooledArena

/-- The two loans have no address in common. -/
def Loan.Disjoint (first second : Loan) : Prop :=
  first.addr + first.layout.size.toNat ≤ second.addr
    ∨ second.addr + second.layout.size.toNat ≤ first.addr

instance : DecidableRel Loan.Disjoint :=
  fun _ _ => inferInstanceAs (Decidable (_ ∨ _))

theorem Loan.Disjoint.symm {first second : Loan} (h : first.Disjoint second) :
    second.Disjoint first :=
  Or.symm h

/-- The two blocks have no address in common. -/
def Block.Disjoint (first second : Block) : Prop :=
  first.addr + first.size.toNat ≤ second.addr ∨ second.addr + second.size.toNat ≤ first.addr

/-- What is on loan is aligned as it was asked for, and no two loans overlap. An
address is a natural number, so no loan wraps around. -/
structure Host.Sound {β : Type} (host : Host β) : Prop where
  aligned : ∀ loan ∈ host.outstanding, loan.layout.align.toNat ∣ loan.addr
  disjoint : host.outstanding.Pairwise Loan.Disjoint

instance {β : Type} (host : Host β) : Decidable host.Sound :=
  decidable_of_iff
    ((∀ loan ∈ host.outstanding, loan.layout.align.toNat ∣ loan.addr)
      ∧ host.outstanding.Pairwise Loan.Disjoint)
    ⟨fun h => ⟨h.1, h.2⟩, fun h => ⟨h.aligned, h.disjoint⟩⟩

/-- Blocks within loans that are apart are apart. -/
theorem Loan.Disjoint.blocks {first second : Loan} {block block' : Block}
    (h : first.Disjoint second) (hfirst : block.Within first) (hsecond : block'.Within second) :
    block.Disjoint block' := by
  obtain ⟨hlo, hhi⟩ := hfirst
  obtain ⟨hlo', hhi'⟩ := hsecond
  rcases h with hbefore | hbehind
  · exact .inl (Nat.le_trans hhi (Nat.le_trans hbefore hlo'))
  · exact .inr (Nat.le_trans hhi' (Nat.le_trans hbehind hlo))

/-- No block lies within two loans that are apart, because it is not empty. -/
theorem Loan.Disjoint.not_within {first second : Loan} {block : Block}
    (h : first.Disjoint second) (hpos : 0 < block.size.toNat) (hfirst : block.Within first) :
    ¬block.Within second := by
  intro hsecond
  rcases h.blocks hfirst hsecond with hself | hself
  · exact Nat.not_le.2 (Nat.lt_add_of_pos_right hpos) hself
  · exact Nat.not_le.2 (Nat.lt_add_of_pos_right hpos) hself

/-! ### Two blocks of one arena -/

namespace Arena

variable {arena : Arena} {first second : Block}

/-- The pools have their buffers from different loans. -/
theorem loans_disjoint {stage : Stage} (hstage : arena.table.AtStage stage)
    (hapart : arena.bufferLoans.Pairwise Loan.Disjoint) {index index' : Nat}
    {buffer buffer' : Addr} (h : arena.table.slot index = .ready buffer)
    (h' : arena.table.slot index' = .ready buffer') (hne : index ≠ index') :
    Loan.Disjoint ⟨buffer, arena.geometry.bufferLayout⟩ ⟨buffer', arena.geometry.bufferLayout⟩ := by
  have hheld := (hstage.slot_eq_ready_iff index buffer).1 h
  have hheld' := (hstage.slot_eq_ready_iff index' buffer').1 h'
  obtain ⟨hlt, rfl⟩ := List.getElem?_eq_some_iff.1 hheld
  obtain ⟨hlt', rfl⟩ := List.getElem?_eq_some_iff.1 hheld'
  rw [bufferLoans_eq hstage, List.pairwise_map, List.pairwise_iff_getElem] at hapart
  rcases Nat.lt_or_gt_of_ne hne with hbefore | hbehind
  · exact hapart index index' hlt hlt' hbefore
  · exact (hapart index' index hlt' hlt hbehind).symm

/-- A buffer of a ready pool is on one of the loans of the arena. -/
theorem mem_bufferLoans {stage : Stage} (hstage : arena.table.AtStage stage) {index : Nat}
    {buffer : Addr} (h : arena.table.slot index = .ready buffer) :
    ⟨buffer, arena.geometry.bufferLayout⟩ ∈ arena.bufferLoans := by
  rw [bufferLoans_eq hstage]
  exact List.mem_map_of_mem (List.mem_of_getElem? ((hstage.slot_eq_ready_iff index buffer).1 h))

/-- Of two blocks that an arena holds, the one that ends before the other begins is apart
from it. -/
theorem Holds.disjoint {stage : Stage} (hstage : arena.table.AtStage stage)
    (hapart : arena.bufferLoans.Pairwise Loan.Disjoint) (hfirst : arena.Holds first)
    (hsecond : arena.Holds second)
    (hwithin : first.Within ⟨first.buffer, arena.geometry.bufferLayout⟩)
    (hwithin' : second.Within ⟨second.buffer, arena.geometry.bufferLayout⟩)
    (hposition : arena.geometry.position first.place + first.size.toNat
      ≤ arena.geometry.position second.place) : first.Disjoint second := by
  have hslot := hfirst.slot_eq
  have hslot' := hsecond.slot_eq
  by_cases hsame : first.pool = second.pool
  · -- In one pool the positions differ by what the addresses differ by.
    have hbuffer : first.buffer = second.buffer := by
      rw [hsame, hslot'] at hslot
      exact (Slot.ready.inj hslot).symm
    rw [Block.position_place, Block.position_place, hsame] at hposition
    refine .inl ?_
    unfold Block.addr
    rw [hbuffer, Nat.add_assoc]
    exact Nat.add_le_add_left (by omega) _
  · exact (loans_disjoint hstage hapart hslot hslot' hsame).blocks hwithin hwithin'

end Arena

namespace Run

variable {β : Type} [Backing β] (run : Run β)

/-- The buffers are on loan together, so no two of them overlap. -/
theorem bufferLoans_disjoint (hsound : run.final.host.Sound) :
    run.final.arena.bufferLoans.Pairwise Loan.Disjoint := by
  have hpairwise := hsound.disjoint
  rw [outstanding_eq, List.pairwise_append, List.pairwise_reverse] at hpairwise
  exact hpairwise.1.imp Loan.Disjoint.symm

/-- Buffers of two pools are apart. -/
theorem buffers_disjoint (hsound : run.final.host.Sound) {index index' : Nat}
    {buffer buffer' : Addr} (h : run.final.arena.table.slot index = .ready buffer)
    (h' : run.final.arena.table.slot index' = .ready buffer') (hne : index ≠ index') :
    Loan.Disjoint ⟨buffer, run.geometry.bufferLayout⟩ ⟨buffer', run.geometry.bufferLayout⟩ := by
  obtain ⟨stage, hstage, _⟩ := run.exists_stage
  have hapart := Arena.loans_disjoint hstage (run.bufferLoans_disjoint hsound) h h' hne
  rw [geometry_final] at hapart
  exact hapart

/-- On a sound backing no two blocks of a run overlap. Every block lies in the
buffer of one ready pool, and of one only. It has the size that was asked for, and
its address is a multiple of the alignment that was asked for. Only what is on loan
at the end of the run has to be sound. -/
theorem blocks_disjoint (hsound : run.final.host.Sound) :
    run.blocks.Pairwise Block.Disjoint
      ∧ (∀ block ∈ run.blocks, ∃! index, ∃ buffer,
          run.final.arena.table.slot index = .ready buffer
            ∧ block.Within ⟨buffer, run.geometry.bufferLayout⟩)
      ∧ ∀ size align attempt block, .alloc size align attempt ∈ run.transcript →
          attempt.outcome = .granted block →
          block ∈ run.blocks ∧ block.size = size ∧ align.toNat ∣ block.addr := by
  refine ⟨?_, ?_, ?_⟩
  · obtain ⟨stage, hstage, _⟩ := run.exists_stage
    refine run.ascending.imp_of_mem ?_
    intro first second hfirst hsecond hposition
    have hwithin := (run.within hfirst).2
    have hwithin' := (run.within hsecond).2
    rw [← geometry_final] at hwithin hwithin' hposition
    exact Arena.Holds.disjoint hstage (run.bufferLoans_disjoint hsound) (run.holds first hfirst)
      (run.holds second hsecond) hwithin hwithin' hposition
  · intro block hblock
    have hslot := (run.holds block hblock).slot_eq
    have hwithin := (run.within hblock).2
    refine ⟨block.pool, ⟨block.buffer, hslot, hwithin⟩, ?_⟩
    rintro index ⟨buffer, hother, hwithin'⟩
    -- In a second buffer the block would be apart from itself, and it is not empty.
    by_contra hne
    obtain ⟨size, align, attempt, hentry, hattempt⟩ := run.exists_entry hblock
    have hpos := (run.fit size align attempt block hentry hattempt).size_pos
    have hapart := run.buffers_disjoint hsound hother hslot hne
    exact hapart.not_within hpos hwithin' hwithin
  · intro size align attempt block hentry hgranted
    have hattempt := Attempt.block?_of_granted hgranted
    have hblock : block ∈ run.blocks := List.mem_filterMap.2 ⟨_, hentry, hattempt⟩
    have hfit := run.fit size align attempt block hentry hattempt
    have hloan : ⟨block.buffer, run.geometry.bufferLayout⟩ ∈ run.final.host.outstanding := by
      rw [outstanding_eq]
      exact List.mem_append_left _ (List.mem_reverse.2 (run.within hblock).1)
    refine ⟨hblock, hfit.size_eq, Nat.dvd_add ?_ hfit.dvd_start⟩
    exact Nat.dvd_trans hfit.dvd_bufferAlign (hsound.aligned _ hloan)

/-- Three blocks, the last of which had to wait. -/
theorem blocks_disjoint_smooth :
    let run := smooth.andThen [.alloc 24 8 [], .alloc 20 1 [], .alloc 20 4 [1, 0]]
    run.final.host.Sound ∧ run.blocks.length = 3 ∧ run.blocks.Pairwise Block.Disjoint := by
  intro run
  have hsound : run.final.host.Sound := by decide +kernel
  exact ⟨hsound, by decide +kernel, (run.blocks_disjoint hsound).1⟩

end Run

end PooledArena
