import PooledArena.Proofs.Blocks
import PooledArena.Proofs.Release

/-!
# `PooledArena.Proofs.Loans`: every loan goes back at most once

While it lives an arena holds the loan of its table and one for each pool that has
its buffer, and no other. `Dealings` are the calls between two points of its life:
a buffer that no pool takes goes back by the next call, and those that are taken
become loans of the arena. `Run.dealings` adds them up over a run.

The release gives back what is held then, as far as it can count. If it comes to its
end nothing is left, and if it breaks off the table is left and every buffer behind
the one that was too many. `Run.loans_balanced` says which of the two it is.
-/

set_option autoImplicit false

namespace PooledArena

/-- All bytes of the block lie in the memory on loan. -/
def Block.Within (block : Block) (loan : Loan) : Prop :=
  loan.addr ≤ block.addr
    ∧ block.addr + block.size.toNat ≤ loan.addr + loan.layout.size.toNat

/-- A block that fits in a pool lies in the buffer of that pool. -/
theorem Block.Fit.within {block : Block} {g : Geometry} {size align : Word}
    (h : block.Fit g size align) : block.Within ⟨block.buffer, g.bufferLayout⟩ := by
  have hend := h.start_add_size_le
  refine ⟨Nat.le_add_right _ _, ?_⟩
  show block.buffer + block.start.toNat + block.size.toNat ≤ block.buffer + g.poolSize.toNat
  rw [Nat.add_assoc]
  exact Nat.add_le_add_left hend _

/-! ### From one point to another -/

/-- The calls that lead from one system to another one. Those that granted a loan
and did not give it back are the new buffers of the arena. -/
structure Dealings {β : Type} (sys : System β) (calls : List Call) (later : System β) : Prop where
  calls_eq : later.host.calls = calls ++ sys.host.calls
  atOnce : Call.AtOnce calls
  loans_eq : later.arena.bufferLoans.reverse
    = Call.outstanding calls ++ sys.arena.bufferLoans.reverse

namespace Dealings

variable {β : Type}

/-- No call was made, and no buffer came. -/
theorem none {sys later : System β} (hcalls : later.host.calls = sys.host.calls)
    (hloans : later.arena.bufferLoans = sys.arena.bufferLoans) : Dealings sys [] later :=
  ⟨hcalls, .nil, congrArg List.reverse hloans⟩

theorem trans {first second third : System β} {calls calls' : List Call}
    (h : Dealings first calls second) (h' : Dealings second calls' third) :
    Dealings first (calls' ++ calls) third := by
  refine ⟨?_, h'.atOnce.append h.atOnce, ?_⟩
  · rw [h'.calls_eq, h.calls_eq, List.append_assoc]
  · rw [h'.loans_eq, h.loans_eq, h'.atOnce.honest.outstanding_append, List.append_assoc]

end Dealings

/-- The loans of the buffers held, in index order. -/
theorem Arena.bufferLoans_eq {arena : Arena} {stage : Stage} (h : arena.table.AtStage stage) :
    arena.bufferLoans = stage.held.map (⟨·, arena.geometry.bufferLayout⟩) := by
  unfold Arena.bufferLoans
  rw [h.buffers_eq]

/-- A buffer that is taken becomes the last loan. -/
theorem Arena.bufferLoans_install {arena : Arena} {stage : Stage}
    (h : arena.table.AtStage stage) {buffer : Addr} {index : Nat}
    (hinstall : (arena.install buffer).1 = some index) : (arena.install buffer).2.bufferLoans
      = arena.bufferLoans ++ [⟨buffer, arena.geometry.bufferLayout⟩] := by
  obtain ⟨hindex, hnext⟩ := h.offer buffer
  have hheld := stage.held_offer (hindex.symm.trans hinstall)
  have hafter : (arena.install buffer).2.table.AtStage (stage.offer buffer).2 := hnext
  rw [bufferLoans_eq hafter, bufferLoans_eq h, hheld, List.map_append]
  rfl

/-- To ask for the pool behind a ready one brings no buffer. -/
theorem Arena.bufferLoans_request {arena : Arena} {stage : Stage}
    (h : arena.table.AtStage stage) {index : Nat} {buffer : Addr}
    (hready : arena.table.slot index = .ready buffer) :
    (arena.request (index + 1)).2.bufferLoans = arena.bufferLoans := by
  obtain ⟨_, hnext⟩ := h.request (Nat.succ_le_of_lt (h.lt_of_ready hready))
  have hafter : (arena.request (index + 1)).2.table.AtStage (stage.request (index + 1)).2 := hnext
  rw [bufferLoans_eq hafter, bufferLoans_eq h, stage.held_request]
  rfl

namespace System

variable {β : Type} [Backing β] {sys later : System β} {filled : List Nat} {stage : Stage}

theorem Injection.dealings {result : Except Error Nat} (h : Injection sys result later)
    (hstage : sys.arena.table.AtStage stage) : ∃ calls, Dealings sys calls later := by
  cases h with
  | refused hallocate =>
      refine ⟨[.refused sys.arena.geometry.bufferLayout], ?_, .refused _ .nil, rfl⟩
      exact (Host.allocate_none hallocate).1
  | @installed host buffer index hallocate hinstall =>
      refine ⟨[.granted ⟨buffer, sys.arena.geometry.bufferLayout⟩], ?_, .granted _ .nil, ?_⟩
      · exact (Host.allocate_some hallocate).1
      · -- The newest loan is the one of the last ready pool.
        show (sys.arena.install buffer).2.bufferLoans.reverse = _
        rw [Arena.bufferLoans_install hstage hinstall, List.reverse_append]
        rfl
  | @returned host buffer hallocate hinstall =>
      refine ⟨[.freed ⟨buffer, sys.arena.geometry.bufferLayout⟩, .granted _], ?_,
        .returned _ .nil, ?_⟩
      · exact congrArg (_ :: ·) (Host.allocate_some hallocate).1
      · -- The loan that goes back is the newest one.
        show _ = List.erase [_] _ ++ _
        rw [List.erase_cons_head]
        rfl

theorem Change.dealings (h : Change sys filled later) (hstage : sys.arena.table.AtStage stage) :
    ∃ calls, Dealings sys calls later := by
  cases h with
  | moveTo cursor => exact ⟨[], .none rfl rfl⟩
  | inject h => exact h.dealings hstage
  | request hready => exact ⟨[], .none rfl (Arena.bufferLoans_request hstage hready)⟩

theorem Changes.dealings (h : Changes sys filled later) (hstage : sys.arena.table.AtStage stage) :
    ∃ calls, Dealings sys calls later := by
  induction h generalizing stage with
  | none sys => exact ⟨[], .none rfl rfl⟩
  | more hone hrest ih =>
      obtain ⟨middle, hmiddle, _⟩ := hone.reaches hstage
      obtain ⟨older, holder⟩ := hone.dealings hstage
      obtain ⟨newer, hnewer⟩ := ih hmiddle
      exact ⟨newer ++ older, holder.trans hnewer⟩

end System

/-! ### What an arena holds -/

namespace Run

variable {β : Type} [Backing β] (run : Run β)

/-- The calls of a run, its creation included. What they leave outstanding is what
the arena holds. -/
theorem dealings : ∃ calls, run.final.host.calls = calls ++ run.host.calls ∧ Call.AtOnce calls
    ∧ Call.outstanding calls
      = run.final.arena.bufferLoans.reverse ++ [run.final.arena.table.loan] := by
  obtain ⟨buffer, hcreated⟩ := create_spec run.create_eq
  obtain ⟨calls, hdealings⟩ := run.changes.dealings hcreated.atStage
  have hloans := hdealings.loans_eq
  rw [Arena.bufferLoans_eq hcreated.atStage] at hloans
  refine ⟨calls ++ [.granted ⟨buffer, run.geometry.bufferLayout⟩,
    .granted run.opening.arena.table.loan], ?_, ?_, ?_⟩
  · rw [hdealings.calls_eq, hcreated.calls_eq, List.append_assoc]
    rfl
  · exact hdealings.atOnce.append (.granted _ (.granted _ .nil))
  · rw [hdealings.atOnce.honest.outstanding_append, hloans, run.changes.frame.loan_eq,
      List.append_assoc]
    rfl

/-- What is outstanding besides the loans of others. -/
theorem outstanding_eq : run.final.host.outstanding
    = run.final.arena.bufferLoans.reverse
      ++ run.final.arena.table.loan :: run.host.outstanding := by
  obtain ⟨calls, hcalls, hatOnce, houtstanding⟩ := run.dealings
  unfold Host.outstanding
  rw [hcalls, hatOnce.honest.outstanding_append, houtstanding, List.append_assoc]
  rfl

/-- Every block lies in a buffer that the arena holds. -/
theorem within {block : Block} (h : block ∈ run.blocks) :
    ⟨block.buffer, run.geometry.bufferLayout⟩ ∈ run.final.arena.bufferLoans
      ∧ block.Within ⟨block.buffer, run.geometry.bufferLayout⟩ := by
  obtain ⟨stage, hstage, _⟩ := run.exists_stage
  obtain ⟨size, align, attempt, hentry, hblock⟩ := run.exists_entry h
  have hfit := run.fit size align attempt block hentry hblock
  have hheld := (hstage.slot_eq_ready_iff _ _).1 (run.holds block h).slot_eq
  refine ⟨?_, hfit.within⟩
  rw [Arena.bufferLoans_eq hstage, run.geometry_final]
  exact List.mem_map_of_mem (List.mem_of_getElem? hheld)

/-! ### The release -/

/-- The pools that ever got a buffer are those that have one at the end. -/
theorem length_filled : (0 :: run.filled).length = run.final.arena.bufferLoans.length := by
  obtain ⟨stage, hstage, hfilled⟩ := run.exists_stage
  rw [hfilled, Arena.bufferLoans_eq hstage, List.length_map, List.length_range]

theorem label_final : run.final.arena.label = run.label := by
  obtain ⟨buffer, hcreated⟩ := create_spec run.create_eq
  exact run.changes.frame.label_eq.trans hcreated.label_eq

/-- The layout that is worked out for the release of the table is the one that it is on
loan for. -/
theorem housed : run.final.arena.table.Housed := by
  obtain ⟨buffer, hcreated⟩ := create_spec run.create_eq
  exact run.changes.frame.housed_iff.2 hcreated.housed

/-- The calls of a whole life are honest, and leave nothing outstanding but what the release
leaves. -/
theorem life : ∃ calls, run.released.host.calls = calls ++ run.host.calls ∧ Call.Honest calls
    ∧ (Call.outstanding calls).Perm run.final.arena.stranded := by
  obtain ⟨calls, hcalls, hatOnce, houtstanding⟩ := run.dealings
  have hperm : (Call.outstanding calls).Perm
      (run.final.arena.returned ++ run.final.arena.stranded) := by
    rw [houtstanding]
    refine ((List.reverse_perm _).append_right _).trans ?_
    exact (List.perm_append_singleton _ _).trans
      run.final.arena.returned_append_stranded_perm.symm
  obtain ⟨hhonest, hrest⟩ := hatOnce.honest.returnAll hperm
  refine ⟨_, ?_, hhonest, hrest⟩
  rw [released, run.final.calls_release run.housed, hcalls, List.append_assoc]

/-- What a release that comes to its end does: the arena leaves nothing behind. -/
structure Settled : Prop where
  /-- The buffers go back in index order, and the table last. -/
  calls_eq : run.released.host.calls = .freed run.final.arena.table.loan
    :: ((run.final.arena.bufferLoans.map .freed).reverse ++ run.final.host.calls)
  /-- The pools that are noted as released are those that ever got a buffer, with
  pool zero, which got its own at the creation. -/
  log_eq : ∃ count : Int32, count.toInt = (0 :: run.filled).length
    ∧ run.released.host.log = ⟨run.label, .released count⟩ :: run.final.host.log
  /-- What was granted in the whole life was given back, each loan once and while it
  was outstanding, and nothing else was. -/
  life : ∃ calls, run.released.host.calls = calls ++ run.host.calls ∧ Call.Honest calls
    ∧ (calls.filterMap Call.granted?).Perm (calls.filterMap Call.freed?)
  /-- Nothing is left. -/
  outstanding_eq : run.released.host.outstanding = run.host.outstanding

/-- What a release that breaks off does: the arena leaves its table behind, and the buffers
that the release did not come to. -/
structure BrokenOff : Prop where
  /-- The buffers go back in index order, up to the one that is too many to count. -/
  calls_eq : run.released.host.calls
    = ((run.final.arena.bufferLoans.take 0x80000000).map .freed).reverse ++ run.final.host.calls
  /-- Nothing is noted. -/
  log_eq : run.released.host.log = run.final.host.log
  outstanding_perm : run.released.host.outstanding.Perm
    (run.final.arena.bufferLoans.drop 0x80000000
      ++ run.final.arena.table.loan :: run.host.outstanding)

theorem settled (h : (0 :: run.filled).length < 0x80000000) : run.Settled := by
  rw [length_filled] at h
  obtain ⟨count, hcount, hrelease⟩ := run.final.release_of_lt h
  obtain ⟨calls, hcalls, hhonest, hstranded⟩ := run.life
  -- Honest calls that leave nothing outstanding gave back what they were granted.
  have hnothing : Call.outstanding calls = [] := by
    rw [Arena.stranded_eq_nil_iff.2 h] at hstranded
    exact hstranded.eq_nil
  refine ⟨?_, ⟨count, ?_, ?_⟩, ⟨calls, hcalls, hhonest, ?_⟩, ?_⟩
  · rw [released, run.final.calls_release run.housed, Arena.returned, if_pos h, List.map_append,
      List.reverse_append]
    rfl
  · rw [hcount, length_filled]
  · rw [released, hrelease, ← label_final, Host.freeTable_eq _ run.housed]
    exact congrArg (_ :: ·) (Host.log_freeAll _ _)
  · have hperm := hhonest.granted_perm
    rw [hnothing, List.append_nil] at hperm
    exact hperm
  · unfold Host.outstanding
    rw [hcalls, hhonest.outstanding_append, hnothing]
    rfl

theorem brokenOff (h : 0x80000000 ≤ (0 :: run.filled).length) : run.BrokenOff := by
  rw [length_filled] at h
  have hrelease := run.final.release_of_le h
  obtain ⟨calls, hcalls, hhonest, hstranded⟩ := run.life
  refine ⟨?_, ?_, ?_⟩
  · rw [released, hrelease]
    exact Host.calls_freeAll _ _
  · rw [released, hrelease]
    exact Host.log_freeAll _ _
  · rw [Arena.stranded, if_neg (Nat.not_lt.2 h)] at hstranded
    unfold Host.outstanding
    rw [hcalls, hhonest.outstanding_append]
    refine (hstranded.append_right _).trans (List.Perm.of_eq ?_)
    rw [List.append_assoc]
    rfl

/-- The loans of a run, and of the release after it. -/
structure Balanced : Prop where
  /-- Between two operations the arena holds its table and the buffers of its ready
  pools, and nothing else. -/
  outstanding_eq : run.final.host.outstanding
    = run.final.arena.bufferLoans.reverse ++ run.final.arena.table.loan :: run.host.outstanding
  length_outstanding : run.final.host.outstanding.length
    = run.final.arena.readyPools + 1 + run.host.outstanding.length
  /-- Every block that was handed out lies in a buffer that is still on loan. -/
  within : ∀ block ∈ run.blocks, ∃ loan ∈ run.final.arena.bufferLoans, block.Within loan
  /-- Before the release, only a buffer that was granted by the very call before is
  given back. -/
  atOnce : ∃ calls, run.final.host.calls = calls ++ run.host.calls ∧ Call.AtOnce calls
  /-- A double injection is where that happens. -/
  doubleInjection : ∀ sys : System β, sys.inject.1 = .error .doubleInjection →
    ∃ loan, sys.inject.2.host.calls = .freed loan :: .granted loan :: sys.host.calls
  /-- The layout that is worked out for the release of the table is the one that it is on
  loan for. -/
  housed : SlotTable.layout? run.final.arena.table.slots.length
    = some run.final.arena.table.loan.layout
  /-- The release comes to its end exactly if the number of the pools that ever got a buffer is
  one of 32 bits with a sign. -/
  completed_iff : run.released.completed = true ↔ (0 :: run.filled).length < 0x80000000
  settled : run.released.completed = true → run.Settled
  brokenOff : run.released.completed = false → run.BrokenOff
  /-- Either way nothing is given back twice, or without having been granted. -/
  honest : ∃ calls, run.released.host.calls = calls ++ run.host.calls ∧ Call.Honest calls

/-- An arena gives nothing back twice, and no buffer too early. It leaks nothing either, unless
it has more pools than its release can count. -/
theorem loans_balanced : run.Balanced := by
  obtain ⟨calls, hcalls, hatOnce, _⟩ := run.dealings
  obtain ⟨all, hall, hhonest, _⟩ := run.life
  have hcompleted : run.released.completed = true ↔ (0 :: run.filled).length < 0x80000000 := by
    rw [length_filled]
    exact run.final.completed_release_iff
  refine ⟨run.outstanding_eq, ?_, ?_, ⟨calls, hcalls, hatOnce⟩, ?_, run.housed, hcompleted, ?_, ?_,
    ⟨all, hall, hhonest⟩⟩
  · rw [outstanding_eq, List.length_append, List.length_reverse, Arena.length_bufferLoans,
      List.length_cons]
    omega
  · intro block hblock
    exact ⟨_, run.within hblock⟩
  · intro sys hresult
    have hspec := sys.inject_spec
    rw [hresult] at hspec
    generalize sys.inject.2 = later at hspec ⊢
    cases hspec with
    | returned hallocate hinstall =>
        exact ⟨_, congrArg (_ :: ·) (Host.allocate_some hallocate).1⟩
  · exact fun h => run.settled (hcompleted.1 h)
  · intro hbroken
    refine run.brokenOff ?_
    rw [length_filled, Arena.length_bufferLoans]
    exact run.final.completed_release_eq_false_iff.1 hbroken

end Run

end PooledArena
