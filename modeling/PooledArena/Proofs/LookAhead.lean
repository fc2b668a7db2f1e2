import PooledArena.Proofs.TableOrder

/-!
# `PooledArena.Proofs.LookAhead`: which blocks ask for the next pool

A block that is handed out asks for the pool behind its own. So two records of the
same thing exist: the slots that are no longer absent, and the blocks that said they
were the first to ask. Here the two are compared.

`Handing` says it for one operation: the slots that stop being absent are those that
its block asked for, and the block says so if and only if there is such a slot. Along
a run this adds up to `Run.slot_absent_iff` (a slot is absent as long as no block came
from the pool before it), `Run.moreNeeded_iff` (the first block of a pool asks, unless
the pool is the last one) and `Run.countP_moreNeeded` (as many blocks asked as slots
were asked for). `Run.signals_exact` puts them together.
-/

set_option autoImplicit false

namespace PooledArena

/-! ### One operation -/

namespace System

variable {β : Type} [Backing β] {sys later : System β}

/-- What the blocks handed out between two systems have asked for. -/
structure Handing (sys : System β) (handed : Option Block) (later : System β) : Prop where
  absent_iff : ∀ index, later.arena.table.slot index = .absent
    ↔ sys.arena.table.slot index = .absent
      ∧ ∀ block ∈ handed, block.moreNeeded = true → index ≠ block.pool + 1
  moreNeeded_iff : ∀ block ∈ handed, block.moreNeeded = true
    ↔ block.pool + 1 < sys.arena.geometry.poolCount.toNat
      ∧ sys.arena.table.slot (block.pool + 1) = .absent

omit [Backing β] in
/-- Where no block is handed out, the absent slots stay as they are. -/
theorem Handing.none (h : ∀ index, later.arena.table.slot index = .absent
    ↔ sys.arena.table.slot index = .absent) : Handing sys none later := by
  constructor
  · intro index
    simp [h index]
  · intro block hblock
    cases hblock

theorem Allocation.handing {size align : Word} {attempt : Attempt}
    (h : Allocation sys size align attempt later) : Handing sys attempt.block? later := by
  cases h with
  | rejected haccept => exact .none fun index => Iff.rfl
  | exhausted haccept hreserve => exact .none fun index => Iff.rfl
  | absent haccept hreserve habsent => exact .none fun index => Iff.rfl
  | abandoned relaxes times haccept hreserve hpending => exact .none (sys.moved_absent_iff _ times)
  | @granted extent cursor straddles place buffer relaxes times haccept hreserve hready hwait =>
      have hgeometry := (sys.moved_frame cursor times).geometry_eq
      have habsent := sys.moved_absent_iff cursor times
      generalize ((sys.moveTo cursor).injectTimes times).2 = waited at *
      show Handing sys
        (some ⟨place.index, buffer, _, size, (waited.arena.table.request (place.index + 1)).1⟩)
        { waited with arena := (waited.arena.request (place.index + 1)).2 }
      constructor
      · intro index
        show (waited.arena.table.request (place.index + 1)).2.slot index = .absent ↔ _
        rw [SlotTable.slot_request_absent_iff, habsent index]
        simp
      · intro block hblock
        cases hblock
        rw [← habsent, ← hgeometry, ← waited.arena.length_slots]
        exact waited.arena.table.request_eq_true_iff (place.index + 1)

omit [Backing β] in
/-- A block that asks takes the table one slot further. -/
theorem Handing.reached_eq {handed : Option Block} {stage next : Stage}
    (h : Handing sys handed later) (hstage : sys.arena.table.AtStage stage)
    (hnext : later.arena.table.AtStage next) :
    next.reached = stage.reached + handed.toList.countP (·.moreNeeded) := by
  have habsent : ∀ index, next.reached ≤ index ↔ stage.reached ≤ index
      ∧ ∀ block ∈ handed, block.moreNeeded = true → index ≠ block.pool + 1 := by
    intro index
    rw [← hnext.slot_eq_absent_iff, ← hstage.slot_eq_absent_iff]
    exact h.absent_iff index
  cases handed with
  | none =>
      have hsame := habsent stage.reached
      have hother := habsent next.reached
      simp at hsame hother ⊢
      omega
  | some block =>
      cases hmore : block.moreNeeded with
      | false =>
          have hsame := habsent stage.reached
          have hother := habsent next.reached
          simp [hmore] at hsame hother ⊢
          omega
      | true =>
          -- The slot that was asked for was absent, and is the only one that no longer is.
          have hasked := ((h.moreNeeded_iff block rfl).1 hmore).2
          rw [hstage.slot_eq_absent_iff] at hasked
          have hfirst := habsent stage.reached
          have hbehind := habsent (block.pool + 2)
          have hitself := habsent (block.pool + 1)
          simp [hmore] at hfirst hbehind hitself ⊢
          omega

theorem perform_handing (sys : System β) (operation : Operation) :
    Handing sys (sys.perform operation).1.block? (sys.perform operation).2 := by
  cases operation with
  | alloc size align schedule => exact (sys.alloc_spec size align schedule).handing
  | inject => exact .none sys.inject_spec.absent_iff

end System

/-! ### Along a run -/

namespace Run

variable {β : Type} [Backing β] (run : Run β)

theorem handing_step (operation : Operation) :
    System.Handing run.final (run.final.perform operation).1.block?
      (run.andThen [operation]).final := by
  rw [final_step]
  exact run.final.perform_handing operation

/-- A slot stays absent as long as the pool before it has handed out no block. -/
theorem slot_absent_iff {index : Nat} (h : index + 1 < run.geometry.poolCount.toNat) :
    run.final.arena.table.slot (index + 1) = .absent
      ↔ ∀ block ∈ run.blocks, block.pool ≠ index := by
  induction run using Run.induct with
  | opening run hnone hopening =>
      obtain ⟨buffer, hcreated⟩ := create_spec run.create_eq
      have hslot : run.final.arena.table.slot (index + 1) = .absent := by
        rw [hopening, hcreated.atStage.slot_eq_absent_iff]
        simp [Stage.reached]
      simp [hslot, run.blocks_eq_nil hnone]
  | andThen run operation ih =>
      have hbefore := ih h
      have hstep := run.handing_step operation
      have hcount : run.final.arena.geometry.poolCount = run.geometry.poolCount :=
        congrArg Geometry.poolCount run.geometry_final
      rw [hstep.absent_iff, hbefore]
      simp only [mem_blocks_step]
      constructor
      · rintro ⟨hold, hnew⟩ block (hblock | hblock)
        · exact hold block hblock
        · -- A block of this pool would have found the slot absent, and asked for it.
          intro hpool
          refine hnew block hblock ?_ (congrArg (· + 1) hpool.symm)
          rw [hstep.moreNeeded_iff block hblock, hpool, hcount, hbefore]
          exact ⟨h, hold⟩
      · intro hall
        refine ⟨fun block hblock => hall block (.inl hblock), ?_⟩
        intro block hblock _ hindex
        exact hall block (.inr hblock) (Nat.succ.inj hindex).symm

/-- A block asks for the next pool if there is one, and no earlier block came from the
same pool. -/
theorem moreNeeded_iff {earlier later : List Block} {block : Block}
    (h : run.blocks = earlier ++ block :: later) :
    block.moreNeeded = true ↔ block.pool + 1 < run.geometry.poolCount.toNat
      ∧ ∀ other ∈ earlier, other.pool ≠ block.pool := by
  induction run using Run.induct generalizing later with
  | opening run hnone hopening =>
      simp [run.blocks_eq_nil hnone] at h
  | andThen run operation ih =>
      rw [blocks_step] at h
      cases hblock : (run.final.perform operation).1.block? with
      | none =>
          rw [hblock, Option.toList_none, List.append_nil] at h
          exact ih h
      | some newest =>
          rw [hblock, Option.toList_some] at h
          cases later using List.reverseRecOn with
          | nil =>
              -- The block is the newest one, and all others are earlier.
              obtain ⟨hearlier, hnewest⟩ := List.append_inj' h rfl
              cases hnewest
              have hcount : run.final.arena.geometry.poolCount = run.geometry.poolCount :=
                congrArg Geometry.poolCount run.geometry_final
              rw [(run.handing_step operation).moreNeeded_iff block hblock, hcount, ← hearlier]
              exact and_congr_right run.slot_absent_iff
          | append_singleton later last _ =>
              have h' : run.blocks ++ [newest] = (earlier ++ block :: later) ++ [last] := by
                rw [h]
                simp
              exact ih (List.append_inj' h' rfl).1

/-- As many blocks have asked as there are slots that were asked for. The first slot is
not among them: the creation asks for it. -/
theorem countP_moreNeeded {stage : Stage} (h : run.final.arena.table.AtStage stage) :
    run.blocks.countP (·.moreNeeded) + 1 = stage.reached := by
  induction run using Run.induct generalizing stage with
  | opening run hnone hopening =>
      obtain ⟨buffer, hcreated⟩ := create_spec run.create_eq
      rw [hopening] at h
      -- Both stages are read off the same table.
      have hsame : System.Handing run.opening none run.opening := .none fun index => Iff.rfl
      rw [hsame.reached_eq hcreated.atStage h, run.blocks_eq_nil hnone]
      rfl
  | andThen run operation ih =>
      obtain ⟨before, hbefore, _⟩ := run.exists_stage
      rw [(run.handing_step operation).reached_eq hbefore h, blocks_step, List.countP_append,
        ← ih hbefore]
      omega

/-- The look-ahead is exact. A slot is asked for as soon as the pool before it hands out
a block, and not earlier. In each pool it is the first block that asks and no other one,
and no block of the last pool asks. So the blocks that asked are as many as the pools
that are ready or pending, less the first one, for which the creation asked. -/
theorem signals_exact :
    (∀ index, index + 1 < run.geometry.poolCount.toNat →
        (run.final.arena.table.slot (index + 1) ≠ .absent
          ↔ ∃ block ∈ run.blocks, block.pool = index))
      ∧ (∀ earlier block later, run.blocks = earlier ++ block :: later →
          (block.moreNeeded = true ↔ block.pool + 1 < run.geometry.poolCount.toNat
            ∧ ∀ other ∈ earlier, other.pool ≠ block.pool))
      ∧ run.blocks.countP (·.moreNeeded) + 1
          = run.final.arena.readyPools + run.final.arena.needsInjection.toNat := by
  obtain ⟨stage, hstage, _⟩ := run.exists_stage
  refine ⟨?_, fun earlier block later h => run.moreNeeded_iff h, ?_⟩
  · intro index hindex
    rw [Ne, run.slot_absent_iff hindex]
    simp
  · have hready : run.final.arena.readyPools = stage.held.length := hstage.readyCount_eq
    have hpending : run.final.arena.needsInjection = stage.waiting := hstage.hasPending_eq
    rw [run.countP_moreNeeded hstage, hready, hpending]
    rfl

/-- Two blocks from two pools, each the first of its pool. -/
theorem signals_exact_smooth :
    let run := smooth.andThen [.alloc 50 8 [], .inject, .alloc 20 4 []]
    run.final.arena.table.slot 1 ≠ .absent
      ∧ ∃ first second, run.blocks = [first, second] ∧ second.moreNeeded = true := by
  intro run
  have hlength : run.blocks.length = 2 := by decide +kernel
  have hpools : run.blocks.map (·.pool) = [0, 1] := by decide +kernel
  obtain ⟨first, second, hblocks⟩ := List.length_eq_two.1 hlength
  rw [hblocks] at hpools
  obtain ⟨hfirst, hsecond⟩ : first.pool = 0 ∧ second.pool = 1 := by simpa using hpools
  obtain ⟨hslot, hmore, _⟩ := run.signals_exact
  refine ⟨(hslot 0 (by decide +kernel)).2 ⟨first, by simp [hblocks], hfirst⟩, ?_⟩
  refine ⟨first, second, hblocks, (hmore [first] second [] hblocks).2 ⟨?_, ?_⟩⟩
  · rw [hsecond]
    decide +kernel
  · simp [hfirst, hsecond]

end Run

end PooledArena
