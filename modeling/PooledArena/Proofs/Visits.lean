import PooledArena.Proofs.Terminal

/-!
# `PooledArena.Proofs.Visits`: no pool is left behind unused

Under the sizing rule the cursor cannot cross a pool without handing out a block from
it. A reservation that reaches over from an earlier pool ends before the middle of the
pool, so behind it there is room for any request, and the next one falls there.

`Geometry.Passed` says so for a cursor: all pools before its own were visited, and its
own as well once it is past the middle. `Passed.reserve` carries this along the search
for room, `perform_passed` through an operation, and `Run.passed` along a run. In the
end the cursor is behind all pools, and `Run.exists_block_of_exhausted` finds a block in
each of them.
-/

set_option autoImplicit false

namespace PooledArena

/-! ### What the cursor has passed -/

/-- Every pool before that of the cursor was visited. Once the cursor is past the middle
of its own pool, that one was too. -/
structure Geometry.Passed (g : Geometry) (visited : Nat → Prop) (cursor : Cursor) : Prop where
  before : ∀ index < (g.locate cursor.position).index, visited index
  current : g.poolSize.toNat < 2 * (g.locate cursor.position).offset.toNat →
    visited (g.locate cursor.position).index

namespace Geometry.Passed

variable {g : Geometry} {visited visited' : Nat → Prop} {extent : Extent g} {cursor next : Cursor}

theorem mono (h : g.Passed visited cursor) (hmore : ∀ index, visited index → visited' index) :
    g.Passed visited' cursor := by
  constructor
  · intro index hlt
    exact hmore index (h.before index hlt)
  · intro hpast
    exact hmore _ (h.current hpast)

/-- The pool that the cursor was in joins those that it has passed. -/
theorem before_succ (h : g.Passed visited cursor)
    (hvisited : visited (g.locate cursor.position).index) :
    ∀ index < (g.locate cursor.position).index + 1, visited index := by
  intro index hlt
  rcases Nat.lt_succ_iff_lt_or_eq.1 hlt with hbefore | rfl
  · exact h.before index hbefore
  · exact hvisited

/-- An extent that fits visits the pool that it lies in. -/
theorem of_fits (h : g.Passed visited cursor)
    (hnext : next.position.toNat = cursor.position.toNat + extent.bytes.toNat)
    (hfits : cursor.position.toNat % g.poolSize.toNat + extent.bytes.toNat ≤ g.poolSize.toNat)
    (hvisited : visited (g.locate cursor.position).index) : g.Passed visited next := by
  rcases Geometry.locate_of_fits hnext hfits with hindex | ⟨hindex, hoffset⟩
  · constructor
    · rw [hindex]
      exact h.before
    · rw [hindex]
      intro _
      exact hvisited
  · -- The pool is used up to its end, and nothing has to be known about the next one yet.
    constructor
    · rw [hindex]
      exact h.before_succ hvisited
    · rw [hoffset]
      intro hpast
      omega

/-- An extent that straddles began past the middle of a pool, which was visited then. -/
theorem of_straddles (h : g.Passed visited cursor)
    (hhalf : 2 * extent.bytes.toNat ≤ g.poolSize.toNat)
    (hnext : next.position.toNat = cursor.position.toNat + extent.bytes.toNat)
    (hstraddles : g.poolSize.toNat
      < cursor.position.toNat % g.poolSize.toNat + extent.bytes.toNat) :
    g.Passed visited next := by
  obtain ⟨hmiddle, hindex, hoffset⟩ := Geometry.locate_of_half_straddles hhalf hnext hstraddles
  constructor
  · rw [hindex]
    exact h.before_succ (h.current hmiddle)
  · -- What reaches into the next pool ends before its middle.
    intro hpast
    exact absurd hpast (Nat.not_lt.2 hoffset)

/-- The search for room leaves no pool behind, if the one that it settles in counts as
visited. -/
theorem reserve (h : g.Passed visited cursor) (hhalf : 2 * extent.bytes.toNat ≤ g.poolSize.toNat)
    (hplace : ∀ place, (g.reserve extent cursor).landing = .settled place → visited place.index) :
    g.Passed visited (g.reserve extent cursor).cursor := by
  revert h hplace
  refine Geometry.reserve_induct (motive := fun cursor found => g.Passed visited cursor →
    (∀ place, found.landing = .settled place → visited place.index) →
      g.Passed visited found.cursor) ?_ ?_ ?_ cursor
  · intro cursor hpast h _
    exact h
  · intro cursor next hlt hnext hfits h hplace
    exact h.of_fits hnext hfits (hplace _ rfl)
  · intro cursor next found hlt hnext hstraddles ih h hplace
    exact ih (h.of_straddles hhalf hnext hstraddles) hplace

theorem of_reserve {landing : Landing} {straddles : Nat} (h : g.Passed visited cursor)
    (hhalf : 2 * extent.bytes.toNat ≤ g.poolSize.toNat)
    (hreserve : g.reserve extent cursor = { landing, cursor := next, straddles })
    (hplace : ∀ place, landing = .settled place → visited place.index) :
    g.Passed visited next := by
  have hfound := h.reserve hhalf
  rw [hreserve] at hfound
  exact hfound hplace

/-- Where the capacity ends, all pools are behind the cursor. -/
theorem all_of_capacity_le (h : g.Passed visited cursor)
    (hpast : g.capacity.toNat ≤ cursor.position.toNat) :
    ∀ index < g.poolCount.toNat, visited index := by
  intro index hindex
  have hbeyond := mt (g.locate_index_lt_iff cursor.position).1 (Nat.not_lt.2 hpast)
  exact h.before index (Nat.lt_of_lt_of_le hindex (Nat.le_of_not_lt hbeyond))

end Geometry.Passed

/-! ### One operation -/

namespace System

variable {β : Type} [Backing β]

/-- All pools that the cursor of the arena has passed were visited. -/
def Passed (sys : System β) (visited : Nat → Prop) : Prop :=
  sys.arena.geometry.Passed visited sys.arena.cursor

/-- An allocation visits the pool that it takes its block from. -/
theorem Allocation.passed {sys later : System β} {size align : Word} {attempt : Attempt}
    {visited : Nat → Prop} (h : Allocation sys size align attempt later)
    (hpassed : sys.Passed visited)
    (hrule : ∀ extent, sys.arena.geometry.accept size align = .ok extent →
      2 * extent.bytes.toNat ≤ sys.arena.geometry.poolSize.toNat)
    (hborne : attempt.outcome ≠ .abandoned)
    (hpresent : ∀ index, attempt.outcome ≠ .failed (.poolAbsent index)) :
    later.Passed fun index => visited index ∨ ∃ block ∈ attempt.block?, block.pool = index := by
  have hwider : sys.Passed fun index => visited index
      ∨ ∃ block ∈ attempt.block?, block.pool = index :=
    Geometry.Passed.mono hpassed fun index => Or.inl
  cases h with
  | rejected haccept => exact hwider
  | exhausted haccept hreserve =>
      refine Geometry.Passed.of_reserve hwider (hrule _ haccept) hreserve ?_
      intro place hplace
      cases hplace
  | absent haccept hreserve habsent => exact absurd rfl (hpresent _)
  | abandoned relaxes times haccept hreserve hpending => exact absurd rfl hborne
  | @granted extent cursor straddles place buffer relaxes times haccept hreserve hready hwait =>
      -- The wait leaves the shape alone, and the cursor where the reservation put it.
      have hgeometry := (sys.moved_frame cursor times).geometry_eq
      have hcursor := sys.moved_cursor cursor times
      generalize ((sys.moveTo cursor).injectTimes times).2 = waited at *
      show waited.arena.geometry.Passed _ waited.arena.cursor
      rw [hgeometry, hcursor]
      refine Geometry.Passed.of_reserve hwider (hrule _ haccept) hreserve ?_
      intro place' hplace
      cases hplace
      exact .inr ⟨_, rfl, rfl⟩

/-- An operation that keeps to the sizing rule, does not give up waiting, and finds the
pool that it falls in leaves no pool behind. -/
theorem perform_passed {sys : System β} {visited : Nat → Prop} (hpassed : sys.Passed visited)
    {operation : Operation} (hrule : operation.KeepsSizingRule sys.arena.geometry)
    (hborne : (sys.perform operation).1.outcome? ≠ some .abandoned)
    (hpresent : ∀ index,
      (sys.perform operation).1.outcome? ≠ some (.failed (.poolAbsent index))) :
    (sys.perform operation).2.Passed fun index => visited index
      ∨ ∃ block ∈ (sys.perform operation).1.block?, block.pool = index := by
  cases operation with
  | alloc size align schedule =>
      exact (sys.alloc_spec size align schedule).passed hpassed
        (fun extent haccept => hrule.bytes_le haccept)
        (fun houtcome => hborne (congrArg some houtcome))
        (fun index houtcome => hpresent index (congrArg some houtcome))
  | inject =>
      have hspec := sys.inject_spec
      show sys.inject.2.Passed _
      unfold Passed
      rw [hspec.frame.geometry_eq, hspec.cursor_eq]
      exact Geometry.Passed.mono hpassed fun index => Or.inl

end System

/-! ### Along a run -/

namespace Run

variable {β : Type} [Backing β] (run : Run β)

/-- The pools that the cursor of a run has passed have handed out blocks, if the run
keeps to the sizing rule. -/
theorem passed (h : run.KeepsSizingRule) :
    run.final.Passed fun index => ∃ block ∈ run.blocks, block.pool = index := by
  induction run using Run.induct with
  | opening run hnone hopening =>
      obtain ⟨hindex, hoffset⟩ := run.locate_opening
      rw [hopening]
      -- The cursor is at the start of the first pool, and has passed none.
      constructor
      · rw [hindex]
        intro index hlt
        exact absurd hlt (Nat.not_lt_zero index)
      · rw [hoffset]
        intro hpast
        omega
  | andThen run operation ih =>
      obtain ⟨hbefore, hrule, hborne⟩ := h.of_step
      have hpresent := (System.perform_ahead (run.ahead hbefore) hrule hborne).2
      rw [final_step]
      refine Geometry.Passed.mono (System.perform_passed (ih hbefore) hrule hborne hpresent) ?_
      rintro index (⟨block, hblock, hpool⟩ | ⟨block, hblock, hpool⟩)
      · exact ⟨block, run.mem_blocks_step.2 (.inl hblock), hpool⟩
      · exact ⟨block, run.mem_blocks_step.2 (.inr hblock), hpool⟩

/-- When no pool is left, each of them has handed out a block from its buffer. -/
theorem exists_block_of_exhausted (h : run.KeepsSizingRule) (hexhausted : run.final.Exhausted)
    (index : Nat) (hindex : index < run.geometry.poolCount.toNat) :
    ∃ block ∈ run.blocks, block.pool = index
      ∧ run.final.arena.table.slot index = .ready block.buffer := by
  rw [← run.geometry_final] at hindex
  obtain ⟨block, hblock, rfl⟩ :=
    Geometry.Passed.all_of_capacity_le (run.passed h) hexhausted index hindex
  exact ⟨block, hblock, rfl, (run.holds block hblock).slot_eq⟩

/-- When no pool is left, all of them have their buffers, and none waits. -/
theorem stage_of_exhausted (h : run.KeepsSizingRule) (hexhausted : run.final.Exhausted)
    {stage : Stage} (hstage : run.final.arena.table.AtStage stage) :
    stage.held.length = run.geometry.poolCount.toNat ∧ stage.waiting = false := by
  have hlength := run.final.arena.length_slots
  rw [hstage.slots_eq, stage.length_slots, geometry_final] at hlength
  have hpos := run.geometry.poolCount_pos
  -- The last pool is ready, and so are all before it.
  obtain ⟨block, _, _, hready⟩ := run.exists_block_of_exhausted h hexhausted
    (run.geometry.poolCount.toNat - 1) (by omega)
  have hlast := hstage.lt_of_ready hready
  unfold Stage.reached at hlength
  refine ⟨by omega, ?_⟩
  cases hwaiting : stage.waiting with
  | false => rfl
  | true =>
      rw [hwaiting, Bool.toNat_true] at hlength
      omega

end Run

end PooledArena
