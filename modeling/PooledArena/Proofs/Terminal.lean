import PooledArena.Proofs.Blocks
import PooledArena.Proofs.SizingRule

/-!
# `PooledArena.Proofs.Terminal`: failures that nothing can undo

Two failures of an allocation are for good.

* Once the cursor has passed all pools (`System.Exhausted`) an allocation changes
  nothing, and fails as the first one did.
* Once a block fell in a pool that nobody had asked for, the arena is cut off from
  there on (`System.CutOff`): the cursor has come to a pool that is absent, as are all
  pools behind it. A pool is asked for by the blocks of the pool before it, so no block
  will ever ask for these. Injections fill what was asked for, and bring none of them.

Both are found at the end of an operation, and kept by every operation after that.
`Run.failures_terminal` says what it means for the allocations to come.
-/

set_option autoImplicit false

namespace PooledArena

namespace System

variable {β : Type} [Backing β] {sys later : System β} {size align : Word} {attempt : Attempt}

/-! ### No pool is left -/

/-- The cursor has passed all pools. -/
def Exhausted (sys : System β) : Prop :=
  sys.arena.geometry.capacity.toNat ≤ sys.arena.cursor.position.toNat

theorem Allocation.exhausted_of_outcome (h : Allocation sys size align attempt later)
    (houtcome : attempt.outcome = .failed .capacityExhausted) : later.Exhausted := by
  cases h with
  | rejected haccept =>
      cases houtcome
      simpa using sys.arena.geometry.accept_eq_error haccept
  | exhausted haccept hreserve => exact Geometry.capacity_le_of_exhausted hreserve
  | absent haccept hreserve habsent => cases houtcome
  | abandoned relaxes times haccept hreserve hpending => cases houtcome
  | granted relaxes times haccept hreserve hready hwait => cases houtcome

theorem Exhausted.perform (h : sys.Exhausted) (operation : Operation) :
    (sys.perform operation).2.Exhausted := by
  unfold Exhausted
  rw [(sys.perform_changes operation).frame.geometry_eq]
  exact Nat.le_trans h (sys.perform_le_cursor operation)

omit [Backing β] in
/-- The bytes that count as reserved are those of all pools. -/
theorem Exhausted.reserved_eq (h : sys.Exhausted) :
    sys.arena.reserved = sys.arena.geometry.capacity := by
  rw [← UInt64.toNat_inj, Arena.reserved, Word.toNat_min]
  exact Nat.min_eq_right h

theorem Exhausted.alloc_eq (h : sys.Exhausted)
    (haccept : (sys.arena.geometry.accept size align).isOk = true) (schedule : Schedule) :
    sys.alloc size align schedule = (Attempt.failure .capacityExhausted 0, sys) := by
  cases hextent : sys.arena.geometry.accept size align with
  | error error =>
      rw [hextent] at haccept
      cases haccept
  | ok extent =>
      exact sys.alloc_of_exhausted schedule hextent (Geometry.reserve_of_capacity_le extent h)

/-! ### No pool can be asked for -/

/-- The cursor has come to pool `index`, and nobody has asked for this pool or for one
behind it. -/
structure CutOff (sys : System β) (index : Nat) : Prop where
  le_cursor : index * sys.arena.geometry.poolSize.toNat ≤ sys.arena.cursor.position.toNat
  absent : ∀ behind, index ≤ behind → sys.arena.table.slot behind = .absent

/-- Slots are asked for in index order, so what lies behind an absent one is absent. -/
theorem Allocation.cutOff_of_outcome {stage : Stage} {index : Nat}
    (h : Allocation sys size align attempt later) (hstage : sys.arena.table.AtStage stage)
    (houtcome : attempt.outcome = .failed (.poolAbsent index)) : later.CutOff index := by
  cases h with
  | rejected haccept =>
      cases houtcome
      exact absurd haccept (Geometry.accept_ne_poolAbsent index)
  | exhausted haccept hreserve => cases houtcome
  | absent haccept hreserve habsent =>
      cases houtcome
      constructor
      · have hbehind := (Geometry.reserve_settled hreserve).position_add_bytes
        unfold Geometry.position at hbehind
        exact Nat.le_of_add_right_le (Nat.le_of_add_right_le (Nat.le_of_eq hbehind))
      · intro behind hle
        rw [hstage.slot_eq_absent_iff] at habsent
        exact (hstage.slot_eq_absent_iff behind).2 (Nat.le_trans habsent hle)
  | abandoned relaxes times haccept hreserve hpending => cases houtcome
  | granted relaxes times haccept hreserve hready hwait => cases houtcome

namespace CutOff

variable {index : Nat}

omit [Backing β] in
/-- A cursor that moves on leaves the arena cut off where it was. -/
theorem mono (h : sys.CutOff index) (hgeometry : later.arena.geometry = sys.arena.geometry)
    (hcursor : sys.arena.cursor.position.toNat ≤ later.arena.cursor.position.toNat)
    (habsent : ∀ index, later.arena.table.slot index = .absent
      ↔ sys.arena.table.slot index = .absent) : later.CutOff index := by
  constructor
  · rw [hgeometry]
    exact Nat.le_trans h.le_cursor hcursor
  · intro behind hle
    exact (habsent behind).2 (h.absent behind hle)

omit [Backing β] in
/-- What is reserved from now on lies in the part that is cut off. -/
theorem le_index (h : sys.CutOff index) {extent : Extent sys.arena.geometry} {place : Place}
    {next : Cursor}
    (hsettled : Geometry.Settled sys.arena.geometry extent sys.arena.cursor place next) :
    index ≤ place.index := by
  have hcursor := h.le_cursor
  have hbehind := hsettled.le_position
  have hinside := hsettled.offset_add_bytes_le
  have hbytes := extent.bytes_pos
  unfold Geometry.position at hbehind
  have hlt : index * sys.arena.geometry.poolSize.toNat
      < (place.index + 1) * sys.arena.geometry.poolSize.toNat := by
    rw [Nat.succ_mul]
    omega
  exact Nat.le_of_lt_succ (Nat.lt_of_mul_lt_mul_right hlt)

/-- An allocation hands out nothing, waits for nothing, and leaves the arena cut off. -/
theorem allocation (hcut : sys.CutOff index) (h : Allocation sys size align attempt later) :
    later.CutOff index ∧ attempt.block? = none ∧ attempt.AtOnce
      ∧ ((sys.arena.geometry.accept size align).isOk = true →
          attempt.outcome = .failed .capacityExhausted
            ∨ ∃ behind, index ≤ behind ∧ attempt.outcome = .failed (.poolAbsent behind)) := by
  cases h with
  | rejected haccept =>
      refine ⟨hcut, rfl, Attempt.atOnce_failure _ _, ?_⟩
      rw [haccept]
      intro hok
      cases hok
  | exhausted haccept hreserve =>
      exact ⟨hcut.mono rfl (Geometry.le_of_reserve hreserve) fun _ => Iff.rfl, rfl,
        Attempt.atOnce_failure _ _, fun _ => .inl rfl⟩
  | absent haccept hreserve habsent =>
      have hindex := hcut.le_index (Geometry.reserve_settled hreserve)
      exact ⟨hcut.mono rfl (Geometry.le_of_reserve hreserve) fun _ => Iff.rfl, rfl,
        Attempt.atOnce_failure _ _, fun _ => .inr ⟨_, hindex, rfl⟩⟩
  | abandoned relaxes times haccept hreserve hpending =>
      have hindex := hcut.le_index (Geometry.reserve_settled hreserve)
      rw [hcut.absent _ hindex] at hpending
      cases hpending
  | @granted extent cursor straddles place buffer relaxes times haccept hreserve hready hwait =>
      -- Whatever was injected meanwhile, it did not go to this pool.
      have hindex := hcut.le_index (Geometry.reserve_settled hreserve)
      have habsent := (sys.moved_absent_iff cursor times place.index).2 (hcut.absent _ hindex)
      rw [hready] at habsent
      cases habsent

theorem perform (h : sys.CutOff index) (operation : Operation) :
    (sys.perform operation).2.CutOff index := by
  cases operation with
  | alloc size align schedule => exact (h.allocation (sys.alloc_spec size align schedule)).1
  | inject =>
      have hspec := sys.inject_spec
      exact h.mono hspec.frame.geometry_eq
        (Nat.le_of_eq (congrArg (·.position.toNat) hspec.cursor_eq.symm)) hspec.absent_iff

end CutOff

end System

/-! ### Along a run -/

namespace Run

variable {β : Type} [Backing β] (run : Run β)

/-- Some allocation of the run failed for this reason. -/
def Failed (error : Error) : Prop :=
  ∃ entry ∈ run.transcript, entry.outcome? = some (.failed error)

instance (error : Error) : Decidable (run.Failed error) :=
  inferInstanceAs (Decidable (∃ entry ∈ run.transcript, entry.outcome? = some (.failed error)))

variable {run}

theorem Failed.exhausted (h : run.Failed .capacityExhausted) : run.final.Exhausted := by
  refine run.of_entry ?_ (fun run operation hkept => hkept.perform operation) h
  intro run operation houtcome
  cases operation with
  | alloc size align schedule =>
      exact (run.final.alloc_spec size align schedule).exhausted_of_outcome
        (Option.some.inj houtcome)
  | inject => cases houtcome

theorem Failed.cutOff {index : Nat} (h : run.Failed (.poolAbsent index)) :
    run.final.CutOff index := by
  refine run.of_entry (motive := fun sys => sys.CutOff index) ?_
    (fun run operation hkept => hkept.perform operation) h
  intro run operation houtcome
  cases operation with
  | alloc size align schedule =>
      obtain ⟨stage, hstage, _⟩ := run.exists_stage
      exact (run.final.alloc_spec size align schedule).cutOff_of_outcome hstage
        (Option.some.inj houtcome)
  | inject => cases houtcome

variable (run)

/-- An arena that has failed for want of room, or of a pool that nobody asked for, does
so for good. When all pools are used up, every allocation that passes the checks fails
again and changes nothing, and all bytes count as reserved. When a block fell in pool
`index` while that was absent, no allocation hands out a block or waits any more,
whatever is injected: those that pass the checks fall in an absent pool again, this one
or one behind it, or find no room. The failure may lie anywhere in the run, so this is
about all that follows it. -/
theorem failures_terminal :
    (run.Failed .capacityExhausted →
        run.final.arena.reserved = run.geometry.capacity
          ∧ ∀ size align schedule, (run.geometry.accept size align).isOk = true →
              run.final.alloc size align schedule
                = (Attempt.failure .capacityExhausted 0, run.final))
      ∧ ∀ index, run.Failed (.poolAbsent index) → ∀ size align schedule,
          (run.final.alloc size align schedule).1.block? = none
            ∧ (run.final.alloc size align schedule).1.AtOnce
            ∧ ((run.geometry.accept size align).isOk = true →
                (run.final.alloc size align schedule).1.outcome = .failed .capacityExhausted
                  ∨ ∃ behind, index ≤ behind ∧ (run.final.alloc size align schedule).1.outcome
                      = .failed (.poolAbsent behind)) := by
  rw [← run.geometry_final]
  constructor
  · intro hfailed
    have hexhausted := hfailed.exhausted
    exact ⟨hexhausted.reserved_eq, fun size align schedule haccept =>
      hexhausted.alloc_eq haccept schedule⟩
  · intro index hfailed size align schedule
    exact (hfailed.cutOff.allocation (run.final.alloc_spec size align schedule)).2

/-- One run that uses all pools up, and one in which a large request skips a pool. -/
theorem failures_terminal_smooth :
    let full := smooth.andThen [.alloc 64 1 [], .inject, .alloc 64 1 [], .inject, .alloc 64 1 [],
      .alloc 1 1 [], .inject]
    let skipped := smooth.andThen [.alloc 48 1 [], .inject, .alloc 48 1 [], .inject]
    full.Failed .capacityExhausted ∧ full.final.arena.reserved = full.geometry.capacity
      ∧ skipped.Failed (.poolAbsent 2)
      ∧ ∀ size align schedule, (skipped.final.alloc size align schedule).1.block? = none := by
  intro full skipped
  have hfull : full.Failed .capacityExhausted := by decide +kernel
  have hskipped : skipped.Failed (.poolAbsent 2) := by decide +kernel
  exact ⟨hfull, (full.failures_terminal.1 hfull).1, hskipped, fun size align schedule =>
    (skipped.failures_terminal.2 2 hskipped size align schedule).1⟩

end Run

end PooledArena
