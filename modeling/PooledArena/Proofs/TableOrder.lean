import PooledArena.Proofs.Run

/-!
# `PooledArena.Proofs.TableOrder`: the slots fill up in index order

The table of an arena is at a stage from its creation on. Each change leads from a
stage to one that is as far or further (`Change.reaches`), so the changes of a run
do too (`Run.reaches`). What the pools are called that get a buffer follows from
their number alone: `Stage.Reaches` counts them from the buffers held.

`Run.table_inOrder` is the outcome. First come the ready slots, then at most one
that is pending, then the absent ones. A slot only moves forward, and a buffer stays
where it is. The pools of an arena are filled as number zero, one, two and so on,
both by the answers of the injections and by the log.
-/

set_option autoImplicit false

namespace PooledArena

/-! ### From stage to stage -/

namespace Stage

/-- `later` is reached from `stage` by filling these pools. -/
structure Reaches (stage : Stage) (filled : List Nat) (later : Stage) : Prop where
  advances : stage.Advances later
  filled_eq : filled = List.range' stage.held.length filled.length
  length_held : later.held.length = stage.held.length + filled.length

theorem Reaches.refl (stage : Stage) : stage.Reaches [] stage :=
  ⟨Advances.refl stage, rfl, rfl⟩

theorem Reaches.trans {first second third : Stage} {filled filled' : List Nat}
    (h : first.Reaches filled second) (h' : second.Reaches filled' third) :
    first.Reaches (filled ++ filled') third := by
  refine ⟨h.advances.trans h'.advances, ?_, ?_⟩
  · -- The second list goes on counting where the first one stops.
    have hfirst := h.filled_eq
    have hsecond := h'.filled_eq
    rw [h.length_held] at hsecond
    rw [List.length_append, ← List.range'_append_1, ← hfirst, ← hsecond]
  · rw [h'.length_held, h.length_held, List.length_append]
    omega

/-- The pool that takes a buffer is the first one without. -/
theorem reaches_offer (stage : Stage) (buffer : Addr) :
    stage.Reaches (stage.offer buffer).1.toList (stage.offer buffer).2 := by
  refine ⟨stage.advances_offer buffer, ?_, ?_⟩
  · unfold offer
    split
    · rfl
    · rfl
  · unfold offer
    split
    · simp
    · rfl

theorem reaches_request (stage : Stage) (index : Nat) :
    stage.Reaches [] (stage.request index).2 := by
  refine ⟨stage.advances_request index, rfl, ?_⟩
  unfold request
  split
  · rfl
  · rfl

end Stage

namespace System

variable {β : Type} [Backing β] {sys later : System β} {filled : List Nat} {stage : Stage}

theorem Injection.reaches {result : Except Error Nat} (h : Injection sys result later)
    (hstage : sys.arena.table.AtStage stage) :
    ∃ next, later.arena.table.AtStage next ∧ stage.Reaches result.toOption.toList next := by
  cases h with
  | refused hallocate => exact ⟨stage, hstage, Stage.Reaches.refl stage⟩
  | @installed host buffer index hallocate hinstall =>
      obtain ⟨hindex, hnext⟩ := hstage.offer buffer
      have hfilled : (stage.offer buffer).1 = some index := hindex.symm.trans hinstall
      have hreaches := stage.reaches_offer buffer
      rw [hfilled] at hreaches
      exact ⟨_, hnext, hreaches⟩
  | returned hallocate hinstall => exact ⟨stage, hstage, Stage.Reaches.refl stage⟩

/-- Where a pool waits, the buffer goes there, unless the backing has none. -/
theorem Injection.of_pending {result : Except Error Nat} (h : Injection sys result later)
    (hstage : sys.arena.table.AtStage stage) {index : Nat}
    (hpending : sys.arena.table.slot index = .pending) :
    result = .ok index ∨ result = .error .allocatorError := by
  have htaken := hstage.offer_of_pending hpending
  cases h with
  | refused hallocate => exact .inr rfl
  | @installed host buffer taken hallocate hinstall =>
      obtain rfl := Option.some.inj (hinstall.symm.trans (htaken buffer))
      exact .inl rfl
  | @returned host buffer hallocate hinstall => cases hinstall.symm.trans (htaken buffer)

/-- A pool with a buffer is among the first, so the pool behind it is the first one
without, at the most. -/
theorem Change.reaches (h : Change sys filled later) (hstage : sys.arena.table.AtStage stage) :
    ∃ next, later.arena.table.AtStage next ∧ stage.Reaches filled next := by
  cases h with
  | moveTo cursor => exact ⟨stage, hstage, Stage.Reaches.refl stage⟩
  | inject h => exact h.reaches hstage
  | @request index buffer hready =>
      obtain ⟨hfirst, hnext⟩ := hstage.request (Nat.succ_le_of_lt (hstage.lt_of_ready hready))
      exact ⟨_, hnext, stage.reaches_request (index + 1)⟩

theorem Changes.reaches (h : Changes sys filled later) (hstage : sys.arena.table.AtStage stage) :
    ∃ next, later.arena.table.AtStage next ∧ stage.Reaches filled next := by
  induction h generalizing stage with
  | none sys => exact ⟨stage, hstage, Stage.Reaches.refl stage⟩
  | more hone hrest ih =>
      obtain ⟨middle, hmiddle, hfirst⟩ := hone.reaches hstage
      obtain ⟨next, hnext, hsecond⟩ := ih hmiddle
      exact ⟨next, hnext, hfirst.trans hsecond⟩

end System

/-! ### Single slots -/

/-- The slot only moves forward, and keeps its buffer if it has one. -/
def Slot.Advances (slot later : Slot) : Prop :=
  match slot with
  | .absent => True
  | .pending => later ≠ .absent
  | .ready buffer => later = .ready buffer

theorem SlotTable.AtStage.slot_advances {table later : SlotTable} {stage next : Stage}
    (h : table.AtStage stage) (hlater : later.AtStage next) (hadvances : stage.Advances next)
    (index : Nat) : (table.slot index).Advances (later.slot index) := by
  cases hslot : table.slot index with
  | absent => trivial
  | pending =>
      obtain ⟨hwaiting, rfl⟩ := (h.slot_eq_pending_iff index).1 hslot
      -- The slot that waits was reached, and a later stage has reached as far.
      have hreached := hadvances.reached_le
      show later.slot stage.held.length ≠ .absent
      rw [Ne, hlater.slot_eq_absent_iff]
      unfold Stage.reached at hreached ⊢
      rw [hwaiting, Bool.toNat_true] at hreached
      omega
  | ready buffer =>
      have hheld := (h.slot_eq_ready_iff index buffer).1 hslot
      show later.slot index = .ready buffer
      rw [hlater.slot_eq_ready_iff]
      exact hadvances.getElem?_held hheld

/-- First the ready slots, at least one, then at most one pending slot, then the
absent ones. -/
def SlotTable.InOrder (table : SlotTable) : Prop :=
  ∃ ready pending absent, 1 ≤ ready ∧ pending ≤ 1
    ∧ table.states = List.replicate ready .ready
      ++ (List.replicate pending .pending ++ List.replicate absent .absent)

theorem SlotTable.AtStage.inOrder {table : SlotTable} {stage : Stage} (h : table.AtStage stage) :
    table.InOrder :=
  ⟨stage.held.length, stage.waiting.toNat, stage.rest, h.held_pos, Bool.toNat_le _, h.states_eq⟩

/-! ### The log -/

/-- The pool that the notice says was filled. -/
def Notice.filled? (notice : Notice) : Option Nat :=
  match notice.event with
  | .injected index _ => some index
  | _ => none

namespace System

variable {β : Type} [Backing β] {sys later : System β} {filled : List Nat}

/-- Every injection is noted, with the index that it answers if it has one. -/
theorem Injection.log_eq {result : Except Error Nat} (h : Injection sys result later) :
    ∃ notice, later.host.log = notice :: sys.host.log ∧ notice.filled? = result.toOption := by
  cases h with
  | refused hallocate =>
      refine ⟨_, congrArg (_ :: ·) (Host.allocate_none hallocate).2, rfl⟩
  | installed hallocate hinstall =>
      refine ⟨_, congrArg (_ :: ·) (Host.allocate_some hallocate).2, rfl⟩
  | returned hallocate hinstall =>
      refine ⟨_, congrArg (_ :: ·) (Host.allocate_some hallocate).2, rfl⟩

theorem Change.log_eq (h : Change sys filled later) :
    ∃ notices, later.host.log = notices ++ sys.host.log
      ∧ (notices.filterMap Notice.filled?).reverse = filled := by
  cases h with
  | moveTo cursor => exact ⟨[], rfl, rfl⟩
  | @inject _ result h =>
      obtain ⟨notice, hlog, hnotice⟩ := h.log_eq
      refine ⟨[notice], hlog, ?_⟩
      cases result with
      | error error => simp [hnotice, Except.toOption]
      | ok index => simp [hnotice, Except.toOption]
  | request hready => exact ⟨[], rfl, rfl⟩

/-- The log has the newest notices first, and the pools are listed oldest first. -/
theorem Changes.log_eq (h : Changes sys filled later) :
    ∃ notices, later.host.log = notices ++ sys.host.log
      ∧ (notices.filterMap Notice.filled?).reverse = filled := by
  induction h with
  | none sys => exact ⟨[], rfl, rfl⟩
  | more hone hrest ih =>
      obtain ⟨older, holder, hfirst⟩ := hone.log_eq
      obtain ⟨newer, hnewer, hsecond⟩ := ih
      refine ⟨newer ++ older, ?_, ?_⟩
      · rw [hnewer, holder, List.append_assoc]
      · rw [List.filterMap_append, List.reverse_append, hfirst, hsecond]

end System

/-! ### Along a run -/

namespace Run

variable {β : Type} [Backing β] (run : Run β)

/-- The table of a run is at a stage, and its buffers came one for each injection
that filled a pool, the creation's own included. -/
theorem exists_stage : ∃ stage : Stage, run.final.arena.table.AtStage stage
    ∧ 0 :: run.filled = List.range stage.held.length := by
  obtain ⟨buffer, hcreated⟩ := create_spec run.create_eq
  obtain ⟨stage, hstage, hreaches⟩ := run.changes.reaches hcreated.atStage
  refine ⟨stage, hstage, ?_⟩
  have hfilled := hreaches.filled_eq
  have hlength := hreaches.length_held
  -- The creation filled pool zero, so the run counts from one on.
  rw [List.length_singleton] at hfilled hlength
  rw [hlength, List.range_eq_range', Nat.add_comm, List.range'_succ, ← hfilled]

/-- The slots of an arena fill up in index order, at every point of a run: between
two operations, and in the middle of a wait, where the cursor has moved and any
number of injections was made. Slots only move forward, and buffers stay in them.
Counted from zero, which is the creation's own, the injections that succeed fill
pool zero, one, two and so on. -/
theorem table_inOrder :
    run.final.arena.table.InOrder
      ∧ (∀ cursor times, ((run.final.moveTo cursor).injectTimes times).2.arena.table.InOrder)
      ∧ (∀ later index, (run.final.arena.table.slot index).Advances
          ((run.andThen later).final.arena.table.slot index))
      ∧ 0 :: run.filled = List.range run.final.arena.readyPools
      ∧ ∃ notices, run.final.host.log = notices ++ run.host.log
          ∧ (notices.filterMap Notice.filled?).reverse = List.range run.final.arena.readyPools := by
  obtain ⟨stage, hstage, hfilled⟩ := run.exists_stage
  have hready : run.final.arena.readyPools = stage.held.length := hstage.readyCount_eq
  rw [hready]
  refine ⟨hstage.inOrder, ?_, ?_, hfilled, ?_⟩
  · intro cursor times
    have hwait := (run.final.moveTo cursor).injectTimes_changes times
    obtain ⟨next, hnext, _⟩ := hwait.reaches hstage
    exact hnext.inOrder
  · intro later index
    rw [run.final_andThen]
    obtain ⟨next, hnext, hreaches⟩ := (run.final.performAll_changes later).reaches hstage
    exact hstage.slot_advances hnext hreaches.advances index
  · obtain ⟨buffer, hcreated⟩ := create_spec run.create_eq
    obtain ⟨notices, hlog, hnotices⟩ := run.changes.log_eq
    refine ⟨notices ++ [⟨run.label, .created run.geometry.poolCount run.geometry.poolSize⟩,
      ⟨run.label, .injected 0 buffer⟩], ?_, ?_⟩
    · rw [hlog, hcreated.log_eq, List.append_assoc]
      rfl
    · rw [List.filterMap_append, List.reverse_append, hnotices, ← hfilled]
      rfl

end Run

end PooledArena
