import PooledArena.Proofs.Delivery
import PooledArena.Proofs.Loans
import PooledArena.Proofs.LookAhead
import Mathlib.Algebra.GroupWithZero.Nat

/-!
# `PooledArena.Proofs.Waiting`: how an allocation waits

A block that falls in a pending pool waits for the buffer of that pool. The schedule says
how many injections are made in each turn of the wait, and the backing decides which of
them brings a buffer. So a schedule comes apart at the first one that does: the turns
before that (`before`), the turn itself, and the turns that follow (`after`). If no
injection brings a buffer it stays in one piece.

`await_append`, `await_of_fruitless` and `await_of_ready` say what the wait makes of these
parts. `WaitsAt` says the same of an allocation, from the place where its block falls to
the block itself, and `Run.alloc_waits` says it for every point of a run. Those that fall
in a pool that does not wait are over at once.
-/

set_option autoImplicit false

namespace PooledArena

/-! ### Blocks and schedules -/

/-- The block that was waited for: it lies in the buffer that has come, and asks for the
pool behind if there is one. -/
structure Block.WaitedFor (block : Block) (g : Geometry) (size : Word) (pool : Nat)
    (buffer : Addr) : Prop where
  pool_eq : block.pool = pool
  buffer_eq : block.buffer = buffer
  size_eq : block.size = size
  within : block.Within ⟨buffer, g.bufferLayout⟩
  moreNeeded_iff : block.moreNeeded = true ↔ pool + 1 < g.poolCount.toNat

/-- The turns of a schedule share out its injections, so each is made in one of them. -/
theorem Schedule.exists_turn (schedule : Schedule) {number : Nat}
    (h : number < schedule.sum) :
    ∃ before turn after, schedule = before ++ turn :: after
      ∧ before.sum ≤ number ∧ number < before.sum + turn := by
  induction schedule generalizing number with
  | nil => cases h
  | cons first turns ih =>
      rw [List.sum_cons] at h
      by_cases hfirst : number < first
      · exact ⟨[], first, turns, rfl, Nat.zero_le _, by simpa using hfirst⟩
      · have hrest : number - first < turns.sum := by omega
        obtain ⟨before, turn, after, rfl, hle, hlt⟩ := ih hrest
        refine ⟨first :: before, turn, after, rfl, ?_, ?_⟩
        · rw [List.sum_cons]
          omega
        · rw [List.sum_cons]
          omega

theorem Schedule.sum_take_le (schedule : Schedule) (turns : Nat) :
    (schedule.take turns).sum ≤ schedule.sum := by
  have hsplit := congrArg List.sum (List.take_append_drop turns schedule)
  rw [List.sum_append] at hsplit
  omega

namespace System

variable {β : Type} [Backing β]

/-! ### The parts of a wait -/

section

variable {sys : System β} {index : Nat} (hpending : sys.arena.table.slot index = .pending)

include hpending

/-- A turn that is not the last one is followed by another look at the slot. -/
theorem await_cons (turn : Nat) {turns : Schedule} (hturns : turns ≠ []) :
    sys.await index (turn :: turns) = {
      (sys.injectTimes turn).2.await index turns with
      relaxes := ((sys.injectTimes turn).2.await index turns).relaxes + 1
      injections := (sys.injectTimes turn).1
        ++ ((sys.injectTimes turn).2.await index turns).injections
    } := by
  have hmore : turns.isEmpty = false := by simpa using hturns
  rw [await]
  simp [hpending, Slot.arrival?, hmore]

/-- The last turn ends the wait. -/
theorem await_singleton (turn : Nat) :
    sys.await index [turn] = {
      arrival := .abandoned
      relaxes := 1
      injections := (sys.injectTimes turn).1
      system := (sys.injectTimes turn).2
    } := by
  simp [await, hpending, Slot.arrival?]

/-- Turns in which nobody brings a buffer pass, and the wait goes on with the next one. -/
theorem await_append (before : Schedule) (h : sys.Fruitless before.sum) (turn : Nat)
    (turns : Schedule) :
    sys.await index (before ++ turn :: turns) = {
      (sys.injectTimes before.sum).2.await index (turn :: turns) with
      relaxes := ((sys.injectTimes before.sum).2.await index (turn :: turns)).relaxes
        + before.length
      injections := (sys.injectTimes before.sum).1
        ++ ((sys.injectTimes before.sum).2.await index (turn :: turns)).injections
    } := by
  induction before generalizing sys with
  | nil => rfl
  | cons first before ih =>
      rw [List.sum_cons, fruitless_add] at h
      -- The slot is still pending after the first turn, so the rest begins like the whole.
      have hstill := h.1.pending hpending
      rw [List.cons_append, await_cons hpending first (by simp), ih hstill h.2, List.sum_cons,
        injectTimes_add]
      simp [Nat.add_assoc]

/-- A wait in which nobody brings a buffer takes all its turns. -/
theorem await_of_fruitless (schedule : Schedule) (h : sys.Fruitless schedule.sum) :
    sys.await index schedule = {
      arrival := .abandoned
      relaxes := schedule.length
      injections := (sys.injectTimes schedule.sum).1
      system := (sys.injectTimes schedule.sum).2
    } := by
  cases schedule using List.reverseRecOn with
  | nil => simp [await, hpending, Slot.arrival?, injectTimes]
  | append_singleton before turn _ =>
      rw [List.sum_append, fruitless_add] at h
      have hstill := h.1.pending hpending
      rw [await_append hpending before h.1, await_singleton hstill, List.sum_append,
        injectTimes_add]
      simp [Nat.add_comm]

/-- The turn that brings the buffer is the last one, and the wait sees the buffer if the
schedule lets it look once more. -/
theorem await_of_ready (before : Schedule) (h : sys.Fruitless before.sum) (turn : Nat)
    (after : Schedule) {buffer : Addr}
    (hready : (sys.injectTimes (before.sum + turn)).2.arena.table.slot index = .ready buffer) :
    sys.await index (before ++ turn :: after) = {
      arrival := if after.isEmpty then .abandoned else .ready buffer
      relaxes := before.length + 1
      injections := (sys.injectTimes (before.sum + turn)).1
      system := (sys.injectTimes (before.sum + turn)).2
    } := by
  have hstill := h.pending hpending
  rw [injectTimes_add] at hready ⊢
  rw [await_append hpending before h]
  cases after with
  | nil =>
      rw [await_singleton hstill]
      simp [Nat.add_comm]
  | cons next after =>
      have harrival := congrArg Slot.arrival? hready
      rw [await_cons hstill turn (List.cons_ne_nil next after), await_of_arrival harrival]
      simp [Nat.add_comm]

end

/-- Turns without an injection bring no buffer. -/
theorem fruitless_quiet (sys : System β) (turns : Nat) :
    sys.Fruitless (List.replicate turns 0).sum := by
  have hsum : (List.replicate turns 0).sum = 0 := by simp
  rw [hsum]
  exact sys.fruitless_zero

/-! ### The first injection that brings a buffer -/

/-- The first injection that brings a buffer is made in the turn after those of `before`,
and so many injections before it fail. -/
structure Brings (sys : System β) (before : Schedule) (turn failures : Nat) (buffer : Addr) :
    Prop where
  fruitless : sys.Fruitless failures
  buffer_eq : (sys.injectTimes failures).2.nextBuffer? = some buffer
  before_le : before.sum ≤ failures
  lt_turn : failures < before.sum + turn

/-- Where one of so many injections brings a buffer, there is a first one that does. -/
theorem exists_failures {sys : System β} {stage : Stage} (hstage : sys.arena.table.AtStage stage)
    {times : Nat} (h : ¬sys.Fruitless times) :
    ∃ failures buffer, failures < times ∧ sys.Fruitless failures
      ∧ (sys.injectTimes failures).2.nextBuffer? = some buffer := by
  induction times generalizing sys with
  | zero => exact absurd sys.fruitless_zero h
  | succ times ih =>
      cases hbuffer : sys.nextBuffer? with
      | some buffer => exact ⟨0, buffer, Nat.succ_pos _, sys.fruitless_zero, hbuffer⟩
      | none =>
          have hfailed : sys.inject.1.isOk = false := by
            rw [(delivers hstage).refused hbuffer]
            rfl
          have hsame := (sys.inject_spec.unmoved hfailed).arena_eq
          have hlater : ¬sys.inject.2.Fruitless times := by
            intro hlater
            exact h ((sys.fruitless_succ times).2 ⟨hfailed, hlater⟩)
          obtain ⟨failures, buffer, hlt, hfruitless, hlent⟩ :=
            ih (hsame.symm ▸ hstage) hlater
          exact ⟨failures + 1, buffer, Nat.succ_lt_succ hlt,
            (sys.fruitless_succ failures).2 ⟨hfailed, hfruitless⟩, hlent⟩

/-- A schedule has a first injection that brings a buffer, or none that fills a pool. -/
theorem fruitless_or_brings {sys : System β} {stage : Stage}
    (hstage : sys.arena.table.AtStage stage) (schedule : Schedule) :
    sys.Fruitless schedule.sum
      ∨ ∃ before turn after failures buffer, schedule = before ++ turn :: after
        ∧ sys.Brings before turn failures buffer := by
  by_cases hnone : sys.Fruitless schedule.sum
  · exact .inl hnone
  · obtain ⟨failures, buffer, hlt, hfruitless, hbuffer⟩ := exists_failures hstage hnone
    obtain ⟨before, turn, after, hschedule, hle, hturn⟩ := Schedule.exists_turn schedule hlt
    exact .inr ⟨before, turn, after, failures, buffer, hschedule, hfruitless, hbuffer, hle, hturn⟩

/-! ### An allocation that waits -/

/-- How an allocation gets on whose block falls in the pool at `place`, which waits. The
cursor has moved behind the block before the wait begins. -/
structure WaitsAt (sys : System β) (size align : Word) (place : Place) (cursor : Cursor) :
    Prop where
  /-- As long as no injection brings a buffer the allocation goes on waiting, and the arena
  stays as the reservation has left it. -/
  bears : ∀ schedule, (sys.moveTo cursor).Fruitless schedule.sum →
    (sys.alloc size align schedule).1.outcome = .abandoned
      ∧ (sys.alloc size align schedule).1.relaxes = schedule.length
      ∧ (sys.alloc size align schedule).1.injections
        = List.replicate schedule.sum (.error .allocatorError)
      ∧ (sys.alloc size align schedule).2.arena = sys.arena.moveTo cursor
  /-- The first injection that brings a buffer fills this very pool, and the turn in which
  it is made is the last one of the wait. -/
  ends : ∀ before turn after failures buffer,
    (sys.moveTo cursor).Brings before turn failures buffer →
    (sys.alloc size align (before ++ turn :: after)).1.relaxes = before.length + 1
      ∧ ∃ rest, (sys.alloc size align (before ++ turn :: after)).1.injections
          = List.replicate failures (.error .allocatorError) ++ .ok place.index :: rest
        ∧ ∀ result ∈ rest, result.isOk = false
  /-- After that turn the allocation hands out its block, unless it is given up. -/
  granted : ∀ before turn after failures buffer,
    (sys.moveTo cursor).Brings before turn failures buffer → after ≠ [] →
    ∃ block, (sys.alloc size align (before ++ turn :: after)).1.outcome = .granted block
      ∧ block.WaitedFor sys.arena.geometry size place.index buffer
  /-- If that turn is the last one of the schedule, nobody looks at the slot again. -/
  givenUp : ∀ before turn failures buffer, (sys.moveTo cursor).Brings before turn failures buffer →
    (sys.alloc size align (before ++ [turn])).1.outcome = .abandoned
  /-- There are no other schedules. -/
  complete : ∀ schedule, (sys.moveTo cursor).Fruitless schedule.sum
    ∨ ∃ before turn after failures buffer, schedule = before ++ turn :: after
      ∧ (sys.moveTo cursor).Brings before turn failures buffer
  /-- At the beginning of each turn this pool waits, and no other one does. -/
  single : ∀ schedule turns, turns < (sys.alloc size align schedule).1.relaxes → ∀ other,
    ((sys.moveTo cursor).injectTimes (schedule.take turns).sum).2.arena.table.slot other = .pending
      ↔ other = place.index

/-- The turn of the first injection that brings a buffer leaves it in the pool that waits. -/
theorem Brings.ready {sys : System β} {stage : Stage} (hstage : sys.arena.table.AtStage stage)
    {index : Nat} (hpending : sys.arena.table.slot index = .pending) {before : Schedule}
    {turn failures : Nat} {buffer : Addr} (h : sys.Brings before turn failures buffer) :
    (sys.injectTimes (before.sum + turn)).2.arena.table.slot index = .ready buffer
      ∧ ∃ rest, (sys.injectTimes (before.sum + turn)).1
          = List.replicate failures (.error .allocatorError) ++ .ok index :: rest
        ∧ ∀ result ∈ rest, result.isOk = false := by
  obtain ⟨more, hmore⟩ := Nat.exists_eq_add_of_lt h.lt_turn
  have htimes : before.sum + turn = failures + (more + 1) := by omega
  rw [htimes]
  exact injectTimes_of_pending hstage hpending h.fruitless h.buffer_eq more

section

variable {sys : System β} {size align : Word} {extent : Extent sys.arena.geometry}
  {cursor : Cursor} {straddles : Nat} {place : Place}
  (haccept : sys.arena.geometry.accept size align = .ok extent)
  (hreserve : sys.arena.geometry.reserve extent sys.arena.cursor
    = { landing := .settled place, cursor, straddles })
  (hpending : sys.arena.table.slot place.index = .pending)

include haccept hreserve hpending

theorem alloc_of_fruitless {schedule : Schedule} (h : (sys.moveTo cursor).Fruitless schedule.sum) :
    sys.alloc size align schedule
      = ({
          outcome := .abandoned
          straddles
          relaxes := schedule.length
          injections := ((sys.moveTo cursor).injectTimes schedule.sum).1
        }, ((sys.moveTo cursor).injectTimes schedule.sum).2) := by
  -- Moving the cursor leaves the slots alone.
  have hmoved : (sys.moveTo cursor).arena.table.slot place.index = .pending := hpending
  rw [sys.alloc_of_settled schedule haccept hreserve, allocAt,
    await_of_fruitless hmoved schedule h]
  rfl

theorem alloc_of_brings {stage : Stage} (hstage : sys.arena.table.AtStage stage)
    {before : Schedule} {turn failures : Nat} {buffer : Addr}
    (h : (sys.moveTo cursor).Brings before turn failures buffer) (after : Schedule) :
    (sys.alloc size align (before ++ turn :: after)).1 = {
      outcome := if after.isEmpty then .abandoned else
        .granted (((sys.moveTo cursor).injectTimes (before.sum + turn)).2.arena.grant size align
          place buffer).1
      straddles
      relaxes := before.length + 1
      injections := ((sys.moveTo cursor).injectTimes (before.sum + turn)).1
    } := by
  have hmoved : (sys.moveTo cursor).arena.table.slot place.index = .pending := hpending
  have hstage' : (sys.moveTo cursor).arena.table.AtStage stage := hstage
  obtain ⟨hready, _⟩ := h.ready hstage' hmoved
  rw [sys.alloc_of_settled _ haccept hreserve, allocAt,
    await_of_ready hmoved before (h.fruitless.mono h.before_le) turn after hready]
  cases after with
  | nil => rfl
  | cons next after => rfl

/-- The block that is handed out in the end. Nobody has asked for the pool behind the one
that waits, so the block asks for it. -/
theorem waitedFor_of_brings {stage : Stage} (hstage : sys.arena.table.AtStage stage)
    {before : Schedule} {turn failures : Nat} {buffer : Addr}
    (h : (sys.moveTo cursor).Brings before turn failures buffer) {after : Schedule}
    (hafter : after ≠ []) :
    ∃ block, (sys.alloc size align (before ++ turn :: after)).1.outcome = .granted block
      ∧ block.WaitedFor sys.arena.geometry size place.index buffer := by
  have halloc := alloc_of_brings haccept hreserve hpending hstage h after
  have hmore : after.isEmpty = false := by simpa using hafter
  rw [hmore] at halloc
  have houtcome := congrArg Attempt.outcome halloc
  refine ⟨_, houtcome, ?_⟩
  -- What holds of all blocks that are handed out holds of this one.
  have hspec := sys.alloc_spec size align (before ++ turn :: after)
  have hblock := Attempt.block?_of_granted houtcome
  obtain ⟨hfit, _, _⟩ := hspec.block hblock
  refine ⟨rfl, rfl, hfit.size_eq, hfit.within, ?_⟩
  have hbehind : sys.arena.table.slot (place.index + 1) = .absent := by
    obtain ⟨hwaiting, hindex⟩ := (hstage.slot_eq_pending_iff place.index).1 hpending
    rw [hstage.slot_eq_absent_iff, Stage.reached, hwaiting, hindex]
    exact Nat.le_refl _
  rw [hspec.handing.moreNeeded_iff _ hblock]
  exact and_iff_left hbehind

/-- Before a turn of the wait nobody has brought a buffer. -/
theorem fruitless_take {stage : Stage} (hstage : sys.arena.table.AtStage stage)
    {schedule : Schedule} {turns : Nat}
    (hlt : turns < (sys.alloc size align schedule).1.relaxes) :
    (sys.moveTo cursor).Fruitless (schedule.take turns).sum := by
  have hmoved : (sys.moveTo cursor).arena.table.AtStage stage := hstage
  rcases fruitless_or_brings hmoved schedule
    with hnone | ⟨before, turn, after, failures, buffer, rfl, hbrings⟩
  · exact hnone.mono (schedule.sum_take_le turns)
  · rw [alloc_of_brings haccept hreserve hpending hstage hbrings after] at hlt
    -- The turns that are over are among those before the buffer comes.
    have hle : turns ≤ before.length := Nat.le_of_lt_succ hlt
    rw [List.take_append_of_le_length hle]
    exact hbrings.fruitless.mono (Nat.le_trans (before.sum_take_le turns) hbrings.before_le)

end

/-- A block that falls in the pool that waits is waited for. -/
theorem waitsAt {sys : System β} {stage : Stage} (hstage : sys.arena.table.AtStage stage)
    {size align : Word} {place : Place} {cursor : Cursor}
    (hlanding : sys.arena.landing? size align = some (place, cursor))
    (hpending : sys.arena.table.slot place.index = .pending) :
    sys.WaitsAt size align place cursor := by
  obtain ⟨extent, straddles, haccept, hreserve⟩ := Arena.landing?_eq_some_iff.1 hlanding
  -- Moving the cursor leaves the table alone.
  have hmoved : (sys.moveTo cursor).arena.table.AtStage stage := hstage
  refine ⟨?_, ?_, ?_, ?_, fruitless_or_brings hmoved, ?_⟩
  · intro schedule hfruitless
    rw [alloc_of_fruitless haccept hreserve hpending hfruitless]
    refine ⟨rfl, rfl, ?_, ?_⟩
    · exact injectTimes_of_fruitless hmoved hpending hfruitless
    · exact (injectTimes_unmoved hfruitless).arena_eq
  · intro before turn after failures buffer hbrings
    rw [alloc_of_brings haccept hreserve hpending hstage hbrings after]
    exact ⟨rfl, (hbrings.ready hmoved hpending).2⟩
  · intro before turn after failures buffer hbrings hafter
    exact waitedFor_of_brings haccept hreserve hpending hstage hbrings hafter
  · intro before turn failures buffer hbrings
    rw [alloc_of_brings haccept hreserve hpending hstage hbrings []]
    rfl
  · intro schedule turns hlt other
    obtain ⟨hwaiting, hindex⟩ := (hstage.slot_eq_pending_iff place.index).1 hpending
    have hfruitless := fruitless_take haccept hreserve hpending hstage hlt
    rw [(injectTimes_unmoved hfruitless).arena_eq]
    exact (hstage.slot_eq_pending_iff other).trans (by simp [hwaiting, hindex])

end System

namespace Run

variable {β : Type} [Backing β] (run : Run β)

/-- How an allocation waits, at any point of a run and by any schedule. If its block falls
in a pool that waits, it takes turn after turn until an injection brings the buffer of that
pool, and no longer. If not, it takes no turn, whether it hands out a block or fails. -/
theorem alloc_waits (size align : Word) :
    (∀ place cursor, run.final.arena.landing? size align = some (place, cursor) →
        run.final.arena.table.slot place.index = .pending →
        run.final.WaitsAt size align place cursor)
      ∧ ((∀ place cursor, run.final.arena.landing? size align = some (place, cursor) →
            run.final.arena.table.slot place.index ≠ .pending) →
          ∀ schedule, (run.final.alloc size align schedule).1.AtOnce) := by
  obtain ⟨stage, hstage, _⟩ := run.exists_stage
  constructor
  · intro place cursor hlanding hpending
    exact System.waitsAt hstage hlanding hpending
  · intro hborne schedule
    exact (run.final.alloc_spec size align schedule).atOnce_of_landing hborne

/-- Pool one waits for its buffer, and the backing refuses the first injection. In the wait
of the second block it is made in the second turn, and the buffer comes in the third one. -/
theorem alloc_waits_reluctant :
    let run := reluctant.andThen [.alloc 24 8 []]
    run.final.arena.landing? 40 1 = some (⟨1, 7⟩, ⟨111⟩)
      ∧ (run.final.alloc 40 1 [0, 1, 1, 0]).1.relaxes = 3
      ∧ ∃ block, (run.final.alloc 40 1 [0, 1, 1, 0]).1.outcome = .granted block
        ∧ block.WaitedFor run.final.arena.geometry 40 1 4160 := by
  intro run
  have hlanding : run.final.arena.landing? 40 1 = some (⟨1, 7⟩, ⟨111⟩) := by decide +kernel
  have hwaits := (run.alloc_waits 40 1).1 ⟨1, 7⟩ ⟨111⟩ hlanding (by decide +kernel)
  have hbrings : (run.final.moveTo ⟨111⟩).Brings [0, 1] 1 1 4160 :=
    ⟨by decide +kernel, by decide +kernel, by decide, by decide⟩
  exact ⟨hlanding, (hwaits.ends [0, 1] 1 [0] 1 4160 hbrings).1,
    hwaits.granted [0, 1] 1 [0] 1 4160 hbrings (List.cons_ne_nil 0 [])⟩

end Run

end PooledArena
