import PooledArena.Proofs.Exact
import PooledArena.Proofs.Terminal
import Mathlib.Algebra.GroupWithZero.Nat

/-!
# `PooledArena.Proofs.Accounting`: where the bytes of an arena go

Every byte that the cursor passes is reserved by some request, and comes to one of three
ends. It belongs to a block that is handed out, padding included; or to a reservation that
was thrown away because it straddled two pools; or to one that lay in a pool but brought no
block, because nobody had asked for the pool or because the wait was given up.

`Spending` says what one operation adds to each. Straddles are charged to the boundaries
between pools: each crosses one, and no two the same, over the whole run. So an arena that
is used up has lost no more than one request for each of its pools.

`Run.space_accounted` is the balance of a run.
-/

set_option autoImplicit false

namespace PooledArena

/-! ### One entry -/

/-- How many reservations the attempt made. The last one was thrown away like the others,
unless it lay in a pool. -/
def Attempt.tries (attempt : Attempt) : Nat :=
  match attempt.outcome with
  | .granted _ => attempt.straddles + 1
  | .failed (.poolAbsent _) => attempt.straddles + 1
  | .abandoned => attempt.straddles + 1
  | .failed _ => attempt.straddles

namespace Entry

/-- The bytes that a request takes, its padding included. -/
def padded : Entry → Nat
  | alloc size align _ => size.toNat + (align.toNat - 1)
  | inject _ => 0

/-- How many reservations were thrown away because they straddled two pools. -/
def straddles : Entry → Nat
  | alloc _ _ attempt => attempt.straddles
  | inject _ => 0

/-- Whether the last reservation lay in a pool and brought no block. -/
def forfeits (entry : Entry) : Bool :=
  match entry.outcome? with
  | some (.failed (.poolAbsent _)) => true
  | some .abandoned => true
  | _ => false

/-- The bytes of the block that was handed out, its padding included. -/
def handed (entry : Entry) : Nat :=
  if entry.block?.isSome then entry.padded else 0

/-- The bytes of all reservations that straddled. -/
def straddled (entry : Entry) : Nat :=
  entry.straddles * entry.padded

/-- The bytes of a reservation that lay in a pool and brought no block. -/
def forfeited (entry : Entry) : Nat :=
  if entry.forfeits then entry.padded else 0

/-- If the request was accepted, it takes so many bytes at the most, its padding included. -/
def TakesAtMost (g : Geometry) (most : Nat) : Entry → Prop
  | alloc size align _ =>
    (g.accept size align).isOk = true → size.toNat + (align.toNat - 1) ≤ most
  | inject _ => True

instance (g : Geometry) (most : Nat) (entry : Entry) : Decidable (entry.TakesAtMost g most) :=
  match entry with
  | .alloc size align _ =>
    inferInstanceAs (Decidable ((g.accept size align).isOk = true →
      size.toNat + (align.toNat - 1) ≤ most))
  | .inject _ => inferInstanceAs (Decidable True)

/-- All reservations of a request take the same number of bytes. -/
theorem spent_eq (size align : Word) (attempt : Attempt) :
    (alloc size align attempt).handed + (alloc size align attempt).straddled
        + (alloc size align attempt).forfeited
      = attempt.tries * (alloc size align attempt).padded := by
  obtain ⟨outcome, straddles, relaxes, injections⟩ := attempt
  cases outcome with
  | granted block =>
      simp [handed, straddled, forfeited, forfeits, block?, Attempt.block?, outcome?,
        Attempt.tries, Entry.straddles, Nat.succ_mul, Nat.add_comm]
  | abandoned =>
      simp [handed, straddled, forfeited, forfeits, block?, Attempt.block?, outcome?,
        Attempt.tries, Entry.straddles, Nat.succ_mul]
  | failed error =>
      cases error with
      | _ =>
          simp [handed, straddled, forfeited, forfeits, block?, Attempt.block?, outcome?,
            Attempt.tries, Entry.straddles, Nat.succ_mul]

end Entry

/-! ### One operation -/

namespace System

variable {β : Type} [Backing β]

/-- What an operation spends: how far it moves the cursor, and what for. -/
structure Spending (sys : System β) (entry : Entry) (later : System β) : Prop where
  cursor_eq : later.arena.cursor.position.toNat = sys.arena.cursor.position.toNat
    + (entry.handed + entry.straddled + entry.forfeited)
  /-- Every straddle crosses a boundary of its own. -/
  straddles_le : (sys.arena.geometry.locate sys.arena.cursor.position).index + entry.straddles
    ≤ (sys.arena.geometry.locate later.arena.cursor.position).index
  straddled_le : ∀ most, entry.TakesAtMost sys.arena.geometry most →
    entry.straddled ≤ entry.straddles * most
  /-- A block lies behind the old cursor, and ends in a pool that has its buffer. -/
  handed_le : entry.handed = 0 ∨ ∃ index buffer,
    later.arena.table.slot index = .ready buffer
      ∧ sys.arena.cursor.position.toNat + entry.handed
        ≤ (index + 1) * sys.arena.geometry.poolSize.toNat

omit [Backing β] in
/-- Where the cursor stays, nothing is spent. -/
theorem Spending.none {sys later : System β} {entry : Entry}
    (hcursor : later.arena.cursor = sys.arena.cursor) (hhanded : entry.handed = 0)
    (hstraddles : entry.straddles = 0) (hforfeited : entry.forfeited = 0) :
    Spending sys entry later := by
  refine ⟨?_, ?_, ?_, .inl hhanded⟩
  · simp [hcursor, hhanded, hforfeited, Entry.straddled, hstraddles]
  · simp [hcursor, hstraddles]
  · simp [Entry.straddled, hstraddles]

omit [Backing β] in
/-- An allocation that was accepted spends what its reservations take. -/
theorem Spending.of_reserve {sys later : System β} {size align : Word} {attempt : Attempt}
    {extent : Extent sys.arena.geometry} {landing : Landing} {cursor : Cursor}
    (haccept : sys.arena.geometry.accept size align = .ok extent)
    (hreserve : sys.arena.geometry.reserve extent sys.arena.cursor
      = { landing, cursor, straddles := attempt.straddles })
    (hcursor : later.arena.cursor = cursor)
    (htries : (Reservation.mk landing cursor attempt.straddles).tries = attempt.tries)
    (hhanded : (Entry.alloc size align attempt).handed = 0 ∨ ∃ index buffer,
      later.arena.table.slot index = .ready buffer
        ∧ sys.arena.cursor.position.toNat + (Entry.alloc size align attempt).handed
          ≤ (index + 1) * sys.arena.geometry.poolSize.toNat) :
    Spending sys (.alloc size align attempt) later := by
  have hmoved := Geometry.reserve_cursor extent sys.arena.cursor
  have hcrossed := Geometry.index_add_straddles_le extent sys.arena.cursor
  rw [hreserve] at hmoved hcrossed
  rw [(sys.arena.geometry.accept_eq_ok haccept).bytes_eq, htries] at hmoved
  refine ⟨?_, ?_, ?_, hhanded⟩
  · rw [hcursor, Entry.spent_eq]
    exact hmoved
  · rw [hcursor]
    exact hcrossed
  · intro most hmost
    refine Nat.mul_le_mul_left _ (hmost ?_)
    rw [haccept]
    rfl

theorem Allocation.spending {sys later : System β} {size align : Word} {attempt : Attempt}
    (h : Allocation sys size align attempt later) :
    Spending sys (.alloc size align attempt) later := by
  cases h with
  | @rejected error haccept =>
      refine .none rfl rfl rfl ?_
      -- The reason is not an absent pool, so nothing was reserved.
      have hnever : ∀ index, sys.arena.geometry.accept size align ≠ .error (.poolAbsent index) :=
        Geometry.accept_ne_poolAbsent
      rw [haccept] at hnever
      cases error with
      | poolAbsent index => exact absurd rfl (hnever index)
      | _ => rfl
  | exhausted haccept hreserve => exact .of_reserve haccept hreserve rfl rfl (.inl rfl)
  | absent haccept hreserve habsent => exact .of_reserve haccept hreserve rfl rfl (.inl rfl)
  | abandoned relaxes times haccept hreserve hpending =>
      exact .of_reserve haccept hreserve (sys.moved_cursor _ times) rfl (.inl rfl)
  | @granted extent cursor straddles place buffer relaxes times haccept hreserve hready hwait =>
      refine .of_reserve haccept hreserve (sys.moved_cursor _ times) rfl (.inr ?_)
      refine ⟨place.index, buffer, SlotTable.slot_request_of_ready hready _, ?_⟩
      have hsettled := Geometry.reserve_settled hreserve
      have hbehind := hsettled.le_position
      have hinside := hsettled.offset_add_bytes_le
      rw [(sys.arena.geometry.accept_eq_ok haccept).bytes_eq] at hinside
      unfold Geometry.position at hbehind
      rw [Nat.succ_mul]
      show _ + (size.toNat + (align.toNat - 1)) ≤ _
      omega

theorem perform_spending (sys : System β) (operation : Operation) :
    Spending sys (sys.perform operation).1 (sys.perform operation).2 := by
  cases operation with
  | alloc size align schedule => exact (sys.alloc_spec size align schedule).spending
  | inject => exact .none sys.inject_spec.cursor_eq rfl rfl rfl

end System

/-! ### Along a run -/

namespace Run

variable {β : Type} [Backing β] (run : Run β)

/-- The sum of a quantity over all entries of a run. -/
def total (quantity : Entry → Nat) : Nat :=
  (run.transcript.map quantity).sum

theorem total_step (quantity : Entry → Nat) (operation : Operation) :
    (run.andThen [operation]).total quantity
      = run.total quantity + quantity (run.final.perform operation).1 := by
  simp [total, transcript_step]

theorem total_of_transcript_eq_nil (quantity : Entry → Nat) (h : run.transcript = []) :
    run.total quantity = 0 := by
  simp [total, h]

/-- A quantity that no entry has sums up to nothing. -/
theorem total_eq_zero {quantity : Entry → Nat} (h : ∀ entry ∈ run.transcript, quantity entry = 0) :
    run.total quantity = 0 := by
  unfold total
  rw [List.map_eq_replicate_iff.2 h, List.sum_replicate_nat, Nat.mul_zero]

theorem cursor_eq_total : run.final.arena.cursor.position.toNat
    = run.total Entry.handed + run.total Entry.straddled + run.total Entry.forfeited := by
  induction run using Run.induct with
  | opening run hnone hopening =>
      obtain ⟨buffer, hcreated⟩ := create_spec run.create_eq
      simp only [total_of_transcript_eq_nil run _ hnone, hopening, hcreated.cursor_eq]
      rfl
  | andThen run operation ih =>
      have hspending := (run.final.perform_spending operation).cursor_eq
      rw [final_step, hspending, ih]
      simp only [total_step]
      omega

/-- There is a boundary between pools before the cursor for every straddle. -/
theorem straddles_le : run.total Entry.straddles
    ≤ (run.geometry.locate run.final.arena.cursor.position).index := by
  induction run using Run.induct with
  | opening run hnone hopening =>
      rw [total_of_transcript_eq_nil run _ hnone]
      exact Nat.zero_le _
  | andThen run operation ih =>
      have hspending := (run.final.perform_spending operation).straddles_le
      rw [geometry_final] at hspending
      rw [total_step, final_step]
      show _ ≤ (run.geometry.locate _).index
      omega

/-- The cursor does not come to a boundary beyond the last pool. -/
theorem cursor_index_le : (run.geometry.locate run.final.arena.cursor.position).index
    ≤ run.geometry.poolCount.toNat := by
  have hlt := run.cursor_lt
  rw [Geometry.toNat_capacity, ← Nat.succ_mul] at hlt
  rw [Geometry.locate_index]
  exact Nat.le_of_lt_succ ((Nat.div_lt_iff_lt_mul run.geometry.poolSize_pos).2 hlt)

theorem straddled_le {most : Nat}
    (h : ∀ entry ∈ run.transcript, entry.TakesAtMost run.geometry most) :
    run.total Entry.straddled ≤ run.total Entry.straddles * most := by
  induction run using Run.induct with
  | opening run hnone hopening =>
      rw [total_of_transcript_eq_nil run _ hnone]
      exact Nat.zero_le _
  | andThen run operation ih =>
      rw [transcript_step] at h
      have hbefore := ih fun entry hentry => h entry (List.mem_append_left _ hentry)
      have hnew := (run.final.perform_spending operation).straddled_le most
      rw [geometry_final] at hnew
      have hlast := hnew (h _ (List.mem_append_right _ List.mem_cons_self))
      rw [total_step, total_step, Nat.add_mul]
      exact Nat.add_le_add hbefore hlast

theorem readyPools_le (operation : Operation) :
    run.final.arena.readyPools ≤ (run.andThen [operation]).final.arena.readyPools := by
  obtain ⟨stage, hstage, _⟩ := run.exists_stage
  obtain ⟨next, hnext, hreaches⟩ := (run.final.perform_changes operation).reaches hstage
  have hready : run.final.arena.readyPools = stage.held.length := hstage.readyCount_eq
  have hready' : (run.final.perform operation).2.arena.readyPools = next.held.length :=
    hnext.readyCount_eq
  rw [final_step, hready, hready', hreaches.length_held]
  exact Nat.le_add_right _ _

/-- The blocks fit in the pools that have their buffers. -/
theorem handed_le : run.total Entry.handed
    ≤ run.final.arena.readyPools * run.geometry.poolSize.toNat := by
  induction run using Run.induct with
  | opening run hnone hopening =>
      rw [total_of_transcript_eq_nil run _ hnone]
      exact Nat.zero_le _
  | andThen run operation ih =>
      have hready := run.readyPools_le operation
      have hspending := (run.final.perform_spending operation).handed_le
      rw [geometry_final] at hspending
      rw [total_step]
      show _ ≤ _ * run.geometry.poolSize.toNat
      rcases hspending with hnone | ⟨index, buffer, hslot, hend⟩
      · rw [hnone]
        exact Nat.le_trans ih (Nat.mul_le_mul_right _ hready)
      · -- All earlier blocks lie before the old cursor, and so before the new block.
        have hcursor := run.cursor_eq_total
        obtain ⟨stage, hstage, _⟩ := (run.andThen [operation]).exists_stage
        have hheld : (run.andThen [operation]).final.arena.readyPools = stage.held.length :=
          hstage.readyCount_eq
        rw [← final_step] at hslot
        have hindex := hstage.lt_of_ready hslot
        rw [← hheld] at hindex
        exact Nat.le_trans (by omega) (Nat.le_trans hend (Nat.mul_le_mul_right _ hindex))

theorem readyPools_le_poolCount : run.final.arena.readyPools ≤ run.geometry.poolCount.toNat := by
  have hlength := run.final.arena.length_slots
  rw [geometry_final] at hlength
  show run.final.arena.table.states.countP _ ≤ _
  rw [← hlength, ← List.length_map Slot.state]
  exact List.countP_le_length

/-- The balance of a run. The bytes before the cursor are those of the blocks, those of the
reservations that straddled, and those of the reservations that brought no block. Straddles
are as few as the pools are, and as the pool sizes are that fit before the cursor. So if no
reservation in a pool was forfeited and no request takes more than `most` bytes, an arena
has handed out all of its bytes when it is used up, but for `most` in each pool. Blocks never
take more than what is reserved, nor more than what the ready pools hold. Everything is
counted with its padding. -/
theorem space_accounted :
    run.final.arena.cursor.position.toNat
        = run.total Entry.handed + run.total Entry.straddled + run.total Entry.forfeited
      ∧ run.total Entry.straddles ≤ min run.geometry.poolCount.toNat
          (run.final.arena.cursor.position.toNat / run.geometry.poolSize.toNat)
      ∧ (∀ most, (∀ entry ∈ run.transcript, entry.TakesAtMost run.geometry most) →
          (∀ entry ∈ run.transcript, entry.forfeits = false) → run.Failed .capacityExhausted →
            run.geometry.capacity.toNat
              ≤ run.total Entry.handed + run.geometry.poolCount.toNat * most)
      ∧ run.total Entry.handed ≤ run.final.arena.reserved.toNat
      ∧ run.total Entry.handed
          ≤ run.final.arena.readyPools * run.geometry.poolSize.toNat := by
  have hcursor := run.cursor_eq_total
  have hstraddles := run.straddles_le
  have hindex := run.cursor_index_le
  refine ⟨hcursor, ?_, ?_, ?_, run.handed_le⟩
  · rw [← Geometry.locate_index]
    omega
  · intro most hmost hforfeits hfailed
    have hexhausted := hfailed.exhausted
    unfold System.Exhausted at hexhausted
    rw [geometry_final, hcursor] at hexhausted
    have hnone : run.total Entry.forfeited = 0 := by
      refine run.total_eq_zero ?_
      intro entry hentry
      simp [Entry.forfeited, hforfeits entry hentry]
    -- Each straddle has cost `most` bytes at the most, and there was one for each pool.
    have hlost := Nat.le_trans (run.straddled_le hmost)
      (Nat.mul_le_mul_right most (Nat.le_trans hstraddles hindex))
    omega
  · have hpools := Nat.le_trans run.handed_le
      (Nat.mul_le_mul_right run.geometry.poolSize.toNat run.readyPools_le_poolCount)
    rw [Arena.toNat_reserved, geometry_final, Geometry.toNat_capacity]
    omega

/-- Requests of 40 bytes at the most use up three pools of 64 bytes. Two of them straddle, and
so does a third one, past the last pool. -/
theorem space_accounted_smooth :
    let run := smooth.andThen [.alloc 33 8 [], .inject, .alloc 40 1 [], .inject, .alloc 40 1 [],
      .alloc 40 1 []]
    run.Failed .capacityExhausted ∧ run.total Entry.straddles = 3
      ∧ run.geometry.capacity.toNat
        ≤ run.total Entry.handed + run.geometry.poolCount.toNat * 40 := by
  intro run
  have hmost : ∀ entry ∈ run.transcript, entry.TakesAtMost run.geometry 40 := by decide +kernel
  have hforfeits : ∀ entry ∈ run.transcript, entry.forfeits = false := by decide +kernel
  have hfailed : run.Failed .capacityExhausted := by decide +kernel
  exact ⟨hfailed, by decide +kernel, run.space_accounted.2.2.1 40 hmost hforfeits hfailed⟩

end Run

end PooledArena
