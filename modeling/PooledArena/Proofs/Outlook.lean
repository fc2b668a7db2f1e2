import PooledArena.Arena.Outlook
import PooledArena.Proofs.Exact
import PooledArena.Proofs.InjectFirst

/-!
# `PooledArena.Proofs.Outlook`: what the outlook is worth

`Arena.wouldWait?` goes by the first reservation alone, and by bytes that count as reserved.
That is enough for who asks every time, and allocates only if told that there is no wait. The
cursor of such an arena stays close to the pool that waits: it has entered the pool before
it, and has not passed the boundary between them (`Arena.Poised`).

* `Poised.landing_eq`: where the outlook says no, the reservation ends before that boundary.
  It begins in the pool before, so it cannot straddle.
* `Poised.landing_pending`: where the outlook says yes to a request of half a pool at the
  most, the block falls in the pool that waits, at the first try or at the second.
* `System.Allocation.poised`, `System.Injection.poised`: an arena stays poised.
-/

set_option autoImplicit false

namespace PooledArena

/-! ### Where an extent lands -/

namespace Geometry

variable {g : Geometry} {extent : Extent g} {cursor : Cursor} {index : Nat}

/-- An extent that ends in the pool that the cursor is in lies there. -/
theorem landing_of_end_le (hindex : index < g.poolCount.toNat)
    (hentered : index * g.poolSize.toNat ≤ cursor.position.toNat)
    (hend : cursor.position.toNat + extent.bytes.toNat ≤ (index + 1) * g.poolSize.toNat) :
    ∃ place, (g.reserve extent cursor).landing = .settled place ∧ place.index = index := by
  have hbytes := extent.bytes_pos
  rw [Nat.succ_mul] at hend
  have hplace : cursor.position.toNat = index * g.poolSize.toNat
      + (cursor.position.toNat - index * g.poolSize.toNat) := by omega
  obtain ⟨hlocate, hoffset⟩ := locate_eq hplace (by omega)
  have hlt := (g.locate_index_lt_iff cursor.position).1 (by rw [hlocate]; exact hindex)
  rw [locate_offset] at hoffset
  rw [reserve_of_fits hlt (by omega)]
  exact ⟨_, rfl, hlocate⟩

/-- An extent of half a pool at the most that would end beyond the pool lies in the next
one: at its start, or behind a try that straddles. -/
theorem landing_of_lt_end (hhalf : 2 * extent.bytes.toNat ≤ g.poolSize.toNat)
    (hindex : index + 1 < g.poolCount.toNat)
    (hentered : index * g.poolSize.toNat < cursor.position.toNat)
    (hbounded : cursor.position.toNat ≤ (index + 1) * g.poolSize.toNat)
    (hend : (index + 1) * g.poolSize.toNat < cursor.position.toNat + extent.bytes.toNat) :
    ∃ place, (g.reserve extent cursor).landing = .settled place ∧ place.index = index + 1 := by
  have hone : (index + 1) * g.poolSize.toNat = index * g.poolSize.toNat + g.poolSize.toNat :=
    Nat.succ_mul _ _
  have htwo : (index + 1 + 1) * g.poolSize.toNat
      = (index + 1) * g.poolSize.toNat + g.poolSize.toNat := Nat.succ_mul _ _
  rcases Nat.lt_or_eq_of_le hbounded with hbefore | hboundary
  · -- It straddles. The next try begins in the next pool, before its middle.
    have hplace : cursor.position.toNat = index * g.poolSize.toNat
        + (cursor.position.toNat - index * g.poolSize.toNat) := by omega
    obtain ⟨hlocate, hoffset⟩ := locate_eq hplace (by omega)
    have hlt := (g.locate_index_lt_iff cursor.position).1 (by rw [hlocate]; omega)
    have hbelow : ¬g.capacity ≤ cursor.position := by
      rw [UInt64.le_iff_toNat_le]
      omega
    have hmoved := g.toNat_reserve extent hbelow
    rw [locate_offset] at hoffset
    rw [reserve_of_straddles hlt (by omega)]
    exact landing_of_end_le hindex (by omega) (by omega)
  · -- The cursor is at the boundary already, so the first try fits.
    exact landing_of_end_le hindex (Nat.le_of_eq hboundary.symm) (by omega)

end Geometry

/-! ### What the outlook says -/

/-- The states tell the slots apart that wait. -/
theorem SlotTable.contains_pending_iff (table : SlotTable) (count : Nat) :
    (table.states.take count).contains .pending = true
      ↔ ∃ index < count, table.slot index = .pending := by
  have hstate : ∀ slot : Slot, slot.state = .pending ↔ slot = .pending := by
    intro slot
    cases slot <;> simp [Slot.state]
  simp only [List.contains_iff_mem, List.mem_iff_getElem?, List.getElem?_take, states,
    List.getElem?_map, slot]
  refine exists_congr fun index => ?_
  by_cases hindex : index < count
  · cases hslot : table.slots[index]? with
    | none => simp [hindex]
    | some slot => simp [hindex, hstate]
  · simp [hindex]

/-- Beyond the table all slots count as absent. -/
theorem SlotTable.lt_of_pending {table : SlotTable} {index : Nat}
    (h : table.slot index = .pending) : index < table.slots.length := by
  by_contra hbeyond
  unfold slot at h
  rw [List.getElem?_eq_none (Nat.le_of_not_lt hbeyond)] at h
  cases h

namespace Arena

variable {arena : Arena} {padded : Word} {stage : Stage}

/-- The outlook is about a pool that waits and begins before the end of the next
reservation. -/
theorem wouldWait?_eq_some {answer : Bool} (hstage : arena.table.AtStage stage)
    (h : arena.wouldWait? padded = some answer) :
    answer = true ↔ ∃ index, arena.table.slot index = .pending
      ∧ index * arena.geometry.poolSize.toNat < arena.reserved.toNat + padded.toNat := by
  obtain ⟨stop, hstop, rfl⟩ := Option.map_eq_some_iff.1 h
  have hpool := arena.geometry.poolSize_pos
  dsimp only
  rw [SlotTable.contains_pending_iff, ← Word.checkedAdd_eq_some_iff.1 hstop]
  refine exists_congr fun index => ?_
  rw [and_comm, and_congr_right_iff]
  intro hpending
  have hcount := SlotTable.lt_of_pending hpending
  rw [arena.length_slots] at hcount
  -- The first pool has its buffer, so the one that waits comes later.
  have hheld := hstage.held_pos
  have hindex := ((hstage.slot_eq_pending_iff index).1 hpending).2
  have hpos : 1 * arena.geometry.poolSize.toNat ≤ index * arena.geometry.poolSize.toNat :=
    Nat.mul_le_mul_right _ (by omega)
  have hdiv := Nat.le_div_iff_mul_le (x := index) (y := stop.toNat - 1) hpool
  omega

end Arena

/-! ### An arena that is asked every time -/

/-- Where a pool waits for its buffer, the cursor has entered the pool before it, and has
not passed the boundary between the two. -/
structure Arena.Poised (arena : Arena) : Prop where
  exists_stage : ∃ stage, arena.table.AtStage stage
  entered : ∀ index, arena.table.slot (index + 1) = .pending →
    index * arena.geometry.poolSize.toNat < arena.cursor.position.toNat
  bounded : ∀ index, arena.table.slot (index + 1) = .pending →
    arena.cursor.position.toNat ≤ (index + 1) * arena.geometry.poolSize.toNat

namespace Arena.Poised

variable {arena : Arena}

/-- Nothing more is asked of an arena in which no pool waits. -/
theorem of_quiet {stage : Stage} (hstage : arena.table.AtStage stage)
    (hquiet : ∀ index, arena.table.slot index ≠ .pending) : arena.Poised := by
  refine ⟨⟨stage, hstage⟩, ?_, ?_⟩
  · intro index hpending
    exact absurd hpending (hquiet _)
  · intro index hpending
    exact absurd hpending (hquiet _)

/-- The first pool does not wait, so there is one before the pool that does. -/
theorem exists_succ (h : arena.Poised) {index : Nat}
    (hpending : arena.table.slot index = .pending) :
    ∃ before, index = before + 1 ∧ ∃ buffer, arena.table.slot before = .ready buffer := by
  obtain ⟨stage, hstage⟩ := h.exists_stage
  have hheld := hstage.held_pos
  have hindex := ((hstage.slot_eq_pending_iff index).1 hpending).2
  have hlast : stage.held.length - 1 < stage.held.length := by omega
  refine ⟨stage.held.length - 1, by omega, stage.held[stage.held.length - 1], ?_⟩
  exact (hstage.slot_eq_ready_iff _ _).2 (List.getElem?_eq_getElem hlast)

/-- Where the outlook says no, a block falls in the pool before the one that waits. -/
theorem landing_eq (h : arena.Poised) {extent : Extent arena.geometry} {index : Nat}
    (hpending : arena.table.slot (index + 1) = .pending)
    (hask : arena.wouldWait? extent.bytes = some false) :
    ∃ place, (arena.geometry.reserve extent arena.cursor).landing = .settled place
      ∧ place.index = index := by
  obtain ⟨stage, hstage⟩ := h.exists_stage
  have hno : ¬(index + 1) * arena.geometry.poolSize.toNat
      < arena.reserved.toNat + extent.bytes.toNat := by
    intro hlt
    exact absurd ((wouldWait?_eq_some hstage hask).2 ⟨_, hpending, hlt⟩) Bool.false_ne_true
  have hcount := SlotTable.lt_of_pending hpending
  rw [arena.length_slots] at hcount
  -- That far down, the cursor is below the capacity, and all bytes before it count.
  have hcapacity := Nat.mul_le_mul_right arena.geometry.poolSize.toNat (Nat.le_of_lt hcount)
  rw [← Geometry.toNat_capacity] at hcapacity
  have hbytes := extent.bytes_pos
  rw [toNat_reserved] at hno
  exact Geometry.landing_of_end_le (by omega) (Nat.le_of_lt (h.entered index hpending)) (by omega)

/-- So a search that settles does so in the pool before the one that waits. -/
theorem index_eq_of_settled (h : arena.Poised) {extent : Extent arena.geometry} {index : Nat}
    {place : Place} {cursor : Cursor} {straddles : Nat}
    (hpending : arena.table.slot (index + 1) = .pending)
    (hask : arena.wouldWait? extent.bytes = some false)
    (hreserve : arena.geometry.reserve extent arena.cursor
      = { landing := .settled place, cursor, straddles }) : place.index = index := by
  obtain ⟨found, hlanding, hindex⟩ := h.landing_eq hpending hask
  rw [hreserve] at hlanding
  cases hlanding
  exact hindex

/-- That pool has its buffer, so no allocation for which the outlook says no has to wait. -/
theorem slot_ne_pending_of_settled (h : arena.Poised) {extent : Extent arena.geometry}
    {place : Place} {cursor : Cursor} {straddles : Nat}
    (hask : arena.wouldWait? extent.bytes = some false)
    (hreserve : arena.geometry.reserve extent arena.cursor
      = { landing := .settled place, cursor, straddles }) :
    arena.table.slot place.index ≠ .pending := by
  intro hpending
  obtain ⟨before, hbefore, _⟩ := h.exists_succ hpending
  rw [hbefore] at hpending
  have hindex := h.index_eq_of_settled hpending hask hreserve
  omega

/-- Where the outlook says yes, a block of half a pool at the most falls in the pool that
waits. -/
theorem landing_pending (h : arena.Poised) {extent : Extent arena.geometry}
    (hhalf : 2 * extent.bytes.toNat ≤ arena.geometry.poolSize.toNat)
    (hask : arena.wouldWait? extent.bytes = some true) :
    ∃ place, (arena.geometry.reserve extent arena.cursor).landing = .settled place
      ∧ arena.table.slot place.index = .pending := by
  obtain ⟨stage, hstage⟩ := h.exists_stage
  obtain ⟨pool, hpending, hyes⟩ := (wouldWait?_eq_some hstage hask).1 rfl
  obtain ⟨index, rfl, _⟩ := h.exists_succ hpending
  have hcount := SlotTable.lt_of_pending hpending
  rw [arena.length_slots] at hcount
  rw [toNat_reserved] at hyes
  obtain ⟨place, hlanding, hindex⟩ := Geometry.landing_of_lt_end hhalf hcount
    (h.entered index hpending) (h.bounded index hpending) (by omega)
  exact ⟨place, hlanding, hindex ▸ hpending⟩

end Arena.Poised

/-! ### One operation -/

namespace System

variable {β : Type} [Backing β] {sys later : System β} {size align : Word} {attempt : Attempt}

/-- An arena that a creation has left behind is poised: no pool waits. -/
theorem poised_of_creation {label : String} {poolCount minPoolSize : Word} {host after : Host β}
    {arena : Arena} (h : Creation label poolCount minPoolSize host (.ok arena) after) :
    arena.Poised := by
  obtain ⟨buffer, hcreated⟩ := h.created_spec
  refine .of_quiet hcreated.atStage ?_
  intro index hpending
  exact absurd ((hcreated.atStage.slot_eq_pending_iff index).1 hpending).1 Bool.false_ne_true

/-- After an injection that fills a pool no pool waits. The others change nothing. -/
theorem Injection.poised {result : Except Error Nat} (h : Injection sys result later)
    (hpoised : sys.arena.Poised) : later.arena.Poised := by
  cases h with
  | refused hallocate => exact hpoised
  | @installed host buffer index hallocate hinstall =>
      obtain ⟨stage, hstage⟩ := hpoised.exists_stage
      exact .of_quiet (hstage.offer buffer).2 (hstage.slot_offer_ne_pending buffer)
  | returned hallocate hinstall => exact hpoised

/-- An allocation for which the outlook says no does not wait, and leaves the arena
poised. -/
theorem Allocation.poised (h : Allocation sys size align attempt later)
    (hpoised : sys.arena.Poised)
    (hask : ∀ extent, sys.arena.geometry.accept size align = .ok extent →
      sys.arena.wouldWait? extent.bytes = some false) :
    attempt.AtOnce ∧ later.arena.Poised := by
  obtain ⟨stage, hstage⟩ := hpoised.exists_stage
  obtain ⟨next, hnext, _⟩ := h.changes.reaches hstage
  cases h with
  | rejected haccept => exact ⟨Attempt.atOnce_failure _ _, hpoised⟩
  | exhausted haccept hreserve =>
      -- A pool that waits would have had room in the one before it.
      refine ⟨Attempt.atOnce_failure _ _, .of_quiet hstage ?_⟩
      intro index hpending
      obtain ⟨before, rfl, _⟩ := hpoised.exists_succ hpending
      obtain ⟨place, hlanding, _⟩ := hpoised.landing_eq hpending (hask _ haccept)
      rw [hreserve] at hlanding
      cases hlanding
  | absent haccept hreserve habsent =>
      refine ⟨Attempt.atOnce_failure _ _, .of_quiet hstage ?_⟩
      intro index hpending
      obtain ⟨before, rfl, buffer, hready⟩ := hpoised.exists_succ hpending
      rw [hpoised.index_eq_of_settled hpending (hask _ haccept) hreserve, hready] at habsent
      cases habsent
  | abandoned relaxes times haccept hreserve hpending =>
      exact absurd hpending (hpoised.slot_ne_pending_of_settled (hask _ haccept) hreserve)
  | @granted extent cursor straddles place buffer relaxes times haccept hreserve hready hwait =>
      -- The block lies before any pool that waits.
      have hplace : ∀ index, sys.arena.table.slot (index + 1) = .pending →
          place.index = index :=
        fun index hpending => hpoised.index_eq_of_settled hpending (hask _ haccept) hreserve
      have hborne := hpoised.slot_ne_pending_of_settled (hask _ haccept) hreserve
      obtain ⟨rfl, rfl⟩ := hwait.resolve_left hborne
      refine ⟨⟨rfl, rfl, Outcome.noConfusion⟩, ?_⟩
      have hsettled := Geometry.reserve_settled hreserve
      have hend := hsettled.position_add_bytes
      have hinside := hsettled.offset_add_bytes_le
      have hbytes := extent.bytes_pos
      unfold Geometry.position at hend
      have hwaiting : ∀ index,
          ((sys.arena.moveTo cursor).grant size align place buffer).2.table.slot (index + 1)
            = .pending → place.index = index := by
        intro index hpending
        rcases (SlotTable.slot_request_pending_iff _ _ _).1 hpending with hold | ⟨_, hnew⟩
        · exact hplace index hold
        · exact (Nat.succ.inj hnew).symm
      -- A pool that waits from now on is the one that the block has asked for.
      refine ⟨⟨next, hnext⟩, ?_, ?_⟩
      · intro index hpending
        obtain rfl := hwaiting index hpending
        show _ * sys.arena.geometry.poolSize.toNat < cursor.position.toNat
        omega
      · intro index hpending
        obtain rfl := hwaiting index hpending
        show cursor.position.toNat ≤ _ * sys.arena.geometry.poolSize.toNat
        rw [Nat.succ_mul]
        omega

/-! ### Waiting for a pool -/

/-- The block falls in pool `index`, which waits for its buffer, and the allocation bears
any number of turns in which nobody brings it. -/
structure WaitsFor (sys : System β) (size align : Word) (index : Nat) : Prop where
  pending : sys.arena.table.slot index = .pending
  lands : ∃ extent place, sys.arena.geometry.accept size align = .ok extent
    ∧ (sys.arena.geometry.reserve extent sys.arena.cursor).landing = .settled place
    ∧ place.index = index
  bears : ∀ turns, (sys.alloc size align (List.replicate turns 0)).1.outcome = .abandoned
    ∧ (sys.alloc size align (List.replicate turns 0)).1.relaxes = turns

/-- An allocation of half a pool at the most for which the outlook says yes waits for a
pool. -/
theorem exists_waitsFor (sys : System β) (hpoised : sys.arena.Poised)
    {extent : Extent sys.arena.geometry}
    (haccept : sys.arena.geometry.accept size align = .ok extent)
    (hhalf : 2 * extent.bytes.toNat ≤ sys.arena.geometry.poolSize.toNat)
    (hask : sys.arena.wouldWait? extent.bytes = some true) :
    ∃ index, sys.WaitsFor size align index := by
  obtain ⟨place, hlanding, hpending⟩ := hpoised.landing_pending hhalf hask
  refine ⟨place.index, hpending, ⟨extent, place, haccept, hlanding, rfl⟩, ?_⟩
  intro turns
  generalize hreserve : sys.arena.geometry.reserve extent sys.arena.cursor = found at hlanding
  obtain ⟨landing, cursor, straddles⟩ := found
  cases hlanding
  -- Turns without an injection bring no buffer.
  rw [alloc_of_fruitless haccept hreserve hpending ((sys.moveTo cursor).fruitless_quiet turns)]
  exact ⟨rfl, List.length_replicate⟩

end System

end PooledArena
