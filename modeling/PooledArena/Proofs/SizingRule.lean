import PooledArena.Proofs.Run

/-!
# `PooledArena.Proofs.SizingRule`: pools that are large enough are never skipped

A pool is asked for by the first block in the pool before it. A reservation that
straddles hands out no block, so if it were to cross a whole pool, nobody would ask
for the one behind. The sizing rule excludes that: no request takes more than half
a pool, its padding included.

Then the table is always ahead of the cursor (`SlotTable.Ahead`). The pool that the
cursor is in was asked for. Once the cursor is past the middle of it, so was the
next one: what reaches over from an earlier pool ends before the middle, so some
reservation began in this pool, and the first to do so fitted and left a block there.
`Ahead.reserve` carries this along the search for room, `perform_ahead` through an
operation, and `Run.never_poolAbsent` draws the conclusion for a run.
-/

set_option autoImplicit false

namespace PooledArena

/-! ### The rule -/

/-- No request that is accepted takes more than half a pool, with its padding. -/
def Operation.KeepsSizingRule (g : Geometry) : Operation → Prop
  | alloc size align _ =>
    (g.accept size align).isOk = true →
      2 * (size.toNat + (align.toNat - 1)) ≤ g.poolSize.toNat
  | inject => True

instance (g : Geometry) (operation : Operation) : Decidable (operation.KeepsSizingRule g) :=
  match operation with
  | .alloc size align _ =>
    inferInstanceAs (Decidable ((g.accept size align).isOk = true →
      2 * (size.toNat + (align.toNat - 1)) ≤ g.poolSize.toNat))
  | .inject => inferInstanceAs (Decidable True)

theorem Operation.KeepsSizingRule.bytes_le {g : Geometry} {size align : Word} {schedule : Schedule}
    (h : (Operation.alloc size align schedule).KeepsSizingRule g) {extent : Extent g}
    (haccept : g.accept size align = .ok extent) :
    2 * extent.bytes.toNat ≤ g.poolSize.toNat := by
  rw [(g.accept_eq_ok haccept).bytes_eq]
  refine h ?_
  rw [haccept]
  rfl

/-- How the operation ended, if it was an allocation. -/
def Entry.outcome? : Entry → Option Outcome
  | alloc _ _ attempt => some attempt.outcome
  | inject _ => none

/-! ### Ahead of the cursor -/

section

variable {g : Geometry} {extent : Extent g} {cursor next : Cursor}

/-- Behind an extent that fits where the cursor was, the cursor is in the same pool, or
at the very start of the next one. -/
theorem Geometry.locate_of_fits
    (hnext : next.position.toNat = cursor.position.toNat + extent.bytes.toNat)
    (hfits : cursor.position.toNat % g.poolSize.toNat + extent.bytes.toNat ≤ g.poolSize.toNat) :
    (g.locate next.position).index = (g.locate cursor.position).index
      ∨ (g.locate next.position).index = (g.locate cursor.position).index + 1
        ∧ (g.locate next.position).offset.toNat = 0 := by
  have hposition := g.position_locate cursor.position
  unfold Geometry.position at hposition
  rw [← g.locate_offset] at hfits
  rcases Nat.lt_or_eq_of_le hfits with hinside | hboundary
  · have hplace : next.position.toNat = (g.locate cursor.position).index * g.poolSize.toNat
        + ((g.locate cursor.position).offset.toNat + extent.bytes.toNat) := by omega
    exact .inl (Geometry.locate_eq hplace hinside).1
  · have hplace : next.position.toNat
        = ((g.locate cursor.position).index + 1) * g.poolSize.toNat + 0 := by
      rw [Nat.succ_mul]
      omega
    exact .inr (Geometry.locate_eq hplace g.poolSize_pos)

/-- An extent of half a pool at the most that straddles began past the middle of a pool,
and leaves the cursor in the first half of the next one. -/
theorem Geometry.locate_of_half_straddles (hhalf : 2 * extent.bytes.toNat ≤ g.poolSize.toNat)
    (hnext : next.position.toNat = cursor.position.toNat + extent.bytes.toNat)
    (hstraddles : g.poolSize.toNat
      < cursor.position.toNat % g.poolSize.toNat + extent.bytes.toNat) :
    g.poolSize.toNat < 2 * (g.locate cursor.position).offset.toNat
      ∧ (g.locate next.position).index = (g.locate cursor.position).index + 1
      ∧ 2 * (g.locate next.position).offset.toNat ≤ g.poolSize.toNat := by
  have hlt := g.locate_offset_lt cursor.position
  obtain ⟨hindex, hoffset⟩ := Geometry.locate_of_straddles hnext hstraddles
  rw [← g.locate_offset] at hstraddles
  exact ⟨by omega, hindex, by omega⟩

end

/-- The pool that the cursor is in was asked for. Once the cursor is past the middle
of it, the next one was too. -/
structure SlotTable.Ahead (table : SlotTable) (g : Geometry) (cursor : Cursor) : Prop where
  current : (g.locate cursor.position).index < g.poolCount.toNat →
    table.slot (g.locate cursor.position).index ≠ .absent
  next : (g.locate cursor.position).index + 1 < g.poolCount.toNat →
    g.poolSize.toNat < 2 * (g.locate cursor.position).offset.toNat →
    table.slot ((g.locate cursor.position).index + 1) ≠ .absent

namespace SlotTable.Ahead

variable {table later : SlotTable} {g : Geometry} {extent : Extent g} {cursor : Cursor}

/-- A table stays ahead while no slot becomes absent. -/
theorem mono (h : table.Ahead g cursor)
    (hkeep : ∀ index, later.slot index = .absent → table.slot index = .absent) :
    later.Ahead g cursor := by
  constructor
  · intro hlt habsent
    exact h.current hlt (hkeep _ habsent)
  · intro hlt hpast habsent
    exact h.next hlt hpast (hkeep _ habsent)

/-- An extent that fits where the cursor is, and leaves the cursor in this pool or at
the start of the next one. -/
theorem of_fits {next : Cursor} (h : table.Ahead g cursor)
    (hnext : next.position.toNat = cursor.position.toNat + extent.bytes.toNat)
    (hfits : cursor.position.toNat % g.poolSize.toNat + extent.bytes.toNat ≤ g.poolSize.toNat)
    (hasked : (g.locate cursor.position).index + 1 < g.poolCount.toNat →
      table.slot ((g.locate cursor.position).index + 1) ≠ .absent) :
    table.Ahead g next := by
  rcases Geometry.locate_of_fits hnext hfits with hindex | ⟨hindex, hoffset⟩
  · constructor
    · rw [hindex]
      exact h.current
    · rw [hindex]
      intro hlt hpast
      exact hasked hlt
  · constructor
    · rw [hindex]
      exact hasked
    · rw [hoffset]
      intro hlt hpast
      omega

/-- An extent that straddles began past the middle of a pool, so the next one was asked
for. -/
theorem of_straddles {next : Cursor} (h : table.Ahead g cursor)
    (hhalf : 2 * extent.bytes.toNat ≤ g.poolSize.toNat)
    (hnext : next.position.toNat = cursor.position.toNat + extent.bytes.toNat)
    (hstraddles : g.poolSize.toNat
      < cursor.position.toNat % g.poolSize.toNat + extent.bytes.toNat) :
    table.Ahead g next := by
  obtain ⟨hmiddle, hindex, hoffset⟩ := Geometry.locate_of_half_straddles hhalf hnext hstraddles
  constructor
  · rw [hindex]
    intro hlt
    exact h.next hlt hmiddle
  · intro hlt hpast
    exact absurd hpast (Nat.not_lt.2 hoffset)

/-- The search for room ends in a pool that was asked for. If the one behind it was
asked for as well, the table stays ahead. -/
theorem reserve (h : table.Ahead g cursor) (hhalf : 2 * extent.bytes.toNat ≤ g.poolSize.toNat) :
    (∀ place, (g.reserve extent cursor).landing = .settled place →
        table.slot place.index ≠ .absent)
      ∧ ((∀ place, (g.reserve extent cursor).landing = .settled place →
            place.index + 1 < g.poolCount.toNat → table.slot (place.index + 1) ≠ .absent) →
          table.Ahead g (g.reserve extent cursor).cursor) := by
  revert h
  refine Geometry.reserve_induct (motive := fun cursor found => table.Ahead g cursor →
    (∀ place, found.landing = .settled place → table.slot place.index ≠ .absent)
      ∧ ((∀ place, found.landing = .settled place → place.index + 1 < g.poolCount.toNat →
            table.slot (place.index + 1) ≠ .absent) → table.Ahead g found.cursor)) ?_ ?_ ?_ cursor
  · intro cursor hpast h
    refine ⟨?_, fun _ => h⟩
    intro place hplace
    cases hplace
  · intro cursor next hlt hnext hfits h
    constructor
    · intro place hplace
      cases hplace
      exact h.current ((g.locate_index_lt_iff _).2 hlt)
    · intro hasked
      exact h.of_fits hnext hfits (hasked _ rfl)
  · intro cursor next found hlt hnext hstraddles ih h
    exact ih (h.of_straddles hhalf hnext hstraddles)

end SlotTable.Ahead

/-! ### One operation -/

/-- A request that is rejected never got to a pool. -/
theorem Geometry.accept_ne_poolAbsent {g : Geometry} {size align : Word} (index : Nat) :
    g.accept size align ≠ .error (.poolAbsent index) := by
  intro h
  rcases g.accept_eq_error h with hcause | hcause | hcause
  · cases hcause
  · cases hcause
  · cases hcause

/-- To ask for a pool makes no slot absent, and the one asked for is not absent
after, if there is such a pool. -/
theorem SlotTable.slot_request_absent {table : SlotTable} {index asked : Nat}
    (h : (table.request asked).2.slot index = .absent) :
    table.slot index = .absent ∧ (index = asked → table.slots.length ≤ index) := by
  rw [slot_request_absent_iff, request_eq_true_iff] at h
  refine ⟨h.1, ?_⟩
  rintro rfl
  by_contra hlt
  exact h.2 ⟨Nat.lt_of_not_le hlt, h.1⟩ rfl

namespace System

variable {β : Type} [Backing β]

/-- The table of the arena is ahead of its cursor. -/
def Ahead (sys : System β) : Prop :=
  sys.arena.table.Ahead sys.arena.geometry sys.arena.cursor

theorem Injection.ahead {sys later : System β} {result : Except Error Nat}
    (h : Injection sys result later) (hahead : sys.Ahead) : later.Ahead := by
  unfold Ahead
  rw [h.frame.geometry_eq, h.cursor_eq]
  exact hahead.mono fun index => (h.absent_iff index).1

/-- An allocation that keeps to the sizing rule, and does not give up waiting, finds
the pool that it falls in, and leaves the table ahead. -/
theorem Allocation.ahead {sys later : System β} {size align : Word} {attempt : Attempt}
    (h : Allocation sys size align attempt later) (hahead : sys.Ahead)
    (hrule : ∀ extent, sys.arena.geometry.accept size align = .ok extent →
      2 * extent.bytes.toNat ≤ sys.arena.geometry.poolSize.toNat)
    (hborne : attempt.outcome ≠ .abandoned) :
    later.Ahead ∧ ∀ index, attempt.outcome ≠ .failed (.poolAbsent index) := by
  cases h with
  | rejected haccept =>
      refine ⟨hahead, ?_⟩
      intro index houtcome
      cases houtcome
      exact Geometry.accept_ne_poolAbsent index haccept
  | exhausted haccept hreserve =>
      have hsearch := SlotTable.Ahead.reserve hahead (hrule _ haccept)
      rw [hreserve] at hsearch
      refine ⟨hsearch.2 ?_, ?_⟩
      · intro place hplace
        cases hplace
      · intro index houtcome
        cases houtcome
  | absent haccept hreserve habsent =>
      have hsearch := SlotTable.Ahead.reserve hahead (hrule _ haccept)
      rw [hreserve] at hsearch
      exact absurd habsent (hsearch.1 _ rfl)
  | abandoned relaxes times haccept hreserve hpending => exact absurd rfl hborne
  | @granted extent cursor straddles place buffer relaxes times haccept hreserve hready hwait =>
      generalize hwaited : ((sys.moveTo cursor).injectTimes times).2 = waited at hready
      have hgeometry : waited.arena.geometry = sys.arena.geometry := by
        rw [← hwaited, (sys.moved_frame cursor times).geometry_eq]
      have hcursor : waited.arena.cursor = cursor := by
        rw [← hwaited, moved_cursor]
      -- The last table is ahead of the old cursor already, so the search is made on it.
      have hlater : (waited.arena.table.request (place.index + 1)).2.Ahead sys.arena.geometry
          sys.arena.cursor := by
        refine SlotTable.Ahead.mono hahead ?_
        intro index hslot
        have hbefore := (SlotTable.slot_request_absent hslot).1
        rw [← hwaited, moved_absent_iff] at hbefore
        exact hbefore
      have hsearch := hlater.reserve (hrule _ haccept)
      rw [hreserve] at hsearch
      refine ⟨?_, ?_⟩
      · show (waited.arena.table.request (place.index + 1)).2.Ahead waited.arena.geometry
          waited.arena.cursor
        rw [hgeometry, hcursor]
        refine hsearch.2 ?_
        intro place' hplace hlt hslot
        cases hplace
        have hlength := (SlotTable.slot_request_absent hslot).2 rfl
        rw [waited.arena.length_slots, hgeometry] at hlength
        omega
      · intro index houtcome
        cases houtcome

/-- An operation that keeps to the sizing rule, and does not give up waiting, leaves
the table ahead, and does not end in a pool that nobody asked for. -/
theorem perform_ahead {sys : System β} (hahead : sys.Ahead) {operation : Operation}
    (hrule : operation.KeepsSizingRule sys.arena.geometry)
    (hborne : (sys.perform operation).1.outcome? ≠ some .abandoned) :
    (sys.perform operation).2.Ahead
      ∧ ∀ index, (sys.perform operation).1.outcome? ≠ some (.failed (.poolAbsent index)) := by
  cases operation with
  | alloc size align schedule =>
      have hallocation := (sys.alloc_spec size align schedule).ahead hahead
        (fun extent haccept => hrule.bytes_le haccept)
        (fun houtcome => hborne (congrArg some houtcome))
      refine ⟨hallocation.1, ?_⟩
      intro index houtcome
      exact hallocation.2 index (Option.some.inj houtcome)
  | inject =>
      refine ⟨sys.inject_spec.ahead hahead, ?_⟩
      intro index houtcome
      cases houtcome

end System

/-! ### Along a run -/

namespace Run

variable {β : Type} [Backing β] (run : Run β)

/-- The cursor begins at the start of the first pool. -/
theorem locate_opening :
    (run.opening.arena.geometry.locate run.opening.arena.cursor.position).index = 0
      ∧ (run.opening.arena.geometry.locate run.opening.arena.cursor.position).offset.toNat
        = 0 := by
  obtain ⟨buffer, hcreated⟩ := create_spec run.create_eq
  refine Geometry.locate_eq ?_ run.opening.arena.geometry.poolSize_pos
  rw [hcreated.cursor_eq, Nat.zero_mul]
  rfl

/-- The creation leaves the cursor in the pool that got its buffer. -/
theorem opening_ahead : run.opening.Ahead := by
  obtain ⟨buffer, hcreated⟩ := create_spec run.create_eq
  obtain ⟨hindex, hoffset⟩ := run.locate_opening
  constructor
  · rw [hindex, Ne, hcreated.atStage.slot_eq_absent_iff]
    intro hlt
    exact Nat.not_succ_le_zero 0
  · rw [hoffset]
    intro hlt hpast
    omega

/-- A run keeps to the sizing rule, and its allocations do not give up waiting. -/
structure KeepsSizingRule : Prop where
  rule : ∀ operation ∈ run.operations, operation.KeepsSizingRule run.geometry
  borne : ∀ entry ∈ run.transcript, entry.outcome? ≠ some .abandoned

/-- What holds of a run with one operation more holds of the run and of the
operation. -/
theorem KeepsSizingRule.of_step {run : Run β} {operation : Operation}
    (h : (run.andThen [operation]).KeepsSizingRule) :
    run.KeepsSizingRule ∧ operation.KeepsSizingRule run.final.arena.geometry
      ∧ (run.final.perform operation).1.outcome? ≠ some .abandoned := by
  have hborne := h.borne
  rw [transcript_step] at hborne
  refine ⟨⟨?_, ?_⟩, ?_, ?_⟩
  · intro earlier hmem
    exact h.rule earlier (List.mem_append_left _ hmem)
  · intro entry hmem
    exact hborne entry (List.mem_append_left _ hmem)
  · rw [geometry_final]
    exact h.rule operation (List.mem_append_right _ List.mem_cons_self)
  · exact hborne _ (List.mem_append_right _ List.mem_cons_self)

/-- The table of a run that keeps to the rule is ahead of the cursor. -/
theorem ahead (h : run.KeepsSizingRule) : run.final.Ahead := by
  induction run using Run.induct with
  | opening run hnone hopening =>
      rw [hopening]
      exact run.opening_ahead
  | andThen run operation ih =>
      obtain ⟨hbefore, hrule, hborne⟩ := h.of_step
      rw [final_step]
      exact (System.perform_ahead (ih hbefore) hrule hborne).1

/-- Where every accepted request keeps to the sizing rule and no allocation gives up
waiting, no allocation of a run falls in a pool that nobody asked for. -/
theorem never_poolAbsent (h : run.KeepsSizingRule) : ∀ entry ∈ run.transcript, ∀ index,
    entry.outcome? ≠ some (.failed (.poolAbsent index)) := by
  induction run using Run.induct with
  | opening run hnone hopening =>
      intro entry hentry
      rw [hnone] at hentry
      cases hentry
  | andThen run operation ih =>
      intro entry hentry
      obtain ⟨hbefore, hrule, hborne⟩ := h.of_step
      rw [transcript_step, List.mem_append, List.mem_singleton] at hentry
      rcases hentry with hold | rfl
      · exact ih hbefore entry hold
      · -- The table was ahead when the last operation began.
        exact (System.perform_ahead (run.ahead hbefore) hrule hborne).2

/-- Three requests, the last of which straddles and has to wait. -/
theorem never_poolAbsent_smooth :
    let run := smooth.andThen [.alloc 24 8 [], .alloc 20 1 [], .alloc 20 4 [1, 0]]
    run.KeepsSizingRule ∧ ∀ entry ∈ run.transcript, ∀ index,
      entry.outcome? ≠ some (.failed (.poolAbsent index)) := by
  intro run
  have hkeeps : run.KeepsSizingRule := by
    constructor
    · decide +kernel
    · decide +kernel
  exact ⟨hkeeps, run.never_poolAbsent hkeeps⟩

end Run

end PooledArena
