import PooledArena.Arena.Alloc
import PooledArena.Proofs.Injection
import PooledArena.Proofs.Reservation

/-!
# `PooledArena.Proofs.Allocation`: what an allocation can do

`Allocation` lists the ways in which an allocation comes out, each with the system
after it, and `alloc_spec` says that there are no others. All but a rejected one
move the cursor first; one that waits lets injections happen after that; and one
that hands out a block asks for the next pool at the very end.
-/

set_option autoImplicit false

namespace PooledArena

theorem Attempt.block?_of_granted {attempt : Attempt} {block : Block}
    (h : attempt.outcome = .granted block) : attempt.block? = some block := by
  unfold block?
  rw [h]

/-- The allocation did not wait. No turn passed, and it did not end at a pending pool. -/
structure Attempt.AtOnce (attempt : Attempt) : Prop where
  relaxes_eq : attempt.relaxes = 0
  injections_eq : attempt.injections = []
  borne : attempt.outcome ≠ .abandoned

theorem Attempt.atOnce_failure (error : Error) (straddles : Nat) :
    (Attempt.failure error straddles).AtOnce :=
  ⟨rfl, rfl, Outcome.noConfusion⟩

/-! ### Where a block falls -/

/-- The place where a block would lie, and the cursor behind it. Nothing, if the request is
rejected or no pool is left for it. -/
def Arena.landing? (arena : Arena) (size align : Word) : Option (Place × Cursor) :=
  match arena.geometry.accept size align with
  | .error _ => none
  | .ok extent =>
    let found := arena.geometry.reserve extent arena.cursor
    match found.landing with
    | .settled place => some (place, found.cursor)
    | .exhausted => none

theorem Arena.landing?_eq_some_iff {arena : Arena} {size align : Word} {place : Place}
    {cursor : Cursor} :
    arena.landing? size align = some (place, cursor)
      ↔ ∃ extent straddles, arena.geometry.accept size align = .ok extent
        ∧ arena.geometry.reserve extent arena.cursor
          = { landing := .settled place, cursor, straddles } := by
  unfold landing?
  cases haccept : arena.geometry.accept size align with
  | error error => simp
  | ok extent =>
      generalize hreserve : arena.geometry.reserve extent arena.cursor = found
      obtain ⟨landing, next, straddles⟩ := found
      cases landing with
      | settled found => simp [hreserve]
      | exhausted => simp [hreserve]

namespace System

variable {β : Type} [Backing β]

/-- The system after its cursor has moved. -/
def moveTo (sys : System β) (cursor : Cursor) : System β :=
  { sys with arena := sys.arena.moveTo cursor }

/-- The ways in which an allocation comes out, with the system after. -/
inductive Allocation (sys : System β) (size align : Word) : Attempt → System β → Prop
  /-- The request cannot be met by any pool. -/
  | rejected {error : Error}
      (haccept : sys.arena.geometry.accept size align = .error error) :
      Allocation sys size align (Attempt.failure error 0) sys
  /-- No pool is left. -/
  | exhausted {extent : Extent sys.arena.geometry} {cursor : Cursor} {straddles : Nat}
      (haccept : sys.arena.geometry.accept size align = .ok extent)
      (hreserve : sys.arena.geometry.reserve extent sys.arena.cursor
        = { landing := .exhausted, cursor, straddles }) :
      Allocation sys size align (Attempt.failure .capacityExhausted straddles) (sys.moveTo cursor)
  /-- The block would lie in a pool that nobody asked for. -/
  | absent {extent : Extent sys.arena.geometry} {cursor : Cursor} {straddles : Nat}
      {place : Place}
      (haccept : sys.arena.geometry.accept size align = .ok extent)
      (hreserve : sys.arena.geometry.reserve extent sys.arena.cursor
        = { landing := .settled place, cursor, straddles })
      (habsent : sys.arena.table.slot place.index = .absent) :
      Allocation sys size align (Attempt.failure (.poolAbsent place.index) straddles)
        (sys.moveTo cursor)
  /-- The schedule ends before the buffer comes. -/
  | abandoned {extent : Extent sys.arena.geometry} {cursor : Cursor} {straddles : Nat}
      {place : Place} (relaxes times : Nat)
      (haccept : sys.arena.geometry.accept size align = .ok extent)
      (hreserve : sys.arena.geometry.reserve extent sys.arena.cursor
        = { landing := .settled place, cursor, straddles })
      (hpending : sys.arena.table.slot place.index = .pending) :
      Allocation sys size align {
        outcome := .abandoned
        straddles
        relaxes
        injections := ((sys.moveTo cursor).injectTimes times).1
      } ((sys.moveTo cursor).injectTimes times).2
  /-- The block is handed out. Where the buffer is here already, nobody waits. -/
  | granted {extent : Extent sys.arena.geometry} {cursor : Cursor} {straddles : Nat}
      {place : Place} {buffer : Addr} (relaxes times : Nat)
      (haccept : sys.arena.geometry.accept size align = .ok extent)
      (hreserve : sys.arena.geometry.reserve extent sys.arena.cursor
        = { landing := .settled place, cursor, straddles })
      (hready : ((sys.moveTo cursor).injectTimes times).2.arena.table.slot place.index
        = .ready buffer)
      (hwait : sys.arena.table.slot place.index = .pending ∨ relaxes = 0 ∧ times = 0) :
      Allocation sys size align {
        outcome := .granted
          (((sys.moveTo cursor).injectTimes times).2.arena.grant size align place buffer).1
        straddles
        relaxes
        injections := ((sys.moveTo cursor).injectTimes times).1
      } {
        ((sys.moveTo cursor).injectTimes times).2 with
        arena := (((sys.moveTo cursor).injectTimes times).2.arena.grant size align place buffer).2
      }

/-! ### After the move and the injections -/

theorem moved_frame (sys : System β) (cursor : Cursor) (times : Nat) :
    SameFrame sys ((sys.moveTo cursor).injectTimes times).2 := by
  have hmove : SameFrame sys (sys.moveTo cursor) := ⟨rfl, rfl, rfl⟩
  exact hmove.trans ((sys.moveTo cursor).injectTimes_frame times)

theorem moved_cursor (sys : System β) (cursor : Cursor) (times : Nat) :
    ((sys.moveTo cursor).injectTimes times).2.arena.cursor = cursor :=
  (sys.moveTo cursor).injectTimes_cursor times

theorem moved_absent_iff (sys : System β) (cursor : Cursor) (times index : Nat) :
    ((sys.moveTo cursor).injectTimes times).2.arena.table.slot index = .absent
      ↔ sys.arena.table.slot index = .absent :=
  (sys.moveTo cursor).injectTimes_absent_iff times index

/-- An allocation leaves the cursor alone, or moves it by a reservation. -/
theorem Allocation.cursor_eq {sys later : System β} {size align : Word} {attempt : Attempt}
    (h : Allocation sys size align attempt later) :
    later.arena.cursor = sys.arena.cursor ∨ ∃ extent : Extent sys.arena.geometry,
      sys.arena.geometry.accept size align = .ok extent
        ∧ later.arena.cursor = (sys.arena.geometry.reserve extent sys.arena.cursor).cursor := by
  cases h with
  | rejected haccept => exact .inl rfl
  | exhausted haccept hreserve =>
      refine .inr ⟨_, haccept, ?_⟩
      rw [hreserve]
      rfl
  | absent haccept hreserve habsent =>
      refine .inr ⟨_, haccept, ?_⟩
      rw [hreserve]
      rfl
  | abandoned relaxes times haccept hreserve hpending =>
      refine .inr ⟨_, haccept, ?_⟩
      rw [hreserve]
      exact sys.moved_cursor _ times
  | granted relaxes times haccept hreserve hready hwait =>
      refine .inr ⟨_, haccept, ?_⟩
      rw [hreserve]
      exact sys.moved_cursor _ times

/-- Only an allocation that falls in a pending pool waits. -/
theorem Allocation.atOnce_of_landing {sys later : System β} {size align : Word} {attempt : Attempt}
    (h : Allocation sys size align attempt later)
    (hslot : ∀ place cursor, sys.arena.landing? size align = some (place, cursor) →
      sys.arena.table.slot place.index ≠ .pending) : attempt.AtOnce := by
  cases h with
  | rejected haccept => exact Attempt.atOnce_failure _ _
  | exhausted haccept hreserve => exact Attempt.atOnce_failure _ _
  | absent haccept hreserve habsent => exact Attempt.atOnce_failure _ _
  | abandoned relaxes times haccept hreserve hpending =>
      have hlanding := Arena.landing?_eq_some_iff.2 ⟨_, _, haccept, hreserve⟩
      exact absurd hpending (hslot _ _ hlanding)
  | granted relaxes times haccept hreserve hready hwait =>
      have hlanding := Arena.landing?_eq_some_iff.2 ⟨_, _, haccept, hreserve⟩
      obtain ⟨rfl, rfl⟩ := hwait.resolve_left (hslot _ _ hlanding)
      exact ⟨rfl, rfl, Outcome.noConfusion⟩

/-- Where no pool waits, no allocation does. -/
theorem Allocation.atOnce {sys later : System β} {size align : Word} {attempt : Attempt}
    (h : Allocation sys size align attempt later)
    (hslot : ∀ index, sys.arena.table.slot index ≠ .pending) : attempt.AtOnce :=
  h.atOnce_of_landing fun place _ _ => hslot place.index

/-! ### The case decides

What the checks, the search and the slot come to decides how an allocation comes out. -/

theorem inject_moveTo (sys : System β) (cursor : Cursor) :
    (sys.moveTo cursor).inject = (sys.inject.1, sys.inject.2.moveTo cursor) := by
  have hspec := sys.inject_spec
  generalize sys.inject.1 = result at hspec ⊢
  generalize sys.inject.2 = later at hspec ⊢
  apply Injection.inject_eq
  cases hspec with
  | refused hallocate => exact .refused hallocate
  | installed hallocate hinstall => exact .installed hallocate hinstall
  | returned hallocate hinstall => exact .returned hallocate hinstall

section

variable (sys : System β) {size align : Word} (schedule : Schedule)

theorem alloc_of_rejected {error : Error}
    (haccept : sys.arena.geometry.accept size align = .error error) :
    sys.alloc size align schedule = (Attempt.failure error 0, sys) := by
  simp [alloc, haccept]

variable {extent : Extent sys.arena.geometry} {cursor : Cursor} {straddles : Nat}
  (haccept : sys.arena.geometry.accept size align = .ok extent)

include haccept

theorem alloc_of_exhausted
    (hreserve : sys.arena.geometry.reserve extent sys.arena.cursor
      = { landing := .exhausted, cursor, straddles }) :
    sys.alloc size align schedule
      = (Attempt.failure .capacityExhausted straddles, sys.moveTo cursor) := by
  simp [alloc, haccept, hreserve, moveTo]

variable {place : Place}
  (hreserve : sys.arena.geometry.reserve extent sys.arena.cursor
    = { landing := .settled place, cursor, straddles })

include hreserve

theorem alloc_of_settled :
    sys.alloc size align schedule
      = (sys.moveTo cursor).allocAt size align place straddles schedule := by
  simp [alloc, haccept, hreserve, moveTo]

theorem alloc_of_absent (hslot : sys.arena.table.slot place.index = .absent) :
    sys.alloc size align schedule
      = (Attempt.failure (.poolAbsent place.index) straddles, sys.moveTo cursor) := by
  have harrival : ((sys.moveTo cursor).arena.table.slot place.index).arrival? = some .absent :=
    congrArg Slot.arrival? hslot
  rw [sys.alloc_of_settled schedule haccept hreserve, allocAt, await_of_arrival harrival]
  rfl

theorem alloc_of_ready {buffer : Addr} (hslot : sys.arena.table.slot place.index = .ready buffer) :
    sys.alloc size align schedule
      = ({
          outcome := .granted ((sys.arena.moveTo cursor).grant size align place buffer).1
          straddles
          relaxes := 0
          injections := []
        }, { sys with arena := ((sys.arena.moveTo cursor).grant size align place buffer).2 }) := by
  have harrival : ((sys.moveTo cursor).arena.table.slot place.index).arrival?
      = some (.ready buffer) := congrArg Slot.arrival? hslot
  rw [sys.alloc_of_settled schedule haccept hreserve, allocAt, await_of_arrival harrival]
  rfl

end

/-! ### The cases are all -/

theorem alloc_spec (sys : System β) (size align : Word) (schedule : Schedule) :
    Allocation sys size align (sys.alloc size align schedule).1
      (sys.alloc size align schedule).2 := by
  cases haccept : sys.arena.geometry.accept size align with
  | error error =>
      rw [sys.alloc_of_rejected schedule haccept]
      exact .rejected haccept
  | ok extent =>
      generalize hreserve : sys.arena.geometry.reserve extent sys.arena.cursor = reservation
      obtain ⟨landing, cursor, straddles⟩ := reservation
      cases landing with
      | exhausted =>
          rw [sys.alloc_of_exhausted schedule haccept hreserve]
          exact .exhausted haccept hreserve
      | settled place =>
          cases hslot : sys.arena.table.slot place.index with
          | absent =>
              rw [sys.alloc_of_absent schedule haccept hreserve hslot]
              exact .absent haccept hreserve hslot
          | ready buffer =>
              rw [sys.alloc_of_ready schedule haccept hreserve hslot]
              exact .granted 0 0 haccept hreserve hslot (.inr ⟨rfl, rfl⟩)
          | pending =>
              rw [sys.alloc_of_settled schedule haccept hreserve]
              unfold allocAt
              -- Moving the cursor leaves the slots alone, so the wait begins at a pending one.
              have htable : (sys.moveTo cursor).arena.table = sys.arena.table := rfl
              have hwait := (sys.moveTo cursor).await_spec place.index schedule
              generalize (sys.moveTo cursor).await place.index schedule = wait at hwait ⊢
              cases hwait with
              | atOnce harrival =>
                  rw [htable, hslot] at harrival
                  cases harrival
              | ready relaxes times hpending hready =>
                  exact .granted relaxes times haccept hreserve hready (.inl hpending)
              | abandoned relaxes times hpending =>
                  exact .abandoned relaxes times haccept hreserve hpending

end System

end PooledArena
