import PooledArena.Proofs.Waiting

/-!
# `PooledArena.Proofs.InjectFirst`: to wait for a buffer is to get it first

While a pool waits for its buffer, an allocation and the injection that brings it may
come in either order. If the injection is first, the allocation finds the buffer there.
If the allocation is first, it may have to wait, and the injection comes in one of its
turns; or it has nothing to wait for, and the injection comes after it.

`Run.injectMeanwhile_eq_injectFirst` says that nobody can tell the difference. Where the
block falls in the pool that waits, both orders meet as soon as the buffer is there.
Everywhere else the two operations have nothing to do with each other: the allocation
asks for no pool, because the one behind a ready pool was asked for already.
-/

set_option autoImplicit false

namespace PooledArena

/-- A schedule with one injection. It is made in the turn after the first `before`, and
`after` turns follow it. -/
def Schedule.once (before after : Nat) : Schedule :=
  List.replicate before 0 ++ 1 :: List.replicate after 0

/-- What an allocation and an injection come to together. -/
structure Exchange (β : Type) where
  outcome : Outcome
  injections : List (Except Error Nat)
  system : System β

namespace System

variable {β : Type} [Backing β]

/-- Allocate, and inject once: in a turn of the wait, or after the allocation if that
did not wait. -/
def injectMeanwhile (sys : System β) (size align : Word) (before after : Nat) : Exchange β :=
  let (attempt, sys) := sys.alloc size align (.once before after)
  if attempt.relaxes = 0 then
    let (result, sys) := sys.inject
    { outcome := attempt.outcome, injections := [result], system := sys }
  else
    { outcome := attempt.outcome, injections := attempt.injections, system := sys }

/-- Inject, and allocate after that. -/
def injectFirst (sys : System β) (size align : Word) (schedule : Schedule) : Exchange β :=
  let (result, sys) := sys.inject
  let (attempt, sys) := sys.alloc size align schedule
  { outcome := attempt.outcome, injections := result :: attempt.injections, system := sys }

/-! ### The wait -/

variable {sys : System β} {index : Nat}

/-- The injection ends the wait, but for a schedule that ends with it. -/
theorem await_once {buffer : Addr} (hpending : sys.arena.table.slot index = .pending)
    (hready : sys.inject.2.arena.table.slot index = .ready buffer) (before after : Nat) :
    sys.await index (.once before after) = {
      arrival := if after = 0 then .abandoned else .ready buffer
      relaxes := before + 1
      injections := [sys.inject.1]
      system := sys.inject.2
    } := by
  -- Nothing is injected in the turns before, so none of them brings the buffer.
  have hsum : (List.replicate before 0).sum = 0 := by simp
  have hquiet := sys.fruitless_quiet before
  have hturn : (sys.injectTimes ((List.replicate before 0).sum + 1)).2.arena.table.slot index
      = .ready buffer := by
    rw [hsum]
    exact hready
  rw [Schedule.once, await_of_ready hpending _ hquiet 1 (List.replicate after 0) hturn, hsum]
  simp [injectTimes]

/-! ### Both orders -/

variable {size align : Word}

/-- A block whose next pool was asked for before moves the cursor, and nothing else. -/
theorem alloc_of_present (sys : System β) (schedule : Schedule)
    {extent : Extent sys.arena.geometry} {cursor : Cursor} {straddles : Nat} {place : Place}
    {buffer : Addr} (haccept : sys.arena.geometry.accept size align = .ok extent)
    (hreserve : sys.arena.geometry.reserve extent sys.arena.cursor
      = { landing := .settled place, cursor, straddles })
    (hslot : sys.arena.table.slot place.index = .ready buffer)
    (hpresent : sys.arena.table.slot (place.index + 1) ≠ .absent) :
    sys.alloc size align schedule
      = ({
          outcome := .granted
            ⟨place.index, buffer, Word.alignUp place.offset align, size, false⟩
          straddles
          relaxes := 0
          injections := []
        }, sys.moveTo cursor) := by
  have hrequest : (sys.arena.moveTo cursor).request (place.index + 1)
      = (false, sys.arena.moveTo cursor) := by
    have htable : (sys.arena.moveTo cursor).table = sys.arena.table := rfl
    simp only [Arena.request, htable, SlotTable.request_of_present hpresent]
    rfl
  rw [sys.alloc_of_ready schedule haccept hreserve hslot, Arena.grant, hrequest]
  rfl

/-- An allocation that does not wait, before the injection and after it. It never gives
up. -/
theorem exchange_of_atOnce {attempt : Attempt} {result : Except Error Nat}
    {filled later both : System β} (hattempt : attempt.AtOnce)
    (halloc : ∀ schedule, sys.alloc size align schedule = (attempt, later))
    (hbehind : later.inject = (result, both))
    (hinject : sys.inject = (result, filled))
    (hearly : ∀ schedule, filled.alloc size align schedule = (attempt, both))
    (before after : Nat) (schedule : Schedule) :
    (0 < after → (sys.alloc size align (.once before after)).1.outcome ≠ .abandoned)
      ∧ ((sys.alloc size align (.once before after)).1.outcome ≠ .abandoned →
          sys.injectMeanwhile size align before after
            = sys.injectFirst size align schedule) := by
  constructor
  · intro _
    rw [halloc]
    exact hattempt.borne
  · intro _
    unfold injectMeanwhile injectFirst
    simp only [halloc, hattempt.relaxes_eq, if_true, hbehind, hinject, hearly,
      hattempt.injections_eq]

/-- An allocation that waits for the injection, and one that comes after it. -/
theorem exchange_of_wait {filled : System β} {result : Except Error Nat}
    {extent : Extent sys.arena.geometry} {cursor : Cursor} {straddles : Nat} {place : Place}
    {buffer : Addr} {schedule : Schedule}
    (haccept : sys.arena.geometry.accept size align = .ok extent)
    (hreserve : sys.arena.geometry.reserve extent sys.arena.cursor
      = { landing := .settled place, cursor, straddles })
    (hslot : sys.arena.table.slot place.index = .pending)
    (hinject : sys.inject = (result, filled))
    (hready : filled.arena.table.slot place.index = .ready buffer)
    (hearly : filled.alloc size align schedule
      = ({
          outcome := .granted ((filled.arena.moveTo cursor).grant size align place buffer).1
          straddles
          relaxes := 0
          injections := []
        }, { filled with arena := ((filled.arena.moveTo cursor).grant size align place buffer).2 }))
    (before after : Nat) :
    (0 < after → (sys.alloc size align (.once before after)).1.outcome ≠ .abandoned)
      ∧ ((sys.alloc size align (.once before after)).1.outcome ≠ .abandoned →
          sys.injectMeanwhile size align before after
            = sys.injectFirst size align schedule) := by
  have hmoved : (sys.moveTo cursor).inject = (result, filled.moveTo cursor) := by
    rw [inject_moveTo, hinject]
  have hpending : (sys.moveTo cursor).arena.table.slot place.index = .pending := hslot
  have hready' : (sys.moveTo cursor).inject.2.arena.table.slot place.index = .ready buffer := by
    rw [hmoved]
    exact hready
  have hlate := sys.alloc_of_settled (.once before after) haccept hreserve
  rw [allocAt, await_once hpending hready', hmoved] at hlate
  cases after with
  | zero =>
      -- The schedule ends with the injection.
      refine ⟨fun h => absurd h (Nat.lt_irrefl 0), ?_⟩
      rw [hlate]
      intro hborne
      exact absurd rfl hborne
  | succ after =>
      rw [if_neg (Nat.succ_ne_zero after)] at hlate
      constructor
      · intro _
        rw [hlate]
        exact Outcome.noConfusion
      · intro _
        unfold injectMeanwhile injectFirst
        rw [hlate, hinject]
        dsimp only
        rw [hearly]
        rfl

/-- Where a pool waits for a buffer, and the backing grants it, both orders come to the
same, unless the allocation gives up waiting. It has no reason to if a turn is left
after the injection. -/
theorem injectMeanwhile_spec {stage : Stage} (hstage : sys.arena.table.AtStage stage)
    (hwaiting : stage.waiting = true) (hserved : sys.Served) (size align : Word)
    (before after : Nat) (schedule : Schedule) :
    (0 < after → (sys.alloc size align (.once before after)).1.outcome ≠ .abandoned)
      ∧ ((sys.alloc size align (.once before after)).1.outcome ≠ .abandoned →
          sys.injectMeanwhile size align before after
            = sys.injectFirst size align schedule) := by
  obtain ⟨buffer, hbuffer⟩ := Option.isSome_iff_exists.1 hserved
  generalize hallocate : sys.host.allocate sys.arena.geometry.bufferLayout = answer at hbuffer
  obtain ⟨granted, host⟩ := answer
  obtain rfl : granted = some buffer := hbuffer
  obtain ⟨_, hnext⟩ := hstage.offer buffer
  have hinstall : (sys.arena.install buffer).1 = some stage.held.length :=
    hstage.offer_of_pending ((hstage.slot_eq_pending_iff _).2 ⟨hwaiting, rfl⟩) buffer
  let filled : System β := ⟨(sys.arena.install buffer).2,
    host.note sys.arena.label (.injected stage.held.length buffer)⟩
  have hinjection : Injection sys (.ok stage.held.length) filled := .installed hallocate hinstall
  have hinject := hinjection.inject_eq
  have hmoved : ∀ cursor, (sys.moveTo cursor).inject
      = (.ok stage.held.length, filled.moveTo cursor) := by
    intro cursor
    rw [inject_moveTo, hinject]
  cases haccept : sys.arena.geometry.accept size align with
  | error error =>
      exact exchange_of_atOnce (Attempt.atOnce_failure error 0)
        (fun schedule => sys.alloc_of_rejected schedule haccept) hinject hinject
        (fun schedule => filled.alloc_of_rejected schedule haccept) before after schedule
  | ok extent =>
      generalize hreserve : sys.arena.geometry.reserve extent sys.arena.cursor = reservation
      obtain ⟨landing, cursor, straddles⟩ := reservation
      cases landing with
      | exhausted =>
          exact exchange_of_atOnce (Attempt.atOnce_failure _ straddles)
            (fun schedule => sys.alloc_of_exhausted schedule haccept hreserve) (hmoved cursor)
            hinject (fun schedule => filled.alloc_of_exhausted schedule haccept hreserve)
            before after schedule
      | settled place =>
          cases hslot : sys.arena.table.slot place.index with
          | absent =>
              have hslot' := (hinjection.absent_iff place.index).2 hslot
              exact exchange_of_atOnce (Attempt.atOnce_failure _ straddles)
                (fun schedule => sys.alloc_of_absent schedule haccept hreserve hslot)
                (hmoved cursor) hinject
                (fun schedule => filled.alloc_of_absent schedule haccept hreserve hslot')
                before after schedule
          | ready held =>
              have hready := hstage.slot_advances hnext (stage.advances_offer buffer) place.index
              rw [hslot] at hready
              -- The next pool is ready or waits, so nothing is left to ask for.
              have hpresent : sys.arena.table.slot (place.index + 1) ≠ .absent := by
                have hlt := hstage.lt_of_ready hslot
                rw [Ne, hstage.slot_eq_absent_iff, Stage.reached, hwaiting, Bool.toNat_true]
                omega
              have hpresent' := mt (hinjection.absent_iff (place.index + 1)).1 hpresent
              exact exchange_of_atOnce ⟨rfl, rfl, Outcome.noConfusion⟩
                (fun schedule => sys.alloc_of_present schedule haccept hreserve hslot hpresent)
                (hmoved cursor) hinject
                (fun schedule => filled.alloc_of_present schedule haccept hreserve hready hpresent')
                before after schedule
          | pending =>
              have hready : filled.arena.table.slot place.index = .ready buffer :=
                hstage.slot_offer_of_pending hslot buffer
              exact exchange_of_wait haccept hreserve hslot hinject hready
                (filled.alloc_of_ready schedule haccept hreserve hready) before after

end System

namespace Run

variable {β : Type} [Backing β] (run : Run β)

/-- Where a pool waits for its buffer and the backing grants it, an allocation and the
injection may come in either order. One injection in any turn of the wait, or right
after an allocation that does not wait, comes to the same as the injection first and the
allocation after it, by whatever schedule: the same block or error, the same answer to
the injection, and the same arena and host. It is only asked that the allocation does
not give up waiting, and it does not where a turn is left after the injection. -/
theorem injectMeanwhile_eq_injectFirst (hpending : run.final.arena.needsInjection = true)
    (hserved : run.final.Served) (size align : Word) (before after : Nat) (schedule : Schedule) :
    (0 < after → (run.final.alloc size align (.once before after)).1.outcome ≠ .abandoned)
      ∧ ((run.final.alloc size align (.once before after)).1.outcome ≠ .abandoned →
          run.final.injectMeanwhile size align before after
            = run.final.injectFirst size align schedule) := by
  obtain ⟨stage, hstage, _⟩ := run.exists_stage
  have hwaiting : stage.waiting = true := hstage.hasPending_eq.symm.trans hpending
  exact System.injectMeanwhile_spec hstage hwaiting hserved size align before after schedule

/-- The first block asks for pool one, and the second one has to wait for it. -/
theorem injectMeanwhile_eq_injectFirst_smooth :
    let run := smooth.andThen [.alloc 50 8 []]
    run.final.arena.needsInjection = true ∧ run.final.Served
      ∧ run.final.injectMeanwhile 20 4 2 1 = run.final.injectFirst 20 4 [] := by
  intro run
  have hpending : run.final.arena.needsInjection = true := by decide +kernel
  have hserved : run.final.Served := by decide +kernel
  have hboth := run.injectMeanwhile_eq_injectFirst hpending hserved 20 4 2 1 []
  exact ⟨hpending, hserved, hboth.2 (hboth.1 Nat.one_pos)⟩

end Run

end PooledArena
