import PooledArena.Proofs.TableOrder

/-!
# `PooledArena.Proofs.Delivery`: where an injected buffer goes

An injection gets a buffer first, and looks for the pool that waits for it after that. In a
table that fills up in index order no more than one pool waits. So two things decide what the
injection comes to: whether the backing has a buffer, and whether a pool waits.

* `Injection.takes`: if both are so, the pool takes this very buffer, and nothing else
  changes (`System.Takes`).
* `Injection.unmoved`: an injection that fails leaves the arena as it was, and what is on
  loan as well (`System.Unmoved`).
* `injectTimes_unmoved`: so do any number of them in a row. A pool that waits is still
  there for the injection after them.
* `injectTimes_of_pending`: where a pool waits, the first injection that the backing serves
  fills it, and those after it fill no other.

`Run.inject_delivers` says it for every point of a run.
-/

set_option autoImplicit false

namespace PooledArena

/-! ### The slots under an injection -/

namespace SlotTable

/-- The walk of an injection changes no slot but one that waits. -/
theorem installFirst_of_ne_pending (buffer : Addr) (slots : List Slot) (index : Nat)
    (h : slots[index]?.getD .absent ≠ .pending) :
    (installFirst buffer slots).2[index]?.getD .absent = slots[index]?.getD .absent := by
  induction slots generalizing index with
  | nil => rfl
  | cons slot slots ih =>
      cases slot with
      | absent => rfl
      | pending =>
          cases index with
          | zero => exact absurd rfl h
          | succ index => rfl
      | ready held =>
          cases index with
          | zero => rfl
          -- The walk passes over the ready slot, so what is left is about the rest.
          | succ index => exact ih index h

theorem slot_offer_of_ne_pending {table : SlotTable} {index : Nat}
    (h : table.slot index ≠ .pending) (buffer : Addr) :
    (table.offer buffer).2.slot index = table.slot index :=
  installFirst_of_ne_pending buffer table.slots index h

end SlotTable

namespace System

variable {β : Type}

/-! ### What an injection comes to -/

/-- The arena is as it was, and so is what is on loan. -/
structure Unmoved (sys later : System β) : Prop where
  arena_eq : later.arena = sys.arena
  outstanding_eq : later.host.outstanding = sys.host.outstanding

theorem Unmoved.refl (sys : System β) : sys.Unmoved sys :=
  ⟨rfl, rfl⟩

theorem Unmoved.trans {first second third : System β} (h : first.Unmoved second)
    (h' : second.Unmoved third) : first.Unmoved third :=
  ⟨h'.arena_eq.trans h.arena_eq, h'.outstanding_eq.trans h.outstanding_eq⟩

/-- Pool `index` takes the buffer. No other pool waits for one, nothing else of the arena
changes, and the backing sees no other call than the one for the buffer. -/
structure Takes (sys : System β) (index : Nat) (buffer : Addr) (later : System β) : Prop where
  pending_iff : ∀ other, sys.arena.table.slot other = .pending ↔ other = index
  slot_eq : later.arena.table.slot index = .ready buffer
  slot_of_ne : ∀ other, other ≠ index →
    later.arena.table.slot other = sys.arena.table.slot other
  cursor_eq : later.arena.cursor = sys.arena.cursor
  frame : SameFrame sys later
  calls_eq : later.host.calls
    = .granted ⟨buffer, sys.arena.geometry.bufferLayout⟩ :: sys.host.calls

/-- The one pool that waited waits no more. -/
theorem Takes.slot_ne_pending {sys later : System β} {index : Nat} {buffer : Addr}
    (h : sys.Takes index buffer later) (other : Nat) :
    later.arena.table.slot other ≠ .pending := by
  by_cases hother : other = index
  · rw [hother, h.slot_eq]
    exact Slot.noConfusion
  · rw [h.slot_of_ne other hother]
    exact mt (h.pending_iff other).1 hother

variable [Backing β] {sys later : System β} {stage : Stage} {result : Except Error Nat}

/-- The buffer that the backing would lend now, if it has one. -/
def nextBuffer? (sys : System β) : Option Addr :=
  (sys.host.allocate sys.arena.geometry.bufferLayout).1

theorem Injection.of_nextBuffer?_eq_none (h : Injection sys result later)
    (hnone : sys.nextBuffer? = none) :
    result = .error .allocatorError
      ∧ later.host.calls = .refused sys.arena.geometry.bufferLayout :: sys.host.calls := by
  unfold nextBuffer? at hnone
  cases h with
  | refused hallocate => exact ⟨rfl, (Host.allocate_none hallocate).1⟩
  | installed hallocate hinstall => simp [hallocate] at hnone
  | returned hallocate hinstall => simp [hallocate] at hnone

/-- Where a pool waits, it takes the buffer that the backing lends. -/
theorem Injection.takes (h : Injection sys result later) (hstage : sys.arena.table.AtStage stage)
    (hwaiting : sys.arena.needsInjection = true) {buffer : Addr}
    (hbuffer : sys.nextBuffer? = some buffer) :
    ∃ index, result = .ok index ∧ sys.Takes index buffer later := by
  unfold nextBuffer? at hbuffer
  have hstill : stage.waiting = true := hstage.hasPending_eq.symm.trans hwaiting
  have hpending : ∀ other, sys.arena.table.slot other = .pending ↔ other = stage.held.length := by
    intro other
    simp [hstage.slot_eq_pending_iff, hstill]
  have htaken := hstage.offer_of_pending ((hpending _).2 rfl)
  cases h with
  | refused hallocate => simp [hallocate] at hbuffer
  | @installed host lent index hallocate hinstall =>
      obtain rfl : lent = buffer := by simpa [hallocate] using hbuffer
      obtain rfl : index = stage.held.length := Option.some.inj (hinstall.symm.trans (htaken lent))
      refine ⟨_, rfl, hpending, hstage.slot_offer_of_pending ((hpending _).2 rfl) lent, ?_, rfl,
        ⟨rfl, rfl, rfl⟩, (Host.allocate_some hallocate).1⟩
      intro other hother
      exact SlotTable.slot_offer_of_ne_pending (mt (hpending other).1 hother) lent
  | @returned host lent hallocate hinstall => cases hinstall.symm.trans (htaken lent)

/-- Where no pool waits, the buffer goes back at once. -/
theorem Injection.returns (h : Injection sys result later) (hstage : sys.arena.table.AtStage stage)
    (hquiet : sys.arena.needsInjection = false) {buffer : Addr}
    (hbuffer : sys.nextBuffer? = some buffer) :
    result = .error .doubleInjection
      ∧ later.host.calls = .freed ⟨buffer, sys.arena.geometry.bufferLayout⟩
        :: .granted ⟨buffer, sys.arena.geometry.bufferLayout⟩ :: sys.host.calls := by
  unfold nextBuffer? at hbuffer
  have hnone : stage.waiting = false := hstage.hasPending_eq.symm.trans hquiet
  cases h with
  | refused hallocate => simp [hallocate] at hbuffer
  | @installed host lent index hallocate hinstall =>
      -- The walk of a stage without a waiting slot ends without a taker.
      have hstep : (sys.arena.install lent).1 = (stage.offer lent).1 := (hstage.offer lent).1
      rw [hinstall] at hstep
      simp [Stage.offer, hnone] at hstep
  | @returned host lent hallocate hinstall =>
      obtain rfl : lent = buffer := by simpa [hallocate] using hbuffer
      exact ⟨rfl, congrArg (_ :: ·) (Host.allocate_some hallocate).1⟩

theorem Injection.unmoved (h : Injection sys result later) (hfailed : result.isOk = false) :
    sys.Unmoved later := by
  cases h with
  | @refused host hallocate =>
      refine ⟨rfl, ?_⟩
      show Call.outstanding host.calls = _
      rw [(Host.allocate_none hallocate).1]
      rfl
  | installed hallocate hinstall => cases hfailed
  | @returned host buffer hallocate hinstall =>
      refine ⟨rfl, ?_⟩
      -- The loan that goes back is the newest one, so the others keep their order.
      show (Call.outstanding host.calls).erase _ = _
      rw [(Host.allocate_some hallocate).1]
      exact List.erase_cons_head _ _

/-- What an injection comes to, whatever the backing has to give. -/
structure Delivers (sys : System β) : Prop where
  /-- The backing has no buffer. -/
  refused : sys.nextBuffer? = none → sys.inject.1 = .error .allocatorError
  /-- A pool waits, and takes the buffer. -/
  taken : ∀ buffer, sys.nextBuffer? = some buffer → sys.arena.needsInjection = true →
    ∃ index, sys.inject.1 = .ok index ∧ sys.Takes index buffer sys.inject.2
  /-- No pool waits, and the buffer goes back. -/
  returned : ∀ buffer, sys.nextBuffer? = some buffer → sys.arena.needsInjection = false →
    sys.inject.1 = .error .doubleInjection
      ∧ sys.inject.2.host.calls = .freed ⟨buffer, sys.arena.geometry.bufferLayout⟩
        :: .granted ⟨buffer, sys.arena.geometry.bufferLayout⟩ :: sys.host.calls
  /-- Either way of failing leaves no trace. -/
  failed : sys.inject.1.isOk = false → sys.Unmoved sys.inject.2

theorem delivers (hstage : sys.arena.table.AtStage stage) : sys.Delivers := by
  have hspec := sys.inject_spec
  constructor
  · intro hnone
    exact (hspec.of_nextBuffer?_eq_none hnone).1
  · intro buffer hbuffer hwaiting
    exact hspec.takes hstage hwaiting hbuffer
  · intro buffer hbuffer hquiet
    exact hspec.returns hstage hquiet hbuffer
  · exact hspec.unmoved

/-! ### Several injections -/

/-- None of so many injections fills a pool. -/
def Fruitless (sys : System β) (times : Nat) : Prop :=
  ∀ result ∈ (sys.injectTimes times).1, result.isOk = false

instance (sys : System β) (times : Nat) : Decidable (sys.Fruitless times) :=
  inferInstanceAs (Decidable (∀ result ∈ _, _ = _))

theorem fruitless_zero (sys : System β) : sys.Fruitless 0 := by
  intro result hresult
  cases hresult

theorem fruitless_succ (sys : System β) (times : Nat) :
    sys.Fruitless (times + 1)
      ↔ sys.inject.1.isOk = false ∧ sys.inject.2.Fruitless times := by
  unfold Fruitless
  rw [injectTimes_succ, List.forall_mem_cons]

theorem fruitless_add (sys : System β) (first second : Nat) :
    sys.Fruitless (first + second)
      ↔ sys.Fruitless first ∧ (sys.injectTimes first).2.Fruitless second := by
  unfold Fruitless
  rw [injectTimes_add, List.forall_mem_append]

/-- What none of the injections does, none of the first ones does. -/
theorem Fruitless.mono {times more : Nat} (h : sys.Fruitless more) (hle : times ≤ more) :
    sys.Fruitless times := by
  obtain ⟨rest, rfl⟩ := Nat.exists_eq_add_of_le hle
  exact ((sys.fruitless_add times rest).1 h).1

theorem injectTimes_unmoved {times : Nat} (h : sys.Fruitless times) :
    sys.Unmoved (sys.injectTimes times).2 := by
  induction times generalizing sys with
  | zero => exact Unmoved.refl sys
  | succ times ih =>
      obtain ⟨hfirst, hrest⟩ := (sys.fruitless_succ times).1 h
      exact (sys.inject_spec.unmoved hfirst).trans (ih hrest)

/-- A pool that waits still waits after injections that fail. -/
theorem Fruitless.pending {times index : Nat} (h : sys.Fruitless times)
    (hpending : sys.arena.table.slot index = .pending) :
    (sys.injectTimes times).2.arena.table.slot index = .pending := by
  rw [(injectTimes_unmoved h).arena_eq]
  exact hpending

/-- Where no pool waits, no injection fills one. -/
theorem fruitless_of_quiet (hstage : sys.arena.table.AtStage stage)
    (hquiet : sys.arena.needsInjection = false) (times : Nat) : sys.Fruitless times := by
  induction times generalizing sys with
  | zero => exact sys.fruitless_zero
  | succ times ih =>
      have hfailed : sys.inject.1.isOk = false := by
        cases hbuffer : sys.nextBuffer? with
        | none => rw [(delivers hstage).refused hbuffer]; rfl
        | some buffer => rw [((delivers hstage).returned buffer hbuffer hquiet).1]; rfl
      have hsame := (sys.inject_spec.unmoved hfailed).arena_eq
      refine (sys.fruitless_succ times).2 ⟨hfailed, ih ?_ ?_⟩
      · rw [hsame]
        exact hstage
      · rw [hsame]
        exact hquiet

section

variable {index : Nat} (hstage : sys.arena.table.AtStage stage)
  (hpending : sys.arena.table.slot index = .pending)

include hstage hpending

/-- While a pool waits, an injection fails only where the backing has no buffer. -/
theorem injectTimes_of_fruitless {times : Nat} (h : sys.Fruitless times) :
    (sys.injectTimes times).1 = List.replicate times (.error .allocatorError) := by
  induction times generalizing sys with
  | zero => rfl
  | succ times ih =>
      obtain ⟨hfirst, hrest⟩ := (sys.fruitless_succ times).1 h
      have hsame := (sys.inject_spec.unmoved hfirst).arena_eq
      have hlater := ih (hsame.symm ▸ hstage) (hsame.symm ▸ hpending) hrest
      rcases sys.inject_spec.of_pending hstage hpending with hfilled | hrefused
      · rw [hfilled] at hfirst
        cases hfirst
      · rw [injectTimes_succ, hlater, hrefused]
        rfl

/-- The pool that waits gets the first buffer that the backing has. The injections before
it are refused, and those after it fill no other pool. -/
theorem injectTimes_of_pending {failures : Nat} {buffer : Addr}
    (hfailures : sys.Fruitless failures)
    (hbuffer : (sys.injectTimes failures).2.nextBuffer? = some buffer) (more : Nat) :
    (sys.injectTimes (failures + (more + 1))).2.arena.table.slot index = .ready buffer
      ∧ ∃ rest, (sys.injectTimes (failures + (more + 1))).1
          = List.replicate failures (.error .allocatorError) ++ .ok index :: rest
        ∧ ∀ result ∈ rest, result.isOk = false := by
  have hresults := injectTimes_of_fruitless hstage hpending hfailures
  have hsame := (injectTimes_unmoved hfailures).arena_eq
  rw [injectTimes_add, injectTimes_succ, hresults]
  generalize (sys.injectTimes failures).2 = waiting at hbuffer hsame ⊢
  rw [← hsame] at hstage hpending
  have hneeds : waiting.arena.needsInjection = true :=
    hstage.hasPending_eq.trans ((hstage.slot_eq_pending_iff index).1 hpending).1
  obtain ⟨taker, htaker, htakes⟩ := (delivers hstage).taken buffer hbuffer hneeds
  obtain rfl : index = taker := (htakes.pending_iff index).1 hpending
  -- No pool waits any more, so what comes behind leaves the buffer where it is.
  obtain ⟨next, hnext, _⟩ := waiting.inject_spec.reaches hstage
  have hquiet : waiting.inject.2.arena.needsInjection = false :=
    hnext.hasPending_eq_false htakes.slot_ne_pending
  have hrest := fruitless_of_quiet hnext hquiet more
  refine ⟨?_, _, ?_, hrest⟩
  · show (waiting.inject.2.injectTimes more).2.arena.table.slot index = _
    rw [(injectTimes_unmoved hrest).arena_eq]
    exact htakes.slot_eq
  · rw [htaker]

end

end System

namespace Run

variable {β : Type} [Backing β] (run : Run β)

/-- What an injection comes to at any point of a run, and after any number of injections
there that have failed: these have left the arena as it was. So a pool that waits gets its
buffer by the next injection that the backing serves. -/
theorem inject_delivers :
    run.final.Delivers
      ∧ ∀ times, run.final.Fruitless times →
          run.final.Unmoved (run.final.injectTimes times).2
            ∧ (run.final.injectTimes times).2.Delivers := by
  obtain ⟨stage, hstage, _⟩ := run.exists_stage
  refine ⟨System.delivers hstage, ?_⟩
  intro times hfruitless
  have hunmoved := System.injectTimes_unmoved hfruitless
  have hstill : (run.final.injectTimes times).2.arena.table.AtStage stage := by
    rw [hunmoved.arena_eq]
    exact hstage
  exact ⟨hunmoved, System.delivers hstill⟩

/-- The first block asks for pool one. The backing refuses the first injection after that,
and the second one brings the buffer. -/
theorem inject_delivers_reluctant :
    let run := reluctant.andThen [.alloc 24 8 []]
    run.final.Fruitless 1
      ∧ ∃ index, (run.final.injectTimes 1).2.inject.1 = .ok index
        ∧ (run.final.injectTimes 1).2.Takes index 4160 (run.final.injectTimes 1).2.inject.2 := by
  intro run
  have hfruitless : run.final.Fruitless 1 := by decide +kernel
  obtain ⟨_, hlater⟩ := run.inject_delivers.2 1 hfruitless
  exact ⟨hfruitless, hlater.taken 4160 (by decide +kernel) (by decide +kernel)⟩

end Run

end PooledArena
