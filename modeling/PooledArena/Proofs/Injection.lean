import PooledArena.Arena.Wait

/-!
# `PooledArena.Proofs.Injection`: what an injection can do, and a wait

An injection comes out in one of three ways, and `Injection` has a constructor for
each: the backing refuses the buffer, a pool takes it, or no pool does and it goes
back. `inject_spec` says that there are no others.

To the system, a wait is a number of injections and nothing else. `Awaited` says
how it can end, and `await_spec` that these are all its ends. A wait that sees no
pending slot is over at once; the others begin at a pending slot, and only a buffer
or the end of the schedule ends them.

The geometry, the label and the loan of the table stay as they are throughout
(`SameFrame`), and so does the cursor.
-/

set_option autoImplicit false

namespace PooledArena

/-! ### The slots under an injection -/

namespace SlotTable

/-- The walk never makes a slot absent, and never asks for a buffer. -/
theorem installFirst_absent_iff (buffer : Addr) (slots : List Slot) (index : Nat) :
    (installFirst buffer slots).2[index]?.getD .absent = .absent
      ↔ slots[index]?.getD .absent = .absent := by
  induction slots generalizing index with
  | nil => rfl
  | cons slot slots ih =>
      cases slot with
      | absent => rfl
      | pending =>
          cases index with
          | zero => simp [installFirst, Slot.install]
          | succ index => rfl
      | ready held =>
          cases index with
          | zero => rfl
          -- The walk passes over the ready slot, so what is left is about the rest.
          | succ index => exact ih index

theorem slot_offer_absent_iff (table : SlotTable) (buffer : Addr) (index : Nat) :
    (table.offer buffer).2.slot index = .absent ↔ table.slot index = .absent :=
  installFirst_absent_iff buffer table.slots index

end SlotTable

/-! ### The host under a request -/

namespace Host

variable {β : Type} [Backing β] {host after : Host β} {layout : Layout}

theorem allocate_none (h : host.allocate layout = (none, after)) :
    after.calls = .refused layout :: host.calls ∧ after.log = host.log := by
  unfold allocate at h
  split at h
  · cases h
    exact ⟨rfl, rfl⟩
  · cases h

theorem allocate_some {addr : Addr} (h : host.allocate layout = (some addr, after)) :
    after.calls = .granted ⟨addr, layout⟩ :: host.calls ∧ after.log = host.log := by
  unfold allocate at h
  split at h
  · cases h
  · cases h
    exact ⟨rfl, rfl⟩

/-- What is lent reads as zeros, and the other bytes stay. -/
theorem memory_allocate_some {addr : Addr} (h : host.allocate layout = (some addr, after)) :
    after.memory = host.memory.fill addr layout.size.toNat 0 := by
  unfold allocate at h
  split at h
  · cases h
  · cases h
    rfl

theorem memory_allocate_none (h : host.allocate layout = (none, after)) :
    after.memory = host.memory := by
  unfold allocate at h
  split at h
  · cases h
    rfl
  · cases h

end Host

namespace System

variable {β : Type}

/-- What no operation changes. -/
structure SameFrame (sys later : System β) : Prop where
  geometry_eq : later.arena.geometry = sys.arena.geometry
  label_eq : later.arena.label = sys.arena.label
  loan_eq : later.arena.table.loan = sys.arena.table.loan

theorem SameFrame.refl (sys : System β) : SameFrame sys sys :=
  ⟨rfl, rfl, rfl⟩

theorem SameFrame.trans {first second third : System β} (h : SameFrame first second)
    (h' : SameFrame second third) : SameFrame first third :=
  ⟨h'.geometry_eq.trans h.geometry_eq, h'.label_eq.trans h.label_eq,
    h'.loan_eq.trans h.loan_eq⟩

variable [Backing β]

/-! ### One injection -/

/-- The backing grants the next buffer. -/
def Served (sys : System β) : Prop :=
  (sys.host.allocate sys.arena.geometry.bufferLayout).1.isSome = true

instance (sys : System β) : Decidable sys.Served :=
  inferInstanceAs (Decidable (_ = true))

/-- The ways in which an injection comes out, with the system after. -/
inductive Injection (sys : System β) : Except Error Nat → System β → Prop
  /-- The backing has no buffer. -/
  | refused {host : Host β}
      (hallocate : sys.host.allocate sys.arena.geometry.bufferLayout = (none, host)) :
      Injection sys (.error .allocatorError)
        ⟨sys.arena, host.note sys.arena.label .bufferRefused⟩
  /-- Pool `index` takes the buffer. -/
  | installed {host : Host β} {buffer : Addr} {index : Nat}
      (hallocate : sys.host.allocate sys.arena.geometry.bufferLayout = (some buffer, host))
      (hinstall : (sys.arena.install buffer).1 = some index) :
      Injection sys (.ok index)
        ⟨(sys.arena.install buffer).2, host.note sys.arena.label (.injected index buffer)⟩
  /-- No pool takes the buffer, and it goes back at once. -/
  | returned {host : Host β} {buffer : Addr}
      (hallocate : sys.host.allocate sys.arena.geometry.bufferLayout = (some buffer, host))
      (hinstall : (sys.arena.install buffer).1 = none) :
      Injection sys (.error .doubleInjection)
        ⟨sys.arena, (host.free ⟨buffer, sys.arena.geometry.bufferLayout⟩).note sys.arena.label
          .doubleInjection⟩

theorem inject_spec (sys : System β) : Injection sys sys.inject.1 sys.inject.2 := by
  generalize hresult : sys.inject = result
  unfold inject at hresult
  dsimp only at hresult
  split at hresult
  · rename_i hallocate
    rw [← hresult]
    exact .refused hallocate
  · rename_i buffer host hallocate
    split at hresult
    · rename_i index arena hinstall
      have harena : arena = (sys.arena.install buffer).2 := (congrArg Prod.snd hinstall).symm
      rw [← hresult, harena]
      exact .installed hallocate (congrArg Prod.fst hinstall)
    · rename_i arena hinstall
      rw [← hresult]
      exact .returned hallocate (congrArg Prod.fst hinstall)

/-- The way in which an injection comes out decides what it answers and leaves behind. -/
theorem Injection.inject_eq {sys later : System β} {result : Except Error Nat}
    (h : Injection sys result later) : sys.inject = (result, later) := by
  unfold inject
  cases h with
  | refused hallocate => simp [hallocate]
  | installed hallocate hinstall =>
      simp only [hallocate]
      generalize sys.arena.install _ = taken at hinstall ⊢
      obtain ⟨index?, arena⟩ := taken
      cases hinstall
      rfl
  | returned hallocate hinstall =>
      simp only [hallocate]
      generalize sys.arena.install _ = taken at hinstall ⊢
      obtain ⟨index?, arena⟩ := taken
      cases hinstall
      rfl

theorem Injection.frame {sys later : System β} {result : Except Error Nat}
    (h : Injection sys result later) : SameFrame sys later := by
  cases h with
  | refused hallocate => exact ⟨rfl, rfl, rfl⟩
  | installed hallocate hinstall => exact ⟨rfl, rfl, rfl⟩
  | returned hallocate hinstall => exact ⟨rfl, rfl, rfl⟩

theorem Injection.cursor_eq {sys later : System β} {result : Except Error Nat}
    (h : Injection sys result later) : later.arena.cursor = sys.arena.cursor := by
  cases h with
  | refused hallocate => rfl
  | installed hallocate hinstall => rfl
  | returned hallocate hinstall => rfl

theorem Injection.absent_iff {sys later : System β} {result : Except Error Nat}
    (h : Injection sys result later) (index : Nat) :
    later.arena.table.slot index = .absent ↔ sys.arena.table.slot index = .absent := by
  cases h with
  | refused hallocate => exact Iff.rfl
  | installed hallocate hinstall => exact sys.arena.table.slot_offer_absent_iff _ index
  | returned hallocate hinstall => exact Iff.rfl

/-- Calls are added to those that were made before. -/
theorem Injection.exists_calls {sys later : System β} {result : Except Error Nat}
    (h : Injection sys result later) :
    ∃ calls, later.host.calls = calls ++ sys.host.calls := by
  cases h with
  | refused hallocate => exact ⟨[_], (Host.allocate_none hallocate).1⟩
  | installed hallocate hinstall => exact ⟨[_], (Host.allocate_some hallocate).1⟩
  | returned hallocate hinstall =>
      exact ⟨[_, _], congrArg (_ :: ·) (Host.allocate_some hallocate).1⟩

/-! ### Several injections -/

theorem injectTimes_succ (sys : System β) (times : Nat) :
    sys.injectTimes (times + 1)
      = (sys.inject.1 :: (sys.inject.2.injectTimes times).1, (sys.inject.2.injectTimes times).2) :=
  rfl

theorem injectTimes_add (sys : System β) (first second : Nat) :
    sys.injectTimes (first + second)
      = ((sys.injectTimes first).1 ++ ((sys.injectTimes first).2.injectTimes second).1,
          ((sys.injectTimes first).2.injectTimes second).2) := by
  induction first generalizing sys with
  | zero =>
      rw [Nat.zero_add]
      rfl
  | succ first ih =>
      rw [Nat.succ_add, injectTimes_succ, ih, injectTimes_succ]
      rfl

/-- A property that every injection keeps is kept by any number of them. -/
theorem injectTimes_induct {motive : System β → Prop} {sys : System β} (hstart : motive sys)
    (hinject : ∀ sys, motive sys → motive sys.inject.2) (times : Nat) :
    motive (sys.injectTimes times).2 := by
  induction times generalizing sys with
  | zero => exact hstart
  | succ times ih => exact ih (hinject sys hstart)

theorem injectTimes_frame (sys : System β) (times : Nat) :
    SameFrame sys (sys.injectTimes times).2 := by
  refine injectTimes_induct (motive := fun later => SameFrame sys later)
    (SameFrame.refl sys) ?_ times
  intro later h
  exact h.trans later.inject_spec.frame

theorem injectTimes_cursor (sys : System β) (times : Nat) :
    (sys.injectTimes times).2.arena.cursor = sys.arena.cursor := by
  refine injectTimes_induct (motive := fun later => later.arena.cursor = sys.arena.cursor)
    rfl ?_ times
  intro later h
  exact later.inject_spec.cursor_eq.trans h

theorem injectTimes_absent_iff (sys : System β) (times index : Nat) :
    (sys.injectTimes times).2.arena.table.slot index = .absent
      ↔ sys.arena.table.slot index = .absent := by
  refine injectTimes_induct
    (motive := fun later => later.arena.table.slot index = .absent
      ↔ sys.arena.table.slot index = .absent) Iff.rfl ?_ times
  intro later h
  exact (later.inject_spec.absent_iff index).trans h

/-! ### Waiting -/

/-- The ways in which a wait for pool `index` ends. -/
inductive Awaited (sys : System β) (index : Nat) : Wait β → Prop
  /-- There is nothing to wait for. -/
  | atOnce {arrival : Arrival}
      (hslot : (sys.arena.table.slot index).arrival? = some arrival) :
      Awaited sys index { arrival, relaxes := 0, injections := [], system := sys }
  /-- One of the injections brings the buffer. -/
  | ready (relaxes times : Nat) {buffer : Addr}
      (hpending : sys.arena.table.slot index = .pending)
      (hready : (sys.injectTimes times).2.arena.table.slot index = .ready buffer) :
      Awaited sys index {
        arrival := .ready buffer
        relaxes
        injections := (sys.injectTimes times).1
        system := (sys.injectTimes times).2
      }
  /-- The schedule ends first. -/
  | abandoned (relaxes times : Nat) (hpending : sys.arena.table.slot index = .pending) :
      Awaited sys index {
        arrival := .abandoned
        relaxes
        injections := (sys.injectTimes times).1
        system := (sys.injectTimes times).2
      }

/-- A wait that finds something other than a pending slot ends at the first look. -/
theorem await_of_arrival {sys : System β} {index : Nat} {arrival : Arrival}
    (h : (sys.arena.table.slot index).arrival? = some arrival) (schedule : Schedule) :
    sys.await index schedule = { arrival, relaxes := 0, injections := [], system := sys } := by
  cases schedule with
  | nil => simp [await, h]
  | cons turn turns => simp [await, h]

theorem slot_pending_of_arrival?_eq_none {slot : Slot} (h : slot.arrival? = none) :
    slot = .pending := by
  cases slot with
  | absent => cases h
  | pending => rfl
  | ready buffer => cases h

theorem await_spec (index : Nat) (schedule : Schedule) (sys : System β) :
    Awaited sys index (sys.await index schedule) := by
  induction schedule generalizing sys with
  | nil =>
      unfold await
      cases harrival : (sys.arena.table.slot index).arrival? with
      -- There is no turn to wait for, so a pending slot ends the wait.
      | none => exact .abandoned 0 0 (slot_pending_of_arrival?_eq_none harrival)
      | some arrival => exact .atOnce harrival
  | cons turn turns ih =>
      unfold await
      cases harrival : (sys.arena.table.slot index).arrival? with
      | some arrival => exact .atOnce harrival
      | none =>
          have hpending := slot_pending_of_arrival?_eq_none harrival
          dsimp only
          split
          · -- That was the last turn, and the slot is not looked at again.
            exact .abandoned 1 turn hpending
          · have hlater := ih (sys.injectTimes turn).2
            -- The injections of the first turn go before those of the later ones.
            have hadd := sys.injectTimes_add turn
            generalize (sys.injectTimes turn).2.await index turns = later at hlater
            cases hlater with
            | @atOnce arrival hslot =>
                -- Injections make no slot absent, so the wait ended with a buffer.
                have hpresent : (sys.injectTimes turn).2.arena.table.slot index ≠ .absent := by
                  rw [Ne, injectTimes_absent_iff, hpending]
                  exact Slot.noConfusion
                cases hnow : (sys.injectTimes turn).2.arena.table.slot index with
                | absent => exact absurd hnow hpresent
                | pending =>
                    rw [hnow] at hslot
                    cases hslot
                | ready buffer =>
                    rw [hnow] at hslot
                    cases hslot
                    simpa using Awaited.ready 1 turn hpending hnow
            | ready relaxes times hstill hready =>
                have hsum := hadd times
                rw [← congrArg Prod.snd hsum] at hready
                have hend := Awaited.ready (relaxes + 1) _ hpending hready
                rw [hsum] at hend
                exact hend
            | abandoned relaxes times hstill =>
                have hend := Awaited.abandoned (relaxes + 1) (turn + times) hpending
                rw [hadd times] at hend
                exact hend

end System

end PooledArena
