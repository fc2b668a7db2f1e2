import PooledArena.Arena.Run
import PooledArena.Proofs.Allocation

/-!
# `PooledArena.Proofs.Change`: the small changes of which operations are made

Whatever is asked of an arena, its system changes in three ways only: the cursor
moves, a buffer is injected, or the pool behind a ready one is asked for. A
`Change` is one of these, with the pools that it fills, and `Changes` are several
in a row. What a request does to the slots is said first: `slot_request_eq` is one
equation for all of them.

`performAll_changes` takes every list of operations apart into changes. So what
each change keeps, every run keeps, and at every point of it: a point in the
middle of an operation lies between two changes.
-/

set_option autoImplicit false

namespace PooledArena

/-! ### Asking for a slot -/

namespace SlotTable

variable (table : SlotTable) (asked index : Nat)

theorem loan_request : (table.request asked).2.loan = table.loan := by
  unfold request
  split
  · rfl
  · rfl

/-- Only the slot that is asked for can change, and only if it is there. -/
theorem slot_request :
    (table.request asked).2.slot index
      = if asked = index ∧ index < table.slots.length then (table.slot index).request.2
        else table.slot index := by
  unfold request
  split
  · rename_i hnone
    have hbeyond := List.getElem?_eq_none_iff.1 hnone
    rw [if_neg (by omega)]
  · rename_i slot hslot
    obtain ⟨hlt, _⟩ := List.getElem?_eq_some_iff.1 hslot
    show (table.slots.set asked slot.request.2)[index]?.getD .absent = _
    by_cases hsame : asked = index
    · subst hsame
      rw [if_pos ⟨rfl, hlt⟩, List.getElem?_set_self hlt, SlotTable.slot, hslot]
      rfl
    · rw [if_neg (fun h => hsame h.1), List.getElem?_set_ne hsame]
      rfl

/-- The first to ask finds an absent slot. -/
theorem request_eq_true_iff :
    (table.request asked).1 = true
      ↔ asked < table.slots.length ∧ table.slot asked = .absent := by
  unfold request slot
  cases hslot : table.slots[asked]? with
  | none =>
      have hbeyond := List.getElem?_eq_none_iff.1 hslot
      simp only [Bool.false_eq_true, false_iff, not_and]
      omega
  | some slot =>
      obtain ⟨hlt, _⟩ := List.getElem?_eq_some_iff.1 hslot
      cases slot with
      | absent => simp [Slot.request, hlt]
      | pending => simp [Slot.request]
      | ready buffer => simp [Slot.request]

/-- A slot becomes pending when it is asked for first. Nothing else changes. -/
theorem slot_request_eq :
    (table.request asked).2.slot index
      = if (table.request asked).1 = true ∧ index = asked then .pending
        else table.slot index := by
  simp only [slot_request, request_eq_true_iff]
  by_cases hasked : asked = index ∧ index < table.slots.length
  · obtain ⟨rfl, hlt⟩ := hasked
    cases hslot : table.slot asked with
    | absent => simp [Slot.request, hlt]
    | pending => simp [Slot.request]
    | ready buffer => simp [Slot.request]
  · rw [if_neg hasked, if_neg]
    rintro ⟨⟨hlt, _⟩, rfl⟩
    exact hasked ⟨rfl, hlt⟩

theorem slot_request_absent_iff :
    (table.request asked).2.slot index = .absent
      ↔ table.slot index = .absent ∧ ((table.request asked).1 = true → index ≠ asked) := by
  rw [slot_request_eq]
  split
  · rename_i hfirst
    simp [hfirst]
  · rename_i hother
    simpa [not_and] using fun _ => not_and.1 hother

theorem slot_request_pending_iff :
    (table.request asked).2.slot index = .pending
      ↔ table.slot index = .pending ∨ (table.request asked).1 = true ∧ index = asked := by
  rw [slot_request_eq]
  split
  · rename_i hfirst
    simp [hfirst]
  · rename_i hother
    simp [hother]

end SlotTable

namespace System

variable {β : Type} [Backing β]

/-- A small change of a system, with the pools that it fills. -/
inductive Change : System β → List Nat → System β → Prop
  /-- The cursor moves. -/
  | moveTo (sys : System β) (cursor : Cursor) : Change sys [] (sys.moveTo cursor)
  /-- A buffer is injected, or not. -/
  | inject {sys later : System β} {result : Except Error Nat} (h : Injection sys result later) :
      Change sys result.toOption.toList later
  /-- The pool behind a ready one is asked for. -/
  | request {sys : System β} {index : Nat} {buffer : Addr}
      (hready : sys.arena.table.slot index = .ready buffer) :
      Change sys [] { sys with arena := (sys.arena.request (index + 1)).2 }

/-- Several changes in a row. -/
inductive Changes : System β → List Nat → System β → Prop
  | none (sys : System β) : Changes sys [] sys
  | more {sys middle later : System β} {first rest : List Nat} (h : Change sys first middle)
      (hrest : Changes middle rest later) : Changes sys (first ++ rest) later

theorem Change.changes {sys later : System β} {filled : List Nat} (h : Change sys filled later) :
    Changes sys filled later := by
  have hone := Changes.more h (Changes.none later)
  rw [List.append_nil] at hone
  exact hone

theorem Changes.trans {first second third : System β} {filled filled' : List Nat}
    (h : Changes first filled second) (h' : Changes second filled' third) :
    Changes first (filled ++ filled') third := by
  induction h with
  | none sys => exact h'
  | more hone hrest ih =>
      rw [List.append_assoc]
      exact Changes.more hone (ih h')

/-! ### Operations are made of changes -/

theorem injectTimes_changes (sys : System β) (times : Nat) :
    Changes sys ((sys.injectTimes times).1.filterMap Except.toOption)
      (sys.injectTimes times).2 := by
  induction times generalizing sys with
  | zero => exact Changes.none sys
  | succ times ih =>
      have hfirst := Change.inject sys.inject_spec
      have hall := Changes.more hfirst (ih sys.inject.2)
      rw [injectTimes_succ]
      cases hresult : sys.inject.1 with
      | error error =>
          rw [hresult] at hall
          exact hall
      | ok index =>
          rw [hresult] at hall
          exact hall

theorem Allocation.changes {sys later : System β} {size align : Word} {attempt : Attempt}
    (h : Allocation sys size align attempt later) :
    Changes sys (attempt.injections.filterMap Except.toOption) later := by
  -- The wait comes after the move of the cursor, whatever its end.
  have hwaited : ∀ cursor times,
      Changes sys (((sys.moveTo cursor).injectTimes times).1.filterMap Except.toOption)
        ((sys.moveTo cursor).injectTimes times).2 :=
    fun cursor times => .more (.moveTo sys cursor) ((sys.moveTo cursor).injectTimes_changes times)
  cases h with
  | rejected haccept => exact .none sys
  | exhausted haccept hreserve => exact (Change.moveTo sys _).changes
  | absent haccept hreserve habsent => exact (Change.moveTo sys _).changes
  | abandoned relaxes times haccept hreserve hpending => exact hwaited _ times
  | granted relaxes times haccept hreserve hready hwait =>
      have hall := (hwaited _ times).trans (Change.request hready).changes
      rw [List.append_nil] at hall
      exact hall

theorem perform_changes (sys : System β) (operation : Operation) :
    Changes sys (sys.perform operation).1.filled (sys.perform operation).2 := by
  cases operation with
  | alloc size align schedule => exact (sys.alloc_spec size align schedule).changes
  | inject => exact sys.injectTimes_changes 1

theorem performAll_changes (sys : System β) (operations : List Operation) :
    Changes sys ((sys.performAll operations).1.flatMap Entry.filled)
      (sys.performAll operations).2 := by
  induction operations generalizing sys with
  | nil => exact Changes.none sys
  | cons operation operations ih =>
      exact (sys.perform_changes operation).trans (ih (sys.perform operation).2)

/-! ### What no change touches -/

theorem Change.frame {sys later : System β} {filled : List Nat} (h : Change sys filled later) :
    SameFrame sys later := by
  cases h with
  | moveTo cursor => exact ⟨rfl, rfl, rfl⟩
  | inject h => exact h.frame
  | request hready => exact ⟨rfl, rfl, SlotTable.loan_request _ _⟩

theorem Changes.frame {sys later : System β} {filled : List Nat} (h : Changes sys filled later) :
    SameFrame sys later := by
  induction h with
  | none sys => exact SameFrame.refl sys
  | more h hrest ih => exact h.frame.trans ih

end System

end PooledArena
