import PooledArena.Arena
import Mathlib.Data.List.Basic

/-!
# `PooledArena.Proofs.Stage`: how far a slot table has filled up

A table that fills up in index order is described by three things: the buffers of
its first slots, whether the slot behind them waits for a buffer, and how many
slots are left that nobody asked for. That is a `Stage`. The two operations on a
table are operations on its stage:

* `installFirst_slots`: the walk of an injection passes over the buffers held and
  reaches the slot that waits, if one does.
* `AtStage.offer`, `AtStage.request`: bringing a buffer, and asking for the one
  behind a pool that has its buffer, lead from stage to stage.

`AtStage.slot_eq_ready_iff` and its neighbours read single slots off a stage, and
`Stage.Advances` is the order in which stages follow each other.
-/

set_option autoImplicit false

namespace PooledArena

/-- How far a slot table has filled up. -/
structure Stage where
  /-- The buffers of the first slots, in index order. -/
  held : List Addr
  /-- Whether the slot behind them waits for a buffer. -/
  waiting : Bool
  /-- How many slots come last that nobody asked for. -/
  rest : Nat

namespace Stage

variable (stage : Stage)

/-- The slots of a table at this stage. -/
def slots : List Slot :=
  stage.held.map .ready
    ++ (List.replicate stage.waiting.toNat .pending ++ List.replicate stage.rest .absent)

/-- How many slots are no longer absent. -/
def reached : Nat :=
  stage.held.length + stage.waiting.toNat

/-- Bring a buffer. -/
def offer (buffer : Addr) : Option Nat × Stage :=
  if stage.waiting then
    (some stage.held.length, { stage with held := stage.held ++ [buffer], waiting := false })
  else
    (none, stage)

/-- Ask for the buffer of pool `index`, where the pools before have theirs. -/
def request (index : Nat) : Bool × Stage :=
  if index = stage.held.length ∧ stage.waiting = false ∧ 0 < stage.rest then
    (true, { stage with waiting := true, rest := stage.rest - 1 })
  else
    (false, stage)

/-- A buffer that is taken comes behind those that are there. -/
theorem held_offer {buffer : Addr} {index : Nat} (h : (stage.offer buffer).1 = some index) :
    (stage.offer buffer).2.held = stage.held ++ [buffer] := by
  unfold offer at h ⊢
  split
  · rfl
  · rename_i hwaiting
    rw [if_neg hwaiting] at h
    cases h

/-- To ask for a buffer brings none. -/
theorem held_request (index : Nat) : (stage.request index).2.held = stage.held := by
  unfold request
  split
  · rfl
  · rfl

/-- `later` has all the buffers of `stage`, in the same slots, and has reached as
far at least. -/
structure Advances (stage later : Stage) : Prop where
  held_kept : stage.held <+: later.held
  reached_le : stage.reached ≤ later.reached

theorem Advances.refl : stage.Advances stage :=
  ⟨List.prefix_rfl, Nat.le_refl _⟩

theorem Advances.trans {first second third : Stage} (h : first.Advances second)
    (h' : second.Advances third) : first.Advances third :=
  ⟨h.held_kept.trans h'.held_kept, Nat.le_trans h.reached_le h'.reached_le⟩

/-- A buffer stays in its slot. -/
theorem Advances.getElem?_held {stage later : Stage} (h : stage.Advances later) {index : Nat}
    {buffer : Addr} (hheld : stage.held[index]? = some buffer) :
    later.held[index]? = some buffer := by
  obtain ⟨new, hnew⟩ := h.held_kept
  obtain ⟨hlt, _⟩ := List.getElem?_eq_some_iff.1 hheld
  rw [← hnew, List.getElem?_append_left hlt]
  exact hheld

/-- A buffer moves one slot from those that wait to those that are ready. -/
theorem advances_offer (buffer : Addr) : stage.Advances (stage.offer buffer).2 := by
  unfold offer
  split
  · rename_i hwaiting
    refine ⟨List.prefix_append _ _, ?_⟩
    simp [reached, hwaiting]
  · exact Advances.refl stage

theorem advances_request (index : Nat) : stage.Advances (stage.request index).2 := by
  unfold request
  split
  · rename_i h
    refine ⟨List.prefix_rfl, ?_⟩
    simp [reached, h.2.1]
  · exact Advances.refl stage

theorem length_slots : stage.slots.length = stage.reached + stage.rest := by
  simp [slots, reached, Nat.add_assoc]

/-- A slot of a stage is found by counting: the buffers come first, then what
waits, then the rest. -/
theorem getElem?_slots (index : Nat) :
    stage.slots[index]? =
      if h : index < stage.held.length then some (.ready stage.held[index])
      else if index < stage.reached then some .pending
      else if index < stage.reached + stage.rest then some .absent
      else none := by
  unfold slots reached
  by_cases h : index < stage.held.length
  · rw [List.getElem?_append_left (by simpa using h)]
    simp [h]
  · rw [List.getElem?_append_right (by simpa using h), dif_neg h]
    simp only [List.length_map, List.getElem?_append, List.length_replicate,
      List.getElem?_replicate]
    split_ifs <;> first | rfl | omega

end Stage

namespace SlotTable

/-- The walk of an injection: it passes over the slots with a buffer, one by one,
and ends at the first slot without. -/
theorem installFirst_slots (buffer : Addr) (held : List Addr) (waiting : Bool) (rest : Nat) :
    installFirst buffer (Stage.mk held waiting rest).slots
      = (((Stage.mk held waiting rest).offer buffer).1,
          ((Stage.mk held waiting rest).offer buffer).2.slots) := by
  induction held with
  | nil =>
      cases waiting with
      | true => rfl
      | false =>
          cases rest with
          | zero => rfl
          | succ rest => rfl
  | cons first held ih =>
      have hcons : installFirst buffer (Stage.mk (first :: held) waiting rest).slots
          = ((installFirst buffer (Stage.mk held waiting rest).slots).1.map (· + 1),
              .ready first :: (installFirst buffer (Stage.mk held waiting rest).slots).2) := rfl
      rw [hcons, ih]
      cases waiting with
      | true => rfl
      | false => rfl

/-- The table is at this stage, and its first pool has a buffer. -/
structure AtStage (table : SlotTable) (stage : Stage) : Prop where
  slots_eq : table.slots = stage.slots
  held_pos : 0 < stage.held.length

/-- A slot put in its own place changes nothing. -/
theorem set_self {table : SlotTable} {index : Nat} {slot : Slot}
    (h : table.slots[index]? = some slot) : table.set index slot = table := by
  obtain ⟨hlt, rfl⟩ := List.getElem?_eq_some_iff.1 h
  exact SlotTable.ext rfl (List.set_getElem_self hlt)

/-- A slot that was asked for before stays as it is. -/
theorem request_of_present {table : SlotTable} {index : Nat} (h : table.slot index ≠ .absent) :
    table.request index = (false, table) := by
  unfold slot at h
  unfold request
  cases hslot : table.slots[index]? with
  | none => simp [hslot] at h
  | some slot =>
      cases slot with
      | absent => simp [hslot] at h
      | pending => simp [Slot.request, set_self hslot]
      | ready held => simp [Slot.request, set_self hslot]

namespace AtStage

variable {table : SlotTable} {stage : Stage}

/-! ### Single slots -/

theorem slot_eq (h : table.AtStage stage) (index : Nat) :
    table.slot index =
      if h : index < stage.held.length then .ready stage.held[index]
      else if index < stage.reached then .pending
      else .absent := by
  unfold slot
  rw [h.slots_eq, stage.getElem?_slots]
  split_ifs <;> rfl

theorem slot_eq_ready_iff (h : table.AtStage stage) (index : Nat) (buffer : Addr) :
    table.slot index = .ready buffer ↔ stage.held[index]? = some buffer := by
  rw [h.slot_eq, List.getElem?_eq_some_iff]
  split_ifs with hheld hreached
  · simp [hheld]
  · simp [hheld]
  · simp [hheld]

/-- A ready slot is among those of the buffers held. -/
theorem lt_of_ready (h : table.AtStage stage) {index : Nat} {buffer : Addr}
    (hready : table.slot index = .ready buffer) : index < stage.held.length := by
  have hheld := (h.slot_eq_ready_iff index buffer).1 hready
  obtain ⟨hlt, _⟩ := List.getElem?_eq_some_iff.1 hheld
  exact hlt

/-- At most one slot waits: the first one without a buffer. -/
theorem slot_eq_pending_iff (h : table.AtStage stage) (index : Nat) :
    table.slot index = .pending ↔ stage.waiting = true ∧ index = stage.held.length := by
  rw [h.slot_eq]
  have hreached : stage.reached = stage.held.length + stage.waiting.toNat := rfl
  split_ifs with hheld hlt
  · simp
    omega
  · cases hwaiting : stage.waiting with
    | true =>
        rw [hwaiting, Bool.toNat_true] at hreached
        simp
        omega
    | false =>
        rw [hwaiting, Bool.toNat_false] at hreached
        omega
  · constructor
    · intro hslot
      cases hslot
    · rintro ⟨hwaiting, rfl⟩
      rw [hwaiting, Bool.toNat_true] at hreached
      omega

theorem slot_eq_absent_iff (h : table.AtStage stage) (index : Nat) :
    table.slot index = .absent ↔ stage.reached ≤ index := by
  rw [h.slot_eq]
  have : stage.held.length ≤ stage.reached := Nat.le_add_right _ _
  split_ifs with hheld hreached
  · simp
    omega
  · simp
    omega
  · simp
    omega

/-! ### The table as a whole -/

theorem states_eq (h : table.AtStage stage) :
    table.states = List.replicate stage.held.length .ready
      ++ (List.replicate stage.waiting.toNat .pending ++ List.replicate stage.rest .absent) := by
  unfold states
  have hready : stage.held.map (Slot.state ∘ Slot.ready)
      = List.replicate stage.held.length SlotState.ready :=
    List.map_const'
  rw [h.slots_eq, Stage.slots, List.map_append, List.map_append, List.map_replicate,
    List.map_replicate, List.map_map, hready]
  rfl

theorem readyCount_eq (h : table.AtStage stage) : table.readyCount = stage.held.length := by
  unfold readyCount
  rw [h.states_eq]
  simp [List.countP_replicate]

theorem hasPending_eq (h : table.AtStage stage) : table.hasPending = stage.waiting := by
  unfold hasPending
  rw [h.states_eq]
  cases stage.waiting with
  | true => simp
  | false => simp

theorem hasPending_eq_false (h : table.AtStage stage)
    (hquiet : ∀ index, table.slot index ≠ .pending) : table.hasPending = false := by
  rw [h.hasPending_eq, Bool.eq_false_iff]
  intro hwaiting
  exact hquiet _ ((h.slot_eq_pending_iff _).2 ⟨hwaiting, rfl⟩)

theorem buffers_eq (h : table.AtStage stage) : table.buffers = stage.held := by
  unfold buffers
  rw [h.slots_eq, Stage.slots, List.filterMap_append, List.filterMap_append, List.filterMap_map]
  have hready : (Slot.buffer? ∘ Slot.ready) = some := rfl
  simp [hready, List.filterMap_replicate, Slot.buffer?]

/-! ### The two operations -/

theorem offer (h : table.AtStage stage) (buffer : Addr) :
    (table.offer buffer).1 = (stage.offer buffer).1
      ∧ (table.offer buffer).2.AtStage (stage.offer buffer).2 := by
  have hwalk := installFirst_slots buffer stage.held stage.waiting stage.rest
  rw [← h.slots_eq] at hwalk
  have hheld := (stage.advances_offer buffer).held_kept.length_le
  refine ⟨congrArg Prod.fst hwalk, congrArg Prod.snd hwalk, ?_⟩
  exact Nat.lt_of_lt_of_le h.held_pos hheld

/-- The buffer goes to the slot that waits for one. -/
theorem offer_of_pending (h : table.AtStage stage) {index : Nat}
    (hpending : table.slot index = .pending) (buffer : Addr) :
    (table.offer buffer).1 = some index := by
  obtain ⟨hwaiting, rfl⟩ := (h.slot_eq_pending_iff index).1 hpending
  rw [(h.offer buffer).1]
  simp [Stage.offer, hwaiting]

/-- At most one slot waits, so none does after a buffer was brought. -/
theorem slot_offer_ne_pending (h : table.AtStage stage) (buffer : Addr) (index : Nat) :
    (table.offer buffer).2.slot index ≠ .pending := by
  have hquiet : (stage.offer buffer).2.waiting = false := by
    cases hwaiting : stage.waiting with
    | false => simp [Stage.offer, hwaiting]
    | true => simp [Stage.offer, hwaiting]
  rw [Ne, (h.offer buffer).2.slot_eq_pending_iff, hquiet]
  simp

theorem slot_offer_of_pending (h : table.AtStage stage) {index : Nat}
    (hpending : table.slot index = .pending) (buffer : Addr) :
    (table.offer buffer).2.slot index = .ready buffer := by
  obtain ⟨hwaiting, rfl⟩ := (h.slot_eq_pending_iff index).1 hpending
  obtain ⟨_, hnext⟩ := h.offer buffer
  rw [hnext.slot_eq_ready_iff]
  simp [Stage.offer, hwaiting]

/-- What is asked for lies behind a pool with a buffer, so the question is about a
slot with a buffer or about the first one without. -/
theorem request (h : table.AtStage stage) {index : Nat} (hindex : index ≤ stage.held.length) :
    (table.request index).1 = (stage.request index).1
      ∧ (table.request index).2.AtStage (stage.request index).2 := by
  have hslot := h.slot_eq index
  -- A slot that is not absent stays as it is, in the table and in the stage.
  have hstay : table.slot index ≠ .absent → stage.request index = (false, stage) →
      (table.request index).1 = (stage.request index).1
        ∧ (table.request index).2.AtStage (stage.request index).2 := by
    intro hpresent hstage
    rw [request_of_present hpresent, hstage]
    exact ⟨rfl, h⟩
  rcases Nat.lt_or_eq_of_le hindex with hlt | rfl
  · refine hstay ?_ (if_neg (by omega))
    rw [hslot, dif_pos hlt]
    exact Slot.noConfusion
  · rw [dif_neg (Nat.lt_irrefl _)] at hslot
    unfold Stage.reached at hslot
    cases hwaiting : stage.waiting with
    | true =>
        refine hstay ?_ (if_neg (by simp [hwaiting]))
        rw [hslot, hwaiting, if_pos (by simp)]
        exact Slot.noConfusion
    | false =>
        have hget := stage.getElem?_slots stage.held.length
        rw [← h.slots_eq] at hget
        unfold Stage.reached at hget
        cases hrest : stage.rest with
        | zero =>
            rw [hwaiting, hrest, dif_neg (by simp), if_neg (by simp), if_neg (by simp)] at hget
            have hstage : stage.request stage.held.length = (false, stage) :=
              if_neg (by simp [hrest])
            rw [hstage]
            unfold SlotTable.request
            simp only [hget]
            exact ⟨trivial, h⟩
        | succ rest =>
            rw [hwaiting, hrest, dif_neg (by simp), if_neg (by simp), if_pos (by simp)] at hget
            have hstage : stage.request stage.held.length
                = (true, { stage with waiting := true, rest := rest }) := by
              unfold Stage.request
              rw [if_pos ⟨rfl, hwaiting, by omega⟩, hrest]
              rfl
            rw [hstage]
            unfold SlotTable.request
            simp only [hget, Slot.request]
            refine ⟨trivial, ?_, h.held_pos⟩
            -- The first of the absent slots becomes the one that waits.
            show table.slots.set stage.held.length .pending = _
            rw [h.slots_eq, Stage.slots, hwaiting, hrest]
            simp [Stage.slots, List.set_append_right, List.replicate_succ]

end AtStage

end SlotTable

end PooledArena
