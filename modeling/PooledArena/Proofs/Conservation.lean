import PooledArena.SlotTable.Cell

/-!
# `PooledArena.Proofs.Conservation`: every slot of a table keeps its own account

Work on a slot table as one likes, from a table whose slots are all absent. Each slot then
answers as if it stood alone and was given its own tasks only (`SlotTable.steps_slot`). What is
done to other slots, or beyond the table, does not show in its history.

What a slot is can be read off that history (`Slot.Recorded`). It is ready with a buffer if it
accepted the buffer and was not emptied since. It is absent unless a request was the first and
the slot was not emptied since. And the buffers it accepted are those it gave up, in that order,
and the one it holds. Each task keeps this, so all of them do.

In memory a slot is two fields that are written one after the other. `Cell.performAll_ofSlot`
says that they give the same answers, and always have one: no lookup ever meets a ready tag
beside a null pointer.

`SlotTable.steps_conserve` says all this of every table and all steps.
-/

set_option autoImplicit false

namespace PooledArena

/-! ### What stands in a history -/

namespace SlotEntry

/-- The entry is in the history, and the slot was not emptied since. -/
def Standing (entry : SlotEntry) (history : List SlotEntry) : Prop :=
  ∃ older newer, history = older ++ entry :: newer ∧ ∀ later ∈ newer, later.task ≠ .take

variable {entry last : SlotEntry} {history : List SlotEntry}

theorem not_standing_nil : ¬ entry.Standing [] := by
  rintro ⟨older, newer, hnil, _⟩
  exact List.append_ne_nil_of_right_ne_nil older (List.cons_ne_nil _ _) hnil.symm

theorem standing_append_singleton_iff :
    entry.Standing (history ++ [last]) ↔
      last = entry ∨ last.task ≠ .take ∧ entry.Standing history := by
  constructor
  · rintro ⟨older, newer, heq, hnewer⟩
    rcases List.eq_nil_or_concat newer with rfl | ⟨newer, latest, rfl⟩
    · exact .inl (List.singleton_inj.1 (List.append_inj' heq rfl).2)
    · -- Then the last entry is one of the newer ones, and the rest stood before.
      rw [List.concat_eq_append] at heq hnewer
      rw [← List.cons_append, ← List.append_assoc] at heq
      obtain ⟨rfl, hlast⟩ := List.append_inj' heq rfl
      obtain rfl := List.singleton_inj.1 hlast
      refine .inr ⟨hnewer last (List.mem_append_right _ (List.mem_singleton_self _)),
        older, newer, rfl, fun later hlater => ?_⟩
      exact hnewer later (List.mem_append_left _ hlater)
  · rintro (rfl | ⟨hlast, older, newer, rfl, hnewer⟩)
    · exact ⟨history, [], rfl, nofun⟩
    · refine ⟨older, newer ++ [last], List.append_assoc _ _ _, fun later hlater => ?_⟩
      rcases List.mem_append.1 hlater with hlater | hlater
      · exact hnewer later hlater
      · rwa [List.mem_singleton.1 hlater]

end SlotEntry

/-! ### One slot -/

namespace Slot

section OneTask

variable (slot : Slot) (task : SlotTask)

/-- A slot gets ready by accepting a buffer, and stays so until it is emptied. -/
theorem perform_eq_ready_iff (buffer : Addr) :
    (slot.perform task).2 = .ready buffer ↔
      (⟨task, (slot.perform task).1⟩ : SlotEntry) = ⟨.install buffer, .offer .installed⟩
        ∨ task ≠ .take ∧ slot = .ready buffer := by
  cases task <;> cases slot <;> simp [perform, request, install, take]

/-- A slot is asked for by a request that is the first, and stays so until it is emptied. -/
theorem perform_ne_absent_iff :
    (slot.perform task).2 ≠ .absent ↔
      (⟨task, (slot.perform task).1⟩ : SlotEntry) = ⟨.request, .first true⟩
        ∨ task ≠ .take ∧ slot ≠ .absent := by
  cases task <;> cases slot <;> simp [perform, request, install, take]

/-- A buffer that is held or accepted is given up or still held. -/
theorem perform_buffers :
    slot.buffer?.toList ++ [⟨task, (slot.perform task).1⟩].filterMap SlotEntry.installed?
      = [⟨task, (slot.perform task).1⟩].filterMap SlotEntry.taken?
        ++ (slot.perform task).2.buffer?.toList := by
  cases task <;> cases slot <;> rfl

end OneTask

/-- What a slot is, by its history. -/
structure Recorded (slot : Slot) (history : List SlotEntry) : Prop where
  ready_iff : ∀ buffer, slot = .ready buffer ↔
    SlotEntry.Standing ⟨.install buffer, .offer .installed⟩ history
  asked_iff : slot ≠ .absent ↔ SlotEntry.Standing ⟨.request, .first true⟩ history
  installed_eq : history.filterMap SlotEntry.installed?
    = history.filterMap SlotEntry.taken? ++ slot.buffer?.toList

theorem recorded_absent : absent.Recorded [] where
  ready_iff _ := ⟨nofun, fun h => absurd h SlotEntry.not_standing_nil⟩
  asked_iff := ⟨fun h => absurd rfl h, fun h => absurd h SlotEntry.not_standing_nil⟩
  installed_eq := rfl

variable {slot : Slot} {history : List SlotEntry}

theorem Recorded.perform (h : slot.Recorded history) (task : SlotTask) :
    (slot.perform task).2.Recorded (history ++ [⟨task, (slot.perform task).1⟩]) where
  ready_iff buffer := by
    rw [SlotEntry.standing_append_singleton_iff, ← h.ready_iff]
    exact perform_eq_ready_iff slot task buffer
  asked_iff := by
    rw [SlotEntry.standing_append_singleton_iff, ← h.asked_iff]
    exact perform_ne_absent_iff slot task
  installed_eq := by
    rw [List.filterMap_append, List.filterMap_append, h.installed_eq, List.append_assoc,
      List.append_assoc, perform_buffers]

theorem performAll_cons (slot : Slot) (task : SlotTask) (tasks : List SlotTask) :
    slot.performAll (task :: tasks)
      = (⟨task, (slot.perform task).1⟩ :: ((slot.perform task).2.performAll tasks).1,
        ((slot.perform task).2.performAll tasks).2) :=
  rfl

theorem Recorded.performAll (h : slot.Recorded history) (tasks : List SlotTask) :
    (slot.performAll tasks).2.Recorded (history ++ (slot.performAll tasks).1) := by
  induction tasks generalizing slot history with
  | nil => rwa [Slot.performAll, List.append_nil]
  | cons task tasks ih =>
      -- The entry of the task comes behind the history so far, and before all the others.
      have hrest := ih (h.perform task)
      rwa [List.append_assoc, List.singleton_append] at hrest

/-- The slot was given every task, and nothing else. -/
theorem map_task_performAll (slot : Slot) (tasks : List SlotTask) :
    (slot.performAll tasks).1.map SlotEntry.task = tasks := by
  induction tasks generalizing slot with
  | nil => rfl
  | cons task tasks ih => exact congrArg (task :: ·) (ih _)

/-- Every entry was made by the slot that the older ones lead to. -/
theorem performAll_eq_append {slot : Slot} {tasks : List SlotTask} {older newer : List SlotEntry}
    {entry : SlotEntry} (h : (slot.performAll tasks).1 = older ++ entry :: newer) :
    ∃ before, slot.performAll (older.map SlotEntry.task) = (older, before)
      ∧ entry.answer = (before.perform entry.task).1 := by
  induction older generalizing slot tasks with
  | nil =>
      cases tasks with
      | nil => cases h
      | cons task tasks =>
          obtain ⟨rfl, _⟩ := List.cons.inj h
          exact ⟨slot, rfl, rfl⟩
  | cons first older ih =>
      cases tasks with
      | nil => cases h
      | cons task tasks =>
          rw [performAll_cons] at h
          obtain ⟨rfl, hrest⟩ := List.cons.inj h
          obtain ⟨before, hbefore, hanswer⟩ := ih hrest
          refine ⟨before, ?_, hanswer⟩
          rw [List.map_cons, performAll_cons, hbefore]

end Slot

/-! ### The fields of a slot -/

namespace Cell

/-- The two fields keep in step, and there is always an answer. -/
theorem perform_ofSlot (slot : Slot) (task : SlotTask) :
    (ofSlot slot).perform task
      = (some (slot.perform task).1, ofSlot (slot.perform task).2) := by
  cases task <;> cases slot <;> rfl

theorem performAll_ofSlot (slot : Slot) (tasks : List SlotTask) :
    (ofSlot slot).performAll tasks
      = ((slot.performAll tasks).1.map fun entry => some entry.answer,
        ofSlot (slot.performAll tasks).2) := by
  induction tasks generalizing slot with
  | nil => rfl
  | cons task tasks ih =>
      simp only [performAll, perform_ofSlot, ih, Slot.performAll_cons, List.map_cons]

end Cell

/-! ### What a slot's history says -/

namespace Slot

/-- What the history of a slot that started absent says of its answers, and of the slot after. -/
structure Conserved (tasks : List SlotTask) (history : List SlotEntry) (slot : Slot) : Prop where
  /-- Every task of the slot is in the history, in its order. -/
  tasks_eq : history.map SlotEntry.task = tasks
  /-- A lookup sees the buffer that was accepted, if the slot was not emptied since. -/
  lookup_iff : ∀ older newer answer, history = older ++ ⟨.lookup, answer⟩ :: newer →
    ∀ buffer, answer = .slot (.ready buffer) ↔
      SlotEntry.Standing ⟨.install buffer, .offer .installed⟩ older
  /-- A request is the first unless another was, and the slot was not emptied since. -/
  request_iff : ∀ older newer answer, history = older ++ ⟨.request, answer⟩ :: newer →
    (answer = .first true ↔ ¬ SlotEntry.Standing ⟨.request, .first true⟩ older)
  /-- A buffer is accepted by a slot that was asked for and accepted none since it was emptied. -/
  install_iff : ∀ older newer buffer answer,
    history = older ++ ⟨.install buffer, answer⟩ :: newer →
    (answer = .offer .installed ↔ SlotEntry.Standing ⟨.request, .first true⟩ older
      ∧ ∀ held, ¬ SlotEntry.Standing ⟨.install held, .offer .installed⟩ older)
  /-- The buffers accepted are those given up, in that order, and the one that is held. -/
  installed_eq : history.filterMap SlotEntry.installed?
    = history.filterMap SlotEntry.taken? ++ slot.buffer?.toList
  /-- In memory the slot gives the same answers, and never has none. -/
  cell_eq : Cell.blank.performAll tasks
    = (history.map fun entry => some entry.answer, Cell.ofSlot slot)

/-- An entry of the history is the answer of a slot that the older ones record. -/
theorem exists_recorded {tasks : List SlotTask} {older newer : List SlotEntry} {entry : SlotEntry}
    (h : (absent.performAll tasks).1 = older ++ entry :: newer) :
    ∃ slot : Slot, slot.Recorded older ∧ entry.answer = (slot.perform entry.task).1 := by
  obtain ⟨slot, hslot, hanswer⟩ := performAll_eq_append h
  have hrecorded := recorded_absent.performAll (older.map SlotEntry.task)
  rw [hslot] at hrecorded
  exact ⟨slot, hrecorded, hanswer⟩

theorem conserved_performAll (tasks : List SlotTask) :
    Conserved tasks (absent.performAll tasks).1 (absent.performAll tasks).2 where
  tasks_eq := map_task_performAll .absent tasks
  lookup_iff older newer answer h buffer := by
    obtain ⟨slot, hslot, hanswer⟩ := exists_recorded h
    rw [← hslot.ready_iff, show answer = .slot slot from hanswer, SlotAnswer.slot.injEq]
  request_iff older newer answer h := by
    obtain ⟨slot, hslot, hanswer⟩ := exists_recorded h
    rw [← hslot.asked_iff, show answer = .first slot.request.1 from hanswer]
    cases slot <;> simp [Slot.request]
  install_iff older newer buffer answer h := by
    obtain ⟨slot, hslot, hanswer⟩ := exists_recorded h
    simp only [← hslot.asked_iff, ← hslot.ready_iff]
    rw [show answer = .offer (slot.install buffer).1 from hanswer]
    cases slot <;> simp [Slot.install]
  installed_eq := (recorded_absent.performAll tasks).installed_eq
  cell_eq := Cell.performAll_ofSlot .absent tasks

end Slot

/-! ### A table of slots -/

namespace SlotTable

variable {table : SlotTable} {index : Nat}

/-! #### One step -/

theorem length_atSlot (table : SlotTable) (index : Nat) (work : Slot → SlotAnswer × Slot) :
    (table.atSlot index work).2.slots.length = table.slots.length := by
  unfold atSlot
  split
  · rfl
  · exact List.length_set

theorem getElem?_atSlot_of_ne {asked : Nat} (h : asked ≠ index)
    (work : Slot → SlotAnswer × Slot) :
    (table.atSlot asked work).2.slots[index]? = table.slots[index]? := by
  unfold atSlot
  split
  · rfl
  · exact List.getElem?_set_ne h

theorem loan_atSlot (table : SlotTable) (index : Nat) (work : Slot → SlotAnswer × Slot) :
    (table.atSlot index work).2.loan = table.loan := by
  unfold atSlot
  split
  · rfl
  · rfl

theorem atSlot_eq {slot : Slot} (hslot : table.slots[index]? = some slot)
    (work : Slot → SlotAnswer × Slot) :
    table.atSlot index work = ((work slot).1, table.set index (work slot).2) := by
  rw [atSlot, hslot]

theorem length_step (table : SlotTable) (step : SlotStep) :
    (table.step step).2.slots.length = table.slots.length := by
  cases step with
  | length => rfl
  | states => rfl
  | take asked => exact List.length_set
  | takeAll => exact (List.length_map _).trans (List.length_map _)
  | _ asked => exact length_atSlot table asked _

theorem loan_step (table : SlotTable) (step : SlotStep) :
    (table.step step).2.loan = table.loan := by
  cases step with
  | length => rfl
  | states => rfl
  | take asked => rfl
  | takeAll => rfl
  | _ asked => exact loan_atSlot table asked _

/-- A step that is not addressed to a slot leaves it as it is. -/
theorem getElem?_step_of_task?_eq_none {step : SlotStep} (h : step.task? index = none) :
    (table.step step).2.slots[index]? = table.slots[index]? := by
  -- A step at an index is not addressed to this slot, so it is at another one.
  cases step with
  | length => rfl
  | states => rfl
  | takeAll => cases h
  | take asked => exact List.getElem?_set_ne fun hsame => nomatch (if_pos hsame).symm.trans h
  | _ asked => exact getElem?_atSlot_of_ne (fun hsame => nomatch (if_pos hsame).symm.trans h) _

/-- A step that is addressed to a slot is answered by this slot. -/
theorem step_of_task?_eq_some {step : SlotStep} {task : SlotTask} {slot : Slot}
    (hslot : table.slots[index]? = some slot) (h : step.task? index = some task) :
    (table.step step).1.about? index = some (slot.perform task).1
      ∧ (table.step step).2.slots[index]? = some (slot.perform task).2 := by
  obtain ⟨hlt, _⟩ := List.getElem?_eq_some_iff.1 hslot
  cases step with
  | length => cases h
  | states =>
      cases h
      refine ⟨?_, hslot⟩
      show ((table.slots.map Slot.state)[index]?).map SlotAnswer.state = _
      rw [List.getElem?_map, hslot]
      rfl
  | takeAll =>
      cases h
      constructor
      · show (((table.slots.map Slot.take).map Prod.fst)[index]?).map SlotAnswer.taken = _
        rw [List.getElem?_map, List.getElem?_map, hslot]
        rfl
      · show ((table.slots.map Slot.take).map Prod.snd)[index]? = _
        rw [List.getElem?_map, List.getElem?_map, hslot]
        rfl
  | take asked =>
      obtain ⟨rfl, hsome⟩ := Option.ite_none_right_eq_some.1 h
      cases hsome
      have hself : table.slot asked = slot := by rw [SlotTable.slot, hslot]; rfl
      simp only [SlotTable.step, hself]
      exact ⟨rfl, List.getElem?_set_self hlt⟩
  | _ asked =>
      obtain ⟨rfl, hsome⟩ := Option.ite_none_right_eq_some.1 h
      cases hsome
      simp only [SlotTable.step, atSlot_eq hslot]
      exact ⟨rfl, List.getElem?_set_self hlt⟩

/-- A step that is addressed to no slot of the table changes nothing at all. -/
theorem step_eq_of_task?_eq_none {step : SlotStep}
    (h : ∀ index < table.slots.length, step.task? index = none) : (table.step step).2 = table := by
  refine SlotTable.ext (loan_step table step) (List.ext_getElem? fun index => ?_)
  rcases Nat.lt_or_ge index table.slots.length with hlt | hge
  · exact getElem?_step_of_task?_eq_none (h index hlt)
  · rw [List.getElem?_eq_none hge, List.getElem?_eq_none ((length_step table step).symm ▸ hge)]

/-! #### Any steps -/

theorem steps_cons (table : SlotTable) (step : SlotStep) (steps : List SlotStep) :
    table.steps (step :: steps)
      = ((table.step step).1 :: ((table.step step).2.steps steps).1,
        ((table.step step).2.steps steps).2) :=
  rfl

theorem length_steps (table : SlotTable) (steps : List SlotStep) :
    (table.steps steps).2.slots.length = table.slots.length := by
  induction steps generalizing table with
  | nil => rfl
  | cons step steps ih => exact (ih _).trans (length_step table step)

theorem steps_append (table : SlotTable) (older newer : List SlotStep) :
    (table.steps (older ++ newer)).2 = ((table.steps older).2.steps newer).2 := by
  induction older generalizing table with
  | nil => rfl
  | cons step older ih => exact ih _

theorem entryOf?_eq_none {step : SlotStep} {answer : SlotAnswer} (h : step.task? index = none) :
    entryOf? index (step, answer) = none := by
  rw [entryOf?, h, Option.bind_none]

theorem entryOf?_eq_some {step : SlotStep} {answer own : SlotAnswer} {task : SlotTask}
    (htask : step.task? index = some task) (hanswer : answer.about? index = some own) :
    entryOf? index (step, answer) = some ⟨task, own⟩ := by
  rw [entryOf?, htask, Option.bind_some, hanswer, Option.map_some]

/-- A slot of a table answers as if it stood alone. -/
theorem steps_slot {slot : Slot} (hslot : table.slots[index]? = some slot)
    (steps : List SlotStep) :
    table.history index steps
        = (slot.performAll (steps.filterMap (SlotStep.task? index))).1
      ∧ (table.steps steps).2.slots[index]?
        = some (slot.performAll (steps.filterMap (SlotStep.task? index))).2 := by
  induction steps generalizing table slot with
  | nil => exact ⟨rfl, hslot⟩
  | cons step steps ih =>
      unfold history
      rw [steps_cons, List.zip_cons_cons]
      cases htask : step.task? index with
      | none =>
          -- The slot does not notice the step, and has no entry for it.
          rw [List.filterMap_cons_none htask, List.filterMap_cons_none (entryOf?_eq_none htask)]
          exact ih ((getElem?_step_of_task?_eq_none htask).trans hslot)
      | some task =>
          obtain ⟨hanswer, hafter⟩ := step_of_task?_eq_some hslot htask
          obtain ⟨hhistory, hlast⟩ := ih hafter
          rw [List.filterMap_cons_some htask, Slot.performAll_cons,
            List.filterMap_cons_some (entryOf?_eq_some htask hanswer)]
          exact ⟨congrArg _ hhistory, hlast⟩

/-! #### Blank tables -/

/-- What any steps do to a table whose slots are all absent. -/
structure Conserves (loan : Loan) (length : Nat) (steps : List SlotStep) : Prop where
  length_eq : ((blank loan length).steps steps).2.slots.length = length
  /-- The history of a slot, and the slot after, are the same for any steps of any table that
  address the same tasks to it. -/
  alone : ∀ index < length, ∀ otherLoan otherLength otherSteps, index < otherLength →
    otherSteps.filterMap (SlotStep.task? index) = steps.filterMap (SlotStep.task? index) →
    (blank otherLoan otherLength).history index otherSteps
        = (blank loan length).history index steps
      ∧ ((blank otherLoan otherLength).steps otherSteps).2.slot index
        = ((blank loan length).steps steps).2.slot index
  /-- A step that is addressed to no slot of the table might as well not have been taken. -/
  beyond : ∀ older step newer, steps = older ++ step :: newer →
    (∀ index < length, step.task? index = none) →
    ((blank loan length).steps steps).2 = ((blank loan length).steps (older ++ newer)).2
  conserved : ∀ index < length, Slot.Conserved (steps.filterMap (SlotStep.task? index))
    ((blank loan length).history index steps) (((blank loan length).steps steps).2.slot index)

/-- The history of a slot of a blank table, and the slot after. -/
theorem steps_blank (loan : Loan) {length : Nat} (h : index < length) (steps : List SlotStep) :
    (blank loan length).history index steps
        = (Slot.absent.performAll (steps.filterMap (SlotStep.task? index))).1
      ∧ ((blank loan length).steps steps).2.slot index
        = (Slot.absent.performAll (steps.filterMap (SlotStep.task? index))).2 := by
  have hslot : (blank loan length).slots[index]? = some .absent :=
    List.getElem?_replicate_of_lt h
  obtain ⟨hhistory, hlast⟩ := steps_slot hslot steps
  exact ⟨hhistory, congrArg (·.getD .absent) hlast⟩

/-- Whatever is done to a table whose slots are all absent, each slot keeps its own account. -/
theorem steps_conserve (loan : Loan) (length : Nat) (steps : List SlotStep) :
    Conserves loan length steps where
  length_eq := (length_steps _ steps).trans List.length_replicate
  alone index h otherLoan otherLength otherSteps hother heq := by
    obtain ⟨hhistory, hslot⟩ := steps_blank loan h steps
    obtain ⟨hhistory', hslot'⟩ := steps_blank otherLoan hother otherSteps
    rw [heq] at hhistory' hslot'
    exact ⟨hhistory'.trans hhistory.symm, hslot'.trans hslot.symm⟩
  beyond older step newer heq hnone := by
    rw [heq, steps_append, steps_append, steps_cons, step_eq_of_task?_eq_none]
    rwa [length_steps, show (blank loan length).slots.length = length from List.length_replicate]
  conserved index h := by
    obtain ⟨hhistory, hslot⟩ := steps_blank loan h steps
    rw [hhistory, hslot]
    exact Slot.conserved_performAll _

end SlotTable

end PooledArena
