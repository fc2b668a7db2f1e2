import PooledArena.Arena.Run
import PooledArena.Backing.Scripted
import PooledArena.Proofs.Creation
import Mathlib.Data.List.Induction

/-!
# `PooledArena.Proofs.Run`: how to induct over a run

`Run.induct` is the induction over runs by their last operation: what a creation
establishes and every operation keeps holds at the end of every run.
-/

set_option autoImplicit false

namespace PooledArena

variable {β : Type} [Backing β]

/-! ### Operations in a row -/

namespace System

theorem performAll_append (sys : System β) (first second : List Operation) :
    sys.performAll (first ++ second)
      = ((sys.performAll first).1 ++ ((sys.performAll first).2.performAll second).1,
          ((sys.performAll first).2.performAll second).2) := by
  induction first generalizing sys with
  | nil => rfl
  | cons operation first ih =>
      show ((sys.perform operation).1 :: ((sys.perform operation).2.performAll (first ++ second)).1,
        ((sys.perform operation).2.performAll (first ++ second)).2) = _
      rw [ih]
      rfl

end System

namespace Run

theorem transcript_andThen (run : Run β) (later : List Operation) :
    (run.andThen later).transcript = run.transcript ++ (run.final.performAll later).1 := by
  show (run.opening.performAll (run.operations ++ later)).1 = _
  rw [System.performAll_append]
  rfl

theorem final_andThen (run : Run β) (later : List Operation) :
    (run.andThen later).final = (run.final.performAll later).2 := by
  show (run.opening.performAll (run.operations ++ later)).2 = _
  rw [System.performAll_append]
  rfl

theorem transcript_step (run : Run β) (operation : Operation) : (run.andThen [operation]).transcript
    = run.transcript ++ [(run.final.perform operation).1] :=
  run.transcript_andThen [operation]

theorem final_step (run : Run β) (operation : Operation) : (run.andThen [operation]).final
    = (run.final.perform operation).2 :=
  run.final_andThen [operation]

theorem blocks_step (run : Run β) (operation : Operation) : (run.andThen [operation]).blocks
    = run.blocks ++ (run.final.perform operation).1.block?.toList := by
  unfold blocks
  rw [transcript_step, List.filterMap_append]
  cases hblock : (run.final.perform operation).1.block? with
  | none => simp [hblock]
  | some block => simp [hblock]

theorem mem_blocks_step (run : Run β) {operation : Operation} {block : Block} :
    block ∈ (run.andThen [operation]).blocks
      ↔ block ∈ run.blocks ∨ block ∈ (run.final.perform operation).1.block? := by
  rw [blocks_step, List.mem_append, Option.mem_toList, Option.mem_def]

theorem blocks_eq_nil (run : Run β) (h : run.transcript = []) : run.blocks = [] := by
  unfold blocks
  rw [h]
  rfl

/-- The operations of a run are changes of what its creation left behind. -/
theorem changes (run : Run β) : System.Changes run.opening run.filled run.final :=
  run.opening.performAll_changes run.operations

theorem geometry_final (run : Run β) : run.final.arena.geometry = run.geometry :=
  run.changes.frame.geometry_eq

/-- Induction over runs by their last operation. -/
theorem induct {motive : Run β → Prop}
    (opening : ∀ run : Run β, run.transcript = [] → run.final = run.opening → motive run)
    (andThen : ∀ (run : Run β) (operation : Operation), motive run →
      motive (run.andThen [operation]))
    (run : Run β) : motive run := by
  obtain ⟨label, poolCount, minPoolSize, host, sys, create_eq, operations⟩ := run
  induction operations using List.reverseRecOn with
  | nil => exact opening _ rfl rfl
  | append_singleton operations operation ih => exact andThen _ operation ih

/-- What an entry brings about, and later operations keep, holds at the end. -/
theorem of_entry {cause : Entry → Prop} {motive : System β → Prop} (run : Run β)
    (brings : ∀ (run : Run β) (operation : Operation), cause (run.final.perform operation).1 →
      motive (run.final.perform operation).2)
    (keeps : ∀ (run : Run β) (operation : Operation), motive run.final →
      motive (run.final.perform operation).2)
    (h : ∃ entry ∈ run.transcript, cause entry) : motive run.final := by
  induction run using Run.induct with
  | opening run hnone hopening =>
      obtain ⟨entry, hentry, _⟩ := h
      rw [hnone] at hentry
      cases hentry
  | andThen run operation ih =>
      obtain ⟨entry, hentry, hcause⟩ := h
      rw [transcript_step, List.mem_append, List.mem_singleton] at hentry
      rw [final_step]
      rcases hentry with hold | rfl
      · exact keeps run operation (ih ⟨entry, hold, hcause⟩)
      · exact brings run operation hcause

/-- Three pools of 64 bytes each, on a backing that never fails. -/
def smooth : Run Scripted :=
  (start? "smooth" 3 64 (Host.ofBacking (Scripted.ofScript .smooth))).get (by decide +kernel)

/-- Three pools of 64 bytes each, on a backing that refuses its third request. The buffers lie
from `base` on. -/
def grudging (base : Addr) : Option (Run Scripted) :=
  start? "grudging" 3 64
    (Host.ofBacking (Scripted.ofScript { Script.smooth with base, failingCalls := [2] }))

/-- The same, with the buffers from 4096 on. -/
def reluctant : Run Scripted :=
  (grudging 4096).get (by decide +kernel)

end Run

end PooledArena
