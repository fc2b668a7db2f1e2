import PooledArena.Arena.Usage
import PooledArena.Proofs.Run

/-!
# `PooledArena.Proofs.Usage`: an arena in use is the arena of its run

The deeds of a run lead where its operations do: `Run.usage_deeds`. Nothing that an arena does
looks at a byte, so writes to its blocks make no difference to it. Whatever is written between
the deeds of a run, the arena, the dealings with the host and the blocks are those of the run
(`Run.usage_interleaved`). Only the bytes may differ.
-/

set_option autoImplicit false

namespace PooledArena

/-! ### Single deeds -/

/-- The block that comes of a booking, once the buffer is there. -/
def Booking.block (booking : Booking) (buffer : Addr) (moreNeeded : Bool) : Block :=
  ⟨booking.place.index, buffer, Word.alignUp booking.place.offset booking.align, booking.size,
    moreNeeded⟩

namespace Usage

/-- A look takes the block, finds that there is none to wait for, or changes nothing. -/
theorem look_cases {β : Type} (usage : Usage β) :
    usage.look = usage ∨ usage.look = { usage with booking := none }
      ∨ ∃ booking buffer, usage.booking = some booking
        ∧ usage.system.arena.table.slot booking.place.index = .ready buffer
        ∧ usage.look = {
            usage with
            system := {
              usage.system with
              arena := (usage.system.arena.request (booking.place.index + 1)).2
            }
            booking := none
            blocks := usage.blocks ++ [booking.block buffer
              (usage.system.arena.request (booking.place.index + 1)).1]
          } := by
  unfold look
  split
  · exact .inl rfl
  · rename_i booking hbooking
    split
    · exact .inl rfl
    · exact .inr (.inl rfl)
    · rename_i buffer hready
      exact .inr (.inr ⟨booking, buffer, hbooking, hready, rfl⟩)

end Usage

/-! ### Several deeds -/

namespace Usage

variable {β : Type} [Backing β] (usage : Usage β)

@[simp]
theorem steps_nil : usage.steps [] = usage :=
  rfl

@[simp]
theorem steps_cons (deed : Deed) (deeds : List Deed) :
    usage.steps (deed :: deeds) = (usage.step deed).steps deeds :=
  rfl

@[simp]
theorem steps_append (first second : List Deed) :
    usage.steps (first ++ second) = (usage.steps first).steps second :=
  List.foldl_append

theorem steps_replicate_inject (times : Nat) : usage.steps (List.replicate times .inject)
    = { usage with system := (usage.system.injectTimes times).2 } := by
  induction times generalizing usage with
  | zero => rfl
  | succ times ih =>
      rw [List.replicate_succ, steps_cons, ih]
      rfl

end Usage

/-! ### The deeds of a run -/

namespace System

variable {β : Type} [Backing β] {sys later : System β}

theorem length_injectTimes (sys : System β) (times : Nat) :
    (sys.injectTimes times).1.length = times := by
  induction times generalizing sys with
  | zero => rfl
  | succ times ih => exact congrArg (· + 1) (ih sys.inject.2)

/-- The deeds of an allocation lead where the allocation does, and hand out its block. -/
theorem Allocation.steps_deeds {size align : Word} {attempt : Attempt}
    (h : Allocation sys size align attempt later) (blocks : List Block)
    (fills : List (Nat × UInt8)) :
    ({ system := sys, booking := none, blocks, fills } : Usage β).steps
        (Entry.alloc size align attempt).deeds
      = { system := later, booking := none, blocks := blocks ++ attempt.block?.toList, fills } := by
  cases h with
  | rejected haccept =>
      simp [Entry.deeds, Attempt.failure, Attempt.block?, Usage.step, Usage.book, Usage.look,
        haccept]
  | exhausted haccept hreserve =>
      simp [Entry.deeds, Attempt.failure, Attempt.block?, Usage.step, Usage.book, Usage.look,
        haccept, hreserve, moveTo]
  | @absent extent cursor straddles place haccept hreserve habsent =>
      have hslot : (sys.arena.moveTo cursor).table.slot place.index = .absent := habsent
      simp [Entry.deeds, Attempt.failure, Attempt.block?, Usage.step, Usage.book, Usage.look,
        haccept, hreserve, hslot, moveTo]
  | abandoned relaxes times haccept hreserve hpending =>
      -- There is no look after the last turn, even if it has brought the buffer.
      simp [Entry.deeds, Attempt.block?, Usage.step, Usage.book, haccept, hreserve,
        Usage.steps_replicate_inject, length_injectTimes, moveTo]
  | granted relaxes times haccept hreserve hready hwait =>
      simp only [moveTo] at hready
      simp [Entry.deeds, Attempt.block?, Usage.step, Usage.book, Usage.look, haccept, hreserve,
        Usage.steps_replicate_inject, length_injectTimes, moveTo, hready]

theorem steps_perform (sys : System β) (operation : Operation) (blocks : List Block)
    (fills : List (Nat × UInt8)) :
    ({ system := sys, booking := none, blocks, fills } : Usage β).steps
        (sys.perform operation).1.deeds
      = {
          system := (sys.perform operation).2
          booking := none
          blocks := blocks ++ (sys.perform operation).1.block?.toList
          fills
        } := by
  cases operation with
  | alloc size align schedule => exact (sys.alloc_spec size align schedule).steps_deeds blocks fills
  | inject =>
      show Usage.mk _ _ _ _ = Usage.mk _ _ (blocks ++ []) _
      rw [List.append_nil]
      rfl

end System

namespace Run

variable {β : Type} [Backing β] (run : Run β)

/-- Without writes, an arena in use comes where its run comes. -/
theorem usage_deeds : run.usage run.deeds
    = { system := run.final, booking := none, blocks := run.blocks, fills := [] } := by
  induction run using Run.induct with
  | opening run hnone hopening =>
      unfold usage deeds
      rw [hnone, hopening, run.blocks_eq_nil hnone]
      rfl
  | andThen run operation ih =>
      have hdeeds : (run.andThen [operation]).deeds
          = run.deeds ++ (run.final.perform operation).1.deeds := by
        unfold deeds
        rw [transcript_step, List.flatMap_append]
        simp
      -- The deeds so far lead to the end of the run so far, and the new ones go on from there.
      have hsplit : (run.andThen [operation]).usage (run.andThen [operation]).deeds
          = (run.usage run.deeds).steps (run.final.perform operation).1.deeds := by
        rw [hdeeds]
        exact Usage.steps_append _ _ _
      rw [hsplit, ih, System.steps_perform, final_step, blocks_step]

end Run

/-! ### Calls -/

namespace Usage

variable {β : Type} (usage : Usage β)

theorem calls_book (size align : Word) :
    (usage.book size align).system.host.calls = usage.system.host.calls := by
  unfold book
  split
  · rfl
  · dsimp only
    split
    · rfl
    · rfl

theorem calls_look : usage.look.system.host.calls = usage.system.host.calls := by
  rcases usage.look_cases with hsame | hleft | ⟨booking, buffer, hbooking, hready, htaken⟩
  · rw [hsame]
  · rw [hleft]
  · rw [htaken]

theorem calls_fill (number : Nat) (byte : UInt8) :
    (usage.fill number byte).system.host.calls = usage.system.host.calls := by
  unfold fill
  split
  · rfl
  · rfl

theorem exists_calls_step [Backing β] (deed : Deed) : ∃ calls,
    (usage.step deed).system.host.calls = calls ++ usage.system.host.calls := by
  cases deed with
  | book size align => exact ⟨[], usage.calls_book size align⟩
  | look => exact ⟨[], usage.calls_look⟩
  | leave => exact ⟨[], rfl⟩
  | inject => exact usage.system.inject_spec.exists_calls
  | fill number byte => exact ⟨[], usage.calls_fill number byte⟩

/-- What was called up to some point is the older part of what is called later. -/
theorem exists_calls_steps [Backing β] (deeds : List Deed) : ∃ calls,
    (usage.steps deeds).system.host.calls = calls ++ usage.system.host.calls := by
  induction deeds generalizing usage with
  | nil => exact ⟨[], rfl⟩
  | cons deed deeds ih =>
      obtain ⟨newer, hnewer⟩ := ih (usage.step deed)
      obtain ⟨calls, hcalls⟩ := usage.exists_calls_step deed
      refine ⟨newer ++ calls, ?_⟩
      rw [steps_cons, hnewer, hcalls, List.append_assoc]

end Usage

/-! ### Other bytes -/

namespace Usage

variable {β : Type}

/-- The same usage with other bytes, and other writes that account for them. -/
def withBytes (usage : Usage β) (memory : Memory) (fills : List (Nat × UInt8)) : Usage β :=
  {
    usage with
    system := { usage.system with host := { usage.system.host with memory } }
    fills
  }

/-- A write leaves all as it is but the bytes. -/
theorem fill_eq (usage : Usage β) (number : Nat) (byte : UInt8) :
    ∃ memory fills, usage.fill number byte = usage.withBytes memory fills := by
  unfold fill
  split
  · exact ⟨usage.system.host.memory, usage.fills, rfl⟩
  · exact ⟨_, _, rfl⟩

end Usage

variable {β : Type} [Backing β]

/-- An injection does not look at the bytes. -/
theorem System.inject_withMemory (arena : Arena) (host : Host β) (memory : Memory) :
    ∃ later, (System.mk arena { host with memory }).inject.2
      = ⟨(System.mk arena host).inject.2.arena,
          { (System.mk arena host).inject.2.host with memory := later }⟩ := by
  unfold inject Host.allocate
  dsimp only
  cases Backing.allocate arena.geometry.bufferLayout host.backing with
  | mk addr? backing =>
      cases addr? with
      | none => exact ⟨_, rfl⟩
      | some addr =>
          dsimp only
          cases arena.install addr with
          | mk index? taken =>
              cases index? with
              | none => exact ⟨_, rfl⟩
              | some index => exact ⟨_, rfl⟩

namespace Usage

variable (usage : Usage β) (memory : Memory) (fills : List (Nat × UInt8))

/-- What an arena does, it does whatever the bytes are. -/
theorem step_withBytes {deed : Deed} (h : deed.isFill = false) :
    ∃ later, (usage.withBytes memory fills).step deed
      = (usage.step deed).withBytes later fills := by
  cases deed with
  | book size align =>
      refine ⟨memory, ?_⟩
      simp only [step, book, withBytes]
      cases usage.system.arena.geometry.accept size align with
      | error error => rfl
      | ok extent =>
          dsimp only
          cases (usage.system.arena.geometry.reserve extent usage.system.arena.cursor).landing with
          | exhausted => rfl
          | settled place => rfl
  | look =>
      refine ⟨memory, ?_⟩
      obtain ⟨sys, booking, blocks, _⟩ := usage
      simp only [step, look, withBytes]
      cases booking with
      | none => rfl
      | some booking =>
          dsimp only
          cases sys.arena.table.slot booking.place.index with
          | absent => rfl
          | pending => rfl
          | ready buffer => rfl
  | leave => exact ⟨memory, rfl⟩
  | inject =>
      obtain ⟨later, hlater⟩ :=
        System.inject_withMemory usage.system.arena usage.system.host memory
      exact ⟨later, congrArg ({ usage with system := ·, fills }) hlater⟩
  | fill number byte => cases h

theorem steps_withBytes {deeds : List Deed} (h : ∀ deed ∈ deeds, deed.isFill = false) :
    ∃ later, (usage.withBytes memory fills).steps deeds
      = (usage.steps deeds).withBytes later fills := by
  induction deeds generalizing usage memory with
  | nil => exact ⟨memory, rfl⟩
  | cons deed deeds ih =>
      obtain ⟨between, hfirst⟩ := usage.step_withBytes memory fills (h deed List.mem_cons_self)
      rw [steps_cons, steps_cons, hfirst]
      exact ih (usage.step deed) between fun other hother => h other (List.mem_cons_of_mem _ hother)

/-- Without the writes between them, the same deeds differ in the bytes at most. -/
theorem steps_filter (deeds : List Deed) : ∃ memory fills,
    usage.steps deeds = (usage.steps (deeds.filter (!·.isFill))).withBytes memory fills := by
  induction deeds generalizing usage with
  | nil => exact ⟨usage.system.host.memory, usage.fills, rfl⟩
  | cons deed deeds ih =>
      obtain ⟨memory, fills, hrest⟩ := ih (usage.step deed)
      rw [steps_cons, hrest]
      cases hfill : deed.isFill with
      | false => exact ⟨memory, fills, by simp [hfill]⟩
      | true =>
          -- The write changes bytes, and what is done after it goes on with those.
          have hsame : ∃ memory fills, usage.step deed = usage.withBytes memory fills := by
            cases deed with
            | fill number byte => exact usage.fill_eq number byte
            | _ => cases hfill
          obtain ⟨written, fills', hwritten⟩ := hsame
          have hnone : ∀ other ∈ deeds.filter (!·.isFill), other.isFill = false := by
            intro other hother
            simpa using (List.mem_filter.1 hother).2
          obtain ⟨later, hlater⟩ := usage.steps_withBytes written fills' hnone
          refine ⟨memory, fills, ?_⟩
          rw [hwritten, hlater]
          simp [hfill, withBytes]

end Usage

/-- A run that is written to is the same run, but for the bytes. -/
theorem Run.usage_interleaved (run : Run β) {deeds : List Deed}
    (h : deeds.filter (!·.isFill) = run.deeds) : ∃ memory fills,
    run.usage deeds = {
      system := { run.final with host := { run.final.host with memory } }
      booking := none
      blocks := run.blocks
      fills
    } := by
  obtain ⟨memory, fills, hsteps⟩ := (Usage.ofSystem run.opening).steps_filter deeds
  have hrun := run.usage_deeds
  rw [← h] at hrun
  refine ⟨memory, fills, ?_⟩
  show (Usage.ofSystem run.opening).steps deeds = _
  rw [hsteps]
  exact congrArg (·.withBytes memory fills) hrun

end PooledArena
