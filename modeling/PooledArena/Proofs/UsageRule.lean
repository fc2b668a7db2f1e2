import PooledArena.Proofs.Visits

/-!
# `PooledArena.Proofs.UsageRule`: what comes of answering every signal at once

The usage rule of an arena is about its signals. A block that asks for the next pool is
answered by one injection before the next allocation, and nothing else is injected. An
injection that the backing refuses brings nothing, so it answers nothing either.
`Standing` is a ledger of this: it goes through the entries of a run, keeps the block
whose answer is due, and remembers whether the rule was ever broken.

While the rule is kept, the table has the same ledger: the pool that waits for a buffer
is the one behind the block whose answer is due, and where no answer is due none waits
(`KeepsUsageRule.awaits`). So an allocation never comes upon a pending pool, and an
injection always finds the one that it is meant for. `Run.usageRule_never_waits` says
this for all entries of a run, and goes on to its end: where the sizing rule is kept as
well, an arena has no room left only when each of its pools was brought in and used.
-/

set_option autoImplicit false

namespace PooledArena

/-! ### The rule -/

namespace Entry

/-- Whether the entry is about an injection that the backing served. -/
def isServed : Entry → Bool
  | alloc _ _ _ => false
  | inject (.error .allocatorError) => false
  | inject _ => true

theorem inject_isServed_eq_false_iff {result : Except Error Nat} :
    (inject result).isServed = false ↔ result = .error .allocatorError := by
  cases result with
  | ok index => simp [isServed]
  | error error => cases error <;> simp [isServed]

/-- The allocation did not wait, or the injection was not one too many: it filled a pool,
unless the backing refused. -/
def Undisturbed : Entry → Prop
  | alloc _ _ attempt => attempt.AtOnce
  | inject result => result = .error .allocatorError ∨ ∃ pool, result = .ok pool

theorem Undisturbed.borne {entry : Entry} (h : entry.Undisturbed) :
    entry.outcome? ≠ some .abandoned := by
  cases entry with
  | alloc size align attempt =>
      intro houtcome
      exact Attempt.AtOnce.borne h (Option.some.inj houtcome)
  | inject result =>
      intro houtcome
      cases houtcome

theorem Undisturbed.length_filled {entry : Entry} (h : entry.Undisturbed) :
    entry.filled.length = entry.isServed.toNat := by
  cases entry with
  | alloc size align attempt =>
      have hnone := Attempt.AtOnce.injections_eq h
      simp [filled, injections, hnone, isServed]
  | inject result =>
      rcases h with rfl | ⟨pool, rfl⟩
      · rfl
      · rfl

/-- As many pools were filled as injections were served. -/
theorem length_flatMap_filled {entries : List Entry} (h : ∀ entry ∈ entries, entry.Undisturbed) :
    (entries.flatMap filled).length = entries.countP isServed := by
  induction entries with
  | nil => rfl
  | cons entry entries ih =>
      have hfirst := (h entry List.mem_cons_self).length_filled
      have hrest := ih fun other hother => h other (List.mem_cons_of_mem entry hother)
      rw [List.flatMap_cons, List.length_append, hfirst, hrest, List.countP_cons]
      cases entry.isServed with
      | false => simp
      | true => simp [Nat.add_comm]

end Entry

/-- How a run stands with the usage rule. -/
inductive Standing where
  /-- No answer is due. -/
  | clear
  /-- The block has asked for the next pool, and the answer is due. -/
  | owing (block : Block)
  /-- The rule was broken. -/
  | broken
  deriving DecidableEq

namespace Standing

variable {standing : Standing} {block : Block}

/-- A block leaves an answer due if it has asked for the next pool. -/
def ofBlock : Option Block → Standing
  | some block => if block.moreNeeded then owing block else clear
  | none => clear

/-- The standing after one entry more. No allocation may come while an answer is due,
and an injection that is served must be an answer. One that the backing refuses brings
nothing, and leaves the matter as it is. -/
def next : Standing → Entry → Standing
  | clear, .alloc _ _ attempt => ofBlock attempt.block?
  | clear, .inject result => if (Entry.inject result).isServed then broken else clear
  | owing _, .alloc _ _ _ => broken
  | owing block, .inject result => if (Entry.inject result).isServed then clear else owing block
  | broken, _ => broken

theorem ofBlock_eq_owing_iff {handed : Option Block} :
    ofBlock handed = owing block ↔ handed = some block ∧ block.moreNeeded = true := by
  cases handed with
  | none => simp [ofBlock]
  | some newest =>
      simp only [ofBlock, Option.some.injEq]
      split
      · rename_i hmore
        simp only [owing.injEq]
        constructor
        · rintro rfl
          exact ⟨rfl, hmore⟩
        · exact And.left
      · rename_i hquiet
        simp only [reduceCtorEq, false_iff]
        rintro ⟨rfl, hmore⟩
        exact hquiet hmore

theorem ne_broken_of_next {entry : Entry} (h : standing.next entry ≠ broken) :
    standing ≠ broken := by
  rintro rfl
  exact h rfl

/-- A rule that was broken stays broken. -/
theorem ne_broken_of_foldl {entries : List Entry}
    (h : entries.foldl next standing ≠ broken) : standing ≠ broken := by
  induction entries generalizing standing with
  | nil => exact h
  | cons entry entries ih => exact ne_broken_of_next (ih h)

theorem eq_clear_of_alloc {size align : Word} {attempt : Attempt}
    (h : standing.next (.alloc size align attempt) ≠ broken) : standing = clear := by
  cases standing with
  | clear => rfl
  | owing block => exact absurd rfl h
  | broken => exact absurd rfl h

theorem exists_owing_of_inject {result : Except Error Nat}
    (h : standing.next (.inject result) ≠ broken)
    (hserved : (Entry.inject result).isServed = true) :
    ∃ block, standing = owing block ∧ standing.next (.inject result) = clear := by
  cases standing with
  | clear => simp [next, hserved] at h
  | owing block => exact ⟨block, rfl, by simp [next, hserved]⟩
  | broken => exact absurd rfl h

theorem next_of_refused {result : Except Error Nat} (h : (Entry.inject result).isServed = false) :
    standing.next (.inject result) = standing := by
  cases standing with
  | clear => simp [next, h]
  | owing block => simp [next, h]
  | broken => rfl

end Standing

/-- The table waits for the answer that is due, and for nothing else. -/
def SlotTable.Awaits (table : SlotTable) (standing : Standing) : Prop :=
  ∀ index, table.slot index = .pending ↔ ∃ block, standing = .owing block ∧ index = block.pool + 1

namespace SlotTable.Awaits

variable {table : SlotTable} {block : Block}

theorem slot_ne_pending (h : table.Awaits .clear) (index : Nat) :
    table.slot index ≠ .pending := by
  rw [Ne, h index]
  simp

theorem slot_eq_pending (h : table.Awaits (.owing block)) :
    table.slot (block.pool + 1) = .pending :=
  (h _).2 ⟨block, rfl, rfl⟩

theorem of_slot_ne_pending (h : ∀ index, table.slot index ≠ .pending) : table.Awaits .clear := by
  intro index
  simp [h index]

theorem hasPending_eq_false {stage : Stage} (h : table.Awaits .clear)
    (hstage : table.AtStage stage) : table.hasPending = false :=
  hstage.hasPending_eq_false h.slot_ne_pending

end SlotTable.Awaits

/-! ### One operation -/

namespace System

variable {β : Type} [Backing β] {sys later : System β} {result : Except Error Nat}

/-- Where nothing is due, an allocation leaves due what its block has asked for. -/
theorem Allocation.awaits {size align : Word} {attempt : Attempt}
    (h : Allocation sys size align attempt later) (hawaits : sys.arena.table.Awaits .clear) :
    later.arena.table.Awaits (Standing.ofBlock attempt.block?) := by
  cases h with
  | rejected haccept => exact hawaits
  | exhausted haccept hreserve => exact hawaits
  | absent haccept hreserve habsent => exact hawaits
  | abandoned relaxes times haccept hreserve hpending =>
      exact absurd hpending (hawaits.slot_ne_pending _)
  | @granted extent cursor straddles place buffer relaxes times haccept hreserve hready hwait =>
      rcases hwait with hpending | ⟨rfl, rfl⟩
      · exact absurd hpending (hawaits.slot_ne_pending _)
      · intro index
        show (sys.arena.table.request (place.index + 1)).2.slot index = .pending ↔ _
        rw [SlotTable.slot_request_pending_iff]
        simp only [Standing.ofBlock_eq_owing_iff, hawaits.slot_ne_pending, false_or]
        -- The block that is handed out says whether the request was the first.
        constructor
        · rintro ⟨hfirst, rfl⟩
          exact ⟨_, ⟨rfl, hfirst⟩, rfl⟩
        · rintro ⟨block, ⟨hblock, hmore⟩, rfl⟩
          cases hblock
          exact ⟨hmore, rfl⟩

theorem Injection.served_iff (h : Injection sys result later) :
    sys.Served ↔ (Entry.inject result).isServed = true := by
  unfold Served
  cases h with
  | refused hallocate => simp [hallocate, Entry.isServed]
  | installed hallocate hinstall => simp [hallocate, Entry.isServed]
  | returned hallocate hinstall => simp [hallocate, Entry.isServed]

theorem Injection.arena_eq_of_refused (h : Injection sys result later)
    (hserved : (Entry.inject result).isServed = false) : later.arena = sys.arena := by
  cases h with
  | refused hallocate => rfl
  | installed hallocate hinstall => cases hserved
  | returned hallocate hinstall => cases hserved

/-- An injection that is served goes to the pool that waits, and none waits after it. -/
theorem Injection.answers {stage : Stage} {block : Block} (h : Injection sys result later)
    (hserved : (Entry.inject result).isServed = true) (hstage : sys.arena.table.AtStage stage)
    (hawaits : sys.arena.table.Awaits (.owing block)) :
    result = .ok (block.pool + 1) ∧ later.arena.table.Awaits .clear := by
  rcases h.of_pending hstage hawaits.slot_eq_pending with rfl | rfl
  · refine ⟨rfl, ?_⟩
    cases h with
    | @installed host buffer index hallocate hinstall =>
        exact .of_slot_ne_pending (hstage.slot_offer_ne_pending buffer)
  · cases hserved

/-- The table and the ledger go together through an operation that keeps the rule. -/
theorem perform_awaits {stage : Stage} {standing : Standing} {operation : Operation}
    (hstage : sys.arena.table.AtStage stage) (hawaits : sys.arena.table.Awaits standing)
    (hkept : standing.next (sys.perform operation).1 ≠ .broken) :
    (sys.perform operation).2.arena.table.Awaits (standing.next (sys.perform operation).1) := by
  cases operation with
  | alloc size align schedule =>
      obtain rfl := Standing.eq_clear_of_alloc hkept
      exact (sys.alloc_spec size align schedule).awaits hawaits
  | inject =>
      have hspec := sys.inject_spec
      have hkept : standing.next (.inject sys.inject.1) ≠ .broken := hkept
      show sys.inject.2.arena.table.Awaits (standing.next (.inject sys.inject.1))
      cases hserved : (Entry.inject sys.inject.1).isServed with
      | false =>
          rw [hspec.arena_eq_of_refused hserved, Standing.next_of_refused hserved]
          exact hawaits
      | true =>
          obtain ⟨block, rfl, hclear⟩ := Standing.exists_owing_of_inject hkept hserved
          rw [hclear]
          exact (hspec.answers hserved hstage hawaits).2

end System

/-! ### Along a run -/

namespace Run

variable {β : Type} [Backing β] (run : Run β)

/-- How the run stands with the usage rule at its end. -/
def standing : Standing :=
  run.transcript.foldl Standing.next .clear

/-- Every block that asked for a pool was answered by one injection before the next
allocation, and nothing else was injected. The last answer may still be due. -/
def KeepsUsageRule : Prop :=
  run.standing ≠ .broken

instance : Decidable run.KeepsUsageRule :=
  inferInstanceAs (Decidable (run.standing ≠ .broken))

theorem standing_andThen (operation : Operation) (later : List Operation) :
    (run.andThen (operation :: later)).standing
      = ((run.final.perform operation).2.performAll later).1.foldl Standing.next
          (run.standing.next (run.final.perform operation).1) := by
  unfold standing
  rw [transcript_andThen, List.foldl_append]
  rfl

namespace KeepsUsageRule

variable {run}

theorem of_andThen {operation : Operation} {later : List Operation}
    (h : (run.andThen (operation :: later)).KeepsUsageRule) :
    run.standing.next (run.final.perform operation).1 ≠ .broken ∧ run.KeepsUsageRule := by
  unfold KeepsUsageRule at h
  rw [standing_andThen] at h
  have hnext := Standing.ne_broken_of_foldl h
  exact ⟨hnext, Standing.ne_broken_of_next hnext⟩

/-- A pool waits for its buffer if and only if the answer to the block that asked for it
is due. -/
theorem awaits (h : run.KeepsUsageRule) : run.final.arena.table.Awaits run.standing := by
  induction run using Run.induct with
  | opening run hnone hopening =>
      obtain ⟨buffer, hcreated⟩ := create_spec run.create_eq
      have hstanding : run.standing = .clear := by
        unfold standing
        rw [hnone]
        rfl
      rw [hopening, hstanding]
      -- The creation fills the only pool that it asks for.
      refine .of_slot_ne_pending fun index => ?_
      simp [hcreated.atStage.slot_eq_pending_iff]
  | andThen run operation ih =>
      obtain ⟨hnext, hbefore⟩ := h.of_andThen
      obtain ⟨stage, hstage, _⟩ := run.exists_stage
      rw [final_step, standing_andThen]
      exact System.perform_awaits hstage (ih hbefore) hnext

theorem awaits_clear (h : run.KeepsUsageRule) (hclear : run.standing = .clear) :
    run.final.arena.table.Awaits .clear := by
  rw [← hclear]
  exact h.awaits

/-- An injection that is served answers the block that it is due to, with its pool. -/
theorem inject_eq_ok (h : run.KeepsUsageRule) {block : Block}
    (howing : run.standing = .owing block) (hserved : run.final.Served) :
    run.final.inject.1 = .ok (block.pool + 1) := by
  obtain ⟨stage, hstage, _⟩ := run.exists_stage
  have hawaits := h.awaits
  rw [howing] at hawaits
  have hspec := run.final.inject_spec
  exact (hspec.answers (hspec.served_iff.1 hserved) hstage hawaits).1

/-- While the rule is kept, no allocation waits, and no injection is one too many. -/
theorem undisturbed (h : run.KeepsUsageRule) : ∀ entry ∈ run.transcript, entry.Undisturbed := by
  induction run using Run.induct with
  | opening run hnone hopening =>
      intro entry hentry
      rw [hnone] at hentry
      cases hentry
  | andThen run operation ih =>
      intro entry hentry
      obtain ⟨hnext, hbefore⟩ := h.of_andThen
      rw [transcript_step, List.mem_append, List.mem_singleton] at hentry
      rcases hentry with hold | rfl
      · exact ih hbefore entry hold
      · cases operation with
        | alloc size align schedule =>
            -- No answer was due, so no pool waited, and the allocation had no reason to.
            exact (run.final.alloc_spec size align schedule).atOnce
              (hbefore.awaits_clear (Standing.eq_clear_of_alloc hnext)).slot_ne_pending
        | inject =>
            cases hserved : (Entry.inject run.final.inject.1).isServed with
            | false => exact .inl (Entry.inject_isServed_eq_false_iff.1 hserved)
            | true =>
                obtain ⟨block, howing, _⟩ := Standing.exists_owing_of_inject hnext hserved
                have hanswer := hbefore.inject_eq_ok howing
                  (run.final.inject_spec.served_iff.2 hserved)
                exact .inr ⟨block.pool + 1, hanswer⟩

/-- There was one injection for every pool but the first. -/
theorem countP_isServed (h : run.KeepsUsageRule) {stage : Stage}
    (hstage : run.final.arena.table.AtStage stage) :
    run.transcript.countP Entry.isServed + 1 = stage.held.length := by
  -- The pools that were filled are those with a buffer, and the creation filled the first.
  obtain ⟨same, hsame, hfilled⟩ := run.exists_stage
  have hlength := congrArg List.length hfilled
  rw [List.length_cons, List.length_range, ← hsame.readyCount_eq, hstage.readyCount_eq] at hlength
  rw [← hlength, ← Entry.length_flatMap_filled h.undisturbed]
  rfl

end KeepsUsageRule

/-- A run that answers every signal in time never waits. No pool is pending when an
allocation begins, so none of them has anything to wait for. An injection that the
backing serves answers a block, and brings in the pool behind the one of the block: it
is never one too many. If all requests keep to the sizing rule as well, an arena that
has no room left has used all that it has. Each pool has its buffer and has handed out a
block from it; there was one injection for every pool but the first; no pool waits, and
all bytes count as reserved. -/
theorem usageRule_never_waits (h : run.KeepsUsageRule) :
    (∀ entry ∈ run.transcript, entry.Undisturbed)
      ∧ (∀ (before : Run β) (size align : Word) (schedule : Schedule) (later : List Operation),
          run = before.andThen (.alloc size align schedule :: later) →
            before.final.arena.needsInjection = false)
      ∧ (∀ (before : Run β) (later : List Operation), run = before.andThen (.inject :: later) →
          before.final.Served → ∃ block, before.standing = .owing block
            ∧ before.final.inject.1 = .ok (block.pool + 1))
      ∧ ((∀ operation ∈ run.operations, operation.KeepsSizingRule run.geometry) →
          run.Failed .capacityExhausted →
            (∀ index < run.geometry.poolCount.toNat, ∃ block ∈ run.blocks,
              block.pool = index ∧ run.final.arena.table.slot index = .ready block.buffer)
            ∧ run.transcript.countP Entry.isServed + 1 = run.geometry.poolCount.toNat
            ∧ run.final.arena.needsInjection = false
            ∧ run.final.arena.reserved = run.geometry.capacity) := by
  refine ⟨h.undisturbed, ?_, ?_, ?_⟩
  · rintro before size align schedule later rfl
    obtain ⟨hnext, hbefore⟩ := h.of_andThen
    obtain ⟨stage, hstage, _⟩ := before.exists_stage
    exact (hbefore.awaits_clear (Standing.eq_clear_of_alloc hnext)).hasPending_eq_false hstage
  · rintro before later rfl hserved
    obtain ⟨hnext, hbefore⟩ := h.of_andThen
    obtain ⟨block, howing, _⟩ := Standing.exists_owing_of_inject hnext
      (before.final.inject_spec.served_iff.1 hserved)
    exact ⟨block, howing, hbefore.inject_eq_ok howing hserved⟩
  · intro hrule hfailed
    -- Allocations that do not wait do not give up waiting.
    have hkeeps : run.KeepsSizingRule :=
      ⟨hrule, fun entry hentry => (h.undisturbed entry hentry).borne⟩
    have hexhausted := hfailed.exhausted
    obtain ⟨stage, hstage, _⟩ := run.exists_stage
    obtain ⟨hheld, hwaiting⟩ := run.stage_of_exhausted hkeeps hexhausted hstage
    refine ⟨run.exists_block_of_exhausted hkeeps hexhausted, ?_, ?_, ?_⟩
    · rw [← hheld]
      exact h.countP_isServed hstage
    · exact hstage.hasPending_eq.trans hwaiting
    · rw [← run.geometry_final]
      exact hexhausted.reserved_eq

/-- Six blocks of half a pool each use up three pools. -/
theorem usageRule_never_waits_smooth :
    let run := smooth.andThen [.alloc 32 1 [], .inject, .alloc 25 8 [], .alloc 32 1 [], .inject,
      .alloc 32 1 [], .alloc 32 1 [], .alloc 32 1 [], .alloc 1 1 []]
    run.KeepsUsageRule ∧ (∀ operation ∈ run.operations, operation.KeepsSizingRule run.geometry)
      ∧ run.Failed .capacityExhausted
      ∧ run.transcript.countP Entry.isServed + 1 = run.geometry.poolCount.toNat := by
  intro run
  have hkeeps : run.KeepsUsageRule := by decide +kernel
  have hrule : ∀ operation ∈ run.operations, operation.KeepsSizingRule run.geometry := by
    decide +kernel
  have hfailed : run.Failed .capacityExhausted := by decide +kernel
  exact ⟨hkeeps, hrule, hfailed, ((run.usageRule_never_waits hkeeps).2.2.2 hrule hfailed).2.1⟩

end Run

end PooledArena
