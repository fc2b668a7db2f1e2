import PooledArena.Proofs.Orderly

/-!
# `PooledArena.Proofs.Isolation`: the bytes of a block are its owner's

The bytes of an arena in use are truthful if they are what its fills say. A byte that a block
covers is the one that the block was filled with last, and all others are zero
(`Usage.Truthful`). Every deed keeps this on a backing that lends no memory twice: fresh
buffers are zeros and lie apart from the ones in use (`Injection.bytes`), a fresh block covers
bytes that no block covered before, and a fill reaches the bytes of its own block only.

`Run.memory_isolated` says it of every run, written to in any way, at any point.
-/

set_option autoImplicit false

namespace PooledArena

/-! ### Addresses -/

/-- The addresses of a loan. -/
def Loan.Covers (loan : Loan) (addr : Addr) : Prop :=
  loan.addr ≤ addr ∧ addr < loan.addr + loan.layout.size.toNat

/-- An address in one of two ranges that are apart is not in the other one. -/
theorem not_mem_of_apart {start size start' size' addr : Nat}
    (h : start + size ≤ start' ∨ start' + size' ≤ start)
    (hmem : start ≤ addr ∧ addr < start + size) : ¬(start' ≤ addr ∧ addr < start' + size') := by
  omega

theorem Loan.Disjoint.not_covers {first second : Loan} (h : first.Disjoint second) {addr : Addr}
    (hfirst : first.Covers addr) : ¬second.Covers addr :=
  not_mem_of_apart h hfirst

theorem Block.Disjoint.not_covers {first second : Block} (h : first.Disjoint second)
    {addr : Addr} (hfirst : first.Covers addr) : ¬second.Covers addr :=
  not_mem_of_apart h hfirst

theorem Block.Within.covers {block : Block} {loan : Loan} (h : block.Within loan) {addr : Addr}
    (hblock : block.Covers addr) : loan.Covers addr :=
  ⟨Nat.le_trans h.1 hblock.1, Nat.lt_of_lt_of_le hblock.2 h.2⟩

/-- A block all of whose bytes are the same reads as that byte, repeated. -/
theorem Block.read_eq {block : Block} {memory : Memory} {byte : UInt8}
    (h : ∀ addr, block.Covers addr → memory addr = byte) :
    memory.read block.addr block.size.toNat = List.replicate block.size.toNat byte := by
  refine List.eq_replicate_iff.2 ⟨by simp [Memory.read], ?_⟩
  intro value hvalue
  obtain ⟨offset, hoffset, rfl⟩ := List.mem_map.1 hvalue
  refine h _ ⟨Nat.le_add_right _ _, ?_⟩
  exact Nat.add_lt_add_left (List.mem_range.1 hoffset) _

/-! ### What an injection does to the bytes -/

/-- What is lent is apart from all that is on loan, so its zeros do not reach there. -/
theorem Host.allocate_apart {β : Type} [Backing β] {host after : Host β} {layout : Layout}
    {lent : Addr} (h : host.allocate layout = (some lent, after))
    (hapart : Call.Apart after.calls) :
    (∀ other ∈ host.outstanding, Loan.Disjoint ⟨lent, layout⟩ other)
      ∧ (∀ loan ∈ host.outstanding, ∀ addr, loan.Covers addr →
          after.memory addr = host.memory addr)
      ∧ ∀ addr, Loan.Covers ⟨lent, layout⟩ addr → after.memory addr = 0 := by
  rw [(allocate_some h).1] at hapart
  have hmemory := memory_allocate_some h
  refine ⟨hapart.1, ?_, ?_⟩
  · intro loan hloan addr haddr
    rw [hmemory]
    exact Memory.fill_outside fun hlent => (hapart.1 loan hloan).not_covers hlent haddr
  · intro addr haddr
    rw [hmemory]
    exact Memory.fill_inside haddr

namespace System

variable {β : Type} [Backing β] {sys later : System β} {stage : Stage}

/-- An injection leaves the bytes alone that are on loan. A buffer that it brings is apart from
those, and all zeros. -/
theorem Injection.bytes {result : Except Error Nat} (h : Injection sys result later)
    (hstage : sys.arena.table.AtStage stage) (hapart : Call.Apart later.host.calls) :
    (∀ loan ∈ sys.host.outstanding, ∀ addr, loan.Covers addr →
        later.host.memory addr = sys.host.memory addr)
      ∧ ∀ loan ∈ later.arena.bufferLoans, loan ∈ sys.arena.bufferLoans
          ∨ (∀ other ∈ sys.host.outstanding, loan.Disjoint other)
            ∧ ∀ addr, loan.Covers addr → later.host.memory addr = 0 := by
  cases h with
  | refused hallocate =>
      refine ⟨?_, fun loan hloan => .inl hloan⟩
      intro loan hloan addr haddr
      exact congrFun (Host.memory_allocate_none hallocate) addr
  | installed hallocate hinstall =>
      obtain ⟨hdisjoint, hspared, hzero⟩ := Host.allocate_apart hallocate hapart
      refine ⟨hspared, ?_⟩
      intro loan hloan
      change loan ∈ (sys.arena.install _).2.bufferLoans at hloan
      rw [Arena.bufferLoans_install hstage hinstall] at hloan
      rcases List.mem_append.1 hloan with hold | hnew
      · exact .inl hold
      · obtain rfl := List.mem_singleton.1 hnew
        exact .inr ⟨hdisjoint, hzero⟩
  | returned hallocate hinstall =>
      -- The zeros were written all the same, but not to what is in use.
      obtain ⟨_, hspared, _⟩ := Host.allocate_apart hallocate hapart
      exact ⟨hspared, fun loan hloan => .inl hloan⟩

end System

/-! ### Truthful bytes -/

namespace Usage

variable {β : Type}

/-- The bytes of all buffers are what the fills of the blocks say. -/
structure Truthful (usage : Usage β) : Prop where
  /-- Only blocks were filled that were handed out. -/
  number_lt : ∀ fill ∈ usage.fills, fill.1 < usage.blocks.length
  covered : ∀ loan ∈ usage.system.arena.bufferLoans, ∀ addr, loan.Covers addr →
    ∀ number block, usage.blocks[number]? = some block → block.Covers addr →
      usage.system.host.memory addr = usage.lastFill number
  uncovered : ∀ loan ∈ usage.system.arena.bufferLoans, ∀ addr, loan.Covers addr →
    (∀ block ∈ usage.blocks, ¬block.Covers addr) → usage.system.host.memory addr = 0

variable {usage : Usage β}

/-- Where no memory is lent twice, an address is covered by one block at most. -/
theorem Orderly.number_eq (h : usage.Orderly) (hapart : Call.Apart usage.system.host.calls)
    {addr : Addr} {number other : Nat} {block block' : Block}
    (hblock : usage.blocks[number]? = some block) (hblock' : usage.blocks[other]? = some block')
    (hcovers : block.Covers addr) (hcovers' : block'.Covers addr) : other = number := by
  obtain ⟨hlt, rfl⟩ := List.getElem?_eq_some_iff.1 hblock
  obtain ⟨hlt', rfl⟩ := List.getElem?_eq_some_iff.1 hblock'
  have hdisjoint := List.pairwise_iff_getElem.1 (h.disjoint hapart)
  rcases Nat.lt_trichotomy other number with hbefore | hsame | hbehind
  · exact absurd hcovers ((hdisjoint other number hlt' hlt hbefore).not_covers hcovers')
  · exact hsame
  · exact absurd hcovers' ((hdisjoint number other hlt hlt' hbehind).not_covers hcovers)

namespace Truthful

theorem book (h : usage.Truthful) (size align : Word) : (usage.book size align).Truthful := by
  unfold Usage.book
  split
  · exact ⟨h.number_lt, h.covered, h.uncovered⟩
  · dsimp only
    split
    · exact ⟨h.number_lt, h.covered, h.uncovered⟩
    · exact ⟨h.number_lt, h.covered, h.uncovered⟩

/-- A block that is handed out was not filled yet. -/
theorem lastFill_eq_zero (h : usage.Truthful) : usage.lastFill usage.blocks.length = 0 := by
  unfold lastFill
  rw [List.lookup_eq_none_iff.2, Option.getD_none]
  intro fill hfill
  have hlt := h.number_lt fill hfill
  simp
  omega

/-- A block may be added that covers bytes which no other block covers. -/
theorem append (h : usage.Truthful) {sys : System β} {block : Block}
    (hloans : sys.arena.bufferLoans = usage.system.arena.bufferLoans)
    (hmemory : sys.host.memory = usage.system.host.memory)
    (hfree : ∀ older ∈ usage.blocks, older.Disjoint block) : ({
      usage with
      system := sys
      booking := none
      blocks := usage.blocks ++ [block]
    } : Usage β).Truthful := by
  refine ⟨?_, ?_, ?_⟩
  · intro fill hfill
    have hlt := h.number_lt fill hfill
    simp
    omega
  · intro loan hloan addr haddr number other hother hcovers
    rw [hloans] at hloan
    show sys.host.memory addr = usage.lastFill number
    rw [hmemory]
    by_cases hold : number < usage.blocks.length
    · rw [List.getElem?_append_left hold] at hother
      exact h.covered loan hloan addr haddr number other hother hcovers
    · -- It is the new block, whose bytes were covered by none.
      rw [List.getElem?_append_right (Nat.not_lt.1 hold), List.getElem?_singleton] at hother
      split at hother
      · rename_i hnumber
        cases hother
        obtain rfl : number = usage.blocks.length := by omega
        rw [h.lastFill_eq_zero]
        refine h.uncovered loan hloan addr haddr ?_
        intro older holder hcovers'
        exact (hfree older holder).not_covers hcovers' hcovers
      · cases hother
  · intro loan hloan addr haddr hnone
    rw [hloans] at hloan
    show sys.host.memory addr = 0
    rw [hmemory]
    refine h.uncovered loan hloan addr haddr ?_
    intro older holder
    exact hnone older (List.mem_append_left _ holder)

/-- A fill reaches the bytes of its own block only. -/
theorem fill (h : usage.Truthful) (horderly : usage.Orderly)
    (hapart : Call.Apart usage.system.host.calls) (number : Nat) (byte : UInt8) :
    (usage.fill number byte).Truthful := by
  unfold Usage.fill
  split
  · exact h
  · rename_i filled hfilled
    obtain ⟨hlt, _⟩ := List.getElem?_eq_some_iff.1 hfilled
    refine ⟨?_, ?_, ?_⟩
    · intro fill hfill
      rcases List.mem_cons.1 hfill with rfl | hold
      · exact hlt
      · exact h.number_lt fill hold
    · intro loan hloan addr haddr other block hblock hcovers
      show usage.system.host.memory.fill _ _ byte addr
        = (((number, byte) :: usage.fills).lookup other).getD 0
      -- The byte is in the block that is filled, or the other block keeps it to itself.
      by_cases hsame : other = number
      · subst hsame
        obtain rfl := Option.some.inj (hfilled.symm.trans hblock)
        rw [Memory.fill_inside hcovers]
        simp
      · have hmiss : ¬filled.Covers addr := by
          intro hcovers'
          exact hsame (horderly.number_eq hapart hfilled hblock hcovers' hcovers)
        rw [Memory.fill_outside hmiss, h.covered loan hloan addr haddr other block hblock hcovers]
        have hne : (other == number) = false := by simpa using hsame
        simp [lastFill, List.lookup_cons, hne]
    · intro loan hloan addr haddr hnone
      show usage.system.host.memory.fill _ _ byte addr = 0
      rw [Memory.fill_outside (hnone filled (List.mem_of_getElem? hfilled))]
      exact h.uncovered loan hloan addr haddr hnone

variable [Backing β]

theorem look (h : usage.Truthful) (horderly : usage.Orderly)
    (hapart : Call.Apart usage.look.system.host.calls) : usage.look.Truthful := by
  have hdisjoint := horderly.look.disjoint hapart
  rcases usage.look_cases with hsame | hleft | ⟨booking, buffer, hbooking, hready, htaken⟩
  · rw [hsame]
    exact h
  · rw [hleft]
    exact ⟨h.number_lt, h.covered, h.uncovered⟩
  · rw [htaken] at hdisjoint ⊢
    obtain ⟨stage, hstage⟩ := horderly.exists_stage
    refine h.append (Arena.bufferLoans_request hstage hready) rfl ?_
    -- The arena is orderly with the new block as well, so the older ones are apart from it.
    intro older holder
    exact (List.pairwise_append.1 hdisjoint).2.2 older holder _ (List.mem_singleton_self _)

/-- An injection brings zeros that no block covers, and reaches no other byte in use. -/
theorem inject (h : usage.Truthful) (horderly : usage.Orderly)
    (hapart : Call.Apart usage.system.inject.2.host.calls) :
    ({ usage with system := usage.system.inject.2 } : Usage β).Truthful := by
  obtain ⟨stage, hstage⟩ := horderly.exists_stage
  obtain ⟨hkept, hloans⟩ := usage.system.inject_spec.bytes hstage hapart
  refine ⟨h.number_lt, ?_, ?_⟩
  · intro loan hloan addr haddr number block hblock hcovers
    rcases hloans loan hloan with hold | ⟨hdisjoint, _⟩
    · exact (hkept loan (horderly.mem_outstanding hold) addr haddr).trans
        (h.covered loan hold addr haddr number block hblock hcovers)
    · -- The block lies in a buffer that was on loan before.
      have hmem := List.mem_of_getElem? hblock
      have hother := hdisjoint _ (horderly.mem_outstanding (horderly.keeps.loan_mem hmem))
      exact absurd ((horderly.keeps.within hmem).covers hcovers) (hother.not_covers haddr)
  · intro loan hloan addr haddr hnone
    rcases hloans loan hloan with hold | ⟨_, hzero⟩
    · exact (hkept loan (horderly.mem_outstanding hold) addr haddr).trans
        (h.uncovered loan hold addr haddr hnone)
    · exact hzero addr haddr

theorem step (h : usage.Truthful) (horderly : usage.Orderly) (deed : Deed)
    (hapart : Call.Apart (usage.step deed).system.host.calls) : (usage.step deed).Truthful := by
  cases deed with
  | book size align => exact h.book size align
  | look => exact h.look horderly hapart
  | leave => exact ⟨h.number_lt, h.covered, h.uncovered⟩
  | inject => exact h.inject horderly hapart
  | fill number byte => exact h.fill horderly (usage.calls_fill number byte ▸ hapart) number byte

end Truthful

/-! ### Many deeds -/

theorem truthful_ofSystem {sys : System β} {label : String} {host : Host β} {buffer : Addr}
    (h : Created label host sys buffer) : (ofSystem sys).Truthful := by
  refine ⟨?_, ?_, ?_⟩
  · intro fill hfill
    cases hfill
  · intro loan hloan addr haddr number block hblock
    cases hblock
  · intro loan hloan addr haddr hnone
    change loan ∈ sys.arena.bufferLoans at hloan
    rw [Arena.bufferLoans_eq h.atStage] at hloan
    obtain rfl := List.mem_singleton.1 hloan
    exact h.zeroed addr haddr

variable [Backing β]

/-- Whatever is done with an arena, it stays orderly, and its bytes stay truthful. -/
theorem steps_truthful {usage : Usage β} (horderly : usage.Orderly) (h : usage.Truthful)
    (deeds : List Deed) (hapart : Call.Apart (usage.steps deeds).system.host.calls) :
    (usage.steps deeds).Orderly ∧ (usage.steps deeds).Truthful := by
  induction deeds generalizing usage with
  | nil => exact ⟨horderly, h⟩
  | cons deed deeds ih =>
      -- The calls so far are a part of all calls, so they are apart as well.
      obtain ⟨calls, hcalls⟩ := (usage.step deed).exists_calls_steps deeds
      have hstep : Call.Apart (usage.step deed).system.host.calls := by
        rw [steps_cons, hcalls] at hapart
        exact hapart.older
      exact ih (horderly.step deed) (h.step horderly deed hstep) hapart

/-! ### Isolation -/

omit [Backing β] in
/-- The bytes in the buffers of an arena belong to its blocks. -/
structure Isolated (usage : Usage β) : Prop where
  /-- A byte that a block covers is covered by no other block, and is the one that the block
  was filled with last. -/
  covered : ∀ index buffer, usage.system.arena.table.slot index = .ready buffer → ∀ addr,
    Loan.Covers ⟨buffer, usage.system.arena.geometry.bufferLayout⟩ addr →
    ∀ number block, usage.blocks[number]? = some block → block.Covers addr →
      (∀ other block', usage.blocks[other]? = some block' → block'.Covers addr → other = number)
        ∧ usage.system.host.memory addr = usage.lastFill number
  /-- A byte that no block covers is zero. -/
  uncovered : ∀ index buffer, usage.system.arena.table.slot index = .ready buffer → ∀ addr,
    Loan.Covers ⟨buffer, usage.system.arena.geometry.bufferLayout⟩ addr →
    (∀ block ∈ usage.blocks, ¬block.Covers addr) → usage.system.host.memory addr = 0
  /-- A block reads as its own last fill, repeated. -/
  read : ∀ number block, usage.blocks[number]? = some block →
    usage.system.host.memory.read block.addr block.size.toNat
      = List.replicate block.size.toNat (usage.lastFill number)
  /-- A block that was never filled reads as zeros. -/
  fresh : ∀ number block, usage.blocks[number]? = some block →
    (∀ byte, (number, byte) ∉ usage.fills) →
    usage.system.host.memory.read block.addr block.size.toNat
      = List.replicate block.size.toNat 0

omit [Backing β] in
theorem Truthful.isolated {usage : Usage β} (h : usage.Truthful) (horderly : usage.Orderly)
    (hapart : Call.Apart usage.system.host.calls) : usage.Isolated := by
  obtain ⟨stage, hstage⟩ := horderly.exists_stage
  have hread : ∀ number block, usage.blocks[number]? = some block →
      usage.system.host.memory.read block.addr block.size.toNat
        = List.replicate block.size.toNat (usage.lastFill number) := by
    intro number block hblock
    have hmem := List.mem_of_getElem? hblock
    refine Block.read_eq ?_
    intro addr hcovers
    exact h.covered _ (horderly.keeps.loan_mem hmem) addr
      ((horderly.keeps.within hmem).covers hcovers) number block hblock hcovers
  refine ⟨?_, ?_, hread, ?_⟩
  · intro index buffer hready addr haddr number block hblock hcovers
    refine ⟨?_, ?_⟩
    · intro other block' hblock' hcovers'
      exact horderly.number_eq hapart hblock hblock' hcovers hcovers'
    · exact h.covered _ (Arena.mem_bufferLoans hstage hready) addr haddr number block hblock hcovers
  · intro index buffer hready addr haddr hnone
    exact h.uncovered _ (Arena.mem_bufferLoans hstage hready) addr haddr hnone
  · intro number block hblock hnever
    rw [hread number block hblock, lastFill, List.lookup_eq_none_iff.2, Option.getD_none]
    intro fill hfill
    by_contra hnumber
    simp only [bne_iff_ne, ne_eq, Decidable.not_not] at hnumber
    exact hnever fill.2 (hnumber ▸ hfill)

end Usage

/-- Write to the blocks of a run in any way, between its deeds. On a backing that lends no
memory twice, the arena and the blocks are those of the run, and at every point each byte of a
buffer is the one that its block was filled with last, or zero. Whatever is done to other
blocks, and whether injections succeed or fail, makes no difference. -/
theorem Run.memory_isolated {β : Type} [Backing β] (run : Run β) {deeds : List Deed}
    (hdeeds : deeds.filter (!·.isFill) = run.deeds) (hapart : Call.Apart run.final.host.calls) :
    (run.usage deeds).system.arena = run.final.arena ∧ (run.usage deeds).blocks = run.blocks
      ∧ ∀ earlier, earlier <+: deeds → (run.usage earlier).Isolated := by
  obtain ⟨memory, fills, husage⟩ := run.usage_interleaved hdeeds
  obtain ⟨buffer, hcreated⟩ := create_spec run.create_eq
  refine ⟨congrArg (·.system.arena) husage, congrArg Usage.blocks husage, ?_⟩
  rintro earlier ⟨rest, rfl⟩
  -- What was called up to some point is the older part of what was called in the whole run.
  have hcalls : (run.usage (earlier ++ rest)).system.host.calls = run.final.host.calls :=
    congrArg (·.system.host.calls) husage
  obtain ⟨newer, hnewer⟩ := (run.usage earlier).exists_calls_steps rest
  have hearlier : Call.Apart (run.usage earlier).system.host.calls := by
    rw [← hcalls, usage, Usage.steps_append] at hapart
    rw [show ((Usage.ofSystem run.opening).steps earlier).steps rest
      = (run.usage earlier).steps rest from rfl, hnewer] at hapart
    exact hapart.older
  obtain ⟨horderly, htruthful⟩ := Usage.steps_truthful (Usage.orderly_ofSystem hcreated)
    (Usage.truthful_ofSystem hcreated) earlier hearlier
  exact htruthful.isolated horderly hearlier

/-- Three blocks, of which the third has to wait. The first is filled twice, the second time
during the wait. -/
theorem Run.memory_isolated_smooth :
    let run := smooth.andThen [.alloc 24 8 [], .alloc 20 1 [], .alloc 20 4 [1, 0]]
    let deeds : List Deed := [.book 24 8, .look, .fill 0 7, .book 20 1, .look, .book 20 4,
      .fill 1 9, .inject, .fill 0 8, .look]
    deeds.filter (!·.isFill) = run.deeds ∧ Call.Apart run.final.host.calls
      ∧ ∃ block, run.blocks[0]? = some block
        ∧ (run.usage deeds).system.host.memory.read block.addr block.size.toNat
          = List.replicate block.size.toNat 8 := by
  intro run deeds
  have hdeeds : deeds.filter (!·.isFill) = run.deeds := by decide +kernel
  have hapart : Call.Apart run.final.host.calls := by decide +kernel
  have hall := run.memory_isolated hdeeds hapart
  have hread := (hall.2.2 deeds List.prefix_rfl).read 0
  have hsome : run.blocks[0]?.isSome = true := by decide +kernel
  obtain ⟨block, hblock⟩ := Option.isSome_iff_exists.1 hsome
  have hlast : (run.usage deeds).lastFill 0 = 8 := by decide +kernel
  rw [hlast, hall.2.1] at hread
  exact ⟨hdeeds, hapart, block, hblock, hread block hblock⟩

end PooledArena
