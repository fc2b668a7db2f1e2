import PooledArena.Proofs.Disjoint

/-!
# `PooledArena.Proofs.Holdings`: what an arena holds, on a host that it shares

An arena holds a loan for its table and one for each buffer (`Arena.loans`). Where it shares
its host, what is outstanding is what it holds and what the others hold, in some order. A
creation adds the loans of the new arena (`Creation.holdings`), or none if it fails
(`Creation.holdings_error`). What a release takes away is `System.release_holdings`.

The blocks that were handed out lie in the buffers, one behind the other (`Arena.Keeps`). An
arena keeps them through all changes (`Keeps.changes`), and a new block comes behind them
(`Keeps.allocation`).
-/

set_option autoImplicit false

namespace PooledArena

/-! ### Loans -/

/-- The new loans are those that were granted and not given back. -/
theorem Dealings.loans_perm {β : Type} {sys later : System β} {calls : List Call}
    (h : Dealings sys calls later) (hloan : later.arena.table.loan = sys.arena.table.loan) :
    later.arena.loans.Perm (Call.outstanding calls ++ sys.arena.loans) := by
  have hbuffers :
      later.arena.bufferLoans.Perm (Call.outstanding calls ++ sys.arena.bufferLoans) := by
    refine (List.reverse_perm _).symm.trans ?_
    rw [h.loans_eq]
    exact (List.reverse_perm _).append_left _
  rw [Arena.loans, Arena.loans, hloan]
  exact (hbuffers.cons _).trans List.perm_middle.symm

variable {β : Type} [Backing β]

/-- A creation adds what the new arena holds. -/
theorem Creation.holdings {label : String} {poolCount minPoolSize : Word} {host after : Host β}
    {arena : Arena} (h : Creation label poolCount minPoolSize host (.ok arena) after)
    (hhonest : Call.Honest host.calls) :
    Call.Honest after.calls ∧ after.outstanding.Perm (arena.loans ++ host.outstanding) := by
  obtain ⟨buffer, hcreated⟩ := h.created_spec
  have hcalls : after.calls = _ := hcreated.calls_eq
  have hloans : arena.bufferLoans = [⟨buffer, arena.geometry.bufferLayout⟩] :=
    Arena.bufferLoans_eq hcreated.atStage
  unfold Host.outstanding
  rw [hcalls, Arena.loans, hloans]
  exact ⟨hhonest, List.Perm.swap _ _ _⟩

/-- A creation that fails adds nothing. -/
theorem Creation.holdings_error {label : String} {poolCount minPoolSize : Word}
    {host after : Host β} {error : Error}
    (h : Creation label poolCount minPoolSize host (.error error) after)
    (hhonest : Call.Honest host.calls) :
    Call.Honest after.calls ∧ after.outstanding.Perm host.outstanding := by
  cases h with
  | rejected hsizes => exact ⟨hhonest, List.Perm.refl _⟩
  | tooLarge hsizes hlayout => exact ⟨hhonest, List.Perm.refl _⟩
  | tableRefused hsizes hlayout htable =>
      unfold Host.outstanding
      rw [(Host.allocate_none htable).1]
      exact ⟨hhonest, List.Perm.refl _⟩
  | @bufferRefused g layout addr tableHost after hsizes hlayout htable hbuffer =>
      have hcalls : after.calls = .refused g.bufferLayout :: .granted ⟨addr, layout⟩
          :: host.calls := by
        rw [(Host.allocate_none hbuffer).1, (Host.allocate_some htable).1]
      -- The table is all that there is to release.
      rw [System.release_blank label hlayout]
      unfold Host.outstanding
      show Call.Honest (.freed _ :: after.calls)
        ∧ (Call.outstanding (.freed _ :: after.calls)).Perm _
      rw [hcalls]
      exact ⟨⟨List.mem_cons_self, hhonest⟩, .of_eq (List.erase_cons_head _ _)⟩

/-! ### Blocks -/

/-- The blocks lie one behind the other in the buffers of the arena. -/
structure Arena.Keeps (arena : Arena) (blocks : List Block) : Prop where
  exists_stage : ∃ stage, arena.table.AtStage stage
  holds : ∀ block ∈ blocks, arena.Holds block
  fits : ∀ block ∈ blocks, ∃ size align, block.Fit arena.geometry size align
  ascending : blocks.Pairwise fun first second =>
    arena.geometry.position first.place + first.size.toNat
      ≤ arena.geometry.position second.place

namespace Arena.Keeps

variable {arena : Arena} {blocks : List Block}

theorem within (h : arena.Keeps blocks) {block : Block} (hblock : block ∈ blocks) :
    block.Within ⟨block.buffer, arena.geometry.bufferLayout⟩ := by
  obtain ⟨size, align, hfit⟩ := h.fits block hblock
  exact hfit.within

theorem loan_mem (h : arena.Keeps blocks) {block : Block} (hblock : block ∈ blocks) :
    ⟨block.buffer, arena.geometry.bufferLayout⟩ ∈ arena.bufferLoans := by
  obtain ⟨stage, hstage⟩ := h.exists_stage
  exact mem_bufferLoans hstage (h.holds block hblock).slot_eq

/-- Where the loans do not overlap, no two blocks do. -/
theorem disjoint (h : arena.Keeps blocks) (hapart : arena.bufferLoans.Pairwise Loan.Disjoint) :
    blocks.Pairwise Block.Disjoint := by
  obtain ⟨stage, hstage⟩ := h.exists_stage
  refine h.ascending.imp_of_mem ?_
  intro first second hfirst hsecond hposition
  exact Holds.disjoint hstage hapart (h.holds first hfirst) (h.holds second hsecond)
    (h.within hfirst) (h.within hsecond) hposition

theorem of_creation {label : String} {poolCount minPoolSize : Word} {host after : Host β}
    (h : Creation label poolCount minPoolSize host (.ok arena) after) : arena.Keeps [] := by
  obtain ⟨buffer, hcreated⟩ := h.created_spec
  exact ⟨⟨_, hcreated.atStage⟩, nofun, nofun, .nil⟩

/-- A block behind all others may be added. -/
theorem append (h : arena.Keeps blocks) {block : Block} (hholds : arena.Holds block)
    {size align : Word} (hfit : block.Fit arena.geometry size align)
    (hbehind : ∀ older ∈ blocks, arena.geometry.position older.place + older.size.toNat
      ≤ arena.geometry.position block.place) : arena.Keeps (blocks ++ [block]) := by
  refine ⟨h.exists_stage, ?_, ?_, ?_⟩
  · intro other hother
    rcases List.mem_append.1 hother with hold | hnew
    · exact h.holds other hold
    · rw [List.mem_singleton.1 hnew]
      exact hholds
  · intro other hother
    rcases List.mem_append.1 hother with hold | hnew
    · exact h.fits other hold
    · rw [List.mem_singleton.1 hnew]
      exact ⟨size, align, hfit⟩
  · refine List.pairwise_append.2 ⟨h.ascending, List.pairwise_singleton _ block, ?_⟩
    intro older holder other hother
    rw [List.mem_singleton.1 hother]
    exact hbehind older holder

variable {sys later : System β} {filled : List Nat}

/-- Changes leave the blocks where they are. -/
theorem changes (h : sys.arena.Keeps blocks) (hchanges : System.Changes sys filled later)
    (hcursor : sys.arena.cursor.position.toNat ≤ later.arena.cursor.position.toNat) :
    later.arena.Keeps blocks := by
  obtain ⟨stage, hstage⟩ := h.exists_stage
  obtain ⟨next, hnext, hreaches⟩ := hchanges.reaches hstage
  have hgeometry := hchanges.frame.geometry_eq
  refine ⟨⟨next, hnext⟩, ?_, ?_, ?_⟩
  · intro block hblock
    exact (h.holds block hblock).later hgeometry hcursor
      fun index => hstage.slot_advances hnext hreaches.advances index
  · rw [hgeometry]
    exact h.fits
  · rw [hgeometry]
    exact h.ascending

theorem injection {result : Except Error Nat} (h : sys.arena.Keeps blocks)
    (hinjection : System.Injection sys result later) : later.arena.Keeps blocks := by
  refine h.changes (System.Change.inject hinjection).changes (Nat.le_of_eq ?_)
  exact congrArg (·.position.toNat) hinjection.cursor_eq.symm

/-- A block that is handed out comes behind all others. -/
theorem allocation {size align : Word} {attempt : Attempt} (h : sys.arena.Keeps blocks)
    (hallocation : System.Allocation sys size align attempt later) :
    later.arena.Keeps (blocks ++ attempt.block?.toList) := by
  have hsame := h.changes hallocation.changes hallocation.le_cursor
  cases hblock : attempt.block? with
  | none =>
      rw [Option.toList_none, List.append_nil]
      exact hsame
  | some block =>
      obtain ⟨hfit, hholds, hbehind⟩ := hallocation.block hblock
      rw [← hallocation.changes.frame.geometry_eq] at hfit hbehind
      refine hsame.append hholds hfit ?_
      intro older holder
      -- The older block ends before the old cursor, and the new one begins behind it.
      have hbefore := (h.holds older holder).position_add_size_le
      rw [← hallocation.changes.frame.geometry_eq] at hbefore
      exact Nat.le_trans hbefore hbehind

end Arena.Keeps

end PooledArena
