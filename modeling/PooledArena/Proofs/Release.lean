import PooledArena.Arena.Lifecycle
import PooledArena.Proofs.Calls
import PooledArena.Proofs.Injection

/-!
# `PooledArena.Proofs.Release`: what a release gives back

A release counts the buffers while they go back, by a checked sum. Chaining the sums comes to
the same as checking the exact count once: the walk over the buffers gets to its end if there
are less than `0x80000000` of them (`System.release_of_lt`), and otherwise it breaks off at the
one that is too many (`System.release_of_le`).

So the loans of an arena are divided in two. `Arena.returned` are those that go back, in the
order in which they do (`System.calls_release`), and `Arena.stranded` those that do not. There
are none of these exactly if the buffers can be counted (`Arena.stranded_eq_nil_iff`).

The layout of the table is worked out once more for the release. It is the one that the table
is on loan for, if it was at first (`SlotTable.Housed`), because neither the length of the table
nor its loan ever changes.
-/

set_option autoImplicit false

namespace PooledArena

/-! ### Counting -/

theorem countUp_eq_some_iff {count next : Int32} :
    countUp count = some next ↔ next.toInt = count.toInt + 1 := by
  have hmax : Int32.maxValue.toInt = 0x7fffffff := rfl
  have hone : (1 : Int32).toInt = 1 := rfl
  unfold countUp
  split
  · rename_i hlast
    have hnext := next.toInt_lt
    rw [hlast, hmax]
    exact ⟨nofun, fun heq => by omega⟩
  · rename_i hmore
    have hlow := count.le_toInt
    have hhigh := count.toInt_le
    have hne : count.toInt ≠ 0x7fffffff := fun h => hmore (Int32.toInt_inj.1 (h.trans hmax.symm))
    have hsum : (count + 1).toInt = count.toInt + 1 := by
      rw [Int32.toInt_add, hone]
      exact Int.bmod_eq_of_le (by omega) (by omega)
    rw [Option.some_inj, ← Int32.toInt_inj, hsum, eq_comm]

theorem countUp_eq_none_iff {count : Int32} :
    countUp count = none ↔ count.toInt = 0x7fffffff := by
  rw [countUp, ite_eq_left_iff, ← Int32.toInt_inj]
  exact ⟨fun h => Decidable.byContradiction fun hne => (nomatch h hne), fun h hne => absurd h hne⟩

namespace Host

variable {β : Type} [Backing β]

/-- As long as the loans can be counted, all of them go back. -/
theorem freeCounting_of_lt (host : Host β) (count : Int32) (loans : List Loan)
    (h : count.toInt + loans.length < 0x80000000) :
    ∃ last : Int32, last.toInt = count.toInt + loans.length
      ∧ host.freeCounting count loans = (some last, host.freeAll loans) := by
  -- Each step moves one from the loans to the count, and the bound is on both together.
  induction loans generalizing count host with
  | nil => exact ⟨count, by simp, rfl⟩
  | cons loan loans ih =>
      rw [List.length_cons] at h ⊢
      cases hnext : countUp count with
      | none =>
          rw [countUp_eq_none_iff] at hnext
          omega
      | some next =>
          have hcount := countUp_eq_some_iff.1 hnext
          obtain ⟨last, hlast, hfree⟩ := ih (host.free loan) next (by omega)
          refine ⟨last, by omega, ?_⟩
          rw [freeCounting, hnext]
          exact hfree

/-- Where they cannot be counted, the last one to go back is the first that is too many. -/
theorem freeCounting_of_le (host : Host β) (count : Int32) (loans : List Loan) {room : Nat}
    (hroom : count.toInt + room = 0x80000000) (h : room ≤ loans.length) :
    host.freeCounting count loans = (none, host.freeAll (loans.take room)) := by
  have hcount := count.toInt_lt
  -- What the count gains the room loses. Where one is left, the next loan is the last to go back.
  induction loans generalizing count host room with
  | nil =>
      rw [List.length_nil] at h
      omega
  | cons loan loans ih =>
      obtain ⟨more, rfl⟩ : ∃ more, room = more + 1 := ⟨room - 1, by omega⟩
      rw [List.length_cons] at h
      rw [freeCounting, List.take_succ_cons]
      cases hnext : countUp count with
      | none =>
          rw [countUp_eq_none_iff] at hnext
          obtain rfl : more = 0 := by omega
          rw [List.take_zero]
          rfl
      | some next =>
          have hnext := countUp_eq_some_iff.1 hnext
          exact ih (host.free loan) next (by omega) (by omega) next.toInt_lt

end Host

/-! ### The memory of the table -/

/-- The table is on loan for the layout that goes with its length. -/
def SlotTable.Housed (table : SlotTable) : Prop :=
  SlotTable.layout? table.slots.length = some table.loan.layout

instance (table : SlotTable) : Decidable table.Housed :=
  inferInstanceAs (Decidable (_ = _))

/-- There is a slot for each pool, so the layout is the one of the creation. -/
theorem Arena.housed_iff (arena : Arena) : arena.table.Housed
    ↔ SlotTable.layout? arena.geometry.poolCount.toNat = some arena.table.loan.layout := by
  rw [SlotTable.Housed, arena.length_slots]

theorem System.SameFrame.housed_iff {β : Type} {sys later : System β}
    (h : SameFrame sys later) : later.arena.table.Housed ↔ sys.arena.table.Housed := by
  rw [Arena.housed_iff, Arena.housed_iff, h.geometry_eq, h.loan_eq]

/-- What goes back for a table is the loan that it is on. -/
theorem Host.freeTable_eq {β : Type} [Backing β] (host : Host β) {table : SlotTable}
    (h : table.Housed) : host.freeTable table = host.free table.loan := by
  unfold freeTable
  rw [h]

/-! ### What goes back and what does not -/

namespace Arena

variable (arena : Arena)

/-- A buffer is on loan for each ready pool. -/
theorem length_bufferLoans : arena.bufferLoans.length = arena.readyPools := by
  unfold bufferLoans readyPools SlotTable.buffers SlotTable.readyCount SlotTable.states
  rw [List.length_map, List.length_filterMap_eq_countP, List.countP_map]
  refine List.countP_congr fun slot _ => ?_
  cases slot with
  | absent => exact Iff.rfl
  | pending => exact Iff.rfl
  | ready buffer => exact Iff.rfl

/-- Everything that the arena has to give back. -/
def loans : List Loan :=
  arena.table.loan :: arena.bufferLoans

theorem length_loans : arena.loans.length = arena.readyPools + 1 := by
  rw [loans, List.length_cons, length_bufferLoans]

/-- What a release gives back, in order. -/
def returned : List Loan :=
  if arena.bufferLoans.length < 0x80000000 then arena.bufferLoans ++ [arena.table.loan]
  else arena.bufferLoans.take 0x80000000

/-- What a release leaves on loan. -/
def stranded : List Loan :=
  if arena.bufferLoans.length < 0x80000000 then []
  else arena.bufferLoans.drop 0x80000000 ++ [arena.table.loan]

theorem returned_append_stranded_perm : (arena.returned ++ arena.stranded).Perm arena.loans := by
  unfold returned stranded loans
  split
  · rw [List.append_nil]
    exact List.perm_append_singleton _ _
  · rw [← List.append_assoc, List.take_append_drop]
    exact List.perm_append_singleton _ _

variable {arena}

theorem stranded_eq_nil_iff :
    arena.stranded = [] ↔ arena.bufferLoans.length < 0x80000000 := by
  rw [stranded, ite_eq_left_iff]
  refine ⟨fun h => Decidable.byContradiction fun hlarge => ?_, fun h hlarge => absurd h hlarge⟩
  -- The table would be left.
  exact List.append_ne_nil_of_right_ne_nil _ (List.cons_ne_nil _ _) (h hlarge)

end Arena

/-! ### The two kinds of releases -/

namespace System

variable {β : Type} [Backing β] (sys : System β)

/-- Where the buffers can be counted, the table goes back after them and their number is noted. -/
theorem release_of_lt (h : sys.arena.bufferLoans.length < 0x80000000) :
    ∃ count : Int32, count.toInt = sys.arena.bufferLoans.length
      ∧ sys.release = {
          completed := true
          host := ((sys.host.freeAll sys.arena.bufferLoans).freeTable sys.arena.table).note
            sys.arena.label (.released count)
        } := by
  have hzero : (0 : Int32).toInt = 0 := rfl
  obtain ⟨count, hcount, hfree⟩ :=
    sys.host.freeCounting_of_lt 0 sys.arena.bufferLoans (by omega)
  refine ⟨count, by omega, ?_⟩
  rw [release, hfree]

/-- Where they cannot, nothing happens after the one that is too many. -/
theorem release_of_le (h : 0x80000000 ≤ sys.arena.bufferLoans.length) :
    sys.release = {
      completed := false
      host := sys.host.freeAll (sys.arena.bufferLoans.take 0x80000000)
    } := by
  have hroom : (0 : Int32).toInt + (0x80000000 : Nat) = 0x80000000 := rfl
  rw [release, sys.host.freeCounting_of_le 0 _ hroom h]

theorem completed_release_iff :
    sys.release.completed = true ↔ sys.arena.bufferLoans.length < 0x80000000 := by
  rcases Nat.lt_or_ge sys.arena.bufferLoans.length 0x80000000 with hlt | hge
  · obtain ⟨count, _, hrelease⟩ := sys.release_of_lt hlt
    rw [hrelease]
    exact iff_of_true rfl hlt
  · rw [sys.release_of_le hge]
    exact iff_of_false nofun (Nat.not_lt.2 hge)

/-- A release breaks off where there is one pool more than the largest count. -/
theorem completed_release_eq_false_iff :
    sys.release.completed = false ↔ 0x80000000 ≤ sys.arena.readyPools := by
  rw [← Bool.not_eq_true, completed_release_iff, Arena.length_bufferLoans, Nat.not_lt]

/-- The calls of a release, of whichever kind. -/
theorem calls_release (h : sys.arena.table.Housed) : sys.release.host.calls
    = (sys.arena.returned.map .freed).reverse ++ sys.host.calls := by
  unfold Arena.returned
  split
  · rename_i hlt
    obtain ⟨count, _, hrelease⟩ := sys.release_of_lt hlt
    rw [hrelease, List.map_append, List.reverse_append]
    show (Host.freeTable _ _).calls = _
    rw [Host.freeTable_eq _ h]
    exact congrArg (_ :: ·) (Host.calls_freeAll _ _)
  · rename_i hge
    rw [sys.release_of_le (Nat.le_of_not_lt hge)]
    exact Host.calls_freeAll _ _

/-- Some loans go back, and nothing is asked for. -/
theorem exists_calls_release :
    ∃ loans : List Loan, sys.release.host.calls = (loans.map .freed).reverse ++ sys.host.calls := by
  rcases Nat.lt_or_ge sys.arena.bufferLoans.length 0x80000000 with hlt | hge
  · obtain ⟨count, _, hrelease⟩ := sys.release_of_lt hlt
    rw [hrelease]
    show ∃ loans : List Loan, (Host.freeTable _ _).calls = _
    unfold Host.freeTable
    split
    · exact ⟨_, Host.calls_freeAll _ _⟩
    · rename_i layout _
      refine ⟨sys.arena.bufferLoans ++ [⟨sys.arena.table.loan.addr, layout⟩], ?_⟩
      rw [List.map_append, List.reverse_append]
      exact congrArg (_ :: ·) (Host.calls_freeAll _ _)
  · rw [sys.release_of_le hge]
    exact ⟨_, Host.calls_freeAll _ _⟩

/-- A release gives back the loans that it can, and nothing of what others hold. -/
theorem release_holdings (hhoused : sys.arena.table.Housed) {others : List Loan}
    (h : Call.Honest sys.host.calls)
    (hout : sys.host.outstanding.Perm (sys.arena.loans ++ others)) :
    Call.Honest sys.release.host.calls
      ∧ sys.release.host.outstanding.Perm (sys.arena.stranded ++ others) := by
  have hdivided : sys.host.outstanding.Perm
      (sys.arena.returned ++ (sys.arena.stranded ++ others)) := by
    rw [← List.append_assoc]
    exact hout.trans (sys.arena.returned_append_stranded_perm.symm.append_right _)
  unfold Host.outstanding
  rw [sys.calls_release hhoused]
  exact h.returnAll hdivided

end System

end PooledArena
