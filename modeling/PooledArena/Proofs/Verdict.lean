import PooledArena.Proofs.Terminal
import Mathlib.Logic.ExistsUnique

/-!
# `PooledArena.Proofs.Verdict`: what is said about a request, and what it may change

The checks come to one of four verdicts: the size is zero, the alignment is unsupported, the
request is too large for a pool, or it is accepted. `Verdict.Applies` says when, in exact
numbers, and `Verdict.existsUnique_applies` that exactly one of them is right. The checks add
words, and look out for a sum that is too large for one. `Verdict.Applies.accept_eq` and
`Verdict.Applies.exists_accept_eq` say that they agree with the exact numbers.

A request that is rejected changes nothing at all. For one that is accepted and does not wait
`System.Touches` lists what may be different afterwards. There is little: the cursor, and the
slot behind the block that is the first to ask for it.

`System.alloc_atomic` puts them together. It holds of every arena, in whatever state.
-/

set_option autoImplicit false

namespace PooledArena

/-! ### What is said about a request -/

/-- The sum that stops at the largest word, in exact numbers. -/
theorem Word.saturatingAdd_eq_ofNat (a b : Word) :
    saturatingAdd a b = UInt64.ofNat (min (a.toNat + b.toNat) 0xffffffffffffffff) := by
  rw [← toNat_saturatingAdd, UInt64.ofNat_toNat]

/-- What the checks come to. -/
inductive Verdict where
  | zeroSize
  | misaligned
  | tooLarge
  | accepted
  deriving DecidableEq

namespace Verdict

/-- When this is the verdict, in exact numbers. -/
def Applies (g : Geometry) (size align : Word) : Verdict → Prop
  | zeroSize => size.toNat = 0
  | misaligned => 0 < size.toNat ∧ ¬g.Supports align
  | tooLarge => 0 < size.toNat ∧ g.Supports align
      ∧ g.poolSize.toNat < size.toNat + (align.toNat - 1)
  | accepted => 0 < size.toNat ∧ g.Supports align
      ∧ size.toNat + (align.toNat - 1) ≤ g.poolSize.toNat

/-- The error that a request is rejected with. One that is too large is reported with its
padded size, or with the largest word if that is larger still. -/
def error? (g : Geometry) (size align : Word) : Verdict → Option Error
  | zeroSize => some .allocZeroSize
  | misaligned => some (.invalidAlign align)
  | tooLarge => some (.requestTooLarge
      (UInt64.ofNat (min (size.toNat + (align.toNat - 1)) 0xffffffffffffffff)) g.poolSize)
  | accepted => none

/-- The verdict that is right. -/
def ofRequest (g : Geometry) (size align : Word) : Verdict :=
  if size.toNat = 0 then zeroSize
  else if g.Supports align then
    if size.toNat + (align.toNat - 1) ≤ g.poolSize.toNat then accepted else tooLarge
  else misaligned

variable {g : Geometry} {size align : Word} {verdict : Verdict}

theorem applies_iff : verdict.Applies g size align ↔ verdict = ofRequest g size align := by
  unfold ofRequest
  split_ifs with hsize halign hpool
  · cases verdict <;> simp [Applies, hsize]
  · have hpos := Nat.pos_of_ne_zero hsize
    have hroom := Nat.not_lt.2 hpool
    cases verdict <;> simp only [Applies, hsize, hpos, halign, hpool, hroom] <;> decide
  · have hpos := Nat.pos_of_ne_zero hsize
    have hlarge := Nat.lt_of_not_le hpool
    cases verdict <;> simp only [Applies, hsize, hpos, halign, hpool, hlarge] <;> decide
  · have hpos := Nat.pos_of_ne_zero hsize
    cases verdict <;> simp only [Applies, hsize, hpos, halign, false_and, and_false] <;> decide

theorem existsUnique_applies (g : Geometry) (size align : Word) :
    ∃! verdict : Verdict, verdict.Applies g size align :=
  ⟨ofRequest g size align, applies_iff.2 rfl, fun _ => applies_iff.1⟩

/-- The checks reject a request with the error of the verdict. -/
theorem Applies.accept_eq (h : verdict.Applies g size align) {error : Error}
    (herror : verdict.error? g size align = some error) :
    g.accept size align = .error error := by
  cases verdict with
  | zeroSize =>
      cases herror
      exact dif_pos h
  | misaligned =>
      obtain ⟨hsize, halign⟩ := h
      cases herror
      unfold Geometry.accept
      rw [dif_neg (Nat.ne_of_gt hsize)]
      exact if_neg (mt Geometry.supports_iff.2 halign)
  | tooLarge =>
      obtain ⟨hsize, halign, hpool⟩ := h
      cases herror
      obtain ⟨hpower, hbuffer⟩ := Geometry.supports_iff.1 halign
      rw [Geometry.accept_of_poolSize_lt hsize hpower hbuffer hpool, Word.saturatingAdd_eq_ofNat,
        Word.toNat_sub_one hpower.pos]
  | accepted => cases herror

theorem Applies.exists_accept_eq (h : accepted.Applies g size align) :
    ∃ extent, g.accept size align = .ok extent := by
  obtain ⟨hsize, halign, hpool⟩ := h
  obtain ⟨hpower, hbuffer⟩ := Geometry.supports_iff.1 halign
  exact g.exists_accept_eq_ok hsize hpower hbuffer hpool

end Verdict

/-! ### What may change -/

namespace System

variable {β : Type}

/-- What may be different after an allocation that was accepted and did not wait. -/
structure Touches (sys : System β) (attempt : Attempt) (later : System β) : Prop where
  /-- The backing was not called, and nothing was noted. -/
  host_eq : later.host = sys.host
  frame : SameFrame sys later
  /-- If no block is handed out, the cursor has moved and nothing else. -/
  moved : (∀ block, attempt.outcome ≠ .granted block) → later = sys.moveTo later.arena.cursor
  /-- A cursor that has passed all pools has not even moved. -/
  exhausted : sys.Exhausted → later = sys
  /-- A block that asks for the next pool makes it pending, and no other slot changes. -/
  granted : ∀ block, attempt.outcome = .granted block → ∀ index,
    later.arena.table.slot index
      = if block.moreNeeded = true ∧ index = block.pool + 1 then .pending
        else sys.arena.table.slot index
  /-- It is the first to ask. -/
  absent : ∀ block, attempt.outcome = .granted block → block.moreNeeded = true →
    sys.arena.table.slot (block.pool + 1) = .absent

variable [Backing β] {sys : System β} {index : Nat} {schedule : Schedule}

/-- A wait that takes no turn is over before anything happens. -/
theorem await_of_relaxes_eq_zero (h : (sys.await index schedule).relaxes = 0) :
    (sys.await index schedule).system = sys := by
  cases schedule with
  | nil => rfl
  | cons turn turns =>
      unfold await at h ⊢
      cases harrival : (sys.arena.table.slot index).arrival? with
      | some arrival => rfl
      | none =>
          rw [harrival] at h
          dsimp only at h
          split at h
          · cases h
          · cases h

omit [Backing β] in
/-- Where there is no block, at most the cursor has moved. -/
theorem Touches.of_moved {attempt : Attempt} {cursor : Cursor}
    (hpast : sys.Exhausted → cursor = sys.arena.cursor)
    (hnone : ∀ block, attempt.outcome ≠ .granted block) :
    sys.Touches attempt (sys.moveTo cursor) where
  host_eq := rfl
  frame := ⟨rfl, rfl, rfl⟩
  moved _ := rfl
  exhausted h := congrArg sys.moveTo (hpast h)
  granted block houtcome := absurd houtcome (hnone block)
  absent block houtcome := absurd houtcome (hnone block)

/-- The last step asks for the pool behind the block, if there is a block. -/
theorem touches_allocAt {size align : Word} {cursor : Cursor} {place : Place} {straddles : Nat}
    (hbelow : ¬sys.Exhausted)
    (hrelaxes : ((sys.moveTo cursor).allocAt size align place straddles schedule).1.relaxes = 0) :
    sys.Touches ((sys.moveTo cursor).allocAt size align place straddles schedule).1
      ((sys.moveTo cursor).allocAt size align place straddles schedule).2 := by
  unfold allocAt at hrelaxes ⊢
  have hsystem := await_of_relaxes_eq_zero hrelaxes
  generalize (sys.moveTo cursor).await place.index schedule = wait at hsystem ⊢
  obtain ⟨arrival, relaxes, injections, system⟩ := wait
  obtain rfl : system = sys.moveTo cursor := hsystem
  cases arrival with
  | ready buffer =>
      refine ⟨rfl, ⟨rfl, rfl, sys.arena.table.loan_request _⟩, ?_, fun h => absurd h hbelow,
        ?_, ?_⟩
      · intro hnone
        exact absurd rfl (hnone _)
      · intro block houtcome index
        cases houtcome
        exact sys.arena.table.slot_request_eq (place.index + 1) index
      · intro block houtcome hmore
        cases houtcome
        exact ((sys.arena.table.request_eq_true_iff _).1 hmore).2
  | absent => exact .of_moved (fun h => absurd h hbelow) fun _ => Outcome.noConfusion
  | abandoned => exact .of_moved (fun h => absurd h hbelow) fun _ => Outcome.noConfusion

theorem alloc_touches {size align : Word} {extent : Extent sys.arena.geometry}
    (haccept : sys.arena.geometry.accept size align = .ok extent)
    (hrelaxes : (sys.alloc size align schedule).1.relaxes = 0) :
    sys.Touches (sys.alloc size align schedule).1 (sys.alloc size align schedule).2 := by
  by_cases hpast : sys.Exhausted
  · have hok : (sys.arena.geometry.accept size align).isOk = true := by
      rw [haccept]
      rfl
    rw [hpast.alloc_eq hok schedule]
    exact .of_moved (fun _ => rfl) fun _ => Outcome.noConfusion
  · generalize hreserve : sys.arena.geometry.reserve extent sys.arena.cursor = reservation
    obtain ⟨landing, cursor, straddles⟩ := reservation
    cases landing with
    | exhausted =>
        rw [sys.alloc_of_exhausted schedule haccept hreserve]
        exact .of_moved (fun h => absurd h hpast) fun _ => Outcome.noConfusion
    | settled place =>
        rw [sys.alloc_of_settled schedule haccept hreserve] at hrelaxes ⊢
        exact touches_allocAt hpast hrelaxes

/-- A request that was accepted fails only for want of room, or of a pool that was asked
for. -/
theorem Allocation.error_of_accepted {later : System β} {size align : Word} {attempt : Attempt}
    {extent : Extent sys.arena.geometry} (h : Allocation sys size align attempt later)
    (haccept : sys.arena.geometry.accept size align = .ok extent) {error : Error}
    (houtcome : attempt.outcome = .failed error) :
    error = .capacityExhausted ∨ ∃ index, error = .poolAbsent index := by
  cases h with
  | rejected hreject =>
      rw [haccept] at hreject
      cases hreject
  | exhausted haccept hreserve =>
      cases houtcome
      exact .inl rfl
  | absent haccept hreserve habsent =>
      cases houtcome
      exact .inr ⟨_, rfl⟩
  | abandoned relaxes times haccept hreserve hpending => cases houtcome
  | granted relaxes times haccept hreserve hready hwait => cases houtcome

/-- Of every request exactly one verdict is right. One that is rejected fails with the error
of its verdict, and changes nothing. One that is accepted fails for other reasons only, and
if it does not wait it touches no more than the cursor and the slot that its block asks
for. -/
theorem alloc_atomic (sys : System β) (size align : Word) (schedule : Schedule) :
    (∃! verdict : Verdict, verdict.Applies sys.arena.geometry size align)
      ∧ (∀ verdict : Verdict, verdict.Applies sys.arena.geometry size align →
          ∀ error, verdict.error? sys.arena.geometry size align = some error →
            sys.alloc size align schedule = (Attempt.failure error 0, sys))
      ∧ (Verdict.accepted.Applies sys.arena.geometry size align →
          (∀ error, (sys.alloc size align schedule).1.outcome = .failed error →
              error = .capacityExhausted ∨ ∃ index, error = .poolAbsent index)
            ∧ ((sys.alloc size align schedule).1.relaxes = 0 →
              sys.Touches (sys.alloc size align schedule).1
                (sys.alloc size align schedule).2)) := by
  refine ⟨Verdict.existsUnique_applies _ size align, ?_, ?_⟩
  · intro verdict happlies error herror
    exact sys.alloc_of_rejected schedule (happlies.accept_eq herror)
  · intro happlies
    obtain ⟨extent, haccept⟩ := happlies.exists_accept_eq
    refine ⟨?_, alloc_touches haccept⟩
    intro error houtcome
    exact (sys.alloc_spec size align schedule).error_of_accepted haccept houtcome

/-- With its padding the first request would be larger than any word, and is reported as the
largest one. The second one gets the first block of pool zero, and asks for pool one. -/
theorem alloc_atomic_smooth :
    let sys := Run.smooth.final
    sys.alloc 0xffffffffffffffff 64 []
        = (Attempt.failure (.requestTooLarge 0xffffffffffffffff 64) 0, sys)
      ∧ sys.Touches (sys.alloc 24 8 []).1 (sys.alloc 24 8 []).2 := by
  intro sys
  have hlarge : Verdict.tooLarge.Applies sys.arena.geometry 0xffffffffffffffff 64 :=
    ⟨by decide, ⟨⟨6, rfl⟩, by decide +kernel⟩, by decide +kernel⟩
  have hsmall : Verdict.accepted.Applies sys.arena.geometry 24 8 :=
    ⟨by decide, ⟨⟨3, rfl⟩, by decide +kernel⟩, by decide +kernel⟩
  obtain ⟨_, hreject, _⟩ := sys.alloc_atomic 0xffffffffffffffff 64 []
  obtain ⟨_, _, haccept⟩ := sys.alloc_atomic 24 8 []
  exact ⟨hreject _ hlarge _ (by decide +kernel), (haccept hsmall).2 (by decide +kernel)⟩

end System

end PooledArena
