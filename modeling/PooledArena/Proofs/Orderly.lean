import PooledArena.Proofs.Holdings
import PooledArena.Proofs.Usage

/-!
# `PooledArena.Proofs.Orderly`: where the blocks of an arena in use lie

An arena in use is orderly if its blocks lie one behind the other in pools that have their
buffers, all of them before the place that is booked, and if the buffers are on loan. Every
deed leaves it so (`Orderly.step`), in whatever order deeds come.

On a backing that lends no memory twice (`Call.Apart`), the blocks of an orderly arena do not
overlap (`Orderly.disjoint`).
-/

set_option autoImplicit false

namespace PooledArena

/-! ### Loans that are apart -/

/-- What was lent was apart from all that was on loan then. -/
def Call.Apart : List Call → Prop
  | [] => True
  | .granted loan :: calls => (∀ other ∈ outstanding calls, loan.Disjoint other) ∧ Apart calls
  | .refused _ :: calls => Apart calls
  | .freed _ :: calls => Apart calls

/-- One call after the other is looked at. -/
def Call.decideApart : (calls : List Call) → Decidable (Apart calls)
  | [] => isTrue trivial
  | .granted loan :: calls =>
    have := decideApart calls
    inferInstanceAs (Decidable ((∀ other ∈ outstanding calls, loan.Disjoint other) ∧ Apart calls))
  | .refused _ :: calls => decideApart calls
  | .freed _ :: calls => decideApart calls

instance : DecidablePred Call.Apart :=
  Call.decideApart

namespace Call

theorem Apart.older {newer calls : List Call} (h : Apart (newer ++ calls)) : Apart calls := by
  induction newer with
  | nil => exact h
  | cons call newer ih =>
      cases call with
      | granted loan => exact ih h.2
      | refused layout => exact ih h
      | freed loan => exact ih h

/-- All that is on loan together is apart. -/
theorem Apart.pairwise {calls : List Call} (h : Apart calls) :
    (outstanding calls).Pairwise Loan.Disjoint := by
  induction calls with
  | nil => exact List.Pairwise.nil
  | cons call calls ih =>
      cases call with
      | granted loan => exact List.Pairwise.cons h.1 (ih h.2)
      | refused layout => exact ih h
      | freed loan => exact (ih h).sublist List.erase_sublist

end Call

/-! ### Orderly arenas -/

/-- The block that is to come fits its pool, lies before the cursor, and behind all blocks. -/
structure Booking.Reserved (booking : Booking) (arena : Arena) (blocks : List Block) : Prop where
  fit : ∀ buffer moreNeeded,
    (booking.block buffer moreNeeded).Fit arena.geometry booking.size booking.align
  behind : ∀ buffer moreNeeded, ∀ block ∈ blocks,
    arena.geometry.position block.place + block.size.toNat
      ≤ arena.geometry.position (booking.block buffer moreNeeded).place
  before : ∀ buffer moreNeeded,
    arena.geometry.position (booking.block buffer moreNeeded).place + booking.size.toNat
      ≤ arena.cursor.position.toNat

namespace Usage

variable {β : Type}

/-- The buffers are on loan, and the blocks lie one behind the other in them. -/
structure Orderly (usage : Usage β) : Prop where
  exists_stage : ∃ stage, usage.system.arena.table.AtStage stage
  lent : ∃ others,
    usage.system.host.outstanding = usage.system.arena.bufferLoans.reverse ++ others
  holds : ∀ block ∈ usage.blocks, usage.system.arena.Holds block
  fits : ∀ block ∈ usage.blocks, ∃ size align, block.Fit usage.system.arena.geometry size align
  ascending : usage.blocks.Pairwise fun first second =>
    usage.system.arena.geometry.position first.place + first.size.toNat
      ≤ usage.system.arena.geometry.position second.place
  booked : ∀ booking ∈ usage.booking, booking.Reserved usage.system.arena usage.blocks

namespace Orderly

variable {usage : Usage β}

theorem mem_outstanding (h : usage.Orderly) {loan : Loan}
    (hloan : loan ∈ usage.system.arena.bufferLoans) : loan ∈ usage.system.host.outstanding := by
  obtain ⟨others, hothers⟩ := h.lent
  rw [hothers]
  exact List.mem_append_left _ (List.mem_reverse.2 hloan)

theorem keeps (h : usage.Orderly) : usage.system.arena.Keeps usage.blocks :=
  ⟨h.exists_stage, h.holds, h.fits, h.ascending⟩

/-- Where no memory is lent twice, no two blocks overlap. -/
theorem disjoint (h : usage.Orderly) (hapart : Call.Apart usage.system.host.calls) :
    usage.blocks.Pairwise Block.Disjoint := by
  obtain ⟨others, hothers⟩ := h.lent
  have hpairwise := hapart.pairwise
  rw [show Call.outstanding _ = _ from hothers, List.pairwise_append, List.pairwise_reverse]
    at hpairwise
  exact h.keeps.disjoint (hpairwise.1.imp Loan.Disjoint.symm)

/-- A block behind all others may be added. -/
theorem append (h : usage.Orderly) {block : Block} (hholds : usage.system.arena.Holds block)
    {size align : Word} (hfit : block.Fit usage.system.arena.geometry size align)
    (hbehind : ∀ older ∈ usage.blocks,
      usage.system.arena.geometry.position older.place + older.size.toNat
        ≤ usage.system.arena.geometry.position block.place) :
    ({ usage with booking := none, blocks := usage.blocks ++ [block] } : Usage β).Orderly := by
  have hkeeps := h.keeps.append hholds hfit hbehind
  refine ⟨hkeeps.exists_stage, h.lent, hkeeps.holds, hkeeps.fits, hkeeps.ascending, ?_⟩
  intro booking hbooking
  cases hbooking

/-- The blocks stay where they are when there is nothing booked any more. -/
theorem leave (h : usage.Orderly) : ({ usage with booking := none } : Usage β).Orderly := by
  refine ⟨h.exists_stage, h.lent, h.holds, h.fits, h.ascending, ?_⟩
  intro booking hbooking
  cases hbooking

theorem withBytes (h : usage.Orderly) (memory : Memory) (fills : List (Nat × UInt8)) :
    (usage.withBytes memory fills).Orderly :=
  ⟨h.exists_stage, h.lent, h.holds, h.fits, h.ascending, h.booked⟩

end Orderly

theorem orderly_ofSystem {sys : System β} {label : String} {host : Host β} {buffer : Addr}
    (h : Created label host sys buffer) : (ofSystem sys).Orderly := by
  refine ⟨⟨_, h.atStage⟩, ⟨sys.arena.table.loan :: host.outstanding, ?_⟩, ?_, ?_, .nil, ?_⟩
  · show Call.outstanding sys.host.calls = sys.arena.bufferLoans.reverse ++ _
    rw [h.calls_eq, Arena.bufferLoans_eq h.atStage]
    rfl
  · intro block hblock
    cases hblock
  · intro block hblock
    cases hblock
  · intro booking hbooking
    cases hbooking

/-! ### The deeds -/

variable [Backing β] {usage : Usage β}

namespace Orderly

/-- Changes of the arena leave the blocks in order. What is booked has to be looked at. -/
theorem change (h : usage.Orderly) {later : System β} {filled : List Nat}
    (hchange : System.Change usage.system filled later)
    (hcursor : usage.system.arena.cursor.position.toNat ≤ later.arena.cursor.position.toNat)
    {booking : Option Booking}
    (hbooked : ∀ request ∈ booking, request.Reserved later.arena usage.blocks) :
    ({ usage with system := later, booking } : Usage β).Orderly := by
  obtain ⟨stage, hstage⟩ := h.exists_stage
  obtain ⟨calls, hdealings⟩ := hchange.dealings hstage
  obtain ⟨others, hothers⟩ := h.lent
  have hkeeps := h.keeps.changes hchange.changes hcursor
  refine ⟨hkeeps.exists_stage, ⟨others, ?_⟩, hkeeps.holds, hkeeps.fits, hkeeps.ascending, hbooked⟩
  show Call.outstanding later.host.calls = later.arena.bufferLoans.reverse ++ others
  rw [hdealings.calls_eq, hdealings.atOnce.honest.outstanding_append, hdealings.loans_eq,
    List.append_assoc]
  exact congrArg (_ ++ ·) hothers

theorem book (h : usage.Orderly) (size align : Word) : (usage.book size align).Orderly := by
  unfold Usage.book
  split
  · exact h.leave
  · rename_i extent haccept
    dsimp only
    generalize hreserve :
      usage.system.arena.geometry.reserve extent usage.system.arena.cursor = reservation
    obtain ⟨landing, cursor, straddles⟩ := reservation
    have hmove := System.Change.moveTo usage.system cursor
    have hcursor := Geometry.le_of_reserve hreserve
    cases landing with
    | exhausted =>
        refine h.change hmove hcursor ?_
        intro booking hbooking
        cases hbooking
    | settled place =>
        refine h.change hmove hcursor ?_
        intro booking hbooking
        cases hbooking
        have hsettled := Geometry.reserve_settled hreserve
        have hblock := hsettled.block (usage.system.arena.geometry.accept_eq_ok haccept)
        refine ⟨fun buffer moreNeeded => (hblock buffer moreNeeded).1, ?_,
          fun buffer moreNeeded => (hblock buffer moreNeeded).2.2⟩
        -- The blocks end before the old cursor, and the place begins behind it.
        intro buffer moreNeeded block hmem
        exact Nat.le_trans (h.holds block hmem).position_add_size_le
          (hblock buffer moreNeeded).2.1

theorem look (h : usage.Orderly) : usage.look.Orderly := by
  rcases usage.look_cases with hsame | hleft | ⟨booking, buffer, hbooking, hready, htaken⟩
  · rw [hsame]
    exact h
  · rw [hleft]
    exact h.leave
  · rw [htaken]
    have hreserved := h.booked booking hbooking
    have hnone : ∀ request ∈ (none : Option Booking), request.Reserved
        (usage.system.arena.request (booking.place.index + 1)).2 usage.blocks := nofun
    have hasked := h.change (.request hready) (Nat.le_refl _) hnone
    refine hasked.append ⟨?_, ?_⟩ (hreserved.fit buffer _) (hreserved.behind buffer _)
    · exact SlotTable.slot_request_of_ready hready _
    · exact hreserved.before buffer _

theorem inject (h : usage.Orderly) :
    ({ usage with system := usage.system.inject.2 } : Usage β).Orderly := by
  have hinject := usage.system.inject_spec
  have hgeometry := hinject.frame.geometry_eq
  have hcursor := hinject.cursor_eq
  refine h.change (.inject hinject) (Nat.le_of_eq (congrArg (·.position.toNat) hcursor.symm)) ?_
  intro booking hbooking
  obtain ⟨hfit, hbehind, hbefore⟩ := h.booked booking hbooking
  constructor
  · rw [hgeometry]
    exact hfit
  · rw [hgeometry]
    exact hbehind
  · rw [hgeometry, hcursor]
    exact hbefore

/-- An arena in use stays orderly, whatever is done with it. -/
theorem step (h : usage.Orderly) (deed : Deed) : (usage.step deed).Orderly := by
  cases deed with
  | book size align => exact h.book size align
  | look => exact h.look
  | leave => exact h.leave
  | inject => exact h.inject
  | fill number byte =>
      obtain ⟨memory, fills, hfill⟩ := usage.fill_eq number byte
      show (usage.fill number byte).Orderly
      rw [hfill]
      exact h.withBytes memory fills

end Orderly

end Usage

end PooledArena
