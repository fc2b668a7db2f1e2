import PooledArena.Proofs.Session

/-!
# `PooledArena.Proofs.Overflow`: requests that end beyond the last word

Before an allocation a session looks at the pools up to the end of the next reservation. Two
sums lead to that end. The padding is added to the size by a sum that stops at the largest word,
and what comes out to the reserved bytes by a sum that does not stop. So the end can be too large
for a word, and then the session breaks off (`Session.Overflows`).

Every other answer is the one of exact arithmetic. It makes no difference that the padded size
is cut off, since the last pool ends far below (`Arena.waitsWithin_min`).

The request itself is not checked before that. It would have been rejected, for a reason that the
session has a reply to (`Session.overflows_rejected`), and it is for more than half of the words
(`Session.Overflows.lt_bytes`). But there is such a request as soon as a single byte of the arena
is reserved (`Session.exists_overflows_iff`).

`Session.overflows_exactly` says all this of every session, in whatever state.
-/

set_option autoImplicit false

namespace PooledArena

/-! ### The outlook in exact numbers -/

namespace Arena

variable {arena : Arena} {padded : Word} {answer : Bool}

/-- Some pool up to the end of the next reservation is pending. The reservation may be of any
number of bytes. -/
def WaitsWithin (arena : Arena) (bytes : Nat) : Prop :=
  ∃ index ≤ min ((arena.reserved.toNat + bytes - 1) / arena.geometry.poolSize.toNat)
    (arena.geometry.poolCount.toNat - 1), arena.table.slot index = .pending

theorem wouldWait?_eq_none_iff : arena.wouldWait? padded = none
    ↔ 0x10000000000000000 ≤ arena.reserved.toNat + padded.toNat := by
  rw [wouldWait?, Option.map_eq_none_iff, Word.checkedAdd_eq_none_iff]

/-- Where the end is a word, the outlook has an answer, and it is the exact one. -/
theorem exists_wouldWait?_eq_some
    (h : arena.reserved.toNat + padded.toNat < 0x10000000000000000) :
    ∃ answer, arena.wouldWait? padded = some answer
      ∧ (answer = true ↔ arena.WaitsWithin padded.toNat) := by
  cases hask : arena.wouldWait? padded with
  | none => exact absurd (wouldWait?_eq_none_iff.1 hask) (Nat.not_le.2 h)
  | some answer =>
      refine ⟨answer, rfl, ?_⟩
      obtain ⟨stop, hstop, rfl⟩ := Option.map_eq_some_iff.1 hask
      rw [Word.checkedAdd_eq_some_iff] at hstop
      dsimp only
      rw [SlotTable.contains_pending_iff, hstop]
      exact exists_congr fun index => and_congr_left' Nat.lt_succ_iff

/-- The pools end below half of the words. So bytes beyond the largest word are as good as the
largest word. -/
theorem waitsWithin_min (arena : Arena) (bytes : Nat) :
    arena.WaitsWithin (min bytes 0xffffffffffffffff) ↔ arena.WaitsWithin bytes := by
  rcases Nat.le_total bytes 0xffffffffffffffff with hle | hge
  · rw [Nat.min_eq_left hle]
  · -- Both ends are beyond the last pool, so the look goes as far as the last pool.
    have hcapacity := arena.geometry.toNat_capacity_lt
    rw [Geometry.toNat_capacity] at hcapacity
    have hbeyond : ∀ stop, 0x8000000000000000 ≤ stop →
        arena.geometry.poolCount.toNat ≤ stop / arena.geometry.poolSize.toNat := by
      intro stop hstop
      rw [Nat.le_div_iff_mul_le arena.geometry.poolSize_pos]
      omega
    have hcut := hbeyond (arena.reserved.toNat + 0xffffffffffffffff - 1) (by omega)
    have hexact := hbeyond (arena.reserved.toNat + bytes - 1) (by omega)
    unfold WaitsWithin
    rw [Nat.min_eq_right hge, Nat.min_eq_right (by omega), Nat.min_eq_right (by omega)]

theorem toNat_reserved_lt (arena : Arena) : arena.reserved.toNat < 0x8000000000000000 := by
  have hcapacity := arena.geometry.toNat_capacity_lt
  rw [toNat_reserved]
  omega

end Arena

namespace Shell

theorem toNat_paddedSize (size align : Word) : (paddedSize size align).toNat
    = min (size.toNat + (align.toNat - 1)) 0xffffffffffffffff := by
  rw [paddedSize, Word.toNat_saturatingAdd]
  split
  · rename_i hzero
    rw [hzero]
    rfl
  · rename_i hpos
    rw [Word.toNat_sub_one (Nat.pos_of_ne_zero hpos)]

namespace Session

variable {β : Type} {session : Session β} {name : String} {arena : Arena} {size align : Word}
  {inject : Bool}

/-! ### Commands that overflow -/

/-- The command asks for a reservation that ends beyond the last word. -/
inductive Overflows (session : Session β) : Command → Prop
  | alloc {name : String} {arena : Arena} {size align : Word} {inject : Bool}
      (hfind : session.find? name = some arena)
      (hbeyond : 0x10000000000000000
        ≤ arena.reserved.toNat + min (size.toNat + (align.toNat - 1)) 0xffffffffffffffff) :
      Overflows session (.alloc name size align inject)

theorem overflows_alloc_iff (hfind : session.find? name = some arena) :
    session.Overflows (.alloc name size align inject)
      ↔ arena.wouldWait? (paddedSize size align) = none := by
  rw [Arena.wouldWait?_eq_none_iff, toNat_paddedSize]
  constructor
  · rintro ⟨hfind', hbeyond⟩
    obtain rfl := Option.some.inj (hfind.symm.trans hfind')
    exact hbeyond
  · exact .alloc hfind

/-- The request is for more than half of the words. -/
theorem Overflows.lt_bytes (h : session.Overflows (.alloc name size align inject)) :
    0x8000000000000000 < size.toNat + (align.toNat - 1) := by
  obtain ⟨_, hbeyond⟩ := h
  rename_i arena _
  have hreserved := arena.toNat_reserved_lt
  omega

/-- The padded size is a word, so it takes a reserved byte to overflow, and one is enough. -/
theorem exists_overflows_iff (hfind : session.find? name = some arena) :
    (∃ size align inject, session.Overflows (.alloc name size align inject))
      ↔ 0 < arena.reserved.toNat := by
  constructor
  · rintro ⟨size, align, inject, h⟩
    rw [overflows_alloc_iff hfind, Arena.wouldWait?_eq_none_iff] at h
    have hpadded := (paddedSize size align).toNat_lt
    omega
  · intro hreserved
    refine ⟨0xffffffffffffffff, 1, false, .alloc hfind ?_⟩
    show _ ≤ arena.reserved.toNat + 0xffffffffffffffff
    omega

variable [Backing β]

/-- The checks would have rejected the request, for a reason that the session has a reply to. No
arena has pools of that size. -/
theorem overflows_rejected (h : session.Overflows (.alloc name size align inject))
    (arena : Arena) (schedule : Schedule) :
    ∃ error reply, (System.mk arena session.host).alloc size align schedule
        = (Attempt.failure error 0, ⟨arena, session.host⟩)
      ∧ Reply.ofAllocError? error = some reply := by
  have hbytes := h.lt_bytes
  have hpool := arena.geometry.toNat_poolSize_le
  unfold System.alloc
  cases haccept : arena.geometry.accept size align with
  | ok extent =>
      -- An extent fits in a pool, and this one would be larger than any pool can be.
      have hfits := extent.bytes_le
      rw [(arena.geometry.accept_eq_ok haccept).bytes_eq] at hfits
      omega
  | error error =>
      refine ⟨error, ?_⟩
      rcases arena.geometry.accept_eq_error haccept with rfl | rfl | rfl
      · exact ⟨_, rfl, rfl⟩
      · exact ⟨_, rfl, rfl⟩
      · exact ⟨_, rfl, rfl⟩

/-! ### Reactions that overflow -/

/-- After the outlook has answered, no sum is too large. -/
theorem allocFrom_ne_overflowed (session : Session β) (name : String) (arena : Arena)
    (size align : Word) (inject : Bool) :
    (session.allocFrom name arena size align inject).ending ≠ some .overflowed := by
  unfold allocFrom
  dsimp only
  split
  · unfold followUp
    split
    · exact nofun
    · split
      · exact nofun
      · split
        · exact nofun
        · exact nofun
  · exact sayOrFail_ne _ _ _ nofun
  · exact nofun

theorem overflowed_alloc_iff (session : Session β) (name : String) (size align : Word)
    (inject : Bool) : (session.alloc name size align inject).ending = some .overflowed
      ↔ session.Overflows (.alloc name size align inject) := by
  cases hfind : session.find? name with
  | none =>
      unfold alloc
      rw [hfind]
      refine ⟨nofun, ?_⟩
      rintro ⟨hfound, _⟩
      cases hfind.symm.trans hfound
  | some arena =>
      rw [overflows_alloc_iff hfind, alloc_eq hfind]
      cases hask : arena.wouldWait? (paddedSize size align) with
      | none => exact ⟨fun _ => rfl, fun _ => rfl⟩
      | some answer =>
          cases answer with
          | true => exact ⟨nofun, nofun⟩
          | false => exact ⟨fun h => absurd h (allocFrom_ne_overflowed _ _ _ _ _ _), nofun⟩

theorem overflowed_perform_iff (session : Session β) (command : Command) :
    (session.perform command).ending = some .overflowed ↔ session.Overflows command := by
  cases command with
  | alloc name size align inject => exact overflowed_alloc_iff session name size align inject
  | create name poolCount minPoolSize =>
      refine iff_of_false ?_ nofun
      show (session.create name poolCount minPoolSize).ending ≠ _
      unfold create
      split
      · exact nofun
      · split
        · exact sayOrFail_ne _ _ _ nofun
        · exact nofun
  | inject name =>
      refine iff_of_false ?_ nofun
      show (session.inject name).ending ≠ _
      unfold Session.inject
      split
      · exact nofun
      · split
        · exact nofun
        · exact sayOrFail_ne _ _ _ nofun
  | delete name =>
      refine iff_of_false ?_ nofun
      show (session.delete name).ending ≠ _
      unfold delete
      split
      · exact nofun
      · dsimp only
        split
        · exact nofun
        · exact nofun
  | print name =>
      refine iff_of_false ?_ nofun
      cases name with
      | none =>
          show session.printAll.ending ≠ _
          unfold printAll
          split
          · exact nofun
          · exact nofun
      | some name =>
          show (session.print name).ending ≠ _
          unfold print
          split
          · exact nofun
          · exact nofun
  | exit => exact iff_of_false nofun nofun

/-! ### What a session makes of every size and alignment -/

/-- The requests for which the session breaks off are told by exact numbers, and the outlook has
the exact answer for all the others. -/
structure OverflowsExactly (session : Session β) : Prop where
  /-- The session breaks off for the end of a reservation at the commands that overflow, and
  nowhere else. -/
  overflowed_iff : ∀ input, (session.react input).ending = some .overflowed
    ↔ ∃ command, input = .ok command ∧ session.Overflows command
  answer : ∀ name arena, session.find? name = some arena → ∀ size align inject,
    ¬session.Overflows (.alloc name size align inject) →
    ∃ answer, arena.wouldWait? (paddedSize size align) = some answer
      ∧ (answer = true ↔ arena.WaitsWithin (size.toNat + (align.toNat - 1)))
  /-- Only requests for more than half of the words overflow. -/
  lt_bytes : ∀ name size align inject, session.Overflows (.alloc name size align inject) →
    0x8000000000000000 < size.toNat + (align.toNat - 1)
  /-- There are such requests once a byte is reserved. -/
  exists_iff : ∀ name arena, session.find? name = some arena →
    ((∃ size align inject, session.Overflows (.alloc name size align inject))
      ↔ 0 < arena.reserved.toNat)
  /-- They would have been rejected, for a reason that the session has a reply to. -/
  rejected : ∀ name arena, session.find? name = some arena → ∀ size align inject,
    session.Overflows (.alloc name size align inject) → ∀ schedule, ∃ error reply,
      (System.mk arena session.host).alloc size align schedule
          = (Attempt.failure error 0, ⟨arena, session.host⟩)
        ∧ Reply.ofAllocError? error = some reply

/-- A session in any state, and any size and alignment. -/
theorem overflows_exactly (session : Session β) : session.OverflowsExactly where
  overflowed_iff input := by
    cases input with
    | error error =>
        refine iff_of_false nofun ?_
        rintro ⟨_, heq, _⟩
        cases heq
    | ok command =>
        rw [show session.react (.ok command) = session.perform command from rfl,
          overflowed_perform_iff]
        refine ⟨fun h => ⟨command, rfl, h⟩, ?_⟩
        rintro ⟨_, heq, h⟩
        cases heq
        exact h
  answer name arena hfind size align inject h := by
    rw [overflows_alloc_iff hfind, Arena.wouldWait?_eq_none_iff, Nat.not_le] at h
    rw [← arena.waitsWithin_min, ← toNat_paddedSize]
    exact Arena.exists_wouldWait?_eq_some h
  lt_bytes _ _ _ _ h := h.lt_bytes
  exists_iff _ _ hfind := exists_overflows_iff hfind
  rejected _ arena _ _ _ _ h schedule := overflows_rejected h arena schedule

/-- What three lines come to: an arena of one pool, a byte of it, and then as many bytes as a word
can say. -/
def greedy : List (Reaction Scripted) :=
  (start (Scripted.ofScript .smooth)).reactAll
    [.ok (.create "a" 1 64), .ok (.alloc "a" 1 1 false),
      .ok (.alloc "a" 0xffffffffffffffff 1 false)]

/-- What the last line leaves behind. -/
def greedyEnd : Session Scripted :=
  (greedy.getLast?.get (by decide +kernel)).session

/-- The last sum is the first number that is no word, and the session breaks off. -/
theorem overflows_greedy :
    greedy.map Reaction.ending = [none, none, some .overflowed] ∧ exitCode? greedy = some 101
      ∧ greedyEnd ∈ greedy.map Reaction.session
      ∧ ∃ arena, greedyEnd.find? "a" = some arena
        ∧ arena.reserved.toNat + (paddedSize 0xffffffffffffffff 1).toNat
          = 0x10000000000000000 := by
  refine ⟨by decide +kernel, by decide +kernel, ?_, ?_⟩
  · exact List.mem_map_of_mem (List.mem_of_getLast? (Option.some_get _).symm)
  · have hfind : greedyEnd.find? "a" = some ((greedyEnd.find? "a").get (by decide +kernel)) :=
      (Option.some_get _).symm
    exact ⟨_, hfind, by decide +kernel⟩

end Session

end Shell

end PooledArena
