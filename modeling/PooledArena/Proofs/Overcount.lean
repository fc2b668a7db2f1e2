import PooledArena.Backing.Heap
import PooledArena.Proofs.Accounting
import PooledArena.Proofs.Exact
import PooledArena.Proofs.Founding
import PooledArena.Proofs.Sizes

/-!
# `PooledArena.Proofs.Overcount`: arenas with too many pools to count

To allocate a whole pool and then bring the next one is a round. As long as the backing has
buffers, every round makes one more pool ready (`System.Filled.round`), so after enough rounds
all pools are ready (`System.Filled.rounds`).

The heap has buffers for every arena of two pools or more, because all pools together take up
less than half of the words. So whether an arena on the heap can get more pools than its release
can count is a matter of its sizes alone: `Run.exists_uncounted_iff` says that it takes
`0x80000000` pools.
-/

set_option autoImplicit false

namespace PooledArena

/-! ### Round after round -/

namespace Geometry

/-- Allocate a whole pool, and bring the next one. -/
def round (g : Geometry) : List Operation :=
  [.alloc g.poolSize 1 [], .inject]

/-- A whole pool may be asked for, and takes up nothing beside it. -/
theorem exists_accept_poolSize (g : Geometry) :
    ∃ extent, g.accept g.poolSize 1 = .ok extent ∧ extent.bytes.toNat = g.poolSize.toNat := by
  obtain ⟨hpower, hone⟩ := supports_iff.1 g.supports_one
  obtain ⟨extent, haccept⟩ :=
    g.exists_accept_eq_ok g.poolSize_pos hpower hone (Nat.le_refl _)
  exact ⟨extent, haccept, (g.accept_eq_ok haccept).bytes_eq⟩

end Geometry

namespace System

variable {β : Type} {sys : System β} {pools : Nat}

/-- The first `pools` pools are ready, and nobody has asked for another one. The last of them
is untouched, and no room is left in the others. -/
structure Filled (sys : System β) (pools : Nat) : Prop where
  exists_stage : ∃ held, held.length = pools
    ∧ sys.arena.table.AtStage ⟨held, false, sys.arena.geometry.poolCount.toNat - pools⟩
  cursor_eq : sys.arena.cursor.position.toNat + sys.arena.geometry.poolSize.toNat
    = pools * sys.arena.geometry.poolSize.toNat

theorem Filled.readyPools_eq (h : sys.Filled pools) : sys.arena.readyPools = pools := by
  obtain ⟨held, rfl, hstage⟩ := h.exists_stage
  exact hstage.readyCount_eq

theorem Filled.of_created {label : String} {host : Host β} {buffer : Addr}
    (h : Created label host sys buffer) : sys.Filled 1 := by
  refine ⟨⟨[buffer], rfl, h.atStage⟩, ?_⟩
  rw [h.cursor_eq, Nat.one_mul]
  exact Nat.zero_add _

/-- The cursor is at the beginning of the last pool that is ready. -/
theorem Filled.locate_eq (h : sys.Filled pools) :
    (sys.arena.geometry.locate sys.arena.cursor.position).index + 1 = pools
      ∧ (sys.arena.geometry.locate sys.arena.cursor.position).offset.toNat = 0 := by
  obtain ⟨held, rfl, hstage⟩ := h.exists_stage
  have hcursor := h.cursor_eq
  have hpos : 0 < held.length := hstage.held_pos
  obtain ⟨last, hlast⟩ : ∃ last, held.length = last + 1 := ⟨held.length - 1, by omega⟩
  have hstart : sys.arena.cursor.position.toNat
      = last * sys.arena.geometry.poolSize.toNat + 0 := by
    rw [hlast, Nat.succ_mul] at hcursor
    omega
  obtain ⟨hindex, hoffset⟩ := Geometry.locate_eq hstart sys.arena.geometry.poolSize_pos
  exact ⟨by rw [hindex, hlast], hoffset⟩

variable [Backing β]

/-- A block of a whole pool lies in the last pool that is ready, and asks for the next one. -/
theorem Filled.alloc (h : sys.Filled pools) (hmore : pools < sys.arena.geometry.poolCount.toNat) :
    ∃ arena, (sys.alloc sys.arena.geometry.poolSize 1 []).2 = { sys with arena }
      ∧ arena.geometry = sys.arena.geometry
      ∧ arena.cursor.position.toNat = pools * sys.arena.geometry.poolSize.toNat
      ∧ ∃ held, held.length = pools ∧ arena.table.AtStage
        ⟨held, true, sys.arena.geometry.poolCount.toNat - pools - 1⟩ := by
  obtain ⟨hindex, hoffset⟩ := h.locate_eq
  have hcursor := h.cursor_eq
  obtain ⟨held, rfl, hstage⟩ := h.exists_stage
  obtain ⟨extent, haccept, hbytes⟩ := sys.arena.geometry.exists_accept_poolSize
  have hwithin : sys.arena.cursor.position.toNat < sys.arena.geometry.capacity.toNat := by
    rw [← Geometry.locate_index_lt_iff]
    omega
  -- The reservation begins where the pool does, and is as large as the pool.
  have hfits : sys.arena.cursor.position.toNat % sys.arena.geometry.poolSize.toNat
      + extent.bytes.toNat ≤ sys.arena.geometry.poolSize.toNat := by
    rw [← Geometry.locate_offset, hoffset]
    omega
  obtain ⟨buffer, hready⟩ : ∃ buffer, sys.arena.table.slot
      (sys.arena.geometry.locate sys.arena.cursor.position).index = .ready buffer := by
    refine ⟨_, (hstage.slot_eq_ready_iff _ _).2 (List.getElem?_eq_getElem ?_)⟩
    exact Nat.lt_of_succ_le (Nat.le_of_eq hindex)
  have halloc :=
    sys.alloc_of_ready [] haccept (Geometry.reserve_of_fits hwithin hfits) hready
  have hnext := sys.arena.geometry.toNat_reserve extent
    (mt UInt64.le_iff_toNat_le.1 (Nat.not_le.2 hwithin))
  refine ⟨_, congrArg Prod.snd halloc, rfl, ?_, held, rfl, ?_⟩
  · show (sys.arena.cursor.reserve extent.bytes).2.position.toNat = _
    omega
  · obtain ⟨_, hasked⟩ := hstage.request (Nat.le_refl held.length)
    have hstep : (Stage.mk held false
          (sys.arena.geometry.poolCount.toNat - held.length)).request held.length
        = (true, ⟨held, true, sys.arena.geometry.poolCount.toNat - held.length - 1⟩) :=
      if_pos ⟨rfl, rfl, Nat.sub_pos_of_lt hmore⟩
    rw [hstep] at hasked
    show (sys.arena.table.request (_ + 1)).2.AtStage _
    rw [hindex]
    exact hasked

/-- A buffer that the backing grants makes the pool ready that waits for it. -/
theorem inject_of_waiting (sys : System β) {held : List Addr} {rest : Nat}
    (hstage : sys.arena.table.AtStage ⟨held, true, rest⟩) (hserved : sys.Served) :
    ∃ buffer, sys.inject.2.arena.table.AtStage ⟨held ++ [buffer], false, rest⟩ := by
  have hspec := sys.inject_spec
  unfold Served at hserved
  generalize sys.inject.2 = later at hspec ⊢
  generalize sys.inject.1 = result at hspec
  cases hspec with
  | refused hallocate =>
      rw [hallocate] at hserved
      cases hserved
  | @installed host buffer index hallocate hinstall => exact ⟨buffer, (hstage.offer buffer).2⟩
  | @returned host buffer hallocate hinstall =>
      cases hinstall.symm.trans (hstage.offer buffer).1

/-- After a round one more pool is ready. -/
theorem Filled.round (h : sys.Filled pools) (hmore : pools < sys.arena.geometry.poolCount.toNat)
    (hserved : sys.Served) :
    (sys.performAll sys.arena.geometry.round).2.Filled (pools + 1) := by
  obtain ⟨arena, halloc, hgeometry, hcursor, held, rfl, hstage⟩ := h.alloc hmore
  have hserved' : ({ sys with arena } : System β).Served := by
    unfold Served
    rw [hgeometry]
    exact hserved
  have hinjection := ({ sys with arena } : System β).inject_spec
  obtain ⟨buffer, hfilled⟩ := inject_of_waiting { sys with arena } hstage hserved'
  show (sys.alloc sys.arena.geometry.poolSize 1 []).2.inject.2.Filled _
  rw [halloc]
  refine ⟨⟨held ++ [buffer], List.length_append, ?_⟩, ?_⟩
  · rw [hinjection.frame.geometry_eq, hgeometry, Nat.sub_add_eq]
    exact hfilled
  · rw [hinjection.cursor_eq, hinjection.frame.geometry_eq, hgeometry, hcursor, Nat.succ_mul]

/-- After so many rounds so many more pools are ready. -/
theorem Filled.rounds (h : sys.Filled pools)
    (hserves : ∀ host : Host β, (host.allocate sys.arena.geometry.bufferLayout).1.isSome = true)
    (times : Nat) (hroom : pools + times ≤ sys.arena.geometry.poolCount.toNat) :
    (sys.performAll (List.replicate times sys.arena.geometry.round).flatten).2.Filled
      (pools + times) := by
  induction times generalizing sys pools with
  | zero => exact h
  | succ times ih =>
      -- The shape stays, so the rounds to come are the same.
      have hround := h.round (by omega) (hserves sys.host)
      have hgeometry :=
        (sys.performAll_changes sys.arena.geometry.round).frame.geometry_eq
      have hrest := ih hround (by rwa [hgeometry]) (by rw [hgeometry]; omega)
      rw [hgeometry, Nat.add_right_comm] at hrest
      rw [List.replicate_succ, List.flatten_cons, performAll_append]
      exact hrest

end System

/-! ### What the heap has room for -/

namespace SlotTable

theorem exists_layout? (length : Nat) (h : 16 * length + 8 ≤ 0x8000000000000000) :
    ∃ layout, layout? length = some layout ∧ layout.size.toNat = 16 * length := by
  refine ⟨_, dif_pos h, ?_⟩
  exact (UInt64.toNat_ofNat' ..).trans (Nat.mod_eq_of_lt (by omega))

end SlotTable

namespace Heap

theorem isSome_allocate (host : Host Heap) {layout : Layout} (hpos : 0 < layout.size.toNat)
    (hlt : layout.size.toNat < unservable) : (host.allocate layout).1.isSome = true := by
  have hserved : ¬(layout.size.toNat = 0 ∨ unservable ≤ layout.size.toNat) := by omega
  unfold Host.allocate Backing.allocate instBacking
  dsimp only
  rw [if_neg hserved]
  rfl

/-- Two pools of an arena take up less than half of the words, so a single one is no more than
the heap can serve. -/
theorem isSome_allocate_buffer {g : Geometry} (h : 2 ≤ g.poolCount.toNat) (host : Host Heap) :
    (host.allocate g.bufferLayout).1.isSome = true := by
  have hcapacity := g.toNat_capacity_lt
  rw [g.toNat_capacity] at hcapacity
  have htwo := Nat.mul_le_mul_right g.poolSize.toNat h
  refine isSome_allocate host g.poolSize_pos ?_
  show g.poolSize.toNat < 0x4000000000000000
  omega

/-- The heap has room for an arena if it has room for the table. -/
theorem exists_create {poolCount minPoolSize : Word} {g : Geometry}
    (hsizes : Geometry.ofSizes poolCount minPoolSize = .ok g) (hpools : 2 ≤ g.poolCount.toNat)
    (htable : 16 * g.poolCount.toNat < unservable) (label : String) (host : Host Heap) :
    ∃ sys : System Heap,
      Arena.create label poolCount minPoolSize host = (.ok sys.arena, sys.host) := by
  have hlimit : unservable = 0x4000000000000000 := rfl
  have hpos := g.poolCount_pos
  obtain ⟨layout, hlayout, hsize⟩ := SlotTable.exists_layout? g.poolCount.toNat (by omega)
  have hserved : (host.allocate layout).1.isSome = true :=
    isSome_allocate host (by omega) (by omega)
  -- The buffer is asked for after the table.
  obtain ⟨addr, haddr⟩ := Option.isSome_iff_exists.1 hserved
  obtain ⟨buffer, hbuffer⟩ := Option.isSome_iff_exists.1
    (isSome_allocate_buffer hpools (host.allocate layout).2)
  have hfirst : host.allocate layout = (some addr, _) := Prod.ext haddr rfl
  have hsecond : (host.allocate layout).2.allocate g.bufferLayout = (some buffer, _) :=
    Prod.ext hbuffer rfl
  exact ⟨⟨_, _⟩, (Creation.created hsizes hlayout hfirst hsecond).create_eq⟩

end Heap

/-! ### Too many to count -/

namespace Run

/-- On the heap as many pools get ready as there are. -/
theorem exists_filled {poolCount minPoolSize : Word} {g : Geometry}
    (hsizes : Geometry.ofSizes poolCount minPoolSize = .ok g) (hpools : 2 ≤ g.poolCount.toNat)
    (htable : 16 * g.poolCount.toNat < Heap.unservable) (label : String) (host : Host Heap)
    (times : Nat) (htimes : times < g.poolCount.toNat) :
    ∃ run : Run Heap, run.label = label ∧ run.poolCount = poolCount
      ∧ run.minPoolSize = minPoolSize ∧ run.host = host
      ∧ run.operations = (List.replicate times g.round).flatten
      ∧ run.final.arena.readyPools = times + 1 := by
  obtain ⟨opening, hcreate⟩ := Heap.exists_create hsizes hpools htable label host
  obtain ⟨buffer, hcreated⟩ := create_spec hcreate
  obtain rfl : g = opening.arena.geometry :=
    Except.ok.inj (hsizes.symm.trans (System.ofSizes_of_create hcreate))
  have hfilled := (System.Filled.of_created hcreated).rounds (Heap.isSome_allocate_buffer hpools)
    times (by omega)
  refine ⟨⟨label, poolCount, minPoolSize, host, opening, hcreate, _⟩, rfl, rfl, rfl, rfl, rfl, ?_⟩
  rw [Nat.add_comm]
  exact hfilled.readyPools_eq

/-- A release on the heap can break off if, and only if, the arena has too many pools for it. -/
theorem exists_uncounted_iff {poolCount minPoolSize : Word} {g : Geometry}
    (hsizes : Geometry.ofSizes poolCount minPoolSize = .ok g)
    (htable : 16 * poolCount.toNat < Heap.unservable) :
    (∃ run : Run Heap, run.poolCount = poolCount ∧ run.minPoolSize = minPoolSize
      ∧ run.released.completed = false) ↔ 0x80000000 ≤ poolCount.toNat := by
  have hpoolCount := Geometry.poolCount_of_ofSizes hsizes
  refine ⟨?_, fun hlarge => ?_⟩
  · rintro ⟨run, rfl, rfl, hbroken⟩
    obtain rfl : g = run.geometry :=
      Except.ok.inj (hsizes.symm.trans (System.ofSizes_of_create run.create_eq))
    have hready := run.readyPools_le_poolCount
    rw [hpoolCount] at hready
    exact Nat.le_trans (run.final.completed_release_eq_false_iff.1 hbroken) hready
  · rw [← hpoolCount] at htable hlarge
    obtain ⟨run, _, hcount, hsize, _, _, hready⟩ :=
      exists_filled hsizes (by omega) htable "" (Host.ofBacking ⟨1⟩) 0x7fffffff (by omega)
    refine ⟨run, hcount, hsize, run.final.completed_release_eq_false_iff.2 ?_⟩
    exact Nat.le_of_eq hready.symm

/-- An arena with a single pool too many, all of them of one byte. Its release gives back all
buffers, but no note follows, and the table stays on loan. -/
theorem crowded_stranded :
    ∃ run : Run Heap, run.label = "crowded" ∧ run.poolCount = 0x80000000 ∧ run.minPoolSize = 1
      ∧ run.host = Host.ofBacking ⟨1⟩
      ∧ run.operations = (List.replicate 0x7fffffff [.alloc 1 1 [], .inject]).flatten
      ∧ (0 :: run.filled).length = 0x80000000
      ∧ run.released.completed = false
      ∧ run.released.host.log = run.final.host.log
      ∧ run.released.host.outstanding = [run.final.arena.table.loan] := by
  have hleast : Geometry.leastPoolSize 1 = 1 := by decide +kernel
  have htotal : (0x80000000 : Word).toNat * Geometry.leastPoolSize 1 ≤ 0x7fffffffffffffff := by
    rw [hleast]
    decide
  obtain ⟨g, hsizes, hcount, hsize⟩ := Geometry.exists_ofSizes_of_le (by decide) htotal
  have hpools : g.poolCount.toNat = 0x80000000 := by
    rw [hcount]
    rfl
  have hround : g.round = [.alloc 1 1 [], .inject] := by
    rw [Geometry.round, UInt64.toNat_inj.1 (hsize.trans hleast : _ = (1 : Word).toNat)]
  have htable : 16 * g.poolCount.toNat < Heap.unservable := by
    rw [hpools]
    decide
  obtain ⟨run, hlabel, hpoolCount, hminPoolSize, hhost, hoperations, hready⟩ :=
    exists_filled hsizes (by omega) htable "crowded" (Host.ofBacking ⟨1⟩) 0x7fffffff (by omega)
  have hloans : run.final.arena.bufferLoans.length = 0x80000000 := by
    rw [Arena.length_bufferLoans, hready]
  have hfilled := run.length_filled.trans hloans
  have hbroken := run.brokenOff (Nat.le_of_eq hfilled.symm)
  have hcompleted := run.final.completed_release_eq_false_iff.2 (Nat.le_of_eq hready.symm)
  refine ⟨run, hlabel, hpoolCount, hminPoolSize, hhost, ?_, hfilled, hcompleted, hbroken.log_eq,
    ?_⟩
  · rw [hoperations, hround]
  · -- No buffer is behind the one that was too many, and nothing was on loan before.
    have hperm := hbroken.outstanding_perm
    rw [List.drop_of_length_le (Nat.le_of_eq hloans), hhost] at hperm
    exact List.perm_singleton.1 hperm

end Run

end PooledArena
