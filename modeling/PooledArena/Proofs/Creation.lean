import PooledArena.Proofs.Change
import PooledArena.Proofs.Release
import PooledArena.Proofs.Stage

/-!
# `PooledArena.Proofs.Creation`: what a creation can do

A creation comes out in one of five ways, and `Creation` has a constructor for each. The
sizes are refused before anything is asked of the backing. Where they are good, the table
may be too large for a layout, or the backing may refuse the table, or the first buffer. If
it grants both, the first pool takes the buffer, because it was asked for
(`Arena.install_blank`). If it grants the table alone, the table goes back
(`System.release_blank`). `create_cases` says that there are no other ways.

`create_spec` is about the last one: a table with one buffer, a cursor at the start, two
loans and two notices. The others are failures, and `Creation.allocatorError_iff` tells those
apart for which the backing is to blame.
-/

set_option autoImplicit false

namespace PooledArena

variable {β : Type}

/-! ### Before the first buffer -/

namespace Arena

/-- The first pool was asked for, and is the only one. -/
theorem slots_blank (label : String) (g : Geometry) (loan : Loan) :
    (blank label g loan).table.slots = (Stage.mk [] true (g.poolCount.toNat - 1)).slots := by
  have hpos := g.poolCount_pos
  obtain ⟨rest, hrest⟩ : ∃ rest, g.poolCount.toNat = rest + 1 :=
    ⟨g.poolCount.toNat - 1, by omega⟩
  show ((SlotTable.blank loan g.poolCount.toNat).request 0).2.slots = _
  rw [hrest]
  rfl

theorem loan_blank (label : String) (g : Geometry) (loan : Loan) :
    (blank label g loan).table.loan = loan :=
  SlotTable.loan_request _ 0

/-- No pool holds a buffer yet. -/
theorem bufferLoans_blank (label : String) (g : Geometry) (loan : Loan) :
    (blank label g loan).bufferLoans = [] := by
  unfold bufferLoans SlotTable.buffers
  rw [slots_blank, Stage.slots, List.map_nil, List.nil_append, List.filterMap_append,
    List.filterMap_replicate, List.filterMap_replicate]
  rfl

/-- The table is on loan for the layout that was worked out for it. -/
theorem housed_blank (label : String) {g : Geometry} {layout : Layout}
    (hlayout : SlotTable.layout? g.poolCount.toNat = some layout) (addr : Addr) :
    (blank label g ⟨addr, layout⟩).table.Housed := by
  rw [housed_iff, loan_blank]
  exact hlayout

/-- The first buffer goes to the first pool. -/
theorem install_blank (label : String) (g : Geometry) (loan : Loan) (buffer : Addr) :
    ((blank label g loan).install buffer).1 = some 0
      ∧ ((blank label g loan).install buffer).2.table.slots
        = (Stage.mk [buffer] false (g.poolCount.toNat - 1)).slots := by
  have hwalk := SlotTable.installFirst_slots buffer [] true (g.poolCount.toNat - 1)
  rw [← slots_blank label g loan] at hwalk
  exact ⟨congrArg Prod.fst hwalk, congrArg Prod.snd hwalk⟩

end Arena

/-- Without a buffer, a release has nothing to count, and the table is all that goes back. -/
theorem System.release_blank [Backing β] (label : String) {g : Geometry} {layout : Layout}
    (hlayout : SlotTable.layout? g.poolCount.toNat = some layout) (addr : Addr) (host : Host β) :
    (System.mk (Arena.blank label g ⟨addr, layout⟩) host).release = {
      completed := true
      host := (host.free ⟨addr, layout⟩).note label (.released 0)
    } := by
  have htable := host.freeTable_eq (Arena.housed_blank label hlayout addr)
  rw [Arena.loan_blank] at htable
  unfold release
  rw [Arena.bufferLoans_blank]
  show Release.mk true ((host.freeTable _).note label _) = _
  rw [htable]

/-! ### After the first buffer -/

/-- What a successful creation leaves behind. -/
structure Created (label : String) (host : Host β) (sys : System β) (buffer : Addr) : Prop where
  label_eq : sys.arena.label = label
  cursor_eq : sys.arena.cursor = Cursor.start
  slots_eq : sys.arena.table.slots
    = (Stage.mk [buffer] false (sys.arena.geometry.poolCount.toNat - 1)).slots
  calls_eq : sys.host.calls
    = .granted ⟨buffer, sys.arena.geometry.bufferLayout⟩ :: .granted sys.arena.table.loan
      :: host.calls
  log_eq : sys.host.log
    = ⟨label, .created sys.arena.geometry.poolCount sys.arena.geometry.poolSize⟩
      :: ⟨label, .injected 0 buffer⟩ :: host.log
  zeroed : ∀ addr, buffer ≤ addr ∧ addr < buffer + sys.arena.geometry.poolSize.toNat →
    sys.host.memory addr = 0
  housed : sys.arena.table.Housed

/-- The table begins with a single buffer. -/
theorem Created.atStage {label : String} {host : Host β} {sys : System β} {buffer : Addr}
    (h : Created label host sys buffer) : sys.arena.table.AtStage
      (Stage.mk [buffer] false (sys.arena.geometry.poolCount.toNat - 1)) :=
  ⟨h.slots_eq, Nat.one_pos⟩

variable [Backing β]

/-! ### The ways in which a creation comes out -/

/-- The ways in which a creation comes out, with the host after. -/
inductive Creation (label : String) (poolCount minPoolSize : Word) (host : Host β) :
    Except Error Arena → Host β → Prop
  /-- No arena has these sizes. -/
  | rejected {error : Error} (hsizes : Geometry.ofSizes poolCount minPoolSize = .error error) :
      Creation label poolCount minPoolSize host (.error error) host
  /-- The table has no layout. -/
  | tooLarge {g : Geometry} (hsizes : Geometry.ofSizes poolCount minPoolSize = .ok g)
      (hlayout : SlotTable.layout? g.poolCount.toNat = none) :
      Creation label poolCount minPoolSize host (.error .allocatorError) host
  /-- The backing has no memory for the table. -/
  | tableRefused {g : Geometry} {layout : Layout} {after : Host β}
      (hsizes : Geometry.ofSizes poolCount minPoolSize = .ok g)
      (hlayout : SlotTable.layout? g.poolCount.toNat = some layout)
      (htable : host.allocate layout = (none, after)) :
      Creation label poolCount minPoolSize host (.error .allocatorError) after
  /-- The backing has no buffer, and the table goes back. -/
  | bufferRefused {g : Geometry} {layout : Layout} {addr : Addr} {tableHost after : Host β}
      (hsizes : Geometry.ofSizes poolCount minPoolSize = .ok g)
      (hlayout : SlotTable.layout? g.poolCount.toNat = some layout)
      (htable : host.allocate layout = (some addr, tableHost))
      (hbuffer : tableHost.allocate g.bufferLayout = (none, after)) :
      Creation label poolCount minPoolSize host (.error .allocatorError)
        (System.mk (Arena.blank label g ⟨addr, layout⟩)
          (after.note label .bufferRefused)).release.host
  /-- The first pool has its buffer. -/
  | created {g : Geometry} {layout : Layout} {addr buffer : Addr} {tableHost after : Host β}
      (hsizes : Geometry.ofSizes poolCount minPoolSize = .ok g)
      (hlayout : SlotTable.layout? g.poolCount.toNat = some layout)
      (htable : host.allocate layout = (some addr, tableHost))
      (hbuffer : tableHost.allocate g.bufferLayout = (some buffer, after)) :
      Creation label poolCount minPoolSize host
        (.ok ((Arena.blank label g ⟨addr, layout⟩).install buffer).2)
        ((after.note label (.injected 0 buffer)).note label (.created g.poolCount g.poolSize))

theorem create_cases (label : String) (poolCount minPoolSize : Word) (host : Host β) :
    Creation label poolCount minPoolSize host (Arena.create label poolCount minPoolSize host).1
      (Arena.create label poolCount minPoolSize host).2 := by
  generalize hresult : Arena.create label poolCount minPoolSize host = result
  unfold Arena.create at hresult
  split at hresult
  · rename_i error hsizes
    rw [← hresult]
    exact .rejected hsizes
  · rename_i g hsizes
    split at hresult
    · rename_i hlayout
      rw [← hresult]
      exact .tooLarge hsizes hlayout
    · rename_i layout hlayout
      split at hresult
      · rename_i after htable
        rw [← hresult]
        exact .tableRefused hsizes hlayout htable
      · rename_i addr tableHost htable
        dsimp only at hresult
        have hspec := System.inject_spec ⟨Arena.blank label g ⟨addr, layout⟩, tableHost⟩
        generalize System.inject ⟨Arena.blank label g ⟨addr, layout⟩, tableHost⟩ = opened
          at hresult hspec
        obtain ⟨answer, opened⟩ := opened
        cases hspec with
        | refused hallocate =>
            rw [← hresult]
            exact .bufferRefused hsizes hlayout htable hallocate
        | @installed _ buffer index hallocate hinstall =>
            have hfirst := (Arena.install_blank label g ⟨addr, layout⟩ buffer).1
            obtain rfl : index = 0 := Option.some.inj (hinstall.symm.trans hfirst)
            rw [← hresult]
            exact .created hsizes hlayout htable hallocate
        | @returned _ buffer hallocate hinstall =>
            -- The first pool waits, so it would have taken the buffer.
            have hfirst := (Arena.install_blank label g ⟨addr, layout⟩ buffer).1
            rw [hinstall] at hfirst
            cases hfirst

theorem Creation.created_spec {label : String} {poolCount minPoolSize : Word}
    {host after : Host β} {arena : Arena}
    (h : Creation label poolCount minPoolSize host (.ok arena) after) :
    ∃ buffer, Created label host ⟨arena, after⟩ buffer := by
  cases h with
  | @created g layout addr buffer tableHost after hsizes hlayout htable hbuffer =>
      obtain ⟨htableCalls, htableLog⟩ := Host.allocate_some htable
      obtain ⟨hcalls, hlog⟩ := Host.allocate_some hbuffer
      refine ⟨buffer, rfl, rfl, (Arena.install_blank label g _ buffer).2, ?_, ?_, ?_, ?_⟩
      · show after.calls
          = _ :: .granted (Arena.blank label g ⟨addr, layout⟩).table.loan :: _
        rw [hcalls, htableCalls, Arena.loan_blank]
        rfl
      · show _ :: _ :: after.log = _
        rw [hlog, htableLog]
        rfl
      · intro covered hcovered
        show after.memory covered = 0
        rw [Host.memory_allocate_some hbuffer]
        exact Memory.fill_inside hcovered
      · -- The first buffer changes neither the number of slots nor their loan.
        rw [Arena.housed_iff]
        exact (Arena.blank label g ⟨addr, layout⟩).housed_iff.1
          (Arena.housed_blank label hlayout addr)

theorem create_spec {label : String} {poolCount minPoolSize : Word} {host : Host β}
    {sys : System β}
    (h : Arena.create label poolCount minPoolSize host = (.ok sys.arena, sys.host)) :
    ∃ buffer, Created label host sys buffer := by
  have hcases := create_cases label poolCount minPoolSize host
  rw [h] at hcases
  exact hcases.created_spec

/-! ### Why creations fail -/

/-- The reasons for which no arena has these sizes. -/
theorem Geometry.ofSizes_eq_error {poolCount minPoolSize : Word} {error : Error}
    (h : ofSizes poolCount minPoolSize = .error error) :
    error = .invalidPoolCount ∨ error = .poolSizeOverflow := by
  unfold ofSizes at h
  dsimp only at h
  split at h
  · cases h
    exact .inl rfl
  · split at h
    · cases h
    · cases h
      exact .inr rfl

/-- There is no memory for an arena of this shape: no layout is large enough for its table, or
the backing refuses the table, or the first buffer after it. -/
inductive Starved (host : Host β) (g : Geometry) : Prop
  | noLayout (hlayout : SlotTable.layout? g.poolCount.toNat = none)
  | noTable {layout : Layout} (hlayout : SlotTable.layout? g.poolCount.toNat = some layout)
      (htable : (host.allocate layout).1 = none)
  | noBuffer {layout : Layout} (hlayout : SlotTable.layout? g.poolCount.toNat = some layout)
      (hbuffer : ((host.allocate layout).2.allocate g.bufferLayout).1 = none)

/-- A creation fails by the sizes, or because there is no memory. -/
theorem Creation.allocatorError_iff {label : String} {poolCount minPoolSize : Word}
    {host after : Host β} {result : Except Error Arena}
    (h : Creation label poolCount minPoolSize host result after) :
    result = .error .allocatorError
      ↔ ∃ g, Geometry.ofSizes poolCount minPoolSize = .ok g ∧ Starved host g := by
  cases h with
  | @rejected error hsizes =>
      constructor
      · intro herror
        cases herror
        rcases Geometry.ofSizes_eq_error hsizes with hcause | hcause
        · cases hcause
        · cases hcause
      · rintro ⟨g, hg, _⟩
        rw [hsizes] at hg
        cases hg
  | tooLarge hsizes hlayout =>
      exact ⟨fun _ => ⟨_, hsizes, .noLayout hlayout⟩, fun _ => rfl⟩
  | tableRefused hsizes hlayout htable =>
      exact ⟨fun _ => ⟨_, hsizes, .noTable hlayout (congrArg Prod.fst htable)⟩, fun _ => rfl⟩
  | bufferRefused hsizes hlayout htable hbuffer =>
      refine ⟨fun _ => ⟨_, hsizes, .noBuffer hlayout ?_⟩, fun _ => rfl⟩
      rw [htable]
      exact congrArg Prod.fst hbuffer
  | @created g layout addr buffer tableHost after hsizes hlayout htable hbuffer =>
      constructor
      · intro herror
        cases herror
      · rintro ⟨g', hg, hstarved⟩
        obtain rfl : g = g' := Except.ok.inj (hsizes.symm.trans hg)
        -- The table and the buffer were granted.
        cases hstarved with
        | noLayout hnone => cases hlayout.symm.trans hnone
        | noTable hsame hnone =>
            obtain rfl := Option.some.inj (hlayout.symm.trans hsame)
            rw [htable] at hnone
            cases hnone
        | noBuffer hsame hnone =>
            obtain rfl := Option.some.inj (hlayout.symm.trans hsame)
            rw [htable] at hnone
            cases (congrArg Prod.fst hbuffer).symm.trans hnone

end PooledArena
