import PooledArena.Proofs.Loans

/-!
# `PooledArena.Proofs.Founding`: what a creation asks for, and what it keeps

A creation asks its backing for the table and then for the first buffer, and for nothing else.
It stops where it is refused, and gives back what it got. How many requests there are, and
which, depends on the answers alone: `Creation.create_eq` says that the way in which a creation
comes out is decided by the sizes and by these answers.

* `Arena.begins_install_blank`: an arena that is created has its first buffer, and nothing else
  has happened to it.
* `Creation.outstanding_error`: a creation that fails leaves the loans as they were, wherever it
  fails.

`Arena.create_exact` puts this together for every creation.
-/

set_option autoImplicit false

namespace PooledArena

/-- The sizes for which a table has no layout, although they may make an arena. -/
theorem SlotTable.layout?_eq_none_iff {length : Nat} :
    layout? length = none ↔ 0x8000000000000000 < 16 * length + 8 := by
  unfold layout?
  split
  · rename_i hle
    exact ⟨nofun, fun hlt => absurd hle (Nat.not_le.2 hlt)⟩
  · rename_i hlt
    exact ⟨fun _ => Nat.not_le.1 hlt, fun _ => rfl⟩

/-- So many pools of a byte each make a geometry, and their table has no layout. -/
example : (Geometry.ofSizes 0x800000000000000 1).toBool = true
    ∧ SlotTable.layout? 0x800000000000000 = none := by
  decide +kernel

/-! ### A new arena -/

/-- An arena at its beginning. The first pool has its buffer, and nobody asked for the others. -/
structure Arena.Begins (arena : Arena) (label : String) (g : Geometry) (table : Loan)
    (buffer : Addr) : Prop where
  label_eq : arena.label = label
  geometry_eq : arena.geometry = g
  cursor_eq : arena.cursor = Cursor.start
  loan_eq : arena.table.loan = table
  slots_eq : arena.table.slots
    = .ready buffer :: List.replicate (g.poolCount.toNat - 1) .absent

/-- The blank arena begins with the buffer that it is given first. -/
theorem Arena.begins_install_blank (label : String) (g : Geometry) (table : Loan)
    (buffer : Addr) : ((blank label g table).install buffer).2.Begins label g table buffer :=
  ⟨rfl, rfl, rfl, loan_blank label g table, (install_blank label g table buffer).2⟩

variable {β : Type} [Backing β]

namespace Creation

variable {label : String} {poolCount minPoolSize : Word} {host after : Host β}

/-! ### The answers decide -/

/-- The way in which a creation comes out decides what it answers and leaves behind. -/
theorem create_eq {result : Except Error Arena}
    (h : Creation label poolCount minPoolSize host result after) :
    Arena.create label poolCount minPoolSize host = (result, after) := by
  unfold Arena.create
  cases h with
  | rejected hsizes => simp only [hsizes]
  | tooLarge hsizes hlayout => simp only [hsizes, hlayout]
  | tableRefused hsizes hlayout htable => simp only [hsizes, hlayout, htable]
  | @bufferRefused g layout addr tableHost after hsizes hlayout htable hbuffer =>
      have hinjection : System.Injection ⟨Arena.blank label g ⟨addr, layout⟩, tableHost⟩ _ _ :=
        .refused hbuffer
      simp only [hsizes, hlayout, htable, hinjection.inject_eq]
      rfl
  | @created g layout addr buffer tableHost after hsizes hlayout htable hbuffer =>
      have hinjection : System.Injection ⟨Arena.blank label g ⟨addr, layout⟩, tableHost⟩ _ _ :=
        .installed hbuffer (Arena.install_blank label g ⟨addr, layout⟩ buffer).1
      simp only [hsizes, hlayout, htable, hinjection.inject_eq]
      rfl

/-! ### What is on loan afterwards -/

/-- A creation that fails gives back all that it got. -/
theorem outstanding_error {error : Error}
    (h : Creation label poolCount minPoolSize host (.error error) after) :
    after.outstanding = host.outstanding := by
  unfold Host.outstanding
  cases h with
  | rejected hsizes => rfl
  | tooLarge hsizes hlayout => rfl
  | tableRefused hsizes hlayout htable =>
      rw [(Host.allocate_none htable).1]
      rfl
  | @bufferRefused g layout addr tableHost after hsizes hlayout htable hbuffer =>
      have hcalls : after.calls = .refused g.bufferLayout :: .granted ⟨addr, layout⟩
          :: host.calls := by
        rw [(Host.allocate_none hbuffer).1, (Host.allocate_some htable).1]
      rw [System.release_blank label hlayout]
      show Call.outstanding (.freed _ :: after.calls) = _
      rw [hcalls]
      exact List.erase_cons_head _ _

/-- There are two reasons to fail: the sizes, with the error that they are refused with, and the
want of memory. -/
theorem error_cases {error : Error}
    (h : Creation label poolCount minPoolSize host (.error error) after) :
    (Geometry.ofSizes poolCount minPoolSize = .error error
        ∧ (error = .invalidPoolCount ∨ error = .poolSizeOverflow))
      ∨ error = .allocatorError := by
  cases h with
  | rejected hsizes => exact .inl ⟨hsizes, Geometry.ofSizes_eq_error hsizes⟩
  | tooLarge hsizes hlayout => exact .inr rfl
  | tableRefused hsizes hlayout htable => exact .inr rfl
  | bufferRefused hsizes hlayout htable hbuffer => exact .inr rfl

end Creation

/-! ### All creations -/

namespace Arena

/-- What a creation comes to, by its sizes and by what the backing answers. The calls are listed
newest first, behind those of the creation. -/
structure CreatesExactly (label : String) (poolCount minPoolSize : Word) (host : Host β)
    (result : Except Error Arena) (after : Host β) : Prop where
  /-- Sizes that make no arena are refused before anything is asked for. -/
  rejected : ∀ error, Geometry.ofSizes poolCount minPoolSize = .error error →
    result = .error error ∧ after = host
  /-- So is a table that is too large for a layout. -/
  tooLarge : ∀ g, Geometry.ofSizes poolCount minPoolSize = .ok g →
    0x8000000000000000 < 16 * g.poolCount.toNat + 8 →
    result = .error .allocatorError ∧ after = host
  /-- Without a table, no buffer is asked for. -/
  tableRefused : ∀ g layout, Geometry.ofSizes poolCount minPoolSize = .ok g →
    SlotTable.layout? g.poolCount.toNat = some layout → (host.allocate layout).1 = none →
    result = .error .allocatorError ∧ after.calls = .refused layout :: host.calls
  /-- Without a buffer, the table goes back. -/
  bufferRefused : ∀ g layout addr, Geometry.ofSizes poolCount minPoolSize = .ok g →
    SlotTable.layout? g.poolCount.toNat = some layout →
    (host.allocate layout).1 = some addr →
    ((host.allocate layout).2.allocate g.bufferLayout).1 = none →
    result = .error .allocatorError
      ∧ after.calls = .freed ⟨addr, layout⟩ :: .refused g.bufferLayout
        :: .granted ⟨addr, layout⟩ :: host.calls
  /-- With both of them the arena begins, and they are on loan. -/
  founded : ∀ g layout addr buffer, Geometry.ofSizes poolCount minPoolSize = .ok g →
    SlotTable.layout? g.poolCount.toNat = some layout →
    (host.allocate layout).1 = some addr →
    ((host.allocate layout).2.allocate g.bufferLayout).1 = some buffer →
    (∃ arena, result = .ok arena ∧ arena.Begins label g ⟨addr, layout⟩ buffer)
      ∧ after.calls = .granted ⟨buffer, g.bufferLayout⟩ :: .granted ⟨addr, layout⟩ :: host.calls
      ∧ after.outstanding = ⟨buffer, g.bufferLayout⟩ :: ⟨addr, layout⟩ :: host.outstanding
  /-- There is no memory in the three cases above, and in no other. -/
  allocatorError_iff : result = .error .allocatorError
    ↔ ∃ g, Geometry.ofSizes poolCount minPoolSize = .ok g ∧ Starved host g
  /-- There are no other errors than these. -/
  error_cases : ∀ error, result = .error error →
    (Geometry.ofSizes poolCount minPoolSize = .error error
        ∧ (error = .invalidPoolCount ∨ error = .poolSizeOverflow))
      ∨ error = .allocatorError
  /-- Whatever the error, what is on loan is what was on loan before. -/
  restored : ∀ error, result = .error error → after.outstanding = host.outstanding

/-- A creation makes two requests at the most, and keeps either all that it got or nothing. -/
theorem create_exact (label : String) (poolCount minPoolSize : Word) (host : Host β) :
    CreatesExactly label poolCount minPoolSize host
      (Arena.create label poolCount minPoolSize host).1
      (Arena.create label poolCount minPoolSize host).2 := by
  have hcases := create_cases label poolCount minPoolSize host
  refine ⟨?_, ?_, ?_, ?_, ?_, hcases.allocatorError_iff, ?_, ?_⟩
  · intro error hsizes
    rw [(Creation.rejected hsizes).create_eq]
    exact ⟨rfl, rfl⟩
  · intro g hsizes hlarge
    rw [(Creation.tooLarge hsizes (SlotTable.layout?_eq_none_iff.2 hlarge)).create_eq]
    exact ⟨rfl, rfl⟩
  · intro g layout hsizes hlayout hnone
    have htable : host.allocate layout = (none, (host.allocate layout).2) := Prod.ext hnone rfl
    rw [(Creation.tableRefused hsizes hlayout htable).create_eq]
    exact ⟨rfl, (Host.allocate_none htable).1⟩
  · intro g layout addr hsizes hlayout hsome hnone
    have htable : host.allocate layout = (some addr, (host.allocate layout).2) :=
      Prod.ext hsome rfl
    have hbuffer : (host.allocate layout).2.allocate g.bufferLayout = (none, _) :=
      Prod.ext hnone rfl
    rw [(Creation.bufferRefused hsizes hlayout htable hbuffer).create_eq]
    refine ⟨rfl, ?_⟩
    rw [System.release_blank label hlayout, ← (Host.allocate_some htable).1,
      ← (Host.allocate_none hbuffer).1]
    rfl
  · intro g layout addr buffer hsizes hlayout hsome hsome'
    have htable : host.allocate layout = (some addr, (host.allocate layout).2) :=
      Prod.ext hsome rfl
    have hbuffer : (host.allocate layout).2.allocate g.bufferLayout = (some buffer, _) :=
      Prod.ext hsome' rfl
    have hcalls := (Host.allocate_some hbuffer).1
    rw [(Host.allocate_some htable).1] at hcalls
    rw [(Creation.created hsizes hlayout htable hbuffer).create_eq]
    exact ⟨⟨_, rfl, begins_install_blank label g ⟨addr, layout⟩ buffer⟩, hcalls,
      congrArg Call.outstanding hcalls⟩
  · intro error herror
    rw [herror] at hcases
    exact hcases.error_cases
  · intro error herror
    rw [herror] at hcases
    exact hcases.outstanding_error

end Arena

end PooledArena
