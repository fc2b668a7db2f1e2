import PooledArena.Proofs.Loans

/-!
# `PooledArena.Proofs.Addresses`: no decision hangs on an address

An arena carries the addresses of its buffers around, and never looks at them. So two
backings that grant and refuse the same requests, at whatever addresses, make for the same
blocks, errors and waits: the blocks lie at the same offsets of the same pools, and only the
buffers themselves are elsewhere.

`Call.Follows` says which requests are granted, by their numbers. Two systems are in step
(`System.InStep`) if they can be told apart by addresses only, and have made equally many
requests. Whatever is done with both leaves them in step, as long as both backings follow the
same answers: `inject_inStep`, `await_inStep`, `alloc_inStep`, and `performAll_inStep` for any
number of operations.
-/

set_option autoImplicit false

namespace PooledArena

/-! ### Without addresses -/

/-- What can be seen of an arena without looking at addresses. -/
@[ext]
structure View where
  geometry : Geometry
  cursor : Cursor
  states : List SlotState
  deriving DecidableEq

def Arena.view (arena : Arena) : View :=
  ⟨arena.geometry, arena.cursor, arena.table.states⟩

/-- The block as it lies in its buffer, wherever that is. Its address is the offset. -/
def Block.relative (block : Block) : Block :=
  { block with buffer := 0 }

def Outcome.relative : Outcome → Outcome
  | granted block => granted block.relative
  | failed error => failed error
  | abandoned => abandoned

def Attempt.relative (attempt : Attempt) : Attempt :=
  { attempt with outcome := attempt.outcome.relative }

def Entry.relative : Entry → Entry
  | alloc size align attempt => alloc size align attempt.relative
  | inject result => inject result

def Arrival.relative : Arrival → Arrival
  | ready _ => ready 0
  | absent => absent
  | abandoned => abandoned

/-! ### Tables in the same states -/

/-- Two slots that differ in their buffers at most. -/
inductive Slot.Alike : Slot → Slot → Prop
  | absent : Alike .absent .absent
  | pending : Alike .pending .pending
  | ready (buffer buffer' : Addr) : Alike (.ready buffer) (.ready buffer')

theorem Slot.alike_of_state {slot slot' : Slot} (h : slot.state = slot'.state) :
    slot.Alike slot' := by
  cases slot with
  | absent =>
      cases slot' with
      | absent => exact .absent
      | pending => cases h
      | ready buffer' => cases h
  | pending =>
      cases slot' with
      | absent => cases h
      | pending => exact .pending
      | ready buffer' => cases h
  | ready buffer =>
      cases slot' with
      | absent => cases h
      | pending => cases h
      | ready buffer' => exact .ready buffer buffer'

/-- To ask for a buffer is to look at the state alone. -/
theorem Slot.Alike.request {slot slot' : Slot} (h : slot.Alike slot') :
    slot.request.1 = slot'.request.1 ∧ slot.request.2.state = slot'.request.2.state := by
  cases h with
  | absent => exact ⟨rfl, rfl⟩
  | pending => exact ⟨rfl, rfl⟩
  | ready buffer buffer' => exact ⟨rfl, rfl⟩

theorem Slot.Alike.arrival {slot slot' : Slot} (h : slot.Alike slot') :
    (slot = .pending ∧ slot' = .pending) ∨ ∃ arrival arrival',
      slot.arrival? = some arrival ∧ slot'.arrival? = some arrival'
        ∧ arrival.relative = arrival'.relative := by
  cases h with
  | absent => exact .inr ⟨_, _, rfl, rfl, rfl⟩
  | pending => exact .inl ⟨rfl, rfl⟩
  | ready buffer buffer' => exact .inr ⟨_, _, rfl, rfl, rfl⟩

namespace SlotTable

/-- The walk of an injection looks at the states alone. -/
theorem installFirst_states {slots slots' : List Slot}
    (h : slots.map Slot.state = slots'.map Slot.state) (buffer buffer' : Addr) :
    (installFirst buffer slots).1 = (installFirst buffer' slots').1
      ∧ (installFirst buffer slots).2.map Slot.state
        = (installFirst buffer' slots').2.map Slot.state := by
  induction slots generalizing slots' with
  | nil =>
      obtain rfl : slots' = [] := List.map_eq_nil_iff.1 h.symm
      exact ⟨rfl, rfl⟩
  | cons slot slots ih =>
      obtain ⟨slot', slots', rfl, hslot, hslots⟩ := List.map_eq_cons_iff.1 h.symm
      cases Slot.alike_of_state hslot.symm with
      | absent => exact ⟨rfl, h⟩
      | pending => exact ⟨rfl, congrArg (_ :: ·) hslots.symm⟩
      | ready held held' =>
          obtain ⟨hindex, hlater⟩ := ih hslots.symm
          exact ⟨congrArg (Option.map (· + 1)) hindex, congrArg (_ :: ·) hlater⟩

variable {table table' : SlotTable} (h : table.states = table'.states)

include h

theorem offer_states (buffer buffer' : Addr) :
    (table.offer buffer).1 = (table'.offer buffer').1
      ∧ (table.offer buffer).2.states = (table'.offer buffer').2.states :=
  installFirst_states h buffer buffer'

theorem getElem?_state (index : Nat) :
    table.slots[index]?.map Slot.state = table'.slots[index]?.map Slot.state := by
  rw [← List.getElem?_map, ← List.getElem?_map]
  exact congrArg (·[index]?) h

theorem slot_alike (index : Nat) : (table.slot index).Alike (table'.slot index) := by
  apply Slot.alike_of_state
  unfold slot
  rw [← Option.getD_map Slot.state, ← Option.getD_map Slot.state, getElem?_state h]

theorem request_states (index : Nat) :
    (table.request index).1 = (table'.request index).1
      ∧ (table.request index).2.states = (table'.request index).2.states := by
  have hget := getElem?_state h index
  unfold request
  cases hslot : table.slots[index]? with
  | none =>
      rw [hslot] at hget
      rw [Option.map_eq_none_iff.1 hget.symm]
      exact ⟨rfl, h⟩
  | some slot =>
      rw [hslot] at hget
      obtain ⟨slot', hslot', hstate⟩ := Option.map_eq_some_iff.1 hget.symm
      obtain ⟨hfirst, hasked⟩ := (Slot.alike_of_state hstate.symm).request
      rw [hslot']
      refine ⟨hfirst, ?_⟩
      show (table.slots.set index slot.request.2).map Slot.state
        = (table'.slots.set index slot'.request.2).map Slot.state
      rw [List.map_set, List.map_set, hasked]
      exact congrArg (List.set · index _) h

end SlotTable

namespace Arena

variable {arena arena' : Arena} (size align : Word) (place : Place)

/-- The address goes into the block, and nowhere else. -/
theorem settle_relative (arena : Arena) (arrival : Arrival) :
    (arena.settle size align place arrival.relative).1.relative
        = (arena.settle size align place arrival).1.relative
      ∧ (arena.settle size align place arrival.relative).2
        = (arena.settle size align place arrival).2 := by
  cases arrival with
  | ready buffer => exact ⟨rfl, rfl⟩
  | absent => exact ⟨rfl, rfl⟩
  | abandoned => exact ⟨rfl, rfl⟩

theorem settle_view (h : arena.view = arena'.view) (arrival : Arrival) :
    (arena.settle size align place arrival).1.relative
        = (arena'.settle size align place arrival).1.relative
      ∧ (arena.settle size align place arrival).2.view
        = (arena'.settle size align place arrival).2.view := by
  cases arrival with
  | ready buffer =>
      obtain ⟨hfirst, hstates⟩ :=
        SlotTable.request_states (congrArg View.states h) (place.index + 1)
      constructor
      · show Outcome.granted ⟨place.index, 0, _, size, (arena.table.request _).1⟩
          = .granted ⟨place.index, 0, _, size, (arena'.table.request _).1⟩
        rw [hfirst]
      · have hgeometry : arena.geometry = arena'.geometry := congrArg View.geometry h
        have hcursor : arena.cursor = arena'.cursor := congrArg View.cursor h
        exact View.ext hgeometry hcursor hstates
  | absent => exact ⟨rfl, h⟩
  | abandoned => exact ⟨rfl, h⟩

end Arena

/-! ### The same answers -/

/-- The requests among these calls, newest first, were granted where `answers` says so, and
refused otherwise. They are numbered as they were made, from zero on. -/
def Call.Follows (answers : Nat → Bool) : List Call → Prop
  | [] => True
  | .granted _ :: calls => answers (calls.countP isRequest) = true ∧ Follows answers calls
  | .refused _ :: calls => answers (calls.countP isRequest) = false ∧ Follows answers calls
  | .freed _ :: calls => Follows answers calls

/-- One call after the other is looked at. -/
def Call.decideFollows (answers : Nat → Bool) :
    (calls : List Call) → Decidable (Follows answers calls)
  | [] => isTrue trivial
  | .granted _ :: calls =>
    have := decideFollows answers calls
    inferInstanceAs (Decidable (answers (calls.countP isRequest) = true ∧ Follows answers calls))
  | .refused _ :: calls =>
    have := decideFollows answers calls
    inferInstanceAs (Decidable (answers (calls.countP isRequest) = false ∧ Follows answers calls))
  | .freed _ :: calls => decideFollows answers calls

instance (answers : Nat → Bool) : DecidablePred (Call.Follows answers) :=
  Call.decideFollows answers

theorem Call.Follows.older {answers : Nat → Bool} {calls : List Call} (newer : List Call)
    (h : Follows answers (newer ++ calls)) : Follows answers calls := by
  induction newer with
  | nil => exact h
  | cons call newer ih =>
      cases call with
      | granted loan => exact ih h.2
      | refused layout => exact ih h.2
      | freed loan => exact ih h

variable {β γ : Type}

namespace Host

/-- The requests made since these calls were answered so. -/
def Follows (host : Host β) (answers : Nat → Bool) (since : List Call) : Prop :=
  ∀ calls, host.calls = calls ++ since → Call.Follows answers calls

variable {answers : Nat → Bool} {since since' : List Call}

/-- Where no call was made before, all calls count. -/
theorem follows_of_nil {host : Host β} (hsince : since = [])
    (h : Call.Follows answers host.calls) : host.Follows answers since := by
  intro calls hcalls
  rw [hsince, List.append_nil] at hcalls
  rw [← hcalls]
  exact h

/-- A host that follows the answers later on did so before. -/
theorem Follows.older {host later : Host β} (h : later.Follows answers since)
    (hcalls : host.calls <:+ later.calls) : host.Follows answers since := by
  intro calls hhost
  obtain ⟨newer, hnewer⟩ := hcalls
  refine Call.Follows.older newer (h _ ?_)
  rw [← hnewer, hhost, List.append_assoc]

/-- Both hosts have made equally many requests since these calls. -/
def InStep (since since' : List Call) (host : Host β) (host' : Host γ) : Prop :=
  ∃ calls calls', host.calls = calls ++ since ∧ host'.calls = calls' ++ since'
    ∧ calls.countP Call.isRequest = calls'.countP Call.isRequest

/-- Other calls than requests do not count. -/
theorem InStep.congr {host later : Host β} {host' later' : Host γ}
    (h : host.InStep since since' host') (calls calls' : List Call)
    (hcalls : later.calls = calls ++ host.calls) (hcalls' : later'.calls = calls' ++ host'.calls)
    (hcount : calls.countP Call.isRequest = calls'.countP Call.isRequest) :
    later.InStep since since' later' := by
  obtain ⟨older, older', holder, holder', hsame⟩ := h
  refine ⟨calls ++ older, calls' ++ older', ?_, ?_, ?_⟩
  · rw [hcalls, holder, List.append_assoc]
  · rw [hcalls', holder', List.append_assoc]
  · rw [List.countP_append, List.countP_append, hcount, hsame]

variable [Backing β] [Backing γ]

/-- A request is one call, and the answer to it is the one for its number. -/
theorem allocate_answer (answers : Nat → Bool) (host : Host β) (layout : Layout) :
    ∃ call, (host.allocate layout).2.calls = call :: host.calls ∧ call.isRequest = true
      ∧ ∀ calls, Call.Follows answers (call :: calls) →
        (host.allocate layout).1.isSome = answers (calls.countP Call.isRequest) := by
  generalize hallocate : host.allocate layout = answer
  obtain ⟨addr?, after⟩ := answer
  cases addr? with
  | none =>
      refine ⟨_, (allocate_none hallocate).1, rfl, ?_⟩
      intro calls hfollows
      exact hfollows.1.symm
  | some addr =>
      refine ⟨_, (allocate_some hallocate).1, rfl, ?_⟩
      intro calls hfollows
      exact hfollows.1.symm

/-- Hosts in step ask under the same number, so both are granted the memory, or neither. -/
theorem InStep.allocate {host : Host β} {host' : Host γ} (h : host.InStep since since' host')
    {layout layout' : Layout} (hfollows : (host.allocate layout).2.Follows answers since)
    (hfollows' : (host'.allocate layout').2.Follows answers since') :
    (host.allocate layout).1.isSome = (host'.allocate layout').1.isSome
      ∧ (host.allocate layout).2.InStep since since' (host'.allocate layout').2 := by
  obtain ⟨call, hcalls, hrequest, hanswer⟩ := host.allocate_answer answers layout
  obtain ⟨call', hcalls', hrequest', hanswer'⟩ := host'.allocate_answer answers layout'
  constructor
  · obtain ⟨older, older', holder, holder', hcount⟩ := h
    rw [hanswer older, hanswer' older', hcount]
    · exact hfollows' _ (by rw [hcalls', holder', List.cons_append])
    · exact hfollows _ (by rw [hcalls, holder, List.cons_append])
  · refine h.congr [call] [call'] hcalls hcalls' ?_
    simp [hrequest, hrequest']

end Host

/-! ### What a creation comes down to -/

/-- What a creation does once it has a table: it brings the first buffer, or gives up. -/
def System.equip [Backing β] (sys : System β) : Except Error Arena × Host β :=
  match sys.inject with
  | (.error error, sys) => (.error error, sys.release.host)
  | (.ok _, sys) =>
    (.ok sys.arena, sys.host.note sys.arena.label
      (.created sys.arena.geometry.poolCount sys.arena.geometry.poolSize))

theorem Arena.create_of_layout [Backing β] {poolCount minPoolSize : Word}
    {g : Geometry} {layout : Layout} (hsizes : Geometry.ofSizes poolCount minPoolSize = .ok g)
    (hlayout : SlotTable.layout? g.poolCount.toNat = some layout) (label : String)
    (host : Host β) :
    Arena.create label poolCount minPoolSize host = match host.allocate layout with
      | (none, host) => (.error .allocatorError, host)
      | (some addr, host) => (System.mk (Arena.blank label g ⟨addr, layout⟩) host).equip := by
  unfold Arena.create
  simp only [hsizes, hlayout]
  generalize host.allocate layout = answer
  obtain ⟨addr?, tableHost⟩ := answer
  cases addr? with
  | none => rfl
  | some addr =>
      have hframe := (System.inject_spec ⟨Arena.blank label g ⟨addr, layout⟩, tableHost⟩).frame
      unfold System.equip
      dsimp only
      generalize System.inject ⟨Arena.blank label g ⟨addr, layout⟩, tableHost⟩ = opened
        at hframe ⊢
      obtain ⟨result, opened⟩ := opened
      cases result with
      | error error => rfl
      | ok index =>
          dsimp only at hframe ⊢
          rw [hframe.label_eq, hframe.geometry_eq]
          rfl

/-! ### Systems in step -/

/-- The two systems look alike, and their hosts have made equally many requests since these
calls. -/
structure System.InStep (since since' : List Call) (sys : System β) (sys' : System γ) : Prop where
  view_eq : sys.arena.view = sys'.arena.view
  host : sys.host.InStep since since' sys'.host

/-- Both waits have come to the same, but for the address of the buffer. -/
structure Wait.InStep (since since' : List Call) (wait : Wait β) (wait' : Wait γ) : Prop where
  arrival_eq : wait.arrival.relative = wait'.arrival.relative
  relaxes_eq : wait.relaxes = wait'.relaxes
  injections_eq : wait.injections = wait'.injections
  system : wait.system.InStep since since' wait'.system

variable {since since' : List Call}

namespace System.InStep

variable {sys : System β} {sys' : System γ}

theorem geometry_eq (h : sys.InStep since since' sys') :
    sys.arena.geometry = sys'.arena.geometry :=
  congrArg View.geometry h.view_eq

theorem cursor_eq (h : sys.InStep since since' sys') : sys.arena.cursor = sys'.arena.cursor :=
  congrArg View.cursor h.view_eq

theorem states_eq (h : sys.InStep since since' sys') :
    sys.arena.table.states = sys'.arena.table.states :=
  congrArg View.states h.view_eq

theorem moveTo (h : sys.InStep since since' sys') (cursor : Cursor) :
    (sys.moveTo cursor).InStep since since' (sys'.moveTo cursor) :=
  ⟨View.ext h.geometry_eq rfl h.states_eq, h.host⟩

end System.InStep

/-! ### What leaves systems in step -/

variable [Backing β] [Backing γ] {answers : Nat → Bool}

namespace System

variable {sys : System β} {sys' : System γ}

/-- What is asked of the backing comes first. -/
theorem Injection.allocate_suffix {later : System β} {result : Except Error Nat}
    (h : Injection sys result later) :
    (sys.host.allocate sys.arena.geometry.bufferLayout).2.calls <:+ later.host.calls := by
  cases h with
  | refused hallocate =>
      rw [hallocate]
      exact List.suffix_rfl
  | installed hallocate hinstall =>
      rw [hallocate]
      exact List.suffix_rfl
  | returned hallocate hinstall =>
      rw [hallocate]
      exact List.suffix_cons _ _

/-- What was called before is not forgotten. -/
theorem Changes.calls_suffix {later : System β} {filled : List Nat}
    (h : Changes sys filled later) : sys.host.calls <:+ later.host.calls := by
  induction h with
  | none sys => exact List.suffix_rfl
  | more hone hrest ih =>
      refine List.IsSuffix.trans ?_ ih
      cases hone with
      | moveTo cursor => exact List.suffix_rfl
      | inject h =>
          obtain ⟨calls, hcalls⟩ := h.exists_calls
          exact ⟨calls, hcalls.symm⟩
      | request hready => exact List.suffix_rfl

/-- Both backings grant the buffer, or neither, and both tables have the same slot waiting. -/
theorem inject_inStep (h : sys.InStep since since' sys')
    (hfollows : sys.inject.2.host.Follows answers since)
    (hfollows' : sys'.inject.2.host.Follows answers since') :
    sys.inject.1 = sys'.inject.1 ∧ sys.inject.2.InStep since since' sys'.inject.2 := by
  have hspec := sys.inject_spec
  obtain ⟨hanswer, hhost⟩ := h.host.allocate (hfollows.older hspec.allocate_suffix)
    (hfollows'.older sys'.inject_spec.allocate_suffix)
  generalize hallocate' : sys'.host.allocate sys'.arena.geometry.bufferLayout = answer'
    at hanswer hhost
  obtain ⟨addr?, host'⟩ := answer'
  generalize sys.inject.1 = result at hspec ⊢
  generalize sys.inject.2 = later at hspec ⊢
  cases hspec with
  | refused hallocate =>
      rw [hallocate] at hanswer hhost
      obtain rfl : addr? = none := by simpa using hanswer.symm
      rw [(Injection.refused hallocate').inject_eq]
      exact ⟨rfl, h.view_eq, hhost⟩
  | @installed host buffer index hallocate hinstall =>
      rw [hallocate] at hanswer hhost
      obtain ⟨buffer', rfl⟩ := Option.isSome_iff_exists.1 hanswer.symm
      obtain ⟨hindex, hstates⟩ := SlotTable.offer_states h.states_eq buffer buffer'
      rw [(Injection.installed hallocate' (hindex.symm.trans hinstall)).inject_eq]
      exact ⟨rfl, View.ext h.geometry_eq h.cursor_eq hstates, hhost⟩
  | @returned host buffer hallocate hinstall =>
      rw [hallocate] at hanswer hhost
      obtain ⟨buffer', rfl⟩ := Option.isSome_iff_exists.1 hanswer.symm
      obtain ⟨hindex, _⟩ := SlotTable.offer_states h.states_eq buffer buffer'
      rw [(Injection.returned hallocate' (hindex.symm.trans hinstall)).inject_eq]
      exact ⟨rfl, h.view_eq, hhost.congr [_] [_] rfl rfl rfl⟩

theorem injectTimes_inStep (h : sys.InStep since since' sys') (times : Nat)
    (hfollows : (sys.injectTimes times).2.host.Follows answers since)
    (hfollows' : (sys'.injectTimes times).2.host.Follows answers since') :
    (sys.injectTimes times).1 = (sys'.injectTimes times).1
      ∧ (sys.injectTimes times).2.InStep since since' (sys'.injectTimes times).2 := by
  induction times generalizing sys sys' with
  | zero => exact ⟨rfl, h⟩
  | succ times ih =>
      rw [injectTimes_succ] at hfollows hfollows' ⊢
      rw [injectTimes_succ]
      obtain ⟨hresult, hlater⟩ := inject_inStep h
        (hfollows.older (sys.inject.2.injectTimes_changes times).calls_suffix)
        (hfollows'.older (sys'.inject.2.injectTimes_changes times).calls_suffix)
      obtain ⟨hresults, hend⟩ := ih hlater hfollows hfollows'
      rw [hresult, hresults]
      exact ⟨rfl, hend⟩

theorem await_suffix (index : Nat) (schedule : Schedule) (sys : System β) :
    sys.host.calls <:+ (sys.await index schedule).system.host.calls := by
  have hspec := sys.await_spec index schedule
  generalize sys.await index schedule = wait at hspec ⊢
  cases hspec with
  | atOnce hslot => exact List.suffix_rfl
  | ready relaxes times hpending hready => exact (sys.injectTimes_changes times).calls_suffix
  | abandoned relaxes times hpending => exact (sys.injectTimes_changes times).calls_suffix

/-- Both waits look at slots in the same state at every turn, so they end with the same one. -/
theorem await_inStep (h : sys.InStep since since' sys') (index : Nat) (schedule : Schedule)
    (hfollows : (sys.await index schedule).system.host.Follows answers since)
    (hfollows' : (sys'.await index schedule).system.host.Follows answers since') :
    (sys.await index schedule).InStep since since' (sys'.await index schedule) := by
  induction schedule generalizing sys sys' with
  | nil =>
      rcases (SlotTable.slot_alike h.states_eq index).arrival with
        ⟨hpending, hpending'⟩ | ⟨arrival, arrival', harrival, harrival', hsame⟩
      · unfold await
        rw [hpending, hpending']
        exact ⟨rfl, rfl, rfl, h⟩
      · rw [await_of_arrival harrival, await_of_arrival harrival']
        exact ⟨hsame, rfl, rfl, h⟩
  | cons turn turns ih =>
      rcases (SlotTable.slot_alike h.states_eq index).arrival with
        ⟨hpending, hpending'⟩ | ⟨arrival, arrival', harrival, harrival', hsame⟩
      · unfold await at hfollows hfollows' ⊢
        rw [hpending] at hfollows ⊢
        rw [hpending'] at hfollows' ⊢
        dsimp only [Slot.arrival?] at hfollows hfollows' ⊢
        split
        · -- After the last turn, nobody looks at the slot again.
          rename_i hlast
          rw [if_pos hlast] at hfollows hfollows'
          obtain ⟨hresults, hend⟩ := injectTimes_inStep h turn hfollows hfollows'
          exact ⟨rfl, rfl, hresults, hend⟩
        · rename_i hmore
          rw [if_neg hmore] at hfollows hfollows'
          obtain ⟨hresults, hturn⟩ := injectTimes_inStep h turn
            (hfollows.older (await_suffix index turns _))
            (hfollows'.older (await_suffix index turns _))
          have hlater := ih hturn hfollows hfollows'
          refine ⟨hlater.arrival_eq, congrArg (· + 1) hlater.relaxes_eq, ?_, hlater.system⟩
          exact congrArg₂ (· ++ ·) hresults hlater.injections_eq
      · rw [await_of_arrival harrival, await_of_arrival harrival']
        exact ⟨hsame, rfl, rfl, h⟩

/-- Where the block lies in its pool was settled before the buffer is looked for. -/
theorem allocAt_inStep (h : sys.InStep since since' sys') (size align : Word) (place : Place)
    (straddles : Nat) (schedule : Schedule)
    (hfollows : (sys.allocAt size align place straddles schedule).2.host.Follows answers since)
    (hfollows' : (sys'.allocAt size align place straddles schedule).2.host.Follows answers since') :
    (sys.allocAt size align place straddles schedule).1.relative
        = (sys'.allocAt size align place straddles schedule).1.relative
      ∧ (sys.allocAt size align place straddles schedule).2.InStep since since'
        (sys'.allocAt size align place straddles schedule).2 := by
  have hwait := await_inStep h place.index schedule hfollows hfollows'
  unfold allocAt
  generalize sys.await place.index schedule = wait at hwait ⊢
  generalize sys'.await place.index schedule = wait' at hwait ⊢
  obtain ⟨houtcome, harena⟩ :=
    wait.system.arena.settle_relative size align place wait.arrival
  obtain ⟨houtcome', harena'⟩ :=
    wait'.system.arena.settle_relative size align place wait'.arrival
  obtain ⟨hsame, hview⟩ :=
    Arena.settle_view size align place hwait.system.view_eq wait.arrival.relative
  rw [houtcome, hwait.arrival_eq, houtcome'] at hsame
  rw [harena, hwait.arrival_eq, harena'] at hview
  refine ⟨?_, hview, hwait.system.host⟩
  show Attempt.mk _ straddles wait.relaxes wait.injections
    = ⟨_, straddles, wait'.relaxes, wait'.injections⟩
  rw [hsame, hwait.relaxes_eq, hwait.injections_eq]

/-- The checks and the search see the geometry and the cursor alone. -/
theorem alloc_inStep (h : sys.InStep since since' sys') (size align : Word) (schedule : Schedule)
    (hfollows : (sys.alloc size align schedule).2.host.Follows answers since)
    (hfollows' : (sys'.alloc size align schedule).2.host.Follows answers since') :
    (sys.alloc size align schedule).1.relative = (sys'.alloc size align schedule).1.relative
      ∧ (sys.alloc size align schedule).2.InStep since since'
        (sys'.alloc size align schedule).2 := by
  cases haccept : sys.arena.geometry.accept size align with
  | error error =>
      have haccept' : sys'.arena.geometry.accept size align = .error error := by
        rw [← h.geometry_eq, haccept]
      rw [alloc_of_rejected _ schedule haccept, alloc_of_rejected _ schedule haccept']
      exact ⟨rfl, h⟩
  | ok extent =>
      -- An extent belongs to its geometry, so the two are equal only in what they lead to.
      obtain ⟨extent', haccept', hsearch⟩ : ∃ extent' : Extent sys'.arena.geometry,
          sys'.arena.geometry.accept size align = .ok extent'
            ∧ sys'.arena.geometry.reserve extent' sys'.arena.cursor
              = sys.arena.geometry.reserve extent sys.arena.cursor := by
        rw [← h.geometry_eq, ← h.cursor_eq]
        exact ⟨extent, haccept, rfl⟩
      generalize hreserve : sys.arena.geometry.reserve extent sys.arena.cursor = reservation
        at hsearch
      obtain ⟨landing, cursor, straddles⟩ := reservation
      cases landing with
      | exhausted =>
          rw [alloc_of_exhausted _ schedule haccept hreserve,
            alloc_of_exhausted _ schedule haccept' hsearch]
          exact ⟨rfl, h.moveTo cursor⟩
      | settled place =>
          rw [alloc_of_settled _ schedule haccept hreserve] at hfollows ⊢
          rw [alloc_of_settled _ schedule haccept' hsearch] at hfollows' ⊢
          exact allocAt_inStep (h.moveTo cursor) size align place straddles schedule hfollows
            hfollows'

theorem perform_inStep (h : sys.InStep since since' sys') (operation : Operation)
    (hfollows : (sys.perform operation).2.host.Follows answers since)
    (hfollows' : (sys'.perform operation).2.host.Follows answers since') :
    (sys.perform operation).1.relative = (sys'.perform operation).1.relative
      ∧ (sys.perform operation).2.InStep since since' (sys'.perform operation).2 := by
  cases operation with
  | alloc size align schedule =>
      obtain ⟨hattempt, hlater⟩ := alloc_inStep h size align schedule hfollows hfollows'
      exact ⟨congrArg (Entry.alloc size align) hattempt, hlater⟩
  | inject =>
      obtain ⟨hresult, hlater⟩ := inject_inStep h hfollows hfollows'
      exact ⟨congrArg Entry.inject hresult, hlater⟩

theorem performAll_inStep (h : sys.InStep since since' sys') (operations : List Operation)
    (hfollows : (sys.performAll operations).2.host.Follows answers since)
    (hfollows' : (sys'.performAll operations).2.host.Follows answers since') :
    (sys.performAll operations).1.map Entry.relative
        = (sys'.performAll operations).1.map Entry.relative
      ∧ (sys.performAll operations).2.InStep since since' (sys'.performAll operations).2 := by
  induction operations generalizing sys sys' with
  | nil => exact ⟨rfl, h⟩
  | cons operation operations ih =>
      obtain ⟨hentry, hlater⟩ := perform_inStep h operation
        (hfollows.older ((sys.perform operation).2.performAll_changes operations).calls_suffix)
        (hfollows'.older ((sys'.perform operation).2.performAll_changes operations).calls_suffix)
      obtain ⟨hentries, hend⟩ := ih hlater hfollows hfollows'
      exact ⟨congrArg₂ List.cons hentry hentries, hend⟩

/-- A release asks for nothing, so both hosts have still asked equally often. -/
theorem release_inStep (h : sys.host.InStep since since' sys'.host) :
    sys.release.host.InStep since since' sys'.release.host := by
  obtain ⟨loans, hcalls⟩ := sys.exists_calls_release
  obtain ⟨loans', hcalls'⟩ := sys'.exists_calls_release
  have hcount : ∀ loans : List Loan,
      ((loans.map .freed).reverse : List Call).countP Call.isRequest = 0 := by
    intro loans
    simp [Call.isRequest, Function.comp_def]
  exact h.congr _ _ hcalls hcalls' ((hcount loans).trans (hcount loans').symm)

theorem inject_suffix_equip : sys.inject.2.host.calls <:+ sys.equip.2.calls := by
  unfold equip
  generalize sys.inject = opened
  obtain ⟨result, opened⟩ := opened
  cases result with
  | error error =>
      obtain ⟨loans, hcalls⟩ := opened.exists_calls_release
      exact ⟨_, hcalls.symm⟩
  | ok index => exact List.suffix_rfl

theorem equip_inStep (h : sys.InStep since since' sys')
    (hfollows : sys.equip.2.Follows answers since)
    (hfollows' : sys'.equip.2.Follows answers since') :
    sys.equip.1.map Arena.view = sys'.equip.1.map Arena.view
      ∧ sys.equip.2.InStep since since' sys'.equip.2 := by
  obtain ⟨hresult, hlater⟩ := inject_inStep h (hfollows.older inject_suffix_equip)
    (hfollows'.older inject_suffix_equip)
  unfold equip
  generalize sys.inject = opened at hresult hlater ⊢
  generalize sys'.inject = opened' at hresult hlater ⊢
  obtain ⟨result, opened⟩ := opened
  obtain ⟨result', opened'⟩ := opened'
  obtain rfl : result = result' := hresult
  cases result with
  | error error => exact ⟨rfl, release_inStep hlater.host⟩
  | ok index => exact ⟨congrArg Except.ok hlater.view_eq, hlater.host⟩

end System

namespace Arena

variable {host : Host β} {host' : Host γ}

/-- The table is the first thing that a creation asks for. -/
theorem allocate_suffix_create {poolCount minPoolSize : Word} {g : Geometry} {layout : Layout}
    (hsizes : Geometry.ofSizes poolCount minPoolSize = .ok g)
    (hlayout : SlotTable.layout? g.poolCount.toNat = some layout) (label : String) :
    (host.allocate layout).2.calls
      <:+ (Arena.create label poolCount minPoolSize host).2.calls := by
  rw [create_of_layout hsizes hlayout]
  generalize host.allocate layout = answer
  obtain ⟨addr?, tableHost⟩ := answer
  cases addr? with
  | none => exact List.suffix_rfl
  | some addr =>
      obtain ⟨calls, hcalls⟩ :=
        (System.inject_spec ⟨blank label g ⟨addr, layout⟩, tableHost⟩).exists_calls
      exact List.IsSuffix.trans ⟨calls, hcalls.symm⟩ System.inject_suffix_equip

theorem create_inStep (h : host.InStep since since' host') (label label' : String)
    (poolCount minPoolSize : Word)
    (hfollows : (Arena.create label poolCount minPoolSize host).2.Follows answers since)
    (hfollows' : (Arena.create label' poolCount minPoolSize host').2.Follows answers since') :
    (Arena.create label poolCount minPoolSize host).1.map Arena.view
        = (Arena.create label' poolCount minPoolSize host').1.map Arena.view
      ∧ (Arena.create label poolCount minPoolSize host).2.InStep since since'
        (Arena.create label' poolCount minPoolSize host').2 := by
  cases hsizes : Geometry.ofSizes poolCount minPoolSize with
  | error error =>
      unfold Arena.create
      rw [hsizes]
      exact ⟨rfl, h⟩
  | ok g =>
      cases hlayout : SlotTable.layout? g.poolCount.toNat with
      | none =>
          unfold Arena.create
          simp only [hsizes, hlayout]
          exact ⟨trivial, h⟩
      | some layout =>
          obtain ⟨hanswer, hhost⟩ := h.allocate
            (hfollows.older (allocate_suffix_create hsizes hlayout label))
            (hfollows'.older (allocate_suffix_create hsizes hlayout label'))
          rw [create_of_layout hsizes hlayout] at hfollows hfollows' ⊢
          rw [create_of_layout hsizes hlayout]
          generalize host.allocate layout = answer at *
          generalize host'.allocate layout = answer' at *
          obtain ⟨addr?, tableHost⟩ := answer
          obtain ⟨addr?', tableHost'⟩ := answer'
          cases addr? with
          | none =>
              obtain rfl : addr?' = none := by simpa using hanswer.symm
              exact ⟨rfl, hhost⟩
          | some addr =>
              obtain ⟨addr', rfl⟩ := Option.isSome_iff_exists.1 hanswer.symm
              have hstates : (blank label g ⟨addr, layout⟩).table.states
                  = (blank label' g ⟨addr', layout⟩).table.states := by
                unfold SlotTable.states
                rw [slots_blank, slots_blank]
              exact System.equip_inStep ⟨View.ext rfl rfl hstates, hhost⟩ hfollows hfollows'

end Arena

namespace Run

/-- No decision of an arena hangs on an address. On two backings that grant and refuse the same
requests, counted from the creation on, creations of the same sizes come to the same. So does
everything that is done with two arenas of the same sizes, operation by operation: the entries
agree but for where the buffers are, and after each operation the cursors and the states of
all slots agree. The labels and what was asked of the backings before do not matter. -/
theorem addresses_unseen (answers : Nat → Bool) :
    (∀ (label label' : String) (poolCount minPoolSize : Word) (host : Host β) (host' : Host γ),
        (Arena.create label poolCount minPoolSize host).2.Follows answers host.calls →
        (Arena.create label' poolCount minPoolSize host').2.Follows answers host'.calls →
        (Arena.create label poolCount minPoolSize host).1.map Arena.view
          = (Arena.create label' poolCount minPoolSize host').1.map Arena.view)
      ∧ ∀ (run : Run β) (run' : Run γ), run.poolCount = run'.poolCount →
        run.minPoolSize = run'.minPoolSize → run.operations = run'.operations →
        run.final.host.Follows answers run.host.calls →
        run'.final.host.Follows answers run'.host.calls →
        run.transcript.map Entry.relative = run'.transcript.map Entry.relative
          ∧ ∀ earlier, earlier <+: run.operations →
            (run.opening.performAll earlier).2.arena.view
              = (run'.opening.performAll earlier).2.arena.view := by
  constructor
  · intro label label' poolCount minPoolSize host host' hfollows hfollows'
    have hstart : host.InStep host.calls host'.calls host' := ⟨[], [], rfl, rfl, rfl⟩
    exact (Arena.create_inStep hstart label label' poolCount minPoolSize hfollows hfollows').1
  · intro run run' hcount hsize hoperations hfollows hfollows'
    -- The openings are what two creations of the same sizes come to.
    have hopening : run.opening.InStep run.host.calls run'.host.calls run'.opening := by
      have hstart : run.host.InStep run.host.calls run'.host.calls run'.host :=
        ⟨[], [], rfl, rfl, rfl⟩
      have hcreate := run.create_eq
      have hcreate' := run'.create_eq
      rw [← hcount, ← hsize] at hcreate'
      have hopened : _ = run.opening.host := congrArg Prod.snd hcreate
      have hopened' : _ = run'.opening.host := congrArg Prod.snd hcreate'
      have hbegun := hfollows.older run.changes.calls_suffix
      have hbegun' := hfollows'.older run'.changes.calls_suffix
      rw [← hopened] at hbegun
      rw [← hopened'] at hbegun'
      have hboth := Arena.create_inStep hstart run.label run'.label _ _ hbegun hbegun'
      rw [hcreate, hcreate'] at hboth
      exact ⟨Except.ok.inj hboth.1, hboth.2⟩
    unfold transcript
    unfold final at hfollows hfollows'
    rw [← hoperations] at hfollows' ⊢
    refine ⟨(System.performAll_inStep hopening run.operations hfollows hfollows').1, ?_⟩
    rintro earlier ⟨rest, hrest⟩
    rw [← hrest, System.performAll_append] at hfollows hfollows'
    have hfirst := hfollows.older (System.performAll_changes _ rest).calls_suffix
    have hfirst' := hfollows'.older (System.performAll_changes _ rest).calls_suffix
    exact (System.performAll_inStep hopening earlier hfirst hfirst').2.view_eq

/-- The first injection is refused. The next pool gets its buffer in the second turn that the
second block waits. -/
theorem addresses_unseen_grudging :
    let operations : List Operation := [.alloc 24 8 [], .inject, .alloc 40 1 [0, 1, 0]]
    let run := ((grudging 65536).get (by decide +kernel)).andThen operations
    let run' := ((grudging 1000).get (by decide +kernel)).andThen operations
    run.blocks.map Block.addr = [65536, 65607] ∧ run'.blocks.map Block.addr = [1024, 1095]
      ∧ run.transcript.map Entry.relative = run'.transcript.map Entry.relative := by
  intro operations run run'
  have hfollows : run.final.host.Follows (· != 2) run.host.calls :=
    Host.follows_of_nil (by decide +kernel) (by decide +kernel)
  have hfollows' : run'.final.host.Follows (· != 2) run'.host.calls :=
    Host.follows_of_nil (by decide +kernel) (by decide +kernel)
  refine ⟨by decide +kernel, by decide +kernel, ?_⟩
  exact ((addresses_unseen (· != 2)).2 run run' (by decide +kernel) (by decide +kernel)
    (by decide +kernel) hfollows hfollows').1

end Run

end PooledArena
