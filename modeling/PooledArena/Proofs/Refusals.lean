import PooledArena.Proofs.Session

/-!
# `PooledArena.Proofs.Refusals`: a session fails only where the backing refuses

A session has replies for most errors, and fails with the others. There is only one error that
it fails with: the backing had no memory for the table or the first buffer of a new arena, or
for a buffer that was to be injected (`Session.Refused`). The injection that follows on a block
is no exception: the block has just asked for the pool, so the pool takes the buffer if there
is one (`System.Allocation.inject_of_moreNeeded`).

`Session.fails_only_refused` says this of every session, and of its exit code.
-/

set_option autoImplicit false

namespace PooledArena

variable {β : Type} [Backing β]

/-! ### Why injections fail -/

namespace System

variable {sys later : System β}

theorem Injection.allocatorError_iff {result : Except Error Nat} (h : Injection sys result later) :
    result = .error .allocatorError ↔ ¬sys.Served := by
  unfold Served
  cases h with
  | refused hallocate => simp [hallocate]
  | installed hallocate hinstall => simp [hallocate]
  | returned hallocate hinstall => simp [hallocate]

/-- The pool behind a block that asks for it waits from then on, so the next buffer goes there.
-/
theorem Allocation.inject_of_moreNeeded {size align : Word} {attempt : Attempt} {block : Block}
    {stage : Stage} (h : Allocation sys size align attempt later)
    (hstage : sys.arena.table.AtStage stage) (hgranted : attempt.outcome = .granted block)
    (hmore : block.moreNeeded = true) :
    later.inject.1 = .ok (block.pool + 1) ∨ later.inject.1 = .error .allocatorError := by
  obtain ⟨next, hnext, _⟩ := h.changes.reaches hstage
  -- Only a block that is handed out asks, and it does so last.
  have hpending : later.arena.table.slot (block.pool + 1) = .pending := by
    cases h with
    | rejected haccept => cases hgranted
    | exhausted haccept hreserve => cases hgranted
    | absent haccept hreserve habsent => cases hgranted
    | abandoned relaxes times haccept hreserve hpending => cases hgranted
    | granted relaxes times haccept hreserve hready hwait =>
        cases hgranted
        exact (SlotTable.slot_request_pending_iff _ _ _).2 (.inr ⟨hmore, rfl⟩)
  exact later.inject_spec.of_pending hnext hpending

end System

/-! ### Commands that are refused -/

namespace Shell

namespace Session

variable {session : Session β} {name : String}

/-- The backing refuses what the command comes down to asking it for. -/
inductive Refused (session : Session β) : Command → Prop
  /-- The table of a new arena, or its first buffer. -/
  | create {name : String} {poolCount minPoolSize : Word} {g : Geometry}
      (hfree : session.find? name = none)
      (hsizes : Geometry.ofSizes poolCount minPoolSize = .ok g)
      (hstarved : Starved session.host g) : Refused session (.create name poolCount minPoolSize)
  /-- The buffer of the pool that a block has asked for. -/
  | followUp {name : String} {arena : Arena} {size align : Word} {attempt : Attempt}
      {sys : System β} {block : Block} (h : session.Allocates name arena size align attempt sys)
      (hgranted : attempt.outcome = .granted block) (hmore : block.moreNeeded = true)
      (hrefused : ¬sys.Served) : Refused session (.alloc name size align true)
  /-- The buffer that is to be injected. -/
  | inject {name : String} {arena : Arena} (hfind : session.find? name = some arena)
      (hrefused : ¬(System.mk arena session.host).Served) : Refused session (.inject name)

/-- A session fails with one error only, and only at commands that are refused. The errors that
it has no reply for come to that. -/
structure FailsOnlyRefused (session : Session β) : Prop where
  failed_iff : ∀ input error, (session.react input).ending = some (.failed error)
    ↔ error = .allocatorError ∧ ∃ command, input = .ok command ∧ session.Refused command
  /-- The injection that follows on a block fills the pool that the block has asked for, or is
  refused. -/
  followUp : ∀ name arena, session.find? name = some arena → ∀ size align schedule block,
    ((System.mk arena session.host).alloc size align schedule).1.outcome = .granted block →
    block.moreNeeded = true →
    ((System.mk arena session.host).alloc size align schedule).2.inject.1 = .ok (block.pool + 1)
      ∨ ((System.mk arena session.host).alloc size align schedule).2.inject.1
        = .error .allocatorError
  create : ∀ name poolCount minPoolSize error,
    (Arena.create name poolCount minPoolSize session.host).1 = .error error →
    Reply.ofCreateError? error = none → error = .allocatorError
  /-- An allocation has no such error at all. -/
  alloc : ∀ name arena, session.find? name = some arena → ∀ size align schedule error,
    ((System.mk arena session.host).alloc size align schedule).1.outcome = .failed error →
    Reply.ofAllocError? error ≠ none
  inject : ∀ name arena, session.find? name = some arena → ∀ error,
    (System.mk arena session.host).inject.1 = .error error →
    Reply.ofInjectError? error = none → error = .allocatorError

/-! ### Errors without a reply -/

theorem ofCreateError?_eq_none {label : String} {poolCount minPoolSize : Word}
    {host after : Host β} {error : Error}
    (h : Creation label poolCount minPoolSize host (.error error) after)
    (hnone : Reply.ofCreateError? error = none) : error = .allocatorError := by
  cases h with
  | rejected hsizes =>
      rcases Geometry.ofSizes_eq_error hsizes with rfl | rfl
      · cases hnone
      · cases hnone
  | tooLarge hsizes hlayout => rfl
  | tableRefused hsizes hlayout htable => rfl
  | bufferRefused hsizes hlayout htable hbuffer => rfl

/-- The session has a reply for every error of an allocation. -/
theorem ofAllocError?_ne_none {sys later : System β} {size align : Word} {attempt : Attempt}
    {error : Error} (h : System.Allocation sys size align attempt later)
    (hfailed : attempt.outcome = .failed error) : Reply.ofAllocError? error ≠ none := by
  cases h with
  | rejected haccept =>
      cases hfailed
      rcases sys.arena.geometry.accept_eq_error haccept with rfl | rfl | rfl
      · exact Option.some_ne_none _
      · exact Option.some_ne_none _
      · exact Option.some_ne_none _
  | exhausted haccept hreserve =>
      cases hfailed
      exact Option.some_ne_none _
  | absent haccept hreserve habsent =>
      cases hfailed
      exact Option.some_ne_none _
  | abandoned relaxes times haccept hreserve hpending => cases hfailed
  | granted relaxes times haccept hreserve hready hwait => cases hfailed

theorem ofInjectError?_eq_none {sys later : System β} {error : Error}
    (h : System.Injection sys (.error error) later)
    (hnone : Reply.ofInjectError? error = none) : error = .allocatorError := by
  cases h with
  | refused hallocate => rfl
  | returned hallocate hinstall => cases hnone

/-! ### One line -/

/-- The injection that follows on a block fills the pool that the block has asked for, or the
backing refuses it. -/
theorem Poised.inject_of_moreNeeded (h : session.Poised) {arena : Arena}
    (hfind : session.find? name = some arena) {size align : Word} {attempt : Attempt}
    {sys : System β} {block : Block}
    (hallocation : System.Allocation ⟨arena, session.host⟩ size align attempt sys)
    (hgranted : attempt.outcome = .granted block) (hmore : block.moreNeeded = true) :
    sys.inject.1 = .ok (block.pool + 1) ∨ sys.inject.1 = .error .allocatorError := by
  obtain ⟨stage, hstage⟩ := (h.of_find? hfind).exists_stage
  exact hallocation.inject_of_moreNeeded hstage hgranted hmore

theorem Reacts.refused {input : Except UsageError Command} {reaction : Reaction β} {error : Error}
    (hreacts : session.Reacts input reaction) (h : session.Poised)
    (hfailed : reaction.ending = some (.failed error)) :
    error = .allocatorError ∧ ∃ command, input = .ok command ∧ session.Refused command := by
  cases hreacts with
  | idle hquiet hending hunknown =>
      rcases hending with rfl | rfl | rfl
      · cases hfailed
      · cases hfailed
      · cases hfailed
  | uncreated hfree hcreation =>
      obtain ⟨hnone, rfl⟩ := (sayOrFail_failed_iff _ _ _ _).1 hfailed
      obtain rfl := ofCreateError?_eq_none hcreation hnone
      obtain ⟨g, hsizes, hstarved⟩ := hcreation.allocatorError_iff.1 rfl
      exact ⟨rfl, _, rfl, .create hfree hsizes hstarved⟩
  | created hfree hcreation => cases hfailed
  | unallocated hallocates houtcome =>
      obtain ⟨hnone, _⟩ := (sayOrFail_failed_iff _ _ _ _).1 hfailed
      exact absurd hnone (ofAllocError?_ne_none hallocates.allocation houtcome)
  | hung hallocates habandoned => cases hfailed
  | allocated hallocates hgranted hquiet => cases hfailed
  | followed hallocates hgranted hmore hinjection => cases hfailed
  | stranded hallocates hgranted hmore hinjection =>
      cases hfailed
      have hanswer := h.inject_of_moreNeeded hallocates.find?_eq hallocates.allocation hgranted
        hmore
      rw [hinjection.inject_eq] at hanswer
      obtain hsame | hsame := hanswer
      · cases hsame
      · cases hsame
        have hrefused := hinjection.allocatorError_iff.1 rfl
        exact ⟨rfl, _, rfl, .followUp hallocates hgranted hmore hrefused⟩
  | injected hfind hinjection => cases hfailed
  | uninjected hfind hinjection =>
      obtain ⟨hnone, rfl⟩ := (sayOrFail_failed_iff _ _ _ _).1 hfailed
      obtain rfl := ofInjectError?_eq_none hinjection hnone
      exact ⟨rfl, _, rfl, .inject hfind (hinjection.allocatorError_iff.1 rfl)⟩
  | deleted hfind hcompleted => cases hfailed
  | overcounted hfind hbroken => cases hfailed

/-- A command that is refused ends the session. -/
theorem Refused.failed {command : Command} (h : session.Refused command) :
    (session.perform command).ending = some (.failed .allocatorError) := by
  cases h with
  | @create name poolCount minPoolSize g hfree hsizes hstarved =>
      have hresult := (create_cases name poolCount minPoolSize session.host).allocatorError_iff.2
        ⟨g, hsizes, hstarved⟩
      show (session.create name poolCount minPoolSize).ending = _
      unfold Session.create
      rw [hfree]
      generalize Arena.create name poolCount minPoolSize session.host = answer at hresult ⊢
      obtain ⟨result, host⟩ := answer
      obtain rfl : result = .error .allocatorError := hresult
      rfl
  | @followUp name arena size align attempt sys block hallocates hgranted hmore hrefused =>
      have hresult := sys.inject_spec.allocatorError_iff.2 hrefused
      show (session.alloc name size align true).ending = _
      rw [alloc_eq hallocates.find?_eq, hallocates.ask_eq]
      show (session.allocFrom name arena size align true).ending = _
      unfold allocFrom
      rw [hallocates.alloc_eq]
      dsimp only
      rw [hgranted]
      show (session.followUp name block true sys).ending = _
      unfold Session.followUp
      rw [hmore]
      generalize sys.inject = answer at hresult ⊢
      obtain ⟨result, later⟩ := answer
      obtain rfl : result = .error .allocatorError := hresult
      rfl
  | @inject name arena hfind hrefused =>
      have hresult := (System.mk arena session.host).inject_spec.allocatorError_iff.2 hrefused
      show (session.inject name).ending = _
      unfold Session.inject
      rw [hfind]
      dsimp only
      generalize (System.mk arena session.host).inject = answer at hresult ⊢
      obtain ⟨result, later⟩ := answer
      obtain rfl : result = .error .allocatorError := hresult
      rfl

theorem Poised.failsOnlyRefused (h : session.Poised) : session.FailsOnlyRefused := by
  refine ⟨?_, ?_, ?_, ?_, ?_⟩
  · intro input error
    constructor
    · exact (session.react_spec input).refused h
    · rintro ⟨rfl, command, rfl, hrefused⟩
      exact hrefused.failed
  · intro name arena hfind size align schedule block hgranted hmore
    exact h.inject_of_moreNeeded hfind (System.alloc_spec _ size align schedule) hgranted hmore
  · intro name poolCount minPoolSize error herror hnone
    have hcases := create_cases name poolCount minPoolSize session.host
    rw [herror] at hcases
    exact ofCreateError?_eq_none hcases hnone
  · intro name arena hfind size align schedule error hfailed
    exact ofAllocError?_ne_none (System.alloc_spec _ size align schedule) hfailed
  · intro name arena hfind error herror hnone
    have hspec := (System.mk arena session.host).inject_spec
    rw [herror] at hspec
    exact ofInjectError?_eq_none hspec hnone

/-! ### A whole session -/

/-- The program has a code of its own for failures. -/
theorem exists_failed_of_code? {ending : Option Ending} (h : session.code? ending = some 1) :
    ∃ error, ending = some (.failed error) := by
  unfold code? at h
  split at h
  · cases h
  · exact ⟨_, rfl⟩
  · cases h
  · cases h
  · cases h

/-- Whatever a session is told, it ends with an error only at a command that the backing refuses
something: the table of a new arena or its first buffer, or a buffer that was to be injected.
In each of its states all commands fail in this way and in no other, and no error but that
of the backing is left without a reply. -/
theorem fails_only_refused (backing : β) (inputs : List (Except UsageError Command)) :
    (exitCode? ((start backing).reactAll inputs) = some 1 →
        ∃ session ∈ start backing :: ((start backing).reactAll inputs).map Reaction.session,
          ∃ command, .ok command ∈ inputs ∧ session.Refused command)
      ∧ ∀ session ∈ start backing :: ((start backing).reactAll inputs).map Reaction.session,
        session.FailsOnlyRefused := by
  have hcalm := reactAll_calm (poised_start backing) inputs
  have hall : ∀ session ∈ start backing
      :: ((start backing).reactAll inputs).map Reaction.session, session.FailsOnlyRefused := by
    intro session hsession
    rcases List.mem_cons.1 hsession with rfl | hlater
    · exact (poised_start backing).failsOnlyRefused
    · obtain ⟨reaction, hreaction, rfl⟩ := List.mem_map.1 hlater
      exact (hcalm reaction hreaction).poised.failsOnlyRefused
  refine ⟨?_, hall⟩
  intro hcode
  -- The code is that of the last reaction, and only a failure has this one.
  unfold exitCode? at hcode
  cases hlast : ((start backing).reactAll inputs).getLast? with
  | none =>
      rw [hlast] at hcode
      cases hcode
  | some reaction =>
      rw [hlast] at hcode
      obtain ⟨error, hending⟩ := exists_failed_of_code? hcode
      obtain ⟨session, hsession, input, hinput, rfl⟩ :=
        exists_of_mem_reactAll (List.mem_of_getLast? hlast)
      obtain ⟨_, command, rfl, hrefused⟩ :=
        ((hall session hsession).failed_iff input error).1 hending
      exact ⟨session, hsession, command, hinput, hrefused⟩

/-- The backing refuses its third request, which is the injection that follows on the block. -/
theorem fails_only_refused_grudging :
    let opening := start (Scripted.ofScript { Script.smooth with failingCalls := [2] })
    let inputs : List (Except UsageError Command) :=
      [.ok (.create "a" 2 64), .ok (.alloc "a" 60 1 true)]
    (opening.reactAll inputs).map Reaction.ending = [none, some (.failed .allocatorError)]
      ∧ ∃ session ∈ opening :: (opening.reactAll inputs).map Reaction.session,
        ∃ command, .ok command ∈ inputs ∧ session.Refused command := by
  intro opening inputs
  have hcode : exitCode? (opening.reactAll inputs) = some 1 := by decide +kernel
  exact ⟨by decide +kernel, (fails_only_refused _ inputs).1 hcode⟩

end Session

end Shell

end PooledArena
