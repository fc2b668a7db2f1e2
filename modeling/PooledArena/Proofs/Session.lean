import PooledArena.Proofs.Reactions
import PooledArena.Proofs.Outlook
import PooledArena.Backing.Scripted

/-!
# `PooledArena.Proofs.Session`: a session never waits for itself

A session is alone with its arenas: a wait for a buffer would be a wait for an injection
that only the session itself could make. So it looks ahead before each allocation, and
refuses those that would wait. `Session.react_calm` is the step: every line leaves all arenas
poised, and none of them hangs.

`Session.never_hangs` says this of all that a session reacts to, and what each answer of the
outlook is worth on the way (`Session.Foresees`): after a no, an allocation does not wait,
and after a yes, a request of half a pool at the most would have.
-/

set_option autoImplicit false

namespace PooledArena.Shell

variable {β : Type}

/-! ### Poised sessions -/

/-- For a request that is accepted, these are the bytes of its extent. -/
theorem paddedSize_eq {g : Geometry} {size align : Word} {extent : Extent g}
    (h : g.accept size align = .ok extent) : paddedSize size align = extent.bytes := by
  have haccepted := g.accept_eq_ok h
  have halign := haccepted.isPowerOfTwo_align.pos
  have hpred := Word.toNat_sub_one halign
  have hbytes := haccepted.bytes_eq
  have hword := extent.bytes.toNat_lt
  rw [← UInt64.toNat_inj, paddedSize, if_neg (Nat.ne_of_gt halign), Word.toNat_saturatingAdd]
  omega

namespace Session

/-- All arenas are poised, whatever their names. -/
def Poised (session : Session β) : Prop :=
  ∀ entry ∈ session.arenas, entry.2.Poised

theorem poised_start (backing : β) : (start backing).Poised := by
  intro entry hentry
  cases hentry

variable {session : Session β} {name : String}

theorem Poised.of_find? (h : session.Poised) {arena : Arena}
    (hfind : session.find? name = some arena) : arena.Poised :=
  h _ (mem_of_find? hfind)

theorem Poised.update (h : session.Poised) {sys : System β} (hsys : sys.arena.Poised) :
    (session.update name sys).Poised := by
  intro entry hentry
  obtain ⟨old, hold, rfl⟩ := List.mem_map.1 hentry
  split
  · exact hsys
  · exact h old hold

end Session

/-! ### Reactions that leave a session poised -/

/-- The session did not hang, and is poised for whatever comes next. -/
structure Reaction.Calm (reaction : Reaction β) : Prop where
  poised : reaction.session.Poised
  awake : reaction.ending ≠ some .hung

namespace Session

variable {session : Session β} {name : String}

theorem Poised.say (h : session.Poised) (replies : List Reply) : (session.say replies).Calm :=
  ⟨h, nofun⟩

theorem Poised.stop (h : session.Poised) (replies : List Reply) {ending : Ending}
    (hending : ending ≠ .hung) : (session.stop replies ending).Calm :=
  ⟨h, fun hhung => hending (Option.some.inj hhung)⟩

theorem Poised.sayOrFail (h : session.Poised) (reply? : Error → Option Reply) (error : Error) :
    (session.sayOrFail reply? error).Calm := by
  unfold Session.sayOrFail
  split
  · exact h.say _
  · exact h.stop _ Ending.noConfusion

variable [Backing β]

/-! ### One line -/

/-- Where the outlook says no, the allocation does not wait. -/
theorem Allocates.poised {arena : Arena} {size align : Word} {attempt : Attempt} {sys : System β}
    (hallocates : session.Allocates name arena size align attempt sys) (h : session.Poised) :
    attempt.AtOnce ∧ sys.arena.Poised := by
  refine hallocates.allocation.poised (h.of_find? hallocates.find?_eq) ?_
  intro extent haccept
  rw [← paddedSize_eq haccept]
  exact hallocates.ask_eq

/-- A poised session stays poised, whatever it reacts to, and does not hang. -/
theorem Reacts.calm {input : Except UsageError Command} {reaction : Reaction β}
    (hreacts : session.Reacts input reaction) (h : session.Poised) : reaction.Calm := by
  cases hreacts with
  | idle hquiet hending hunknown =>
      refine ⟨h, ?_⟩
      rcases hending with rfl | rfl | rfl
      · exact nofun
      · exact nofun
      · exact nofun
  | @uncreated name poolCount minPoolSize error host hfree hcreation =>
      -- The calls for a failed creation were made all the same, so the host is another one.
      have hsame : Poised { session with host } := h
      exact hsame.sayOrFail _ _
  | created hfree hcreation =>
      refine Poised.say ?_ _
      intro entry hentry
      rcases List.mem_cons.1 hentry with rfl | hold
      · exact System.poised_of_creation hcreation
      · exact h entry hold
  | unallocated hallocates hfailed => exact (h.update (hallocates.poised h).2).sayOrFail _ _
  | hung hallocates habandoned =>
      -- This is where the session would hang.
      exact absurd habandoned (hallocates.poised h).1.borne
  | allocated hallocates hgranted hquiet => exact (h.update (hallocates.poised h).2).say _
  | followed hallocates hgranted hmore hinjection =>
      exact (h.update (hinjection.poised (hallocates.poised h).2)).say _
  | stranded hallocates hgranted hmore hinjection =>
      exact (h.update (hinjection.poised (hallocates.poised h).2)).stop _ Ending.noConfusion
  | injected hfind hinjection =>
      exact (h.update (hinjection.poised (h.of_find? hfind))).say _
  | uninjected hfind hinjection =>
      exact (h.update (hinjection.poised (h.of_find? hfind))).sayOrFail _ _
  | deleted hfind hcompleted =>
      refine Poised.say ?_ _
      intro entry hentry
      exact h entry (List.mem_of_mem_filter hentry)
  | overcounted hfind hbroken =>
      refine Poised.stop ?_ _ Ending.noConfusion
      intro entry hentry
      exact h entry (List.mem_of_mem_filter hentry)

theorem react_calm (h : session.Poised) (input : Except UsageError Command) :
    (session.react input).Calm :=
  (session.react_spec input).calm h

/-! ### A whole session -/

theorem reactAll_calm (h : session.Poised) (inputs : List (Except UsageError Command)) :
    ∀ reaction ∈ session.reactAll inputs, reaction.Calm := by
  induction inputs generalizing session with
  | nil =>
      intro reaction hreaction
      cases hreaction
  | cons input inputs ih =>
      have hcalm := react_calm h input
      intro reaction hreaction
      unfold reactAll at hreaction
      dsimp only at hreaction
      -- Nothing is read after a reaction that ends the session.
      split at hreaction
      · obtain rfl := List.mem_singleton.1 hreaction
        exact hcalm
      · rcases List.mem_cons.1 hreaction with rfl | hlater
        · exact hcalm
        · exact ih hcalm.poised reaction hlater

/-- Every reaction is one to a line that was read, by the session as it was then. -/
theorem exists_of_mem_reactAll {inputs : List (Except UsageError Command)}
    {reaction : Reaction β} (h : reaction ∈ session.reactAll inputs) :
    ∃ earlier ∈ session :: (session.reactAll inputs).map Reaction.session,
      ∃ input ∈ inputs, reaction = earlier.react input := by
  induction inputs generalizing session with
  | nil => cases h
  | cons input inputs ih =>
      unfold reactAll at h ⊢
      dsimp only at h ⊢
      split at h
      · obtain rfl := List.mem_singleton.1 h
        exact ⟨session, List.mem_cons_self, input, List.mem_cons_self, rfl⟩
      · rcases List.mem_cons.1 h with rfl | hlater
        · exact ⟨session, List.mem_cons_self, input, List.mem_cons_self, rfl⟩
        · obtain ⟨earlier, hearlier, later, hinput, heq⟩ := ih hlater
          exact ⟨earlier, List.mem_cons_of_mem _ hearlier, later, List.mem_cons_of_mem _ hinput,
            heq⟩

/-- What the outlook is worth in a session. Where it says no, the allocation does not wait.
Where it says yes and the request is for half a pool at the most, the allocation would. -/
structure Foresees (session : Session β) : Prop where
  atOnce : ∀ name arena, session.find? name = some arena → ∀ size align,
    arena.wouldWait? (paddedSize size align) = some false →
    ∀ schedule, ((System.mk arena session.host).alloc size align schedule).1.AtOnce
  waits : ∀ name arena, session.find? name = some arena → ∀ size align,
    0 < size.toNat → Word.IsPowerOfTwo align → align ≤ arena.geometry.bufferLayout.align →
    2 * (size.toNat + (align.toNat - 1)) ≤ arena.geometry.poolSize.toNat →
    arena.wouldWait? (paddedSize size align) = some true →
    ∃ index, (System.mk arena session.host).WaitsFor size align index

theorem Poised.foresees (h : session.Poised) : session.Foresees := by
  constructor
  · intro name arena hfind size align hask schedule
    have hspec := (System.mk arena session.host).alloc_spec size align schedule
    refine (hspec.poised (h.of_find? hfind) ?_).1
    intro extent haccept
    rw [← paddedSize_eq haccept]
    exact hask
  · intro name arena hfind size align hsize halign hbuffer hhalf hask
    obtain ⟨extent, haccept⟩ :=
      arena.geometry.exists_accept_eq_ok hsize halign hbuffer (by omega)
    rw [paddedSize_eq haccept] at hask
    rw [← (arena.geometry.accept_eq_ok haccept).bytes_eq] at hhalf
    exact (System.mk arena session.host).exists_waitsFor (h.of_find? hfind) haccept hhalf hask

/-- Whatever a session is told, it never hangs. In each of its states, an allocation for which
the outlook says no would not wait for a single turn. One of half a pool at the most for
which it says yes would wait for a pool, so it is refused only because it has to be. -/
theorem never_hangs (backing : β) (inputs : List (Except UsageError Command)) :
    (∀ reaction ∈ (start backing).reactAll inputs, reaction.ending ≠ some .hung)
      ∧ ∀ session ∈ start backing :: ((start backing).reactAll inputs).map Reaction.session,
        session.Foresees := by
  have hcalm := reactAll_calm (poised_start backing) inputs
  refine ⟨fun reaction hreaction => (hcalm reaction hreaction).awake, ?_⟩
  intro session hsession
  rcases List.mem_cons.1 hsession with rfl | hlater
  · exact (poised_start backing).foresees
  · obtain ⟨reaction, hreaction, rfl⟩ := List.mem_map.1 hlater
    exact (hcalm reaction hreaction).poised.foresees

/-- What two lines come to: an arena of two pools, and a block that leaves four bytes of the
first. -/
def brief : List (Reaction Scripted) :=
  (start (Scripted.ofScript .smooth)).reactAll
    [.ok (.create "a" 2 64), .ok (.alloc "a" 60 1 false)]

/-- What the second line leaves behind. -/
def briefEnd : Session Scripted :=
  (brief.getLast?.get (by decide +kernel)).session

/-- The four bytes can be had at once, and more cannot. -/
theorem never_hangs_brief :
    (∀ reaction ∈ brief, reaction.ending ≠ some .hung)
      ∧ ∃ arena, briefEnd.find? "a" = some arena
        ∧ (∀ schedule, ((System.mk arena briefEnd.host).alloc 4 1 schedule).1.AtOnce)
        ∧ ∃ index, (System.mk arena briefEnd.host).WaitsFor 20 8 index := by
  obtain ⟨hawake, hall⟩ := never_hangs (Scripted.ofScript .smooth)
    [.ok (.create "a" 2 64), .ok (.alloc "a" 60 1 false)]
  refine ⟨hawake, ?_⟩
  have hforesees : briefEnd.Foresees := by
    refine hall _ (List.mem_cons_of_mem _ (List.mem_map_of_mem ?_))
    exact List.mem_of_getLast? (Option.some_get _).symm
  have hfind : briefEnd.find? "a" = some ((briefEnd.find? "a").get (by decide +kernel)) :=
    (Option.some_get _).symm
  refine ⟨_, hfind, ?_, ?_⟩
  · exact hforesees.atOnce "a" _ hfind 4 1 (by decide +kernel)
  · exact hforesees.waits "a" _ hfind 20 8 (by decide) ⟨3, rfl⟩ (by decide +kernel)
      (by decide +kernel) (by decide +kernel)

end Session

end PooledArena.Shell
