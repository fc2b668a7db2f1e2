import PooledArena.Shell.Session
import PooledArena.Proofs.Allocation
import PooledArena.Proofs.Creation
import Mathlib.Data.List.Nodup

/-!
# `PooledArena.Proofs.Reactions`: what a session can do with a line

A line comes to one of twelve things, and `Reacts` has a constructor for each. Many lines
change nothing. The others create an arena, or fail to, release one, inject into one, or
allocate from one, with an injection after it if the block asks for the next pool. `react_spec`
says that there are no other ways, so what each of them keeps, a session keeps. A release may
break off, and `overcounted_iff` says for which arenas it does.

Arenas are found by name, and no command reaches another arena than the one it names
(`find?_update_of_ne` and its neighbours).
-/

set_option autoImplicit false

namespace PooledArena.Shell

variable {β : Type}

/-- The bytes of a request with its padding, as far as a word can say. The alignment may be
anything here. -/
def paddedSize (size align : Word) : Word :=
  Word.saturatingAdd size (if align.toNat = 0 then 0 else align - 1)

/-- The block that the reply tells of. -/
def Reply.block? : Reply → Option Block
  | allocated block => some block
  | _ => none

/-- The blocks that the reaction tells of, in order. -/
def Reaction.blocks (reaction : Reaction β) : List Block :=
  reaction.replies.filterMap Reply.block?

namespace Session

/-! ### Arenas by name -/

variable {session : Session β} {name : String}

theorem mem_of_find? {arena : Arena} (h : session.find? name = some arena) :
    (name, arena) ∈ session.arenas := by
  obtain ⟨before, after, harenas, _⟩ := List.lookup_eq_some_iff.1 h
  rw [harenas]
  simp

/-- Where no name is used twice, a name stands for one arena, and for none of the others. To
change the arena or to take it away changes nothing else. -/
theorem exists_others (hnames : (session.arenas.map Prod.fst).Nodup) {arena : Arena}
    (h : session.find? name = some arena) :
    ∃ others, session.arenas.Perm ((name, arena) :: others)
      ∧ (∀ entry ∈ others, entry.1 ≠ name)
      ∧ (∀ sys : System β, (session.update name sys).arenas.Perm ((name, sys.arena) :: others))
      ∧ (session.arenas.filter fun entry => entry.1 ≠ name).Perm others := by
  obtain ⟨before, after, harenas⟩ := List.append_of_mem (mem_of_find? h)
  have hperm : session.arenas.Perm ((name, arena) :: (before ++ after)) := by
    rw [harenas]
    exact List.perm_middle
  have hother : ∀ entry ∈ before ++ after, entry.1 ≠ name := by
    have hsplit := (hperm.map Prod.fst).nodup_iff.1 hnames
    intro entry hentry hname
    refine (List.nodup_cons.1 hsplit).1 ?_
    rw [show (name, arena).1 = entry.1 from hname.symm]
    exact List.mem_map_of_mem hentry
  refine ⟨before ++ after, hperm, hother, ?_, ?_⟩
  · intro sys
    have hsame : (before ++ after).map
        (fun entry => if entry.1 = name then (name, sys.arena) else entry) = before ++ after :=
      (List.map_congr_left fun entry hentry => if_neg (hother entry hentry)).trans (List.map_id _)
    have hmap := hperm.map fun entry => if entry.1 = name then (name, sys.arena) else entry
    rw [List.map_cons, if_pos rfl, hsame] at hmap
    exact hmap
  · have hsame : (before ++ after).filter (fun entry => decide (entry.1 ≠ name))
        = before ++ after :=
      List.filter_eq_self.2 fun entry hentry => decide_eq_true (hother entry hentry)
    have hfilter := hperm.filter fun entry => decide (entry.1 ≠ name)
    rw [List.filter_cons_of_neg (by simp), hsame] at hfilter
    exact hfilter

/-! ### Failures and replies -/

theorem session_sayOrFail (session : Session β) (reply? : Error → Option Reply) (error : Error) :
    (session.sayOrFail reply? error).session = session := by
  unfold sayOrFail
  split
  · rfl
  · rfl

/-- Only an error without a reply ends the session. -/
theorem sayOrFail_failed_iff (session : Session β) (reply? : Error → Option Reply)
    (error cause : Error) :
    (session.sayOrFail reply? error).ending = some (.failed cause)
      ↔ reply? error = none ∧ error = cause := by
  unfold sayOrFail
  cases reply? error with
  | none => simp [stop]
  | some reply => simp [say]

/-- An error ends the session with a failure or not at all. -/
theorem sayOrFail_ne (session : Session β) (reply? : Error → Option Reply) (error : Error)
    {ending : Ending} (hending : ∀ cause, ending ≠ .failed cause) :
    (session.sayOrFail reply? error).ending ≠ some ending := by
  unfold sayOrFail
  split
  · exact nofun
  · exact fun heq => hending error (Option.some.inj heq).symm

/-- A failed allocation is no block to tell of. -/
theorem blocks_sayOrFail_alloc (session : Session β) (error : Error) :
    (session.sayOrFail Reply.ofAllocError? error).blocks = [] := by
  cases error <;> rfl

/-! ### The ways in which a session reacts -/

variable [Backing β]

/-- The outlook has been asked and says no, and the allocation comes to this. -/
structure Allocates (session : Session β) (name : String) (arena : Arena) (size align : Word)
    (attempt : Attempt) (sys : System β) : Prop where
  find?_eq : session.find? name = some arena
  ask_eq : arena.wouldWait? (paddedSize size align) = some false
  alloc_eq : (System.mk arena session.host).alloc size align [] = (attempt, sys)

theorem Allocates.allocation {arena : Arena} {size align : Word} {attempt : Attempt}
    {sys : System β} (h : session.Allocates name arena size align attempt sys) :
    System.Allocation ⟨arena, session.host⟩ size align attempt sys := by
  have hspec := (System.mk arena session.host).alloc_spec size align []
  rw [h.alloc_eq] at hspec
  exact hspec

/-- The ways in which a session reacts to a line. -/
inductive Reacts (session : Session β) : Except UsageError Command → Reaction β → Prop
  /-- No arena is concerned. -/
  | idle {input : Except UsageError Command} {replies : List Reply} {ending : Option Ending}
      (hquiet : replies.filterMap Reply.block? = [])
      (hending : ending = none ∨ ending = some .exited ∨ ending = some .overflowed)
      (hunknown : ∀ name, input = .ok (.delete name) → session.find? name = none) :
      Reacts session input ⟨replies, ending, session⟩
  /-- The creation fails. It may have made calls all the same. -/
  | uncreated {name : String} {poolCount minPoolSize : Word} {error : Error} {host : Host β}
      (hfree : session.find? name = none)
      (hcreation : Creation name poolCount minPoolSize session.host (.error error) host) :
      Reacts session (.ok (.create name poolCount minPoolSize))
        ({ session with host }.sayOrFail Reply.ofCreateError? error)
  /-- The arena is created. -/
  | created {name : String} {poolCount minPoolSize : Word} {arena : Arena} {host : Host β}
      (hfree : session.find? name = none)
      (hcreation : Creation name poolCount minPoolSize session.host (.ok arena) host) :
      Reacts session (.ok (.create name poolCount minPoolSize))
        (Session.say ⟨(name, arena) :: session.arenas, host⟩
          [.created arena.label arena.geometry.poolCount arena.geometry.poolSize])
  /-- The allocation fails. -/
  | unallocated {name : String} {arena : Arena} {size align : Word} {inject : Bool}
      {attempt : Attempt} {sys : System β} {error : Error}
      (h : session.Allocates name arena size align attempt sys)
      (hfailed : attempt.outcome = .failed error) :
      Reacts session (.ok (.alloc name size align inject))
        ((session.update name sys).sayOrFail Reply.ofAllocError? error)
  /-- The allocation waits, and nobody brings the buffer. -/
  | hung {name : String} {arena : Arena} {size align : Word} {inject : Bool}
      {attempt : Attempt} {sys : System β}
      (h : session.Allocates name arena size align attempt sys)
      (habandoned : attempt.outcome = .abandoned) :
      Reacts session (.ok (.alloc name size align inject))
        ((session.update name sys).stop [] .hung)
  /-- The block is handed out, and nothing else is done. -/
  | allocated {name : String} {arena : Arena} {size align : Word} {inject : Bool}
      {attempt : Attempt} {sys : System β} {block : Block} {replies : List Reply}
      (h : session.Allocates name arena size align attempt sys)
      (hgranted : attempt.outcome = .granted block)
      (hquiet : replies.filterMap Reply.block? = []) :
      Reacts session (.ok (.alloc name size align inject))
        ((session.update name sys).say (.allocated block :: replies))
  /-- The block asks for the next pool, and an injection follows. -/
  | followed {name : String} {arena : Arena} {size align : Word}
      {attempt : Attempt} {sys later : System β} {block : Block} {index : Nat}
      (h : session.Allocates name arena size align attempt sys)
      (hgranted : attempt.outcome = .granted block) (hmore : block.moreNeeded = true)
      (hinjection : System.Injection sys (.ok index) later) :
      Reacts session (.ok (.alloc name size align true))
        ((session.update name later).say [.allocated block, .injected index])
  /-- The block asks for the next pool, and the injection that follows fails. -/
  | stranded {name : String} {arena : Arena} {size align : Word}
      {attempt : Attempt} {sys later : System β} {block : Block} {error : Error}
      (h : session.Allocates name arena size align attempt sys)
      (hgranted : attempt.outcome = .granted block) (hmore : block.moreNeeded = true)
      (hinjection : System.Injection sys (.error error) later) :
      Reacts session (.ok (.alloc name size align true))
        ((session.update name later).stop [.allocated block] (.failed error))
  /-- A pool gets a buffer. -/
  | injected {name : String} {arena : Arena} {sys : System β} {index : Nat}
      (hfind : session.find? name = some arena)
      (hinjection : System.Injection ⟨arena, session.host⟩ (.ok index) sys) :
      Reacts session (.ok (.inject name)) ((session.update name sys).say [.injected index])
  /-- The injection fails. -/
  | uninjected {name : String} {arena : Arena} {sys : System β} {error : Error}
      (hfind : session.find? name = some arena)
      (hinjection : System.Injection ⟨arena, session.host⟩ (.error error) sys) :
      Reacts session (.ok (.inject name))
        ((session.update name sys).sayOrFail Reply.ofInjectError? error)
  /-- The arena is released. -/
  | deleted {name : String} {arena : Arena} (hfind : session.find? name = some arena)
      (hcompleted : (System.mk arena session.host).release.completed = true) :
      Reacts session (.ok (.delete name))
        (Session.say ⟨session.arenas.filter fun entry => entry.1 ≠ name,
          (System.mk arena session.host).release.host⟩ [.deleted name])
  /-- The release of the arena breaks off, and the session with it. -/
  | overcounted {name : String} {arena : Arena} (hfind : session.find? name = some arena)
      (hbroken : (System.mk arena session.host).release.completed = false) :
      Reacts session (.ok (.delete name))
        (Session.stop ⟨session.arenas.filter fun entry => entry.1 ≠ name,
          (System.mk arena session.host).release.host⟩ [] .overcounted)

/-! ### The ways are all -/

theorem Reacts.say {input : Except UsageError Command} {replies : List Reply}
    (hquiet : replies.filterMap Reply.block? = [])
    (hunknown : ∀ name, input = .ok (.delete name) → session.find? name = none) :
    Reacts session input (session.say replies) :=
  .idle hquiet (.inl rfl) hunknown

theorem create_reacts (session : Session β) (name : String) (poolCount minPoolSize : Word) :
    session.Reacts (.ok (.create name poolCount minPoolSize))
      (session.create name poolCount minPoolSize) := by
  unfold create
  split
  · exact .say rfl nofun
  · rename_i hfree
    have hcases := create_cases name poolCount minPoolSize session.host
    split
    · rename_i hcreate
      rw [hcreate] at hcases
      exact .uncreated hfree hcases
    · rename_i hcreate
      rw [hcreate] at hcases
      exact .created hfree hcases

theorem followUp_reacts {arena : Arena} {size align : Word} {attempt : Attempt}
    {sys : System β} {block : Block} (h : session.Allocates name arena size align attempt sys)
    (hgranted : attempt.outcome = .granted block) (inject : Bool) :
    session.Reacts (.ok (.alloc name size align inject))
      (session.followUp name block inject sys) := by
  unfold followUp
  split
  · exact .allocated h hgranted rfl
  · rename_i hmore
    split
    · exact .allocated h hgranted rfl
    · rename_i hinjects
      obtain rfl : inject = true := by simpa using hinjects
      have hmore : block.moreNeeded = true := by simpa using hmore
      have hspec := sys.inject_spec
      split
      · rename_i hinject
        rw [hinject] at hspec
        exact .followed h hgranted hmore hspec
      · rename_i hinject
        rw [hinject] at hspec
        exact .stranded h hgranted hmore hspec

theorem allocFrom_reacts {arena : Arena} {size align : Word}
    (hfind : session.find? name = some arena)
    (hask : arena.wouldWait? (paddedSize size align) = some false) (inject : Bool) :
    session.Reacts (.ok (.alloc name size align inject))
      (session.allocFrom name arena size align inject) := by
  unfold allocFrom
  generalize halloc : (System.mk arena session.host).alloc size align [] = result
  obtain ⟨attempt, sys⟩ := result
  have h : session.Allocates name arena size align attempt sys := ⟨hfind, hask, halloc⟩
  dsimp only
  split
  · rename_i hgranted
    exact followUp_reacts h hgranted inject
  · rename_i hfailed
    exact .unallocated h hfailed
  · rename_i habandoned
    exact .hung h habandoned

/-- What the session asks before an allocation is about the padded size. -/
theorem alloc_eq {arena : Arena} (hfind : session.find? name = some arena) (size align : Word)
    (inject : Bool) : session.alloc name size align inject
      = match arena.wouldWait? (paddedSize size align) with
        | none => session.stop [] .overflowed
        | some true => session.say [.wouldWait]
        | some false => session.allocFrom name arena size align inject := by
  unfold alloc
  rw [hfind]
  rfl

theorem alloc_reacts (session : Session β) (name : String) (size align : Word) (inject : Bool) :
    session.Reacts (.ok (.alloc name size align inject))
      (session.alloc name size align inject) := by
  cases hfind : session.find? name with
  | none =>
      unfold alloc
      rw [hfind]
      exact .say rfl nofun
  | some arena =>
      rw [alloc_eq hfind]
      split
      · exact .idle rfl (.inr (.inr rfl)) nofun
      · exact .say rfl nofun
      · rename_i hask
        exact allocFrom_reacts hfind hask inject

theorem inject_reacts (session : Session β) (name : String) :
    session.Reacts (.ok (.inject name)) (session.inject name) := by
  unfold inject
  split
  · exact .say rfl nofun
  · rename_i arena hfind
    have hspec := (System.mk arena session.host).inject_spec
    split
    · rename_i hinject
      rw [hinject] at hspec
      exact .injected hfind hspec
    · rename_i hinject
      rw [hinject] at hspec
      exact .uninjected hfind hspec

theorem delete_reacts (session : Session β) (name : String) :
    session.Reacts (.ok (.delete name)) (session.delete name) := by
  unfold delete
  split
  · rename_i hnone
    refine .say rfl ?_
    rintro other hother
    cases hother
    exact hnone
  · rename_i hfind
    dsimp only
    split
    · rename_i hcompleted
      exact .deleted hfind hcompleted
    · rename_i hbroken
      exact .overcounted hfind (Bool.eq_false_iff.2 hbroken)

theorem print_reacts (session : Session β) (name : Option String) :
    session.Reacts (.ok (.print name)) (session.perform (.print name)) := by
  cases name with
  | none =>
      show session.Reacts _ session.printAll
      unfold printAll
      split
      · exact .say rfl nofun
      · exact .say rfl nofun
  | some name =>
      show session.Reacts _ (session.print name)
      unfold print
      split
      · exact .say rfl nofun
      · exact .say rfl nofun

theorem react_spec (session : Session β) (input : Except UsageError Command) :
    session.Reacts input (session.react input) := by
  cases input with
  | error error => exact .say rfl nofun
  | ok command =>
      cases command with
      | create name poolCount minPoolSize => exact session.create_reacts name _ _
      | delete name => exact session.delete_reacts name
      | alloc name size align inject => exact session.alloc_reacts name size align inject
      | inject name => exact session.inject_reacts name
      | print name => exact session.print_reacts name
      | exit => exact .idle rfl (.inr (.inl rfl)) nofun

end Session

end PooledArena.Shell
