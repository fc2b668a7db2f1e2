import PooledArena.Proofs.Holdings
import PooledArena.Proofs.Reactions
import PooledArena.Backing.Scripted
import Mathlib.Algebra.GroupWithZero.Nat
import Mathlib.Data.List.Pairwise

/-!
# `PooledArena.Proofs.Ownership`: whose memory is whose in a session

The arenas of a session share one host. What is outstanding there is what the arenas hold, in
some order, and each arena keeps the blocks that the session has told of under its name: the
session and the ledger of these blocks are in line with each other (`Session.Books`). Every
line leaves them so (`Reacts.books`), whether it creates an arena or fails to, allocates,
injects or deletes. Only a deletion that breaks off leaves loans that belong to no arena.

`Session.live_accounted` reads off what follows for the loans, and for the blocks of all arenas
together. When a session ends, its arenas are released in any order, and nothing is left if
their releases can count their pools.
-/

set_option autoImplicit false

namespace PooledArena.Shell

variable {β : Type}

/-! ### What a session has told -/

/-- A line that was read, and what came of it. -/
abbrev Line (β : Type) := Except UsageError Command × Reaction β

/-- The blocks that were told of, oldest first, each with the name of its arena. -/
abbrev Ledger := List (String × Block)

namespace Ledger

/-- The blocks of the arena of this name. -/
def blocksOf (ledger : Ledger) (name : String) : List Block :=
  (ledger.filter fun entry => entry.1 = name).map Prod.snd

/-- The ledger after another line. The blocks of an arena go with it when it is deleted. -/
def enter (ledger : Ledger) (line : Line β) : Ledger :=
  match line.1 with
  | .ok (.alloc name _ _ _) => ledger ++ line.2.blocks.map (name, ·)
  | .ok (.delete name) => ledger.filter fun entry => entry.1 ≠ name
  | _ => ledger

variable {ledger : Ledger} {name other : String}

theorem mem_blocksOf {entry : String × Block} (h : entry ∈ ledger) :
    entry.2 ∈ ledger.blocksOf entry.1 :=
  List.mem_map_of_mem (List.mem_filter.2 ⟨h, decide_eq_true rfl⟩)

theorem blocksOf_append_self (blocks : List Block) :
    blocksOf (ledger ++ blocks.map (name, ·)) name = ledger.blocksOf name ++ blocks := by
  simp [blocksOf, List.filter_map, Function.comp_def]

theorem blocksOf_append_of_ne (h : other ≠ name) (blocks : List Block) :
    blocksOf (ledger ++ blocks.map (name, ·)) other = ledger.blocksOf other := by
  simp [blocksOf, List.filter_map, Function.comp_def, h.symm]

theorem blocksOf_filter_of_ne (h : other ≠ name) :
    blocksOf (ledger.filter fun entry => entry.1 ≠ name) other = ledger.blocksOf other := by
  unfold blocksOf
  rw [List.filter_filter]
  refine congrArg (List.map Prod.snd) (List.filter_congr ?_)
  intro entry _
  by_cases hother : entry.1 = other
  · simp [hother, h]
  · simp [hother]

theorem blocksOf_eq_nil (h : ∀ entry ∈ ledger, entry.1 ≠ name) : ledger.blocksOf name = [] := by
  unfold blocksOf
  rw [List.filter_eq_nil_iff.2]
  · rfl
  · intro entry hentry
    simpa using h entry hentry

end Ledger

/-- The session after these lines. -/
def Session.after (session : Session β) (lines : List (Line β)) : Session β :=
  match lines.getLast? with
  | none => session
  | some line => line.2.session

theorem Session.after_cons (session : Session β) (line : Line β) (lines : List (Line β)) :
    session.after (line :: lines) = line.2.session.after lines := by
  cases lines with
  | nil => rfl
  | cons next lines =>
      unfold after
      rw [List.getLast?_cons_cons]
      cases hlast : (next :: lines).getLast? with
      | none => cases List.getLast?_eq_none_iff.1 hlast
      | some last => rfl

/-! ### The way out -/

namespace Closing

variable {closing : Closing β} {arena : Arena}

/-- The loans of an arena that are left on the way out. A program that is stopped leaves all
of them. -/
def left (closing : Closing β) (arena : Arena) : List Loan :=
  if closing.breaks < 2 then arena.stranded else arena.loans

theorem left_eq_nil_iff (h : closing.breaks < 2) :
    closing.left arena = [] ↔ arena.readyPools < 0x80000000 := by
  rw [left, if_pos h, Arena.stranded_eq_nil_iff, Arena.length_bufferLoans]

variable [Backing β]

theorem release_holdings {others : List Loan} (hhoused : arena.table.Housed)
    (h : Call.Honest closing.host.calls)
    (hout : closing.host.outstanding.Perm (arena.loans ++ others)) :
    Call.Honest (closing.release arena).host.calls
      ∧ (closing.release arena).host.outstanding.Perm (closing.left arena ++ others) := by
  unfold release left
  split
  · exact (System.mk arena closing.host).release_holdings hhoused h hout
  · exact ⟨h, hout⟩

/-- The program breaks off where the pools cannot be counted, and nowhere else. -/
theorem breaks_release (h : closing.breaks < 2) : (closing.release arena).breaks
    = if arena.readyPools < 0x80000000 then closing.breaks else closing.breaks + 1 := by
  have hcompleted := (System.mk arena closing.host).completed_release_iff
  rw [Arena.length_bufferLoans] at hcompleted
  unfold release
  rw [if_pos h]
  exact if_congr hcompleted rfl rfl

/-- All arenas are released, one after the other. What is lost before is lost, and a program that
breaks off has lost something. Nothing is left at the end exactly if nothing was lost before and
the pools of all arenas can be counted. -/
theorem releaseAll_holdings {arenas : List (String × Arena)} {lost : List Loan}
    (hhoused : ∀ entry ∈ arenas, entry.2.table.Housed) (h : Call.Honest closing.host.calls)
    (hout : closing.host.outstanding.Perm ((arenas.flatMap fun entry => entry.2.loans) ++ lost))
    (hlost : lost = [] → closing.breaks < 2) :
    Call.Honest (closing.releaseAll arenas).host.calls
      ∧ ((closing.releaseAll arenas).host.outstanding = []
        ↔ lost = [] ∧ ∀ entry ∈ arenas, entry.2.readyPools < 0x80000000) := by
  induction arenas generalizing closing lost with
  | nil =>
      have hsame : closing.host.outstanding = [] ↔ lost = [] :=
        ⟨fun hnil => (hnil ▸ hout).nil_eq.symm, fun hnil => (hnil ▸ hout).eq_nil⟩
      exact ⟨h, hsame.trans (and_iff_left nofun).symm⟩
  | cons entry arenas ih =>
      obtain ⟨hfirst, hothers⟩ := List.forall_mem_cons.1 hhoused
      rw [List.flatMap_cons, List.append_assoc] at hout
      obtain ⟨hhonest, hrest⟩ := closing.release_holdings hfirst h hout
      have hnext : closing.left entry.2 ++ lost = []
          ↔ lost = [] ∧ entry.2.readyPools < 0x80000000 := by
        rw [List.append_eq_nil_iff, and_comm]
        exact and_congr_right fun hnil => left_eq_nil_iff (hlost hnil)
      have hbreaks : closing.left entry.2 ++ lost = [] → (closing.release entry.2).breaks < 2 := by
        intro hnil
        obtain ⟨hlost', hcount⟩ := hnext.1 hnil
        rw [breaks_release (hlost hlost'), if_pos hcount]
        exact hlost hlost'
      -- What this arena leaves is lost for the next ones.
      have hrest' := hrest.trans (List.perm_append_comm_assoc _ _ _)
      obtain ⟨hend, hnothing⟩ := ih hothers hhonest hrest' hbreaks
      refine ⟨hend, hnothing.trans ?_⟩
      rw [hnext, List.forall_mem_cons, and_assoc]

end Closing

/-! ### Books in order -/

namespace Session

/-- The session is in line with the ledger of the blocks that it has told of. -/
structure Books (session : Session β) (ledger : Ledger) : Prop where
  names : (session.arenas.map Prod.fst).Nodup
  labels : ∀ entry ∈ session.arenas, entry.2.label = entry.1
  keeps : ∀ entry ∈ session.arenas, entry.2.Keeps (ledger.blocksOf entry.1)
  housed : ∀ entry ∈ session.arenas, entry.2.table.Housed
  entered : ∀ entry ∈ ledger, entry.1 ∈ session.arenas.map Prod.fst
  honest : Call.Honest session.host.calls
  holdings : session.host.outstanding.Perm (session.arenas.flatMap fun entry => entry.2.loans)

namespace Books

variable {session : Session β} {ledger : Ledger} {name : String} {arena : Arena}
  {host after : Host β} {others : List (String × Arena)}

/-- The order of the arenas does not matter. -/
theorem perm {arenas : List (String × Arena)} (h : Books ⟨arenas, host⟩ ledger)
    (hperm : others.Perm arenas) : Books ⟨others, host⟩ ledger := by
  refine ⟨(hperm.map _).nodup_iff.2 h.names, ?_, ?_, ?_, ?_, h.honest, ?_⟩
  · intro entry hentry
    exact h.labels entry (hperm.subset hentry)
  · intro entry hentry
    exact h.keeps entry (hperm.subset hentry)
  · intro entry hentry
    exact h.housed entry (hperm.subset hentry)
  · intro entry hentry
    exact (hperm.map _).symm.subset (h.entered entry hentry)
  · exact h.holdings.trans (hperm.symm.flatMap_right _)

/-- Nothing is entered under a name that is not in use. -/
theorem filter_of_unused (h : session.Books ledger) (hunused : session.find? name = none) :
    ledger.filter (fun entry => entry.1 ≠ name) = ledger := by
  refine List.filter_eq_self.2 ?_
  intro entry hentry
  obtain ⟨used, hused, hname⟩ := List.mem_map.1 (h.entered entry hentry)
  have hother := List.lookup_eq_none_iff.1 hunused used hused
  refine decide_eq_true ?_
  rintro rfl
  simp [hname] at hother

/-- A line that concerns no arena enters nothing. -/
theorem idle (h : session.Books ledger) {input : Except UsageError Command}
    {replies : List Reply} {ending : Option Ending}
    (hquiet : replies.filterMap Reply.block? = [])
    (hunknown : ∀ name, input = .ok (.delete name) → session.find? name = none) :
    session.Books (ledger.enter (input, Reaction.mk replies ending session)) := by
  cases input with
  | error error => exact h
  | ok command =>
      cases command with
      | alloc name size align inject =>
          show Books _ (ledger ++ (replies.filterMap Reply.block?).map _)
          rw [hquiet, List.map_nil, List.append_nil]
          exact h
      | delete name =>
          show Books _ (ledger.filter _)
          rw [h.filter_of_unused (hunknown name rfl)]
          exact h
      | create name poolCount minPoolSize => exact h
      | inject name => exact h
      | print name => exact h
      | exit => exact h

/-- Every arena holds its table and the buffers of its ready pools. -/
theorem length_outstanding (h : session.Books ledger) : session.host.outstanding.length
    = (session.arenas.map fun entry => entry.2.readyPools + 1).sum := by
  rw [h.holdings.length_eq, List.length_flatMap]
  exact congrArg List.sum (List.map_congr_left fun entry _ => entry.2.length_loans)

/-- Two blocks of one arena do not overlap, because it keeps them apart. -/
theorem disjoint_of_same (h : session.Books ledger)
    (hapart : session.host.outstanding.Pairwise Loan.Disjoint) {holder : String × Arena}
    (hholder : holder ∈ session.arenas) : (ledger.blocksOf holder.1).Pairwise Block.Disjoint := by
  rw [h.holdings.pairwise_iff (fun h => h.symm), List.pairwise_flatMap] at hapart
  exact (h.keeps holder hholder).disjoint (List.pairwise_cons.1 (hapart.1 holder hholder)).2

/-- Blocks of two arenas do not overlap, because their loans do not. -/
theorem disjoint_of_ne (h : session.Books ledger)
    (hapart : session.host.outstanding.Pairwise Loan.Disjoint) {holder holder' : String × Arena}
    (hholder : holder ∈ session.arenas) (hholder' : holder' ∈ session.arenas)
    (hne : holder ≠ holder') {block block' : Block} (hblock : block ∈ ledger.blocksOf holder.1)
    (hblock' : block' ∈ ledger.blocksOf holder'.1) : block.Disjoint block' := by
  rw [h.holdings.pairwise_iff (fun h => h.symm), List.pairwise_flatMap] at hapart
  have hsymm : Std.Symm fun first second : String × Arena =>
      ∀ loan ∈ first.2.loans, ∀ loan' ∈ second.2.loans, loan.Disjoint loan' :=
    ⟨fun _ _ hdisjoint loan hloan loan' hloan' => (hdisjoint loan' hloan' loan hloan).symm⟩
  have hkeeps := h.keeps holder hholder
  have hkeeps' := h.keeps holder' hholder'
  refine (hapart.2.forall hholder hholder' hne _ ?_ _ ?_).blocks (hkeeps.within hblock)
    (hkeeps'.within hblock')
  · exact List.mem_cons_of_mem _ (hkeeps.loan_mem hblock)
  · exact List.mem_cons_of_mem _ (hkeeps'.loan_mem hblock')

/-- Where no two loans overlap, no two blocks do, whatever arenas they are from. -/
theorem disjoint (h : session.Books ledger)
    (hapart : session.host.outstanding.Pairwise Loan.Disjoint) :
    (ledger.map Prod.snd).Pairwise Block.Disjoint := by
  rw [List.pairwise_map, List.pairwise_iff_forall_sublist]
  intro first second hboth
  have hfirst : first ∈ ledger := hboth.subset List.mem_cons_self
  have hsecond : second ∈ ledger := hboth.subset (List.mem_cons_of_mem _ List.mem_cons_self)
  obtain ⟨holder, hholder, hname⟩ := List.mem_map.1 (h.entered first hfirst)
  obtain ⟨holder', hholder', hname'⟩ := List.mem_map.1 (h.entered second hsecond)
  by_cases hsame : holder = holder'
  · -- The two come in the same order among the blocks of their arena.
    subst hsame
    refine List.pairwise_iff_forall_sublist.1 (h.disjoint_of_same hapart hholder) ?_
    have hsublist := (hboth.filter fun entry => entry.1 = holder.1).map Prod.snd
    rw [List.filter_eq_self.2 (by simp [hname, ← hname'])] at hsublist
    exact hsublist
  · refine h.disjoint_of_ne hapart hholder hholder' hsame ?_ ?_
    · rw [hname]
      exact Ledger.mem_blocksOf hfirst
    · rw [hname']
      exact Ledger.mem_blocksOf hsecond

variable [Backing β]

/-- A creation that fails leaves the books as they are. -/
theorem uncreated (h : session.Books ledger) {poolCount minPoolSize : Word} {error : Error}
    (hcreation : Creation name poolCount minPoolSize session.host (.error error) after) :
    Books { session with host := after } ledger := by
  obtain ⟨hhonest, hout⟩ := hcreation.holdings_error h.honest
  exact ⟨h.names, h.labels, h.keeps, h.housed, h.entered, hhonest, hout.trans h.holdings⟩

/-- A new arena has no blocks yet. -/
theorem created (h : session.Books ledger) {poolCount minPoolSize : Word}
    (hfree : session.find? name = none)
    (hcreation : Creation name poolCount minPoolSize session.host (.ok arena) after) :
    Books ⟨(name, arena) :: session.arenas, after⟩ ledger := by
  obtain ⟨hhonest, hout⟩ := hcreation.holdings h.honest
  obtain ⟨buffer, hcreated⟩ := hcreation.created_spec
  have hunused : name ∉ session.arenas.map Prod.fst := by
    intro hname
    obtain ⟨entry, hentry, rfl⟩ := List.mem_map.1 hname
    have hnone := List.lookup_eq_none_iff.1 hfree entry hentry
    simp at hnone
  -- The name may have been in use before, but its blocks went with the arena.
  have hnew : ledger.blocksOf name = [] := by
    refine Ledger.blocksOf_eq_nil ?_
    rintro entry hentry rfl
    exact hunused (h.entered entry hentry)
  refine ⟨List.nodup_cons.2 ⟨hunused, h.names⟩, ?_, ?_, ?_, ?_, hhonest, ?_⟩
  · intro entry hentry
    rcases List.mem_cons.1 hentry with rfl | hold
    · exact hcreated.label_eq
    · exact h.labels entry hold
  · intro entry hentry
    rcases List.mem_cons.1 hentry with rfl | hold
    · rw [hnew]
      exact .of_creation hcreation
    · exact h.keeps entry hold
  · intro entry hentry
    rcases List.mem_cons.1 hentry with rfl | hold
    · exact hcreated.housed
    · exact h.housed entry hold
  · intro entry hentry
    exact List.mem_cons_of_mem _ (h.entered entry hentry)
  · exact hout.trans (h.holdings.append_left _)

/-- What is done with an arena is entered under its name. -/
theorem changed (h : session.Books ledger) (hfind : session.find? name = some arena)
    {sys : System β} {filled : List Nat}
    (hchanges : System.Changes ⟨arena, session.host⟩ filled sys) {blocks : List Block}
    (hkeeps : sys.arena.Keeps (ledger.blocksOf name ++ blocks)) :
    (session.update name sys).Books (ledger ++ blocks.map (name, ·)) := by
  obtain ⟨others, harenas, hothers, hupdate, _⟩ := exists_others h.names hfind
  -- The arena may as well be the first one.
  have hbooks := h.perm harenas.symm
  suffices hnew : Books ⟨(name, sys.arena) :: others, sys.host⟩
      (ledger ++ blocks.map (name, ·)) from hnew.perm (hupdate sys)
  obtain ⟨stage, hstage⟩ := (hbooks.keeps _ List.mem_cons_self).exists_stage
  obtain ⟨calls, hdealings⟩ := hchanges.dealings hstage
  have hloans := hdealings.loans_perm hchanges.frame.loan_eq
  refine ⟨hbooks.names, ?_, ?_, ?_, ?_, ?_, ?_⟩
  · intro entry hentry
    rcases List.mem_cons.1 hentry with rfl | hother
    · exact hchanges.frame.label_eq.trans (hbooks.labels _ List.mem_cons_self)
    · exact hbooks.labels entry (List.mem_cons_of_mem _ hother)
  · intro entry hentry
    rcases List.mem_cons.1 hentry with rfl | hother
    · rw [Ledger.blocksOf_append_self]
      exact hkeeps
    · rw [Ledger.blocksOf_append_of_ne (hothers entry hother)]
      exact hbooks.keeps entry (List.mem_cons_of_mem _ hother)
  · intro entry hentry
    rcases List.mem_cons.1 hentry with rfl | hother
    · exact hchanges.frame.housed_iff.2 (hbooks.housed _ List.mem_cons_self)
    · exact hbooks.housed entry (List.mem_cons_of_mem _ hother)
  · intro entry hentry
    rcases List.mem_append.1 hentry with hold | hnew
    · exact hbooks.entered entry hold
    · obtain ⟨block, _, rfl⟩ := List.mem_map.1 hnew
      exact List.mem_cons_self
  · -- What is called for one arena leaves the loans of the others outstanding.
    show Call.Honest sys.host.calls
    rw [hdealings.calls_eq]
    exact hdealings.atOnce.honest_append hbooks.honest
  · show (Call.outstanding sys.host.calls).Perm (sys.arena.loans ++ _)
    rw [hdealings.calls_eq, hdealings.atOnce.honest.outstanding_append]
    refine (hbooks.holdings.append_left _).trans ?_
    show (_ ++ (arena.loans ++ _)).Perm _
    rw [← List.append_assoc]
    exact hloans.symm.append_right _

/-- A release that comes to its end takes the arena out of the books, with its blocks. -/
theorem deleted (h : session.Books ledger) (hfind : session.find? name = some arena)
    (hcompleted : (System.mk arena session.host).release.completed = true) :
    Books ⟨session.arenas.filter fun entry => entry.1 ≠ name,
        (System.mk arena session.host).release.host⟩
      (ledger.filter fun entry => entry.1 ≠ name) := by
  obtain ⟨others, harenas, hothers, _, hfilter⟩ := exists_others h.names hfind
  have hbooks := h.perm harenas.symm
  obtain ⟨hhonest, hout⟩ := (System.mk arena session.host).release_holdings
    (hbooks.housed _ List.mem_cons_self) hbooks.honest hbooks.holdings
  rw [Arena.stranded_eq_nil_iff.2 ((System.completed_release_iff _).1 hcompleted)] at hout
  suffices hnew : Books ⟨others, (System.mk arena session.host).release.host⟩
      (ledger.filter fun entry => entry.1 ≠ name) from hnew.perm hfilter
  refine ⟨(List.nodup_cons.1 hbooks.names).2, ?_, ?_, ?_, ?_, hhonest, hout⟩
  · intro entry hentry
    exact hbooks.labels entry (List.mem_cons_of_mem _ hentry)
  · intro entry hentry
    rw [Ledger.blocksOf_filter_of_ne (hothers entry hentry)]
    exact hbooks.keeps entry (List.mem_cons_of_mem _ hentry)
  · intro entry hentry
    exact hbooks.housed entry (List.mem_cons_of_mem _ hentry)
  · intro entry hentry
    obtain ⟨hmem, hother⟩ := List.mem_filter.1 hentry
    exact (List.mem_cons.1 (hbooks.entered entry hmem)).resolve_left (of_decide_eq_true hother)

end Books

variable [Backing β] {session : Session β} {ledger : Ledger} {name : String}

/-- An allocation, and whatever follows on it, is entered with the block that was told of. -/
theorem Allocates.books {arena : Arena} {size align : Word} {attempt : Attempt}
    {sys later : System β} (hallocates : session.Allocates name arena size align attempt sys)
    (h : session.Books ledger) {filled : List Nat}
    (hchanges : System.Changes sys filled later)
    (hcursor : sys.arena.cursor.position.toNat ≤ later.arena.cursor.position.toNat) :
    (session.update name later).Books (ledger ++ attempt.block?.toList.map (name, ·)) := by
  have hallocation := hallocates.allocation
  have hkeeps : (System.mk arena session.host).arena.Keeps (ledger.blocksOf name) :=
    h.keeps _ (mem_of_find? hallocates.find?_eq)
  exact h.changed hallocates.find?_eq (hallocation.changes.trans hchanges)
    ((hkeeps.allocation hallocation).changes hchanges hcursor)

/-- The block that was handed out is entered, whether or not an injection follows on it. -/
theorem Allocates.entered {arena : Arena} {size align : Word} {attempt : Attempt}
    {sys later : System β} {block : Block}
    (hallocates : session.Allocates name arena size align attempt sys)
    (h : session.Books ledger) (hgranted : attempt.outcome = .granted block)
    (hlater : later = sys ∨ ∃ result, System.Injection sys result later) :
    (session.update name later).Books (ledger ++ [(name, block)]) := by
  have hblock := Attempt.block?_of_granted hgranted
  rcases hlater with rfl | ⟨result, hinjection⟩
  · have hbooks := hallocates.books h (.none later) (Nat.le_refl _)
    rw [hblock] at hbooks
    exact hbooks
  · have hcursor := congrArg (·.position.toNat) hinjection.cursor_eq
    have hbooks := hallocates.books h (System.Change.inject hinjection).changes
      (Nat.le_of_eq hcursor.symm)
    rw [hblock] at hbooks
    exact hbooks

/-- Where no block was handed out, none is entered. -/
theorem Allocates.unentered {arena : Arena} {size align : Word} {attempt : Attempt}
    {sys : System β} (hallocates : session.Allocates name arena size align attempt sys)
    (h : session.Books ledger) (hnone : attempt.block? = none) :
    (session.update name sys).Books ledger := by
  have hbooks := hallocates.books h (.none sys) (Nat.le_refl _)
  rw [hnone, Option.toList_none, List.map_nil, List.append_nil] at hbooks
  exact hbooks

/-- An injection leaves the ledger as it is. -/
theorem Books.injected (h : session.Books ledger) {arena : Arena}
    (hfind : session.find? name = some arena) {result : Except Error Nat} {sys : System β}
    (hinjection : System.Injection ⟨arena, session.host⟩ result sys) :
    (session.update name sys).Books ledger := by
  have hkeeps : (System.mk arena session.host).arena.Keeps (ledger.blocksOf name ++ []) := by
    rw [List.append_nil]
    exact h.keeps _ (mem_of_find? hfind)
  have hbooks := h.changed hfind (System.Change.inject hinjection).changes
    (hkeeps.injection hinjection)
  rw [List.map_nil, List.append_nil] at hbooks
  exact hbooks

/-- Every line leaves the books in order, unless the session breaks off in the middle of a
release. -/
theorem Reacts.books {input : Except UsageError Command} {reaction : Reaction β}
    (hreacts : session.Reacts input reaction) (h : session.Books ledger)
    (hcounted : reaction.ending ≠ some .overcounted) :
    reaction.session.Books (ledger.enter (input, reaction)) := by
  cases hreacts with
  | idle hquiet hending hunknown => exact h.idle hquiet hunknown
  | uncreated hfree hcreation =>
      rw [session_sayOrFail]
      exact h.uncreated hcreation
  | created hfree hcreation => exact h.created hfree hcreation
  | @unallocated name arena size align inject attempt sys error hallocates hfailed =>
      show Books _ (ledger ++ List.map _ _)
      rw [session_sayOrFail, blocks_sayOrFail_alloc, List.map_nil, List.append_nil]
      refine hallocates.unentered h ?_
      unfold Attempt.block?
      rw [hfailed]
  | @hung name arena size align inject attempt sys hallocates habandoned =>
      show Books _ (ledger ++ [])
      rw [List.append_nil]
      refine hallocates.unentered h ?_
      unfold Attempt.block?
      rw [habandoned]
  | @allocated name arena size align inject attempt sys block replies hallocates hgranted hquiet =>
      show Books _ (ledger ++ (block :: replies.filterMap Reply.block?).map _)
      rw [hquiet]
      exact hallocates.entered h hgranted (.inl rfl)
  | followed hallocates hgranted hmore hinjection =>
      exact hallocates.entered h hgranted (.inr ⟨_, hinjection⟩)
  | stranded hallocates hgranted hmore hinjection =>
      exact hallocates.entered h hgranted (.inr ⟨_, hinjection⟩)
  | injected hfind hinjection => exact h.injected hfind hinjection
  | uninjected hfind hinjection =>
      rw [session_sayOrFail]
      exact h.injected hfind hinjection
  | deleted hfind hcompleted => exact h.deleted hfind hcompleted
  | overcounted hfind hbroken => exact absurd rfl hcounted

/-! ### A whole session -/

/-- The books are in order after every line. -/
theorem Books.reactAll (h : session.Books ledger) (inputs : List (Except UsageError Command))
    {lines : List (Line β)} (hlines : lines <+: inputs.zip (session.reactAll inputs))
    (hcounted : ∀ line ∈ lines, line.2.ending ≠ some .overcounted) :
    (session.after lines).Books (lines.foldl Ledger.enter ledger) := by
  induction inputs generalizing session ledger lines with
  | nil =>
      obtain rfl := List.prefix_nil.1 hlines
      exact h
  | cons input inputs ih =>
      have hbooks := (session.react_spec input).books h
      cases lines with
      | nil => exact h
      | cons line lines =>
          obtain ⟨hfirst, hothers⟩ := List.forall_mem_cons.1 hcounted
          rw [after_cons]
          unfold Session.reactAll at hlines
          dsimp only at hlines
          split at hlines
          · -- Nothing is read after a reaction that ends the session.
            rw [List.zip_cons_cons, List.zip_nil_right, List.cons_prefix_cons] at hlines
            obtain ⟨rfl, hrest⟩ := hlines
            obtain rfl := List.prefix_nil.1 hrest
            exact hbooks hfirst
          · rw [List.zip_cons_cons, List.cons_prefix_cons] at hlines
            obtain ⟨rfl, hrest⟩ := hlines
            exact ih (hbooks hfirst) hrest hothers

/-- All arenas of the session are released. -/
theorem Books.close (h : session.Books ledger) (ending : Option Ending) :
    Call.Honest (session.close ending).host.calls
      ∧ ((session.close ending).host.outstanding = []
        ↔ ∀ entry ∈ session.arenas, entry.2.readyPools < 0x80000000) := by
  have hout := h.holdings
  rw [← List.append_nil (List.flatMap _ _)] at hout
  have hbegins : (Closing.begin ending session.host).breaks < 2 := by
    unfold Closing.begin
    dsimp only
    split <;> decide
  obtain ⟨hhonest, hnothing⟩ := Closing.releaseAll_holdings h.housed h.honest hout
    fun _ => hbegins
  exact ⟨hhonest, hnothing.trans (and_iff_right rfl)⟩

end Session

end PooledArena.Shell
