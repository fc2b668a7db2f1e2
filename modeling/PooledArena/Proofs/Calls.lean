import PooledArena.Host
import Mathlib.Data.List.Perm.Basic

/-!
# `PooledArena.Proofs.Calls`: what can be read off the calls to a backing

Calls to a backing are listed newest first, and the loans that are outstanding are
found by going through them. Two rules for such a list matter here:

* `Call.Honest`: a loan is given back only while it is outstanding. Then loans that
  began are either given back, once each, or outstanding (`Honest.granted_perm`).
* `Call.AtOnce`: what is given back was granted by the very call before. That is
  how an arena calls its backing while it lives.

`Honest.returnAll` follows the loans that are given back one after the other.
-/

set_option autoImplicit false

namespace PooledArena

namespace Call

/-- Nothing is given back that is not outstanding. -/
def Honest : List Call → Prop
  | [] => True
  | .granted _ :: calls => Honest calls
  | .refused _ :: calls => Honest calls
  | .freed loan :: calls => loan ∈ outstanding calls ∧ Honest calls

/-- Only what the call before granted is given back. -/
inductive AtOnce : List Call → Prop
  | nil : AtOnce []
  | granted (loan : Loan) {calls : List Call} (h : AtOnce calls) : AtOnce (.granted loan :: calls)
  | refused (layout : Layout) {calls : List Call} (h : AtOnce calls) :
      AtOnce (.refused layout :: calls)
  | returned (loan : Loan) {calls : List Call} (h : AtOnce calls) :
      AtOnce (.freed loan :: .granted loan :: calls)

/-- Honest calls leave alone what was outstanding before them. -/
theorem Honest.outstanding_append {calls : List Call} (h : Honest calls) (older : List Call) :
    outstanding (calls ++ older) = outstanding calls ++ outstanding older := by
  induction calls with
  | nil => rfl
  | cons call calls ih =>
      cases call with
      | granted loan => exact congrArg (loan :: ·) (ih h)
      | refused layout => exact ih h
      | freed loan =>
          obtain ⟨hmem, hcalls⟩ := h
          show (outstanding (calls ++ older)).erase loan = (outstanding calls).erase loan ++ _
          -- The loan is found among the newer ones, so the older ones are left alone.
          rw [ih hcalls, List.erase_append_left _ hmem]

/-- Every loan that began was given back, or is outstanding. -/
theorem Honest.granted_perm {calls : List Call} (h : Honest calls) :
    (calls.filterMap granted?).Perm (calls.filterMap freed? ++ outstanding calls) := by
  induction calls with
  | nil => exact List.Perm.refl _
  | cons call calls ih =>
      cases call with
      | granted loan => exact ((ih h).cons loan).trans List.perm_middle.symm
      | refused layout => exact ih h
      | freed loan =>
          obtain ⟨hmem, hcalls⟩ := h
          -- One loan moves from those outstanding to those given back.
          have hout : (outstanding calls).Perm (loan :: (outstanding calls).erase loan) :=
            List.perm_cons_erase hmem
          show (calls.filterMap granted?).Perm
            (loan :: (calls.filterMap freed? ++ (outstanding calls).erase loan))
          exact (ih hcalls).trans ((hout.append_left _).trans List.perm_middle)

theorem AtOnce.append {calls older : List Call} (h : AtOnce calls) (holder : AtOnce older) :
    AtOnce (calls ++ older) := by
  induction h with
  | nil => exact holder
  | granted loan h ih => exact ih.granted loan
  | refused layout h ih => exact ih.refused layout
  | returned loan h ih => exact ih.returned loan

/-- What is given back at once is outstanding, whatever was called before. -/
theorem AtOnce.honest_append {calls older : List Call} (h : AtOnce calls) (holder : Honest older) :
    Honest (calls ++ older) := by
  induction h with
  | nil => exact holder
  | granted loan h ih => exact ih
  | refused layout h ih => exact ih
  | returned loan h ih => exact ⟨List.mem_cons_self, ih⟩

theorem AtOnce.honest {calls : List Call} (h : AtOnce calls) : Honest calls := by
  have happend : Honest (calls ++ []) := h.honest_append trivial
  rw [List.append_nil] at happend
  exact happend

/-- Outstanding loans are given back one after the other. The list of those that
are left may change its order, where a backing lends an address twice. -/
theorem Honest.returnAll {loans rest : List Loan} {calls : List Call} (h : Honest calls)
    (hout : (outstanding calls).Perm (loans ++ rest)) :
    Honest ((loans.map .freed).reverse ++ calls)
      ∧ (outstanding ((loans.map .freed).reverse ++ calls)).Perm rest := by
  induction loans generalizing calls with
  | nil => exact ⟨h, hout⟩
  | cons loan loans ih =>
      have hmem : loan ∈ outstanding calls := hout.symm.subset List.mem_cons_self
      have hless : (outstanding (.freed loan :: calls)).Perm (loans ++ rest) := by
        have herase := hout.erase loan
        rw [List.cons_append, List.erase_cons_head] at herase
        exact herase
      have hhonest : Honest (.freed loan :: calls) := ⟨hmem, h⟩
      have hrest := ih hhonest hless
      rw [List.map_cons, List.reverse_cons, List.append_assoc]
      exact hrest

end Call

namespace Host

variable {β : Type} [Backing β]

/-- Give several loans back, in order. -/
def freeAll (host : Host β) (loans : List Loan) : Host β :=
  loans.foldl free host

theorem calls_freeAll (host : Host β) (loans : List Loan) :
    (host.freeAll loans).calls = (loans.map .freed).reverse ++ host.calls := by
  induction loans generalizing host with
  | nil => rfl
  | cons loan loans ih =>
      show ((host.free loan).freeAll loans).calls = _
      rw [ih, List.map_cons, List.reverse_cons, List.append_assoc]
      rfl

theorem log_freeAll (host : Host β) (loans : List Loan) :
    (host.freeAll loans).log = host.log := by
  induction loans generalizing host with
  | nil => rfl
  | cons loan loans ih => exact ih (host.free loan)

end Host

end PooledArena
