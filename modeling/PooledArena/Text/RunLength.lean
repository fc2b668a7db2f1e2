/-!
# `PooledArena.Text.RunLength`: long rows of equal things, counted

A list is cut into runs of equal elements, as long as they get. Written out, each
run is the letter of its element and the length of the run, as in `R2P1A9`.
`expand_runs` says that the runs tell the whole list.
-/

set_option autoImplicit false

namespace PooledArena.Text

variable {α : Type} [DecidableEq α]

/-- The runs of equal elements, with their lengths. -/
def runs : List α → List (α × Nat)
  | [] => []
  | x :: xs =>
    match runs xs with
    | [] => [(x, 1)]
    | (y, n) :: later => if x = y then (y, n + 1) :: later else (x, 1) :: (y, n) :: later

/-- The list that has these runs. -/
def expand (counted : List (α × Nat)) : List α :=
  counted.flatMap fun (x, n) => List.replicate n x

theorem expand_runs (xs : List α) : expand (runs xs) = xs := by
  induction xs with
  | nil => rfl
  | cons x xs ih =>
    rw [runs]
    split
    · next h =>
      rw [h] at ih
      simpa [expand] using ih
    · next y n later h =>
      rw [h] at ih
      split
      · next hxy =>
        subst hxy
        simpa [expand, List.replicate_succ] using ih
      · simpa [expand] using ih

/-- The runs as a text, with a letter for each element. -/
def runLength (letter : α → Char) (xs : List α) : String :=
  String.join ((runs xs).map fun (x, n) => (letter x).toString ++ toString n)

end PooledArena.Text
