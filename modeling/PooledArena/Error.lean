import PooledArena.Text.Hex

/-!
# `PooledArena.Error`: why an operation on an arena fails

One constructor for each cause, with the numbers that explain it. The module
also holds the three texts of an error: the sentence for people (`message`), the
one-line term (`term`) and the same term spread over lines (`termLines`).
-/

set_option autoImplicit false

namespace PooledArena

/-- The cause of a failure. -/
inductive Error where
  /-- A block of no bytes was asked for. -/
  | allocZeroSize
  /-- The padded request is larger than a pool, so no pool can hold it. -/
  | requestTooLarge (size poolSize : Word)
  /-- The alignment is no power of two, or above that of the pool buffers. -/
  | invalidAlign (align : Word)
  /-- Every pool is used up. -/
  | capacityExhausted
  /-- The block fell in a pool that no earlier block had asked for. -/
  | poolAbsent (index : Nat)
  /-- A buffer was brought although no pool was waiting for one. -/
  | doubleInjection
  /-- The backing allocator had no memory to give. -/
  | allocatorError
  /-- An arena of no pools was asked for. -/
  | invalidPoolCount
  /-- The pools together do not fit in half the address space. -/
  | poolSizeOverflow
  deriving DecidableEq

namespace Error

/-- The name of the cause. -/
def kind : Error → String
  | allocZeroSize => "AllocZeroSize"
  | requestTooLarge _ _ => "RequestTooLarge"
  | invalidAlign _ => "InvalidAlign"
  | capacityExhausted => "CapacityExhausted"
  | poolAbsent _ => "PoolAbsent"
  | doubleInjection => "DoubleInjection"
  | allocatorError => "AllocatorError"
  | invalidPoolCount => "InvalidPoolCount"
  | poolSizeOverflow => "PoolSizeOverflow"

/-- The numbers that explain the cause, each with its name. -/
def details : Error → List (String × Nat)
  | requestTooLarge size poolSize => [("size", size.toNat), ("pool_size", poolSize.toNat)]
  | invalidAlign align => [("align", align.toNat)]
  | poolAbsent index => [("index", index)]
  | _ => []

/-- The sentence that tells a person what went wrong. -/
def message : Error → String
  | allocZeroSize => "attempted to allocate a zero-sized block"
  | requestTooLarge size poolSize =>
    "a request of " ++ Text.hex size.toNat ++ " bytes does not fit in a pool of "
      ++ Text.hex poolSize.toNat ++ " bytes"
  | invalidAlign align => "unsupported alignment " ++ Text.hex align.toNat
  | capacityExhausted => "capacity exhausted"
  | poolAbsent index => "pool " ++ toString index ++ " was never requested"
  | doubleInjection => "double injection"
  | allocatorError => "the allocator returned an error"
  | invalidPoolCount => "the pool count must be non-zero"
  | poolSizeOverflow => "the requested pool size would overflow the address space"

/-- The error as a one-line term: its kind, then its numbers in braces, if any. -/
def term (e : Error) : String :=
  match e.details with
  | [] => e.kind
  | fields =>
    e.kind ++ " \x7b "
      ++ ", ".intercalate (fields.map fun (name, value) => name ++ ": " ++ toString value)
      ++ " \x7d"

/-- The term with a line for each number. Every number ends in a comma. -/
def termLines (e : Error) : String :=
  match e.details with
  | [] => e.kind
  | fields =>
    e.kind ++ " \x7b\n"
      ++ String.join (fields.map fun (name, value) =>
        "    " ++ name ++ ": " ++ toString value ++ ",\n")
      ++ "\x7d"

end Error

end PooledArena
