import PooledArena.Text.Hex

/-!
# `PooledArena.Notice`: what an arena tells the log

An arena reports the events of its life under its label. A notice keeps what
happened as data; `Notice.level` and `Notice.text` say how the log writes it.
-/

set_option autoImplicit false

namespace PooledArena

/-- An event in the life of an arena that is worth a line in the log. -/
inductive Event where
  /-- The arena is complete, with its first pool. -/
  | created (poolCount poolSize : Word)
  /-- Pool `index` got its buffer. -/
  | injected (index : Nat) (buffer : Addr)
  /-- There was no memory for a buffer. -/
  | bufferRefused
  /-- A buffer came that no pool was waiting for. -/
  | doubleInjection
  /-- The arena is gone, and with it the buffers of `pools` pools. The count is a signed number
  of 32 bits. -/
  | released (pools : Int32)
  deriving DecidableEq

/-- An event, under the label of the arena it happened to. -/
structure Notice where
  label : String
  event : Event
  deriving DecidableEq

namespace Event

/-- How serious the event is. -/
def level : Event → String
  | created _ _ => "INFO"
  | injected _ _ => "DEBUG"
  | bufferRefused => "WARN"
  | doubleInjection => "WARN"
  | released _ => "DEBUG"

/-- What happened, in words. -/
def text : Event → String
  | created poolCount poolSize =>
    "created with " ++ toString poolCount.toNat ++ " pools of " ++ Text.hex poolSize.toNat
      ++ " bytes"
  | injected index buffer => "injected pool " ++ toString index ++ " at " ++ Text.hex buffer
  | bufferRefused => "could not allocate a pool buffer"
  | doubleInjection => "double injection"
  | released pools => "released " ++ toString pools ++ " pools"

end Event

namespace Notice

/-- How serious the notice is. -/
def level (notice : Notice) : String :=
  notice.event.level

/-- The line in the log. -/
def text (notice : Notice) : String :=
  notice.label ++ ": " ++ notice.event.text

end Notice

end PooledArena
