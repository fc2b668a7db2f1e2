import PooledArena.Word

/-!
# `PooledArena.Text.Hex`: numbers and bytes in base sixteen

Sizes and addresses are written with the marker `0x` and no leading zeros, so
zero is `0x0`. Bytes of memory are written as two digits each, without a marker.
All digits are lower case.
-/

set_option autoImplicit false

namespace PooledArena.Text

/-- The digits of `n` in base sixteen, behind the marker. -/
def hex (n : Nat) : String :=
  "0x" ++ String.ofList (Nat.toDigits 16 n)

/-- Two digits for each byte, the high half first. -/
def hexBytes (bytes : List UInt8) : String :=
  String.ofList (bytes.flatMap fun byte =>
    [Nat.digitChar (byte.toNat / 16), Nat.digitChar (byte.toNat % 16)])

end PooledArena.Text
