/-!
# `PooledArena.Text.Invisible`: characters that do not show by themselves

A character does not show where it is a control or formatting character, a blank
other than the plain space, reserved for private use, or a mark that joins the
character before it. The joining marks listed are those of the general blocks;
marks of single scripts count as visible, since they show with their letters.

`isInvisible_of_isWhitespace` checks the table against the blanks that every
program knows: all of them are in it, the plain space apart.
-/

set_option autoImplicit false

namespace PooledArena.Text

/-- Control characters. -/
def controls : List (Nat × Nat) :=
  [(0x0, 0x1f), (0x7f, 0x9f)]

/-- Blanks and line ends, without the plain space. -/
def blanks : List (Nat × Nat) :=
  [(0xa0, 0xa0), (0x1680, 0x1680), (0x2000, 0x200a), (0x2028, 0x2029), (0x202f, 0x202f),
    (0x205f, 0x205f), (0x3000, 0x3000)]

/-- Characters that direct how others are laid out. -/
def formatters : List (Nat × Nat) :=
  [(0xad, 0xad), (0x600, 0x605), (0x61c, 0x61c), (0x6dd, 0x6dd), (0x70f, 0x70f),
    (0x890, 0x891), (0x8e2, 0x8e2), (0x180e, 0x180e), (0x200b, 0x200f), (0x202a, 0x202e),
    (0x2060, 0x2064), (0x2066, 0x206f), (0xfeff, 0xfeff), (0xfff9, 0xfffb),
    (0x110bd, 0x110bd), (0x110cd, 0x110cd), (0x13430, 0x13438), (0x1bca0, 0x1bca3),
    (0x1d173, 0x1d17a), (0xe0001, 0xe0001), (0xe0020, 0xe007f)]

/-- Marks that join the character before them, and variation selectors. -/
def joiners : List (Nat × Nat) :=
  [(0x300, 0x36f), (0x483, 0x489), (0x1ab0, 0x1ace), (0x1dc0, 0x1dff), (0x20d0, 0x20f0),
    (0x302a, 0x302f), (0x3099, 0x309a), (0xfe00, 0xfe0f), (0xfe20, 0xfe2f),
    (0xe0100, 0xe01ef)]

/-- Characters without a public meaning. -/
def privateUse : List (Nat × Nat) :=
  [(0xe000, 0xf8ff), (0xf0000, 0xffffd), (0x100000, 0x10fffd)]

/-- Whether the character is in one of the tables. -/
def isInvisible (c : Char) : Bool :=
  (controls ++ blanks ++ formatters ++ joiners ++ privateUse).any fun (first, last) =>
    first ≤ c.toNat && c.toNat ≤ last

theorem isInvisible_of_isWhitespace {c : Char} (h : c.isWhitespace) (hspace : c ≠ ' ') :
    isInvisible c := by
  simp only [Char.isWhitespace, Bool.or_eq_true, decide_eq_true_eq] at h
  rcases h with ((h | h) | h) | h
  · exact absurd h hspace
  all_goals
    subst h
    decide

end PooledArena.Text
