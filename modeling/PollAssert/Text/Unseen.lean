import PollAssert.Text.Combining
import PollAssert.Text.Pictureless

/-!
# Characters that are not shown as themselves

Quoted text spells out every character that a reader could not tell from nothing or from another
one. There are three kinds:

* characters **without a picture**: the general categories C and Z, but not the plain space;
* **combining marks**, which would join the quote in front of them;
* **fillers**, letters of the Korean script that hold a place and are drawn as nothing.

The tables are ascending ranges of code points, so a search ends at the first range above the one
that is looked for.
-/

namespace PollAssert

/-! ### Looking up a range -/

/-- Does one of the ascending ranges hold the code point? -/
def inRanges : List (Nat × Nat) → Nat → Bool
  | [], _ => false
  | (first, last) :: ranges, n => first ≤ n && (n ≤ last || inRanges ranges n)

/-! ### The three kinds -/

/-- The letters that are drawn as nothing: the two fillers of the syllable parts, the filler of the
compatibility letters, and that one at half width. -/
def fillers : List Nat := [0x115F, 0x1160, 0x3164, 0xFFA0]

/-- Is the character written by its number rather than as itself? -/
def isUnseen (c : Char) : Bool :=
  inRanges picturelessRanges c.toNat || inRanges combiningRanges c.toNat ||
    fillers.contains c.toNat

end PollAssert
