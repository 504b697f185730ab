import HoldoutLine.Random.WordStream

/-! # Shuffling

The order in which a seed puts the rows `0, 1, …, n - 1`. Each position in turn changes places with one
of the positions up to itself, drawn from a stream of words. One word serves several positions: the
product of the next few bounds is drawn at once and then taken apart by division.
-/

namespace HoldoutLine.Shuffle

def wordRange : Nat := 1 <<< 32

/-- Grow a product of consecutive bounds, the next one being `next`, while it fits into a word. -/
def growProduct (product next : Nat) : Nat × Nat :=
  if 0 < product ∧ 1 < next ∧ product * next < wordRange then growProduct (product * next) (next + 1)
  else (product, next)
termination_by wordRange - product
decreasing_by
  rename_i grows
  have : product * 1 < product * next := Nat.mul_lt_mul_of_pos_left grows.2.1 grows.1
  omega

/-- A draw in progress: the words used, the part of the last draw not yet handed out, and how many
positions it still serves. -/
structure Drawer where
  position : Nat
  reserve : Nat
  left : Nat
  deriving DecidableEq, Repr

namespace Drawer

/-- Before any draw: the first position has only itself to go to. -/
def initial : Drawer := ⟨0, 0, 1⟩

/-- A value below `bound` from one word, or from two where one is not enough to be fair; with the number
of words used. -/
def below (words : Nat → UInt32) (position bound : Nat) : Nat × Nat :=
  let scaled := (words position).toNat * bound
  let value := scaled / wordRange
  let rest := scaled % wordRange
  if wordRange - bound < rest then
    let carry := rest + (words (position + 1)).toNat * bound / wordRange
    (if wordRange ≤ carry then value + 1 else value, 2)
  else (value, 1)

/-- Make sure that a position with `bound` choices can be served. -/
def refill (words : Nat → UInt32) (drawer : Drawer) (bound : Nat) : Drawer :=
  if drawer.left = 0 then
    let (product, next) := growProduct bound (bound + 1)
    let (value, used) := below words drawer.position product
    ⟨drawer.position + used, value, next - bound⟩
  else drawer

/-- One of `bound` choices; the last position that a draw serves takes all that is left of it. -/
def draw (words : Nat → UInt32) (drawer : Drawer) (bound : Nat) : Nat × Drawer :=
  let drawer := drawer.refill words bound
  let left := drawer.left - 1
  if left = 0 then (drawer.reserve, { drawer with left })
  else (drawer.reserve % bound, { drawer with reserve := drawer.reserve / bound, left })

end Drawer

/-- Let position `i` change places with a drawn position up to `i`. -/
def swapInto (words : Nat → UInt32) (state : Array Nat × Drawer) (i : Nat) : Array Nat × Drawer :=
  let (j, drawer) := state.2.draw words (i + 1)
  (state.1.swapIfInBounds i j, drawer)

/-- The rows `0, 1, …, count - 1` in the order that a stream of words gives. -/
def order (words : Nat → UInt32) (count : Nat) : List Nat :=
  ((List.range count).foldl (swapInto words) (Array.range count, Drawer.initial)).1.toList

def seededOrder (seed : UInt64) (count : Nat) : List Nat :=
  let key := WordStream.key seed
  order (WordStream.word key) count

end HoldoutLine.Shuffle
