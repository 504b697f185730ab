/-! # A stream of random words

The 32-bit words that a seed determines: ChaCha with twelve rounds under a key that is spread from the
seed. The word at a position is a function of the seed and the position alone, so whoever draws words
only has to remember how many were drawn.
-/

namespace HoldoutLine.WordStream

abbrev Key := Vector UInt32 8

/-- The sixteen words that the cipher works on, and gives out, at a time. -/
abbrev Block := Vector UInt32 16

def rotateLeft (word count : UInt32) : UInt32 := word <<< count ||| word >>> (32 - count)

/-- Rotate the bits of a word to the right by 0 to 31 places; shift amounts count modulo 32. -/
def rotateRight (word count : UInt32) : UInt32 := word >>> count ||| word <<< (32 - count)

/-- The generator state that follows a state while a seed is spread. -/
def nextSpread (state : UInt64) : UInt64 := state * 6364136223846793005 + 11634580027462260723

def spreadWord (state : UInt64) : UInt32 :=
  rotateRight (((state >>> 18) ^^^ state) >>> 27).toUInt32 (state >>> 59).toUInt32

def spreadState (seed : UInt64) : Nat → UInt64
  | 0 => seed
  | count + 1 => nextSpread (spreadState seed count)

def key (seed : UInt64) : Key := Vector.ofFn fun i => spreadWord (spreadState seed (i.val + 1))

/-- Stir four words of a block. -/
def quarterRound (block : Block) (i j k l : Fin 16) : Block :=
  let a := block[i] + block[j]
  let d := rotateLeft (block[l] ^^^ a) 16
  let c := block[k] + d
  let b := rotateLeft (block[j] ^^^ c) 12
  let a := a + b
  let d := rotateLeft (d ^^^ a) 8
  let c := c + d
  let b := rotateLeft (b ^^^ c) 7
  (((block.set i a).set j b).set k c).set l d

def doubleRound (block : Block) : Block :=
  let block := quarterRound block 0 4 8 12
  let block := quarterRound block 1 5 9 13
  let block := quarterRound block 2 6 10 14
  let block := quarterRound block 3 7 11 15
  let block := quarterRound block 0 5 10 15
  let block := quarterRound block 1 6 11 12
  let block := quarterRound block 2 7 8 13
  quarterRound block 3 4 9 14

/-- The block before it is stirred: four constant words, the key, the number of the block in two words,
low word first, and two words of zero. -/
def unstirred (key : Key) (number : Nat) : Block :=
  #v[0x61707865, 0x3320646E, 0x79622D32, 0x6B206574,
    key[0], key[1], key[2], key[3], key[4], key[5], key[6], key[7],
    UInt32.ofNat number, UInt32.ofNat (number >>> 32), 0, 0]

/-- The block of a number: twelve rounds, and the unstirred block added. -/
def block (key : Key) (number : Nat) : Block :=
  let start := unstirred key number
  (Nat.repeat doubleRound 6 start).zipWith (· + ·) start

def word (key : Key) (position : Nat) : UInt32 :=
  (block key (position / 16)).get ⟨position % 16, Nat.mod_lt _ (by decide)⟩

end HoldoutLine.WordStream
