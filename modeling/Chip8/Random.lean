/-!
# Random bytes

A seed fixes an endless stream of bytes. It is expanded into a key of eight words, the key and a
block number are scrambled by twelve rounds of ChaCha, and each word of the blocks gives one byte.
A source remembers how many bytes were drawn, and only drawing moves it.
-/

namespace Chip8

/-! ## ChaCha blocks -/

namespace ChaCha

/-- The sixteen words that are scrambled together. -/
abbrev Block := Vector UInt32 16

def rotateLeft (word : UInt32) (amount : UInt32) : UInt32 :=
  (word <<< amount) ||| (word >>> (32 - amount))

/-- Add one word to another, mix the sum into a third one and rotate that. -/
def mix (block : Block) (target addend mixed : Fin 16) (amount : UInt32) : Block :=
  let sum := block[target] + block[addend]
  (block.set target sum).set mixed (rotateLeft (block[mixed] ^^^ sum) amount)

def quarter (block : Block) (a b c d : Fin 16) : Block :=
  let block := mix block a b d 16
  let block := mix block c d b 12
  let block := mix block a b d 8
  mix block c d b 7

/-- The word in a row and a column of the four by four square of words. Columns are counted
around the square. -/
def cell (row column : Nat) : Fin 16 := ⟨(4 * row + column % 4) % 16, by omega⟩

/-- One round: the quarter round on four lines through the square, each of which moves by `shift`
columns from row to row. -/
def round (block : Block) (shift : Nat) : Block :=
  (List.range 4).foldl
    (fun block column =>
      quarter block (cell 0 column) (cell 1 (column + shift)) (cell 2 (column + 2 * shift))
        (cell 3 (column + 3 * shift)))
    block

/-- Two rounds: one on the columns, one on the diagonals. -/
def doubleRound (block : Block) : Block := round (round block 0) 1

/-- A number of double rounds. -/
def scramble : Nat → Block → Block
  | 0, block => block
  | rounds + 1, block => scramble rounds (doubleRound block)

/-- The words before scrambling: four constants, the key, and the number of the block. -/
def input (key : Vector UInt32 8) (number : UInt64) : Block :=
  #v[0x61707865, 0x3320646e, 0x79622d32, 0x6b206574,
    key[0], key[1], key[2], key[3], key[4], key[5], key[6], key[7],
    number.toUInt32, (number >>> 32).toUInt32, 0, 0]

/-- The block of a number under a key, after twelve rounds. -/
def output (key : Vector UInt32 8) (number : UInt64) : Block :=
  Vector.zipWith (· + ·) (scramble 6 (input key number)) (input key number)

end ChaCha

/-! ## Seeds -/

namespace Seed

/-- One step of the linear congruence that spreads a seed. -/
def advance (state : UInt64) : UInt64 := state * 6364136223846793005 + 11634580027462260723

/-- The word that a state gives: its scrambled upper half, rotated by its five topmost bits. -/
def word (state : UInt64) : UInt32 :=
  let folded := (((state >>> 18) ^^^ state) >>> 27).toUInt32
  let amount := (state >>> 59).toUInt32
  (folded >>> amount) ||| (folded <<< ((32 - amount) % 32))

/-- The state after a number of steps. -/
def after : Nat → UInt64 → UInt64
  | 0, seed => seed
  | steps + 1, seed => after steps (advance seed)

/-- The key that a seed is expanded to. -/
def key (seed : UInt64) : Vector UInt32 8 :=
  Vector.ofFn fun position => word (after (position + 1) seed)

end Seed

/-! ## Sources -/

/-- A stream of random bytes, which a key fixes, and the position in it. -/
structure RandomSource where
  key : Vector UInt32 8
  /-- The number of bytes drawn so far. -/
  drawn : Nat
  deriving DecidableEq

namespace RandomSource

/-- The beginning of the stream of a seed. -/
def ofSeed (seed : UInt64) : RandomSource := ⟨Seed.key seed, 0⟩

/-- The byte at a position of the stream under a key. -/
def byteAt (key : Vector UInt32 8) (position : Nat) : UInt8 :=
  (ChaCha.output key (UInt64.ofNat (position / 16)))[position % 16].toUInt8

def peek (source : RandomSource) : UInt8 := byteAt source.key source.drawn

/-- The source behind the next byte. -/
def skip (source : RandomSource) : RandomSource := { source with drawn := source.drawn + 1 }

end RandomSource
end Chip8
