import Vivarium.Random.Source

/-!
# The Mersenne twister

The generator MT19937 with 624 words of state: seeded from the words of an integer, twisted whenever
all words are used up, and tempered on the way out. A `Generator` may in addition hold a script of
unit numbers that are handed out first and leave the twister alone.
-/

namespace Vivarium

/-- The state of the twister. -/
structure Twister where
  /-- The words of the current round. -/
  words : Vector UInt32 624
  /-- The number of words already handed out. -/
  used : Nat

namespace Twister

/-- The bits that a word passes on when a state is filled or stirred. -/
def mixed (word : UInt32) : UInt32 :=
  word ^^^ (word >>> 30)

/-- The state filled from one word. -/
def fill (word : UInt32) : Vector UInt32 624 :=
  Nat.fold 623
    (fun i _ words => words.set (i + 1) (1812433253 * mixed words[i] + UInt32.ofNat (i + 1)))
    ((Vector.replicate 624 0).set 0 word)

/-- Replace the word after position `i` by a function of it and of the word at `i`. The last word
is also written to the front, where the next replacement reads it. The next position is returned
along with the words. -/
def stirAt (replace : UInt32 → UInt32 → UInt32) (words : Vector UInt32 624) (i : Fin 623) :
    Vector UInt32 624 × Fin 623 :=
  let words := words.set (i.val + 1) (replace words[i.val] words[i.val + 1])
  if h : i.val + 1 < 623 then (words, ⟨i.val + 1, h⟩)
  else (words.set 0 words[623], 0)

/-- Stir the words of a nonempty key into the state, as many as `count` replacements take, the key
repeated as often as needed. -/
def stirKey (key : Array UInt32) :
    (count : Nat) → (j : Nat) → Vector UInt32 624 × Fin 623 → Vector UInt32 624 × Fin 623
  | 0, _, state => state
  | count + 1, j, (words, i) =>
    let replace previous word :=
      (word ^^^ (mixed previous * 1664525)) + key.getD j 0 + UInt32.ofNat j
    stirKey key count (if j + 1 < key.size then j + 1 else 0) (stirAt replace words i)

/-- Stir the positions into the state, as many as `count` replacements take. -/
def stirPositions : (count : Nat) → Vector UInt32 624 × Fin 623 → Vector UInt32 624 × Fin 623
  | 0, state => state
  | count + 1, (words, i) =>
    let replace previous word :=
      (word ^^^ (mixed previous * 1566083941)) - UInt32.ofNat (i.val + 1)
    stirPositions count (stirAt replace words i)

/-- The number of words there are, two to the power of thirty-two. -/
def wordCount : Nat := 4294967296

/-- The 32-bit words of a natural number, least significant first. -/
def wordsOf (n : Nat) : List UInt32 :=
  if n < wordCount then [UInt32.ofNat n]
  else UInt32.ofNat (n % wordCount) :: wordsOf (n / wordCount)
termination_by n
decreasing_by
  rename_i large
  exact Nat.div_lt_self (Nat.lt_of_lt_of_le (by decide) (Nat.not_lt.mp large)) (by decide)

/-- The state for a seed. The sign of the seed does not count. -/
def ofSeed (seed : Int) : Twister :=
  let key := (wordsOf seed.natAbs).toArray
  let stirred := stirKey key (max 624 key.size) 0 (fill 19650218, 0)
  let (words, _) := stirPositions 623 stirred
  ⟨words.set 0 0x80000000, 624⟩

/-- The word that one twist puts in place of `word`: the top bit of `word` and the other bits of
its successor, shifted and folded into the word 397 places ahead. -/
def twisted (word successor ahead : UInt32) : UInt32 :=
  let joined := (word &&& 0x80000000) ||| (successor &&& 0x7fffffff)
  ahead ^^^ (joined >>> 1) ^^^ (if joined &&& 1 = 1 then 0x9908b0df else 0)

/-- A fresh round of words. -/
def twist (words : Vector UInt32 624) : Vector UInt32 624 :=
  Nat.fold 624
    (fun i h words =>
      words.set i
        (twisted words[i] (words.get ⟨(i + 1) % 624, by omega⟩)
          (words.get ⟨(i + 397) % 624, by omega⟩)))
    words

/-- The word handed out for a word of the state. -/
def temper (word : UInt32) : UInt32 :=
  let word := word ^^^ (word >>> 11)
  let word := word ^^^ ((word <<< 7) &&& 0x9d2c5680)
  let word := word ^^^ ((word <<< 15) &&& 0xefc60000)
  word ^^^ (word >>> 18)

/-- The next word. -/
def word (twister : Twister) : UInt32 × Twister :=
  if h : twister.used < 624 then
    (temper twister.words[twister.used], { twister with used := twister.used + 1 })
  else
    let words := twist twister.words
    (temper words[0], ⟨words, 1⟩)

/-- A number of `count` random bits, taken word by word from the least significant on. Of the last
word the upper bits are kept. -/
def bits (count : Nat) (twister : Twister) : Nat × Twister :=
  let (word, twister) := twister.word
  if count ≤ 32 then (word.toNat >>> (32 - count), twister)
  else
    let (rest, twister) := bits (count - 32) twister
    (word.toNat + wordCount * rest, twister)
termination_by count
decreasing_by omega

/-- A number of 53 random bits, scaled to the unit interval. -/
def unit (twister : Twister) : Double × Twister :=
  let (high, twister) := twister.word
  let (low, twister) := twister.word
  let value := ((high.toNat >>> 5) <<< 26) + (low.toNat >>> 6)
  (.finite (mkRat value (1 <<< 53)), twister)

/-- The length of a number in bits. -/
def bitLength (n : Nat) : Nat :=
  if n = 0 then 0 else n.log2 + 1

/-- Draw numbers of `count` bits until one lies below the bound. Should `fuel` of them fail to,
the next is reduced to the bound, so that the draw always ends. -/
def belowWithin (bound count : Nat) : (fuel : Nat) → Twister → Nat × Twister
  | 0, twister => twister.bits count
  | fuel + 1, twister =>
    let (value, twister) := twister.bits count
    if value < bound then (value, twister) else belowWithin bound count fuel twister

/-- An index below a positive bound. At most half of the candidates are refused each time, so the
thousandth refusal in a row is out of reach. -/
def below (bound : Nat) (h : 0 < bound) (twister : Twister) : Fin bound × Twister :=
  let (value, twister) := belowWithin bound (bitLength bound) 1000 twister
  (⟨value % bound, Nat.mod_lt _ h⟩, twister)

end Twister

/-- A twister with a script of unit numbers that come first. -/
structure Generator where
  /-- The source of all indices, and of the unit numbers after the script. -/
  twister : Twister
  /-- The unit numbers still to be handed out. -/
  script : List Double := []

namespace Generator

/-- A generator for a seed. -/
def ofSeed (seed : Int) (script : List Double := []) : Generator :=
  ⟨Twister.ofSeed seed, script⟩

instance : Source Generator where
  unit generator :=
    match generator.script with
    | value :: script => (value, { generator with script })
    | [] =>
      let (value, twister) := generator.twister.unit
      (value, { generator with twister })
  below bound h generator :=
    let (value, twister) := generator.twister.below bound h
    (value, { generator with twister })

end Generator

end Vivarium
