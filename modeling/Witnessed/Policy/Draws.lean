/-!
Shuffling, with the random numbers as a parameter: what the shuffle does depends on nothing
else.
-/

namespace Witnessed

/-- A source of numbers: `below n s` is a number from 0 to `n`, and the state after it. -/
structure Source (σ : Type) where
  below : (n : Nat) → σ → Fin (n + 1) × σ

/-- Exchanges each position, from the last to the second, with a position up to it. -/
def shuffleFrom {α σ : Type} (source : Source σ) : (last : Nat) → Array α → σ → Array α × σ
  | 0, xs, s => (xs, s)
  | last + 1, xs, s =>
      let (j, s) := source.below (last + 1) s
      shuffleFrom source last (xs.swapIfInBounds (last + 1) j) s

def shuffle {α σ : Type} (source : Source σ) (xs : List α) (s : σ) : List α × σ :=
  let (ys, s) := shuffleFrom source (xs.length - 1) xs.toArray s
  (ys.toList, s)

/-- Words of 32 bits: first those of a list, then those of a mixing generator with 64 bits of
state. -/
structure Words where
  given : List UInt32
  state : UInt64

namespace Words

/-- The next word of the mixing generator: the upper half of a scrambled counter. -/
def mix (state : UInt64) : UInt32 :=
  let z := (state ^^^ (state >>> 30)) * 0xbf58476d1ce4e5b9
  let z := (z ^^^ (z >>> 27)) * 0x94d049bb133111eb
  ((z ^^^ (z >>> 31)) >>> 32).toUInt32

def next (words : Words) : UInt32 × Words :=
  match words.given with
  | word :: rest => (word, { words with given := rest })
  | [] =>
      let state := words.state + 0x9e3779b97f4a7c15
      (mix state, ⟨[], state⟩)

/-- The largest lower half of a product with `range` at which a word is taken: the multiples of
`range` up to there are spread evenly. -/
def zone (range : Nat) : Nat :=
  range <<< (31 - range.log2) - 1

/-- Draws words until one is taken. At least every second word is, so the fuel does not run out
but for a source made to that end; then the last word counts. -/
def take (range : Nat) : (fuel : Nat) → Words → Nat × Words
  | 0, words =>
      let (word, words) := words.next
      (word.toNat * range / 2 ^ 32, words)
  | fuel + 1, words =>
      let (word, later) := words.next
      let product := word.toNat * range
      if product % 2 ^ 32 ≤ zone range then (product / 2 ^ 32, later) else take range fuel later

/-- Evenly spread numbers, by multiplying words with the size of the range. -/
def source : Source Words where
  below := fun n words =>
    let (k, words) := take (n + 1) (words.given.length + 256) words
    (Fin.ofNat (n + 1) k, words)

end Words

end Witnessed
