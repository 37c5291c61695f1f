/-
Module: DagScheduling.Random.WordSource
Purpose: Sources of 64-bit words and the shares drawn from them.
Main exports: WordSource, SeedableSource, WordSource.share, Script
-/

namespace DagScheduling

/-- A source of random words: each request gives a word and the source that the
next request goes to. -/
class WordSource (σ : Type) where
  next : σ → UInt64 × σ

/-- A source of words that one word, its seed, can start anew. -/
class SeedableSource (σ : Type) extends WordSource σ where
  ofSeed : UInt64 → σ

/-- Draw a share in [0, 1): the upper 53 bits of one word, as a multiple of `2 ^ -53`. -/
def WordSource.share {σ : Type} [WordSource σ] (source : σ) : Float × σ :=
  let (word, later) := WordSource.next source
  ((word >>> 11).toFloat / 9007199254740992.0, later)

/-- A fixed list of words, read in a circle. -/
structure Script where
  words : List UInt64
  position : Nat := 0
deriving Repr, DecidableEq

/-- The word at the present position, then one position on. -/
def Script.next (script : Script) : UInt64 × Script :=
  (script.words.getD (script.position % script.words.length) 0,
    { script with position := script.position + 1 })

instance : WordSource Script where
  next := Script.next

end DagScheduling
