/-
Module: DagScheduling.Random.Xoshiro
Purpose: The xoshiro256++ generator and its seeding from one word.
Main exports: Xoshiro, Xoshiro.next, Xoshiro.ofSeed
-/
import DagScheduling.Random.WordSource

namespace DagScheduling

/-- State of a xoshiro256++ generator. -/
structure Xoshiro where
  s0 : UInt64
  s1 : UInt64
  s2 : UInt64
  s3 : UInt64
deriving Repr, DecidableEq

/-- Rotate a word left by fewer than 64 places, and at least one. -/
def rotateLeft64 (word : UInt64) (places : UInt64) : UInt64 :=
  word <<< places ||| word >>> (64 - places)

/-- Rotate a word right by fewer than 32 places. -/
def rotateRight32 (word : UInt32) (places : UInt32) : UInt32 :=
  word >>> places ||| word <<< ((32 - places) % 32)

namespace Xoshiro

/-- The next word and the state after it. -/
def next (state : Xoshiro) : UInt64 × Xoshiro :=
  let word := rotateLeft64 (state.s0 + state.s3) 23 + state.s0
  let shifted := state.s1 <<< 17
  let s2 := state.s2 ^^^ state.s0
  let s3 := state.s3 ^^^ state.s1
  let s1 := state.s1 ^^^ s2
  let s0 := state.s0 ^^^ s3
  (word, { s0 := s0, s1 := s1, s2 := s2 ^^^ shifted, s3 := rotateLeft64 s3 45 })

/-- One step of the congruential generator that spreads a seed: the new state
and the 32 bits it puts out. -/
def spread (state : UInt64) : UInt64 × UInt32 :=
  let state := state * 6364136223846793005 + 11634580027462260723
  let mixed := (((state >>> 18) ^^^ state) >>> 27).toUInt32
  (state, rotateRight32 mixed (state >>> 59).toUInt32)

/-- Two steps of spreading: the new state and a word, its low half first. -/
def spreadWord (state : UInt64) : UInt64 × UInt64 :=
  let (state, low) := spread state
  let (state, high) := spread state
  (state, high.toUInt64 <<< 32 ||| low.toUInt64)

/-- The generator that a one-word seed stands for. -/
def ofSeed (seed : UInt64) : Xoshiro :=
  let (state, s0) := spreadWord seed
  let (state, s1) := spreadWord state
  let (state, s2) := spreadWord state
  let (_, s3) := spreadWord state
  { s0 := s0, s1 := s1, s2 := s2, s3 := s3 }

instance : SeedableSource Xoshiro where
  next := next
  ofSeed := ofSeed

end Xoshiro

end DagScheduling
