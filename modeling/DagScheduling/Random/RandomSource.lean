/-
Module: DagScheduling.Random.RandomSource
Purpose: A generator or a script, whichever the caller chose.
Main exports: RandomSource
-/
import DagScheduling.Random.Xoshiro

namespace DagScheduling

/-- A source of words whose kind is chosen when the program runs. -/
inductive RandomSource where
  | generator (state : Xoshiro)
  | script (state : Script)
deriving Repr, DecidableEq

/-- The next word of either kind. -/
def RandomSource.next : RandomSource → UInt64 × RandomSource
  | .generator state =>
      let (word, later) := state.next
      (word, .generator later)
  | .script state =>
      let (word, later) := state.next
      (word, .script later)

instance : WordSource RandomSource where
  next := RandomSource.next

end DagScheduling
