namespace EmulatedShell

/-- A stream of random numbers between zero and one, and how many of them are used up. -/
structure RandomSource where
  values : Nat → Float
  drawn : Nat

namespace RandomSource

/-- The source that repeats the numbers of a list over and over. -/
def cycling (numbers : List Float) : RandomSource :=
  ⟨fun n => numbers.getD (n % numbers.length) 0.5, 0⟩

/-- The next number of the source. -/
def next (source : RandomSource) : Float × RandomSource :=
  (source.values source.drawn, { source with drawn := source.drawn + 1 })

/-- The next number of the source, stretched to lie between two bounds. -/
def between (low high : Float) (source : RandomSource) : Float × RandomSource :=
  (low + (high - low) * source.values source.drawn, { source with drawn := source.drawn + 1 })

/-- A number of draws between the same bounds, in the order in which they are made. -/
def manyBetween (low high : Float) : Nat → RandomSource → List Float × RandomSource
  | 0, source => ([], source)
  | count + 1, source =>
    let (number, source) := source.between low high
    let (numbers, source) := manyBetween low high count source
    (number :: numbers, source)

end RandomSource

end EmulatedShell
