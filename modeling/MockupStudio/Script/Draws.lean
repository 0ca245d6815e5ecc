/-
Random draws.

* `Source`: where draws come from, a seeded generator or a given list;
* `mix`, `Source.next`: the generator adds a fixed odd number to its state
  and scrambles the sum by steps that can each be undone, so in `2 ^ 64`
  draws it gives every 64-bit number once;
* `threshold`, `Source.below`: a draw below a bound, those raw draws being
  rejected that would favour some results;
* `Source.between`: a draw from a range of integers.
-/
import MockupStudio.Decimal.Power

namespace MockupStudio.Script

/-- Where draws come from. -/
inductive Source where
  | seeded (state : UInt64)
  /-- The draws that are left, and the complaint when none is. -/
  | listed (draws : List UInt64) (complaint : String)
  deriving Repr, DecidableEq, Inhabited

/-- A computation that draws; it fails with a complaint. -/
abbrev Draw := EStateM String Source

/-- The distance between the states of the generator. -/
def stride : UInt64 := 0x9e3779b97f4a7c15

/-- Scrambles a state of the generator. -/
def mix (state : UInt64) : UInt64 :=
  let z := (state ^^^ (state >>> 30)) * 0xbf58476d1ce4e5b9
  let z := (z ^^^ (z >>> 27)) * 0x94d049bb133111eb
  z ^^^ (z >>> 31)

/-- The raw draws below which a bound would not divide evenly. -/
def threshold (bound : UInt64) : UInt64 := (0 - bound) % bound

/-- What a raw draw gives for a bound, unless it is rejected. -/
def residue? (bound raw : UInt64) : Option UInt64 :=
  if threshold bound ≤ raw then some (raw % bound) else none

namespace Source

/-- A raw draw. -/
def next : Draw UInt64 := fun source =>
  match source with
  | seeded state => let state := state + stride; .ok (mix state) (seeded state)
  | listed (r :: rest) complaint => .ok r (listed rest complaint)
  | listed [] complaint => .error complaint (listed [] complaint)

/-- The first accepted one of at most `tries` draws of the generator. The
generator gives an accepted draw within `2 ^ 64` tries. -/
def seededBelow (bound : UInt64) : Nat → UInt64 → UInt64 × UInt64
  | 0, state => (0, state)
  | tries + 1, state =>
    let state := state + stride
    match residue? bound (mix state) with
    | some r => (r, state)
    | none => seededBelow bound tries state

/-- The first accepted one of a list of draws. -/
def listedBelow (bound : UInt64) : List UInt64 → Option (UInt64 × List UInt64)
  | [] => none
  | r :: rest =>
    match residue? bound r with
    | some n => some (n, rest)
    | none => listedBelow bound rest

/-- A draw below a bound, every result being equally likely. -/
def below (bound : UInt64) : Draw UInt64 := fun source =>
  match source with
  | seeded state =>
    let (r, state) := seededBelow bound (twoTo 64) state
    .ok r (seeded state)
  | listed draws complaint =>
    match listedBelow bound draws with
    | some (r, rest) => .ok r (listed rest complaint)
    | none => .error complaint (listed [] complaint)

/-- A draw from `low` up to but not including `high`, none if there is none. -/
def between (low high : Int) : Draw (Option Int) :=
  if high ≤ low then pure none
  else do
    let r ← below (UInt64.ofNat (high - low).toNat)
    return some (low + r.toNat)

end Source

end MockupStudio.Script
