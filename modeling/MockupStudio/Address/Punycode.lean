/-
Names of hosts in the letters of all scripts, written in plain ones.

* `Punycode.encode`: a label by its plain letters and the places of the
  others. The others are taken in the order of their numbers; between one and
  the next stands how many places are passed by, as a number to the base 36
  whose digits end where the last differences make it likely;
* `Punycode.label`: a label as it is asked for on the network;
* `smallForm`: the letter in lower case, for scripts in which both cases lie
  at a fixed distance.
-/
namespace MockupStudio.Punycode

/-- A digit to the base 36, letters first. -/
def digit (d : Nat) : Char :=
  if d < 26 then Char.ofNat ('a'.toNat + d) else Char.ofNat ('0'.toNat + (d - 26))

/-- The least value of a digit at a position that is not the last. -/
def threshold (position bias : Nat) : Nat := min (max (position - bias) 1) 26

/-- The digits of a difference; each of the `steps` divides it. -/
def digits : Nat → Nat → Nat → Nat → List Char
  | 0, _, _, _ => []
  | steps + 1, position, bias, n =>
    let t := threshold position bias
    if n < t then [digit n]
    else
      digit (t + (n - t) % (36 - t)) :: digits steps (position + 36) bias ((n - t) / (36 - t))

/-- Divides by the largest digit span until a small number is left. -/
def settle : Nat → Nat → Nat → Nat
  | 0, shift, _ => shift
  | steps + 1, shift, n =>
    if 455 < n then settle steps (shift + 36) (n / 35) else shift + 36 * n / (n + 38)

/-- Where digits are likely to end after a difference among `count` letters. -/
def adapted (difference count : Nat) (isFirst : Bool) : Nat :=
  let n := if isFirst then difference / 700 else difference / 2
  settle n 0 (n + n / count)

/-- The state between two letters. -/
structure Coding where
  difference : Nat := 0
  bias : Nat := 72
  handled : Nat
  isFirst : Bool := true
  /-- What is written, in reverse. -/
  written : List Char

/-- Passes by one letter of a label, writing the difference if it is the one
whose turn it is. -/
def Coding.pass (turn : Nat) (coding : Coding) (c : Char) : Coding :=
  if c.toNat < turn then { coding with difference := coding.difference + 1 }
  else if c.toNat = turn then
    let n := coding.difference
    { difference := 0
      bias := adapted n (coding.handled + 1) coding.isFirst
      handled := coding.handled + 1
      isFirst := false
      written := (digits (n + 1) 36 coding.bias n).reverse ++ coding.written }
  else coding

/-- Writes all places of one letter after the other, the letters given in the
order of their numbers. -/
def Coding.run (label : List Char) (next : Nat) : List Nat → Coding → Coding
  | [], coding => coding
  | turn :: turns, coding =>
    let passed := (turn - next) * (coding.handled + 1)
    let coding :=
      label.foldl (Coding.pass turn) { coding with difference := coding.difference + passed }
    run label (turn + 1) turns { coding with difference := coding.difference + 1 }

/-- Whether a character is a plain one. -/
def isPlain (c : Char) : Bool := c.toNat < 128

/-- The plain letters of a label, then the places of the others. -/
def encode (label : List Char) : List Char :=
  let plain := label.filter isPlain
  let others := ((label.filter (!isPlain ·)).map Char.toNat).eraseDups.mergeSort
  let start := if plain.isEmpty then [] else '-' :: plain.reverse
  (Coding.run label 128 others { handled := plain.length, written := start }).written.reverse

/-- A label as it is asked for on the network. -/
def label (cs : List Char) : List Char :=
  if cs.all isPlain then cs else "xn--".toList ++ encode cs

/-- The letter in lower case. -/
def smallForm (c : Char) : Char :=
  let n := c.toNat
  if n < 128 then c.toLower
  else if 0xc0 ≤ n ∧ n ≤ 0xde ∧ n ≠ 0xd7 ∨ 0x391 ≤ n ∧ n ≤ 0x3ab ∨ 0x410 ≤ n ∧ n ≤ 0x42f then
    Char.ofNat (n + 32)
  else if 0x400 ≤ n ∧ n ≤ 0x40f then Char.ofNat (n + 80)
  else c

end MockupStudio.Punycode
