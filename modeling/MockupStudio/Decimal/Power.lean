/-
Powers of the two bases numbers are written in.

* `twoTo`, `tenTo`: the powers of two and of ten.
-/
namespace MockupStudio

/-- Two multiplied by itself `n` times. -/
def twoTo (n : Nat) : Nat := Nat.pow 2 n

/-- Ten multiplied by itself `n` times. -/
def tenTo (n : Nat) : Nat := Nat.pow 10 n

example : twoTo 0 = 1 ∧ twoTo 10 = 1024 ∧ tenTo 3 = 1000 := by decide

end MockupStudio
