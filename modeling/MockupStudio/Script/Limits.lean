/-
Resource limits of a script.

* `Limits`: how much one run of a script, and the expansion of what it
  returns, may use.

Limits and what is counted against them are numbers without end, where a machine
has words of 64 bits. A count goes one past its limit at most. So what is said of
runs and expansions is meant of all limits below the last word, and with the last
word for a limit of those that count no further than it. Only the nesting of values
is counted with up to two levels added: what becomes of that next to the last word,
`Value.nestingUpTo` says.
-/
import MockupStudio.Script.Parser

namespace MockupStudio.Script

/-- How much a script may use; numbers below the last word of 64 bits are meant. -/
structure Limits where
  /-- Statements and expressions evaluated in one run. -/
  maxSteps : Nat := 1000000
  /-- Function calls open at the same time. -/
  maxCallDepth : Nat := 128
  /-- Nesting levels of a script text, and of expressions being evaluated in
  one function body. -/
  maxNesting : Nat := defaultNesting
  /-- Nesting levels of a value, thunks included. -/
  maxResolveDepth : Nat := 256
  /-- Values that one expansion may visit. -/
  maxResolvedNodes : Nat := 1000000
  /-- The largest repeat count. -/
  maxRepeat : Nat := 10000
  deriving Repr, DecidableEq, Inhabited

end MockupStudio.Script
