/-
Properties that a value has just when its parts have them.

Operators, subscripts and loops take values apart and join arrays; literals, arrays,
objects and functions put values together. Neither loses such a property, so that a
run can lose it only in its helpers or in what they give.

* `Hereditary`: such a property, for objects that bind no key twice;
* `Hereditary.stable`: a run keeps to it, if its helpers have it and the fixtures
  that they make;
* `all_helpers`: what holds of each helper of a program holds of all that a script
  sees of them.
-/
import MockupStudio.Proofs.Script.Operations
import MockupStudio.Proofs.Script.Preservation
import MockupStudio.Script.Sandbox

namespace MockupStudio.Script

/-- A property that scalars have, and other values just when their parts have it. -/
structure Hereditary (P : Value → Prop) : Prop where
  scalar {v} : v.isScalar → P v
  array {vs} : (∀ v ∈ vs, P v) → P (.array vs)
  items {vs} : P (.array vs) → ∀ v ∈ vs, P v
  object {ms} : (Bindings.keys ms).Nodup → (∀ m ∈ ms, P m.2) → P (.object ms)
  members {ms} : P (.object ms) → ∀ m ∈ ms, P m.2
  function {name parameters body scope id} : (∀ b ∈ scope, P b.2) →
    P (.function name parameters body (some scope) id)
  captured {name parameters body scope id} :
    P (.function name parameters body (some scope) id) → ∀ b ∈ scope, P b.2

section Runs

variable {run : Run} {P : Value → Prop}

/-- A call gives a fixture of a helper, the arguments or null, if there are no other
functions. -/
lemma Hereditary.of_call (hP : Hereditary P) {f : Native} {arguments : List Value} {v : Value}
    (ha : ∀ a ∈ arguments, P a) (hcall : f.call arguments = .ok v)
    (hmade : ∀ helper repeats depth, f.action = .help helper repeats depth →
      Made repeats depth arguments v → P v) : P v := by
  rw [Native.call] at hcall
  split at hcall
  · cases hcall
  · split at hcall
    · next haction => exact hmade _ _ _ haction (Helper.made hcall)
    · cases hcall
      exact hP.array ha
    · cases hcall
      exact hP.scalar rfl
    · cases hcall
      exact hP.scalar rfl

/-- A run keeps to a hereditary property that its helpers and their fixtures have, if
there are no other functions. -/
theorem Hereditary.stable (hP : Hereditary P) (hhost : run.globals.host = Host.none)
    (hhelpers : ∀ b ∈ run.helpers, P b.2)
    (hmade : ∀ f helper repeats depth arguments v, P (.native f) →
      f.action = .help helper repeats depth → (∀ a ∈ arguments, P a) →
      Made repeats depth arguments v → P v) : Stable run P where
  helpers := hhelpers
  literal l := by
    cases l <;> exact hP.scalar rfl
  binary {op a b v} ha hb h := by
    rcases binary_cases h with h | rfl | rfl | ⟨xs, ys, rfl, rfl, rfl, -⟩
    · exact hP.scalar (isScalar_of_isBrief h)
    · exact ha
    · exact hb
    · exact hP.array (List.forall_mem_append.mpr ⟨hP.items ha, hP.items hb⟩)
  unary _ h := hP.scalar (isScalar_of_isBrief (unary_brief h))
  index ha h := by
    rcases index_cases h with ⟨items, rfl, hv⟩ | ⟨members, rfl, m, hm, rfl⟩ | h
    · exact hP.items ha _ hv
    · exact hP.members ha m hm
    · exact hP.scalar (isScalar_of_isBrief h)
  member ha h := by
    rcases member_cases h with ⟨members, rfl, m, hm, rfl⟩ | h
    · exact hP.members ha m hm
    · exact hP.scalar (isScalar_of_isBrief h)
  iteration ha h := by
    rcases iteration_cases h with rfl | h
    · exact hP.items ha
    · exact fun v hv => hP.scalar (h v hv)
  array hvs _ := hP.array hvs
  object hkeys hms _ := hP.object hkeys hms
  closure hscope _ := hP.function hscope
  captured h := hP.captured h
  native hf ha hcall _ :=
    hP.of_call ha (hhost ▸ hcall) fun _ _ _ haction hv => hmade _ _ _ _ _ _ hf haction ha hv

/-- The names of the helpers differ. -/
lemma nodup_helperNames : (Helper.all.map Helper.name).Nodup := by decide

/-- The helpers of a program, on their own and all in one object, have a hereditary
property that each of them has. -/
lemma Hereditary.all_helpers (hP : Hereditary P) (limits : Limits)
    (h : ∀ helper : Helper, P (helper.native 0 limits.maxRepeat limits.maxResolveDepth)) :
    ∀ b ∈ Program.helpers limits, P b.2 := by
  have hnative : ∀ b ∈ Helper.all.map fun helper : Helper =>
      (helper.name, helper.native 0 limits.maxRepeat limits.maxResolveDepth), P b.2 := by
    intro b hb
    obtain ⟨helper, -, rfl⟩ := List.mem_map.mp hb
    exact h helper
  refine all_insert hnative (hP.object ?_ hnative)
  rw [Bindings.keys, List.map_map]
  exact nodup_helperNames

end Runs

end MockupStudio.Script
