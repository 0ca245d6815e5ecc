/-
How deep values nest, and how deep they can be expanded.

* `Value.nesting`: nesting without a cap; `countUpTo_eq` says what the cap
  does to it;
* `Sound`: values as scripts build them, every fixture recording at least one
  level more than what it may yield, scalars apart;
* `Stands`: what an expansion can come across, and how many levels down;
* `Stands.le_nesting_or_scalar`: it is as many levels down as the nesting
  says, or it is what such a scalar fixture yields, one level further.
-/
import MockupStudio.Proofs.Script.Forcing
import Mathlib.Tactic.Lemma

namespace MockupStudio.Script

/-! ### Nesting -/

mutual

/-- Nesting through arrays, objects, captured variables and the recorded
depth of fixtures. -/
def Value.nesting : Value → Nat
  | .array items => deepest items + 1
  | .object members => deepestMember members + 1
  | .function _ _ _ (some captured) _ => deepestMember captured + 1
  | .fixture _ _ depth => depth
  | _ => 0

/-- The nesting of the deepest value, zero without values. -/
def Value.deepest : List Value → Nat
  | [] => 0
  | v :: vs => max v.nesting (deepest vs)

/-- The nesting of the deepest member, zero without members. -/
def Value.deepestMember : List (String × Value) → Nat
  | [] => 0
  | (_, v) :: members => max v.nesting (deepestMember members)

end

namespace Value

@[simp] lemma deepest_nil : deepest [] = 0 := rfl

@[simp] lemma deepest_cons (v : Value) (vs : List Value) :
    deepest (v :: vs) = max v.nesting (deepest vs) := rfl

@[simp] lemma deepestMember_nil : deepestMember [] = 0 := rfl

@[simp] lemma deepestMember_cons (m : String × Value) (members : List (String × Value)) :
    deepestMember (m :: members) = max m.2.nesting (deepestMember members) := rfl

lemma deepest_le_iff {vs : List Value} {n : Nat} :
    deepest vs ≤ n ↔ ∀ v ∈ vs, v.nesting ≤ n := by
  induction vs with
  | nil => simp
  | cons v vs ih => rw [deepest_cons, Nat.max_le, ih, List.forall_mem_cons]

lemma deepestMember_le_iff {members : List (String × Value)} {n : Nat} :
    deepestMember members ≤ n ↔ ∀ m ∈ members, m.2.nesting ≤ n := by
  induction members with
  | nil => simp
  | cons m members ih => rw [deepestMember_cons, Nat.max_le, ih, List.forall_mem_cons]

lemma nesting_le_deepest {vs : List Value} {v : Value} (h : v ∈ vs) :
    v.nesting ≤ deepest vs :=
  deepest_le_iff.mp (Nat.le_refl _) v h

lemma nesting_le_deepestMember {members : List (String × Value)} {m : String × Value}
    (h : m ∈ members) : m.2.nesting ≤ deepestMember members :=
  deepestMember_le_iff.mp (Nat.le_refl _) m h

lemma deepest_append (xs ys : List Value) :
    deepest (xs ++ ys) = max (deepest xs) (deepest ys) := by
  induction xs with
  | nil => simp
  | cons x xs ih => rw [List.cons_append, deepest_cons, deepest_cons, ih, Nat.max_assoc]

/-- The deepest of capped nestings, from some nesting on. -/
lemma foldl_deepest {measure : Value → Nat} {c : Nat}
    (h : ∀ v, measure v = min v.nesting c) (vs : List Value) (start : Nat) :
    vs.foldl (fun deepest v => max deepest (measure v)) start
      = max start (min (deepest vs) c) := by
  induction vs generalizing start with
  | nil => simp
  | cons v vs ih =>
    rw [List.foldl_cons, ih, deepest_cons, h]
    omega

lemma foldl_deepestMember {measure : Value → Nat} {c : Nat}
    (h : ∀ v, measure v = min v.nesting c) (members : List (String × Value)) (start : Nat) :
    members.foldl (fun deepest m => max deepest (measure m.2)) start
      = max start (min (deepestMember members) c) := by
  induction members generalizing start with
  | nil => simp
  | cons m members ih =>
    rw [List.foldl_cons, ih, deepestMember_cons, h]
    omega

/-- One level of counting, where the levels below are counted as they are: only what
this level adds up is left to what numbers make of it. -/
lemma nestingBy_succ {sum : Nat → Nat} {cap : Nat}
    (h : ∀ v, nestingBy sum cap v = min v.nesting (cap + 1)) (v : Value) :
    nestingBy sum (cap + 1) v = if v.isFixture then min v.nesting (sum (cap + 2))
      else if v.nesting = 0 then 0 else sum (min v.nesting (cap + 2)) := by
  cases v with
  | array items => simp [nestingBy, nesting, isFixture, foldl_deepest h, Nat.add_comm 1]
  | object members => simp [nestingBy, nesting, isFixture, foldl_deepestMember h, Nat.add_comm 1]
  | function _ _ _ captured _ =>
    cases captured with
    | none => simp [nestingBy, nesting, isFixture]
    | some captured => simp [nestingBy, nesting, isFixture, foldl_deepestMember h, Nat.add_comm 1]
  | _ => simp [nestingBy, nesting, isFixture]

/-- Counting stops one past the cap, where numbers have sums up to there. -/
theorem nestingBy_eq {sum : Nat → Nat} {cap : Nat} (hsum : ∀ n ≤ cap + 1, sum n = n)
    (v : Value) : nestingBy sum cap v = min v.nesting (cap + 1) := by
  induction cap generalizing v with
  | zero =>
    have hone := hsum 1 (Nat.le_refl 1)
    cases v with
    | function _ _ _ captured _ => cases captured <;> simp [nestingBy, nesting]
    | _ => simp [nestingBy, nesting, hone]
  | succ cap ih =>
    rw [nestingBy_succ fun v => ih (fun n hn => hsum n (by omega)) v,
      hsum (cap + 2) (Nat.le_refl _), hsum _ (Nat.min_le_right ..)]
    split
    · rfl
    · split <;> omega

/-- Counting stops one past the cap. -/
theorem countUpTo_eq (cap : Nat) (v : Value) : v.countUpTo cap = min v.nesting (cap + 1) :=
  nestingBy_eq (fun _ _ => rfl) v

end Value

lemma deepestOf_eq (cap : Nat) (vs : List Value) :
    deepestOf cap vs = min (Value.deepest vs) (cap + 1) := by
  rw [deepestOf, Value.foldl_deepest (Value.countUpTo_eq cap)]
  omega

/-! ### Values as scripts build them -/

/--
Values as scripts build them under a nesting limit: fixtures are those of
helpers, and what picks and copies may yield nests less deep than recorded.
-/
inductive Sound (limit : Nat) : Value → Prop where
  | null : Sound limit .null
  | bool : Sound limit (.bool b)
  | int : Sound limit (.int n)
  | float : Sound limit (.float x)
  | text : Sound limit (.text s)
  | array : (∀ v ∈ items, Sound limit v) → Sound limit (.array items)
  | object : (∀ m ∈ members, Sound limit m.2) → Sound limit (.object members)
  | function : (∀ scope ∈ captured, ∀ m ∈ scope, Sound limit m.2) →
      Sound limit (.function name parameters body captured fid)
  /-- A helper measures its arguments up to the limit. -/
  | native : (∀ helper repeats depth, f.action = .help helper repeats depth → limit ≤ depth) →
      Sound limit (.native f)
  | scalar : recipe.isScalar → recipe.Possible → Sound limit (.fixture name recipe depth)
  | choice : 0 < depth → (∀ v ∈ choices, v.nesting < depth) → (∀ v ∈ choices, Sound limit v) →
      Sound limit (.fixture name (.choice choices) depth)
  | copies : low ≤ high → template.nesting + 1 < depth → Sound limit template →
      Sound limit (.fixture name (.copies low high template) depth)

/-! ### What an expansion can come across -/

/-- An expansion of the first value can come to the last so many levels down. -/
inductive Stands : Value → Nat → Value → Prop where
  | here (v : Value) : Stands v 0 v
  | item {items x k u} : x ∈ items → Stands x k u → Stands (.array items) (k + 1) u
  | member {members m k u} : m ∈ members → Stands m.2 k u → Stands (.object members) (k + 1) u
  | drawn {name recipe depth x k u supply supply'} : recipe.force supply = .ok x supply' →
      Stands x k u → Stands (.fixture name recipe depth) (k + 1) u

lemma Stands.trans {v u w : Value} {k l : Nat} (h : Stands v k u) (h' : Stands u l w) :
    Stands v (l + k) w := by
  induction h with
  | here => exact h'
  | item hx _ ih => exact .item hx (ih h')
  | member hm _ ih => exact .member hm (ih h')
  | drawn hx _ ih => exact .drawn hx (ih h')

/-- There is nothing in a scalar. -/
lemma Stands.eq_zero_of_scalar {v u : Value} {k : Nat} (h : Stands v k u)
    (hv : (∃ s, v = .text s) ∨ ∃ n, v = .int n) : k = 0 := by
  rcases hv with ⟨s, rfl⟩ | ⟨n, rfl⟩ <;> cases h <;> rfl

/-- What a fixture of a script yields is less deep than recorded, scalars
apart. -/
lemma Sound.of_force {limit depth : Nat} {name : String} {recipe : Recipe} {x : Value}
    {supply supply' : Supply} (hv : Sound limit (.fixture name recipe depth))
    (hx : recipe.force supply = .ok x supply') :
    Sound limit x ∧ (x.nesting < depth
      ∨ recipe.isScalar ∧ ((∃ s, x = .text s) ∨ ∃ n, x = .int n)) := by
  cases hv with
  | scalar hscalar _ =>
    have hx := Recipe.scalar_of_force hscalar hx
    refine ⟨?_, .inr ⟨hscalar, hx⟩⟩
    rcases hx with ⟨s, rfl⟩ | ⟨n, rfl⟩
    · exact .text
    · exact .int
  | choice hpos hdepth hchoices =>
    rcases Recipe.choice_of_force hx with hx | rfl
    · exact ⟨hchoices _ hx, .inl (hdepth _ hx)⟩
    · exact ⟨.null, .inl hpos⟩
  | @copies _ _ _ template _ _ hdepth htemplate =>
    obtain ⟨n, rfl⟩ := Recipe.copies_of_force hx
    have hsame : ∀ v ∈ List.replicate n template, v = template := fun _ h =>
      List.eq_of_mem_replicate h
    refine ⟨.array fun v hv => hsame v hv ▸ htemplate, .inl ?_⟩
    have hdeepest : Value.deepest (List.replicate n template) ≤ template.nesting :=
      Value.deepest_le_iff.mpr fun v hv => (hsame v hv ▸ Nat.le_refl _)
    rw [Value.nesting]
    omega

lemma Sound.of_stands {limit : Nat} {v u : Value} {k : Nat} (hv : Sound limit v)
    (h : Stands v k u) : Sound limit u := by
  induction h with
  | here => exact hv
  | item hx _ ih =>
    cases hv with
    | array hitems => exact ih (hitems _ hx)
  | member hm _ ih =>
    cases hv with
    | object hmembers => exact ih (hmembers _ hm)
  | drawn hx _ ih => exact ih (hv.of_force hx).1

/-- A fixture of a helper that yields a text or a number. -/
def Value.isScalarFixture : Value → Bool
  | .fixture _ recipe _ => recipe.isScalar
  | _ => false

/-- What stands some levels down is as many levels less deep, unless it is
what a scalar fixture yields. -/
theorem Stands.le_nesting_or_scalar {limit : Nat} {v u : Value} {k : Nat} (h : Stands v k u)
    (hv : Sound limit v) :
    k + u.nesting ≤ v.nesting
      ∨ ∃ l f, k = l + 1 ∧ l ≤ v.nesting ∧ f.isScalarFixture ∧ Stands v l f := by
  induction h with
  | here => exact .inl (by omega)
  | item hx _ ih =>
    cases hv with
    | array hitems =>
      have hle := Value.nesting_le_deepest hx
      rw [Value.nesting]
      rcases ih (hitems _ hx) with h | ⟨l, f, hk, hl, hf, h⟩
      · exact .inl (by omega)
      · exact .inr ⟨l + 1, f, by omega, by omega, hf, .item hx h⟩
  | member hm _ ih =>
    cases hv with
    | object hmembers =>
      have hle := Value.nesting_le_deepestMember hm
      rw [Value.nesting]
      rcases ih (hmembers _ hm) with h | ⟨l, f, hk, hl, hf, h⟩
      · exact .inl (by omega)
      · exact .inr ⟨l + 1, f, by omega, by omega, hf, .member hm h⟩
  | drawn hx hxu ih =>
    obtain ⟨hsound, hdepth | ⟨hscalar, hx'⟩⟩ := hv.of_force hx
    · rw [Value.nesting]
      rcases ih hsound with h | ⟨l, f, hk, hl, hf, h⟩
      · exact .inl (by omega)
      · exact .inr ⟨l + 1, f, by omega, by omega, hf, .drawn hx h⟩
    · have hzero := hxu.eq_zero_of_scalar hx'
      exact .inr ⟨0, .fixture .., by omega, Nat.zero_le _, hscalar, .here _⟩

end MockupStudio.Script
