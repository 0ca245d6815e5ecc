/-
How deep the values of a run nest.

Arrays, objects and functions are checked when they are built, and so is what
a built-in function gives; nothing else is. Reading, indexing, joining arrays,
binding parameters and capturing variables make no value deeper.

* `nesting_stable`: a run keeps to the depth that the check allows, if its
  helpers do;
* `Value.Contains`: a value and everything in it;
* `nesting_le_after_start`: at no moment does a run get at a deeper value, in
  whatever other value or scope it may be.
-/
import MockupStudio.Proofs.Script.MomentValues
import MockupStudio.Proofs.Script.Operations

namespace MockupStudio.Script

section Operators

variable {a b key v : Value} {vs : List Value}

lemma nesting_scalar (h : v.isScalar) : v.nesting = 0 := by
  cases v with
  | null | bool | int | float | text => rfl
  | _ => cases h

lemma nesting_item_lt {items : List Value} (h : v ∈ items) :
    v.nesting < (Value.array items).nesting := by
  rw [Value.nesting]
  exact Nat.lt_succ_of_le (Value.nesting_le_deepest h)

lemma nesting_member_lt {members : List (String × Value)} {member : String × Value}
    (h : member ∈ members) : member.2.nesting < (Value.object members).nesting := by
  rw [Value.nesting]
  exact Nat.lt_succ_of_le (Value.nesting_le_deepestMember h)

lemma nesting_captured_lt {name : String} {parameters : List String} {body : List Stmt}
    {scope : Scope} {id : FunctionId} {captive : String × Value} (h : captive ∈ scope) :
    captive.2.nesting < (Value.function name parameters body (some scope) id).nesting := by
  rw [Value.nesting]
  exact Nat.lt_succ_of_le (Value.nesting_le_deepestMember h)

/-- Two arrays that are joined nest as deep as the deeper one. -/
lemma nesting_append (xs ys : List Value) :
    (Value.array (xs ++ ys)).nesting = max (Value.array xs).nesting (Value.array ys).nesting := by
  rw [Value.nesting, Value.nesting, Value.nesting, Value.deepest_append, Nat.add_max_add_right]

/-- An operator gives nothing deeper than its operands. -/
lemma nesting_binary_le {op : BinaryOp} (h : Value.binary? op a b = .ok v) :
    v.nesting ≤ max a.nesting b.nesting := by
  rcases binary_cases h with hbrief | rfl | rfl | ⟨xs, ys, rfl, rfl, rfl, -⟩
  · rw [nesting_scalar (isScalar_of_isBrief hbrief)]
    exact Nat.zero_le _
  · exact Nat.le_max_left _ _
  · exact Nat.le_max_right _ _
  · exact Nat.le_of_eq (nesting_append xs ys)

lemma nesting_index_le (h : Value.index? a key = .ok v) : v.nesting ≤ a.nesting := by
  rcases index_cases h with ⟨items, rfl, hv⟩ | ⟨members, rfl, member, hmember, rfl⟩ | hbrief
  · exact Nat.le_of_lt (nesting_item_lt hv)
  · exact Nat.le_of_lt (nesting_member_lt hmember)
  · rw [nesting_scalar (isScalar_of_isBrief hbrief)]
    exact Nat.zero_le _

lemma nesting_member_le {key : String} (h : Value.member? a key = .ok v) :
    v.nesting ≤ a.nesting := by
  rcases member_cases h with ⟨members, rfl, member, hmember, rfl⟩ | hbrief
  · exact Nat.le_of_lt (nesting_member_lt hmember)
  · rw [nesting_scalar (isScalar_of_isBrief hbrief)]
    exact Nat.zero_le _

lemma nesting_iteration_le (h : Value.iteration? a = .ok vs) (hv : v ∈ vs) :
    v.nesting ≤ a.nesting := by
  rcases iteration_cases h with rfl | hscalar
  · exact Nat.le_of_lt (nesting_item_lt hv)
  · rw [nesting_scalar (hscalar v hv)]
    exact Nat.zero_le _

end Operators

section Runs

variable {run : Run}

/-- A run keeps to the depth that the check of new values allows. -/
theorem nesting_stable
    (hhelpers : ∀ helper ∈ run.helpers, helper.2.nesting ≤ run.limits.maxResolveDepth) :
    Stable run fun v => v.nesting ≤ run.limits.maxResolveDepth where
  helpers := hhelpers
  literal l := by
    have hscalar : (Run.ofLiteral l).isScalar := by cases l <;> rfl
    rw [nesting_scalar hscalar]
    exact Nat.zero_le _
  binary ha hb h := Nat.le_trans (nesting_binary_le h) (Nat.max_le.mpr ⟨ha, hb⟩)
  unary _ h := by
    rw [nesting_scalar (isScalar_of_isBrief (unary_brief h))]
    exact Nat.zero_le _
  index ha h := Nat.le_trans (nesting_index_le h) ha
  member ha h := Nat.le_trans (nesting_member_le h) ha
  iteration ha h _ hv := Nat.le_trans (nesting_iteration_le h hv) ha
  array _ hfits := nesting_le_of_fits hfits
  object _ _ hfits := nesting_le_of_fits hfits
  closure _ hfits := nesting_le_of_fits hfits
  captured hf _ hcaptive := Nat.le_trans (Nat.le_of_lt (nesting_captured_lt hcaptive)) hf
  native _ _ _ hfits := nesting_le_of_fits hfits

/-- A value contains itself, items and members, and the variables that its
functions have captured. What a fixture may yield is in no value. -/
inductive Value.Contains : Value → Value → Prop where
  | self (v : Value) : Contains v v
  | item {items x u} : x ∈ items → Contains x u → Contains (.array items) u
  | member {members member u} : member ∈ members → Contains member.2 u →
      Contains (.object members) u
  | captured {name parameters body scope id captive u} : captive ∈ scope →
      Contains captive.2 u → Contains (.function name parameters body (some scope) id) u

lemma Value.Contains.nesting_le {v u : Value} (h : v.Contains u) : u.nesting ≤ v.nesting := by
  induction h with
  | self => exact Nat.le_refl _
  | item hx _ ih => exact Nat.le_trans ih (Nat.le_of_lt (nesting_item_lt hx))
  | member hmember _ ih => exact Nat.le_trans ih (Nat.le_of_lt (nesting_member_lt hmember))
  | captured hcaptive _ ih =>
    exact Nat.le_trans ih (Nat.le_of_lt (nesting_captured_lt hcaptive))

/-- At no moment does a run get at a value that nests deeper than the check of
new values allows, or that has one in it, if no helper does. -/
theorem nesting_le_after_start (run : Run) (code : Code) (n : Nat)
    (hhelpers : ∀ helper ∈ run.helpers, helper.2.nesting ≤ run.limits.maxResolveDepth) :
    (run.after n (.start code)).Holds fun v =>
      ∀ u, v.Contains u → u.nesting ≤ run.limits.maxResolveDepth := by
  have hparts (v : Value) : (∀ u, v.Contains u → u.nesting ≤ run.limits.maxResolveDepth)
      ↔ v.nesting ≤ run.limits.maxResolveDepth :=
    ⟨fun h => h v (.self v), fun h u hu => Nat.le_trans hu.nesting_le h⟩
  simp only [hparts]
  exact holds_after_start (nesting_stable hhelpers) code n

/-- A helper that is as deep as new values may be, but for one level, goes
through a parameter into a function, and from there into an array. -/
theorem nesting_le_of_captured_helper :
    (∀ helper ∈ [("stock", Value.array [.array []])], helper.2.nesting ≤ 3)
      ∧ ∀ n, (Run.after ⟨{ maxResolveDepth := 3 }, { scope := [("stock", .array [.array []])] }, 0⟩ n
        (.start [.function "keep" ["x"]
            [.result (some (.lambda ["y"] (.array [.name "x", .name "y"])))],
          .result (some (.call (.call (.name "keep") [.name "stock"]) [.name "stock"]))])).Holds
        fun v => ∀ u, v.Contains u → u.nesting ≤ 3 := by
  have hhelpers : ∀ helper ∈ [("stock", Value.array [.array []])], helper.2.nesting ≤ 3 :=
    List.forall_mem_singleton.mpr (by decide)
  exact ⟨hhelpers, fun n => nesting_le_after_start ⟨{ maxResolveDepth := 3 }, _, 0⟩ _ n hhelpers⟩

end Runs

end MockupStudio.Script
