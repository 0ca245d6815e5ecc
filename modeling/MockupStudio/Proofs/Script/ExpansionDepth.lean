/-
When the value of a program can be expanded within the nesting limit.

Building a value is refused when it nests deeper than an expansion walks. A
text or a number that a helper draws is a level that no fixture records,
though, and the object that holds the helpers is not checked at all.

* `helpersObject`: that object;
* `Within`: what a program can get at under its limits; `within_stable` says
  that running keeps to it, `within_of_invoke` that a program's value is such;
* `Program.resolve_within_depth_iff`: which values of programs can always be
  expanded within the limit;
* `compiled_script_exceeds_depth`: a script that compiles and has such a
  value.
-/
import MockupStudio.Proofs.Script.Expansion
import MockupStudio.Proofs.Script.Operations
import MockupStudio.Proofs.Script.Preservation
import MockupStudio.Script.Sandbox
import Mathlib

namespace MockupStudio.Script

/-- The object that holds all helpers of a program. -/
def helpersObject (limits : Limits) : Value :=
  .object (Helper.all.map fun h => (h.name, h.native 0 limits.maxRepeat limits.maxResolveDepth))

/-- What a program can get at under its limits. -/
def Within (limits : Limits) (v : Value) : Prop :=
  Sound limits.maxResolveDepth v
    ∧ (v.nesting ≤ limits.maxResolveDepth ∨ v = helpersObject limits)

/-! ### Running keeps to the limit -/

section Stability

variable {limits : Limits} {v : Value}

lemma within_scalar (h : v.isScalar) : Within limits v := by
  cases v with
  | null => exact ⟨.null, .inl (Nat.zero_le _)⟩
  | bool => exact ⟨.bool, .inl (Nat.zero_le _)⟩
  | int => exact ⟨.int, .inl (Nat.zero_le _)⟩
  | float => exact ⟨.float, .inl (Nat.zero_le _)⟩
  | text => exact ⟨.text, .inl (Nat.zero_le _)⟩
  | _ => cases h

/-- A helper measures up to the nesting limit. -/
lemma within_helper (helper : Helper) :
    Within limits (helper.native 0 limits.maxRepeat limits.maxResolveDepth) := by
  refine ⟨.native fun _ _ depth h => ?_, .inl (Nat.zero_le _)⟩
  cases h
  exact Nat.le_refl _

lemma mem_helpersObject {m : String × Value} (h : m ∈ Helper.all.map fun h : Helper =>
    (h.name, h.native 0 limits.maxRepeat limits.maxResolveDepth)) :
    ∃ helper : Helper, m.2 = helper.native 0 limits.maxRepeat limits.maxResolveDepth := by
  obtain ⟨helper, -, rfl⟩ := List.mem_map.mp h
  exact ⟨helper, rfl⟩

lemma within_helpersObject : Within limits (helpersObject limits) := by
  refine ⟨.object fun m hm => ?_, .inr rfl⟩
  obtain ⟨helper, h⟩ := mem_helpersObject hm
  rw [h]
  exact (within_helper helper).1

/-- Only the object of the helpers may go past the limit. -/
lemma Within.nesting_array {items : List Value} (h : Within limits (.array items)) :
    (Value.array items).nesting ≤ limits.maxResolveDepth := by
  rcases h.2 with h | h
  · exact h
  · cases h

lemma Within.items {items : List Value} (h : Within limits (.array items)) :
    ∀ x ∈ items, Within limits x := by
  have hnesting := h.nesting_array
  cases h.1 with
  | array hitems =>
    intro x hx
    have hle := Value.nesting_le_deepest hx
    rw [Value.nesting] at hnesting
    exact ⟨hitems x hx, .inl (by omega)⟩

lemma Within.members {members : List (String × Value)} (h : Within limits (.object members)) :
    ∀ m ∈ members, Within limits m.2 := by
  obtain ⟨hsound, hnesting⟩ := h
  cases hsound with
  | object hmembers =>
    intro m hm
    rcases hnesting with hnesting | h
    · have hle := Value.nesting_le_deepestMember hm
      rw [Value.nesting] at hnesting
      exact ⟨hmembers m hm, .inl (by omega)⟩
    · cases h
      obtain ⟨helper, h⟩ := mem_helpersObject hm
      rw [h]
      exact within_helper helper

lemma Within.captured {name : String} {parameters : List String} {body : List Stmt}
    {scope : Scope} {id : FunctionId}
    (h : Within limits (.function name parameters body (some scope) id)) :
    ∀ b ∈ scope, Within limits b.2 := by
  obtain ⟨hsound, hnesting⟩ := h
  cases hsound with
  | function hscope =>
    intro b hb
    rcases hnesting with hnesting | h
    · have hle := Value.nesting_le_deepestMember hb
      rw [Value.nesting] at hnesting
      exact ⟨hscope scope rfl b hb, .inl (by omega)⟩
    · cases h

variable {run : Run}

/-- A checked fixture of a helper records what it may yield. -/
lemma sound_of_made {maxRepeat depth : Nat} {arguments : List Value}
    (h : Made maxRepeat depth arguments v) (ha : ∀ a ∈ arguments, Sound limits.maxResolveDepth a)
    (hdepth : limits.maxResolveDepth ≤ depth) (hv : v.nesting ≤ limits.maxResolveDepth) :
    Sound limits.maxResolveDepth v := by
  cases h with
  | scalar hscalar hpossible => exact .scalar hscalar hpossible
  | @choice choices _ hchoices =>
    -- what passes the check is recorded in full
    rw [Value.nesting, deepestOf_eq] at hv
    refine .choice (Nat.succ_pos _) (fun c hc => ?_) ?_
    · have hle := Value.nesting_le_deepest hc
      rw [deepestOf_eq]
      omega
    · rcases hchoices with rfl | rfl
      · exact ha
      · cases ha _ List.mem_cons_self with
        | array hitems => exact hitems
  | @copies low high template hrange _ htemplate =>
    rw [Value.nesting, Value.countUpTo_eq] at hv
    refine .copies hrange ?_ (ha _ htemplate)
    rw [Value.countUpTo_eq]
    omega

lemma within_native {f : Native} {arguments : List Value} (hlimits : run.limits = limits)
    (hf : Within limits (.native f)) (ha : ∀ a ∈ arguments, Within limits a)
    (hcall : f.call arguments = .ok v) (hv : run.Fits v) : Within limits v := by
  have hnesting := nesting_le_of_fits hv
  rw [hlimits] at hnesting
  have hsound : ∀ a ∈ arguments, Sound limits.maxResolveDepth a := fun a h => (ha a h).1
  refine ⟨?_, .inl hnesting⟩
  rw [Native.call] at hcall
  split at hcall
  · cases hcall
  · split at hcall
    · next helper repeats depth haction =>
      cases hf.1 with
      | native hmeasures =>
        exact sound_of_made (Helper.made hcall) hsound (hmeasures _ _ _ haction) hnesting
    · cases hcall
      exact .array hsound
    · cases hcall
      exact .null
    · cases hcall
      exact .null

/-- Running a program keeps to what it can get at. -/
theorem within_stable (limits : Limits) (serial : Nat) :
    Stable ⟨limits, Program.helpers limits, serial⟩ (Within limits) where
  helpers := by
    refine all_insert (fun b hb => ?_) within_helpersObject
    obtain ⟨helper, h⟩ := mem_helpersObject hb
    rw [h]
    exact within_helper helper
  literal l := by
    cases l <;> exact within_scalar rfl
  binary {op a b v} ha hb h := by
    rcases binary_cases h with h | rfl | rfl | ⟨xs, ys, rfl, rfl, rfl, -⟩
    · exact within_scalar (isScalar_of_isBrief h)
    · exact ha
    · exact hb
    · have hitems : ∀ x ∈ xs ++ ys, Within limits x := fun x hx =>
        (List.mem_append.mp hx).elim (ha.items x) (hb.items x)
      have hxs := ha.nesting_array
      have hys := hb.nesting_array
      refine ⟨.array fun x hx => (hitems x hx).1, .inl ?_⟩
      rw [Value.nesting] at hxs hys ⊢
      rw [Value.deepest_append]
      omega
  unary _ h := within_scalar (isScalar_of_isBrief (unary_brief h))
  index ha h := by
    rcases index_cases h with ⟨items, rfl, hv⟩ | ⟨members, rfl, m, hm, rfl⟩ | h
    · exact ha.items _ hv
    · exact ha.members m hm
    · exact within_scalar (isScalar_of_isBrief h)
  member ha h := by
    rcases member_cases h with ⟨members, rfl, m, hm, rfl⟩ | h
    · exact ha.members m hm
    · exact within_scalar (isScalar_of_isBrief h)
  iteration ha h := by
    rcases iteration_cases h with rfl | h
    · exact ha.items
    · exact fun v hv => within_scalar (h v hv)
  array hvs hfits := ⟨.array fun v hv => (hvs v hv).1, .inl (nesting_le_of_fits hfits)⟩
  object _ hms hfits := ⟨.object fun m hm => (hms m hm).1, .inl (nesting_le_of_fits hfits)⟩
  closure hscope hfits := by
    refine ⟨.function fun scope h b hb => ?_, .inl (nesting_le_of_fits hfits)⟩
    cases h
    exact (hscope b hb).1
  captured h := h.captured
  native hf ha hcall hfits := within_native rfl hf ha hcall hfits

end Stability

/-! ### The value of a program -/

section Programs

variable {limits : Limits} {p : Program} {v u : Value} {k : Nat}

lemma within_of_invoke (h : p.invoke = .ok v) : Within p.limits v := by
  have hnull : Holds (Within p.limits) Machine.start.scopes := by
    intro scope hscope b hb
    cases List.mem_singleton.mp hscope
    cases hb
  have hrun := keeps_script (within_stable p.limits 0) p.code Machine.start hnull
  rw [Program.invoke] at h
  generalize Run.script _ _ _ = r at hrun h
  cases hrun with
  | ok hv => cases h; exact hv
  | error => cases h

/-- What stands in a value that a program gets at is at most one level past
the limit, and there only as what a scalar fixture draws or as a helper under
no limit at all. -/
lemma Within.le_of_stands (hv : Within limits v) (h : Stands v k u) :
    k ≤ limits.maxResolveDepth + 1 ∧ (k = limits.maxResolveDepth + 1 →
      (limits.maxResolveDepth = 0 ∧ v = helpersObject limits)
        ∨ ∃ f, f.isScalarFixture ∧ Stands v limits.maxResolveDepth f) := by
  obtain ⟨hsound, hnesting⟩ := hv
  rcases hnesting with hnesting | rfl
  · rcases h.le_nesting_or_scalar hsound with h | ⟨l, f, rfl, hl, hf, h⟩
    · exact ⟨by omega, fun hk => by omega⟩
    · refine ⟨by omega, fun hk => .inr ⟨f, hf, ?_⟩⟩
      rwa [show limits.maxResolveDepth = l by omega]
  · -- natives stand in the object of the helpers, and nothing stands in them
    have hk : k ≤ 1 := by
      cases h with
      | here => exact Nat.zero_le _
      | member hm h =>
        obtain ⟨helper, hhelper⟩ := mem_helpersObject hm
        rw [hhelper] at h
        cases h
        exact Nat.le_refl _
    exact ⟨by omega, fun h => .inl ⟨by omega, rfl⟩⟩

/-- What a scalar fixture draws stands one level further. -/
lemma exists_stands_of_scalar {limit : Nat} {f : Value} (hv : Sound limit v)
    (hf : f.isScalarFixture) (h : Stands v k f) : ∃ u, Stands v (k + 1) u := by
  cases f with
  | fixture name recipe depth =>
    obtain ⟨hhelper, hpossible⟩ := Resolver.isHelper_of_sound (hv.of_stands h)
    obtain ⟨x, draws, room, hx⟩ := Recipe.exists_gives hhelper hpossible
    have hforce := hx ⟨.listed (draws ++ []) "", [], room⟩ [] "" (Nat.le_refl _) rfl
    have hdrawn := h.trans (.drawn hforce (.here x))
    rw [show k + 1 = 0 + 1 + k by omega]
    exact ⟨x, hdrawn⟩
  | _ => cases hf

lemma limits_of_compile {text : String} (h : Program.compile limits text = .ok p) :
    p.limits = limits := by
  have hread {p : Program} (h : Program.read limits text = .ok p) : p.limits = limits := by
    rw [Program.read] at h
    split at h
    · cases h
    · split at h <;> cases h
      rfl
  rw [Program.compile] at h
  split at h
  · cases h
  · next hp =>
    split at h <;> cases h
    exact hread hp

lemma helpersObject_stands (limits : Limits) : ∃ u, Stands (helpersObject limits) 1 u :=
  ⟨_, .member List.mem_cons_self (.here _)⟩

/--
What stands in the value of a compiled program is at most one level past the
limit. No draws and no node budget, with whatever room for arrays, make the value
too deep to expand just when no text or number of a helper is to be drawn on the
last level that is allowed, and the value is not the object of the helpers where
no level is.
-/
theorem Program.resolve_within_depth_iff {text : String}
    (hcompile : Program.compile limits text = .ok p) (hv : p.invoke = .ok v) :
    (∀ k u, Stands v k u → k ≤ limits.maxResolveDepth + 1)
      ∧ ((∀ nodes d supply supply', Program.resolve
            { p with limits := { limits with maxResolvedNodes := nodes } } v supply
              ≠ .error (.resolve (.depthExceeded d)) supply')
          ↔ (∀ f, Stands v limits.maxResolveDepth f → ¬ f.isScalarFixture)
            ∧ (limits.maxResolveDepth = 0 → v ≠ helpersObject limits)) := by
  have hwithin := within_of_invoke hv
  rw [limits_of_compile hcompile] at hwithin
  refine ⟨fun k u h => (hwithin.le_of_stands h).1, ?_⟩
  have hresolve (nodes d : Nat) (supply supply' : Supply) : Program.resolve
      { p with limits := { limits with maxResolvedNodes := nodes } } v supply
        = .error (.resolve (.depthExceeded d)) supply'
      ↔ (Resolver.mk limits.maxResolveDepth nodes).resolve Recipe.force v supply
        = .error (.refused (.depthExceeded d)) supply' := by
    rw [Program.resolve, Program.resolver]
    split <;> simp [*]
  constructor
  · intro hnever
    have hstands (u : Value) : ¬ Stands v (limits.maxResolveDepth + 1) u := by
      intro h
      obtain ⟨nodes, d, supply, supply', h⟩ :=
        (Resolver.depthExceeded_iff hwithin.1).mpr ⟨u, h⟩
      exact hnever nodes d supply supply' ((hresolve nodes d supply supply').mpr h)
    refine ⟨fun f hf hscalar => ?_, fun hzero heq => ?_⟩
    · obtain ⟨u, hu⟩ := exists_stands_of_scalar hwithin.1 hscalar hf
      exact hstands u hu
    · obtain ⟨u, hu⟩ := helpersObject_stands limits
      rw [heq, hzero] at hstands
      exact hstands u hu
  · rintro ⟨hscalar, hzero⟩ nodes d supply supply' h
    rw [hresolve] at h
    obtain ⟨u, hu⟩ := (Resolver.depthExceeded_iff hwithin.1).mp ⟨nodes, d, supply, supply', h⟩
    rcases (hwithin.le_of_stands hu).2 rfl with ⟨hlimit, heq⟩ | ⟨f, hf, hstands⟩
    · exact hzero hlimit heq
    · exact hscalar f hstands hf

end Programs

/-! ### A script of which this is too much -/

/-- One level of nesting. -/
def oneLevel : Limits := { maxResolveDepth := 1 }

/-- `return [uid()];` as a program of one level. -/
def uidProgram : Program := ⟨[.result (some (.array [.call (.name "uid") []]))], oneLevel⟩

lemma read_uidProgram : Program.read oneLevel "return [uid()];" = .ok uidProgram := by cbv

/-- Whether a program ends with a value that goes too deep when it is expanded. -/
def Program.endsTooDeep (p : Program) (supply : Supply) : Bool :=
  match p.invoke with
  | .ok v =>
    match p.resolve v supply with
    | .error (.resolve (.depthExceeded _)) _ => true
    | _ => false
  | .error _ => false

lemma Program.exists_of_endsTooDeep {p : Program} {supply : Supply} (h : p.endsTooDeep supply) :
    ∃ v d supply', p.invoke = .ok v
      ∧ p.resolve v supply = .error (.resolve (.depthExceeded d)) supply' := by
  rw [Program.endsTooDeep] at h
  split at h
  · next v hv =>
    split at h
    · next d supply' hresolve => exact ⟨v, d, supply', hv, hresolve⟩
    · cases h
  · cases h

/-- Running the program works, expanding its value does not. -/
lemma invoke_uidProgram : ∃ v d supply', uidProgram.invoke = .ok v
    ∧ uidProgram.resolve v { source := .seeded 1 } = .error (.resolve (.depthExceeded d)) supply' :=
  Program.exists_of_endsTooDeep (by decide +kernel)

lemma compile_uidProgram : Program.compile oneLevel "return [uid()];" = .ok uidProgram := by
  obtain ⟨v, _, _, hv, -⟩ := invoke_uidProgram
  rw [Program.compile, read_uidProgram]
  simp only [hv]

/-- The theorem at this program. -/
theorem uidProgram_within_depth_iff : ∃ v, uidProgram.invoke = .ok v
    ∧ ((∀ k u, Stands v k u → k ≤ 2)
      ∧ ((∀ nodes d supply supply', Program.resolve
            { uidProgram with limits := { oneLevel with maxResolvedNodes := nodes } } v supply
              ≠ .error (.resolve (.depthExceeded d)) supply')
          ↔ (∀ f, Stands v 1 f → ¬ f.isScalarFixture)
            ∧ (1 = 0 → v ≠ helpersObject oneLevel))) := by
  obtain ⟨v, _, _, hv, -⟩ := invoke_uidProgram
  exact ⟨v, hv, Program.resolve_within_depth_iff compile_uidProgram hv⟩

/-- Not every script that compiles has a value that can be expanded within the
limit: `return [uid()];` has not. -/
theorem compiled_script_exceeds_depth :
    ¬ ∀ limits text p v supply supply' d, Program.compile limits text = .ok p →
      p.invoke = .ok v → p.resolve v supply ≠ .error (.resolve (.depthExceeded d)) supply' := by
  intro h
  obtain ⟨v, d, supply', hv, hresolve⟩ := invoke_uidProgram
  exact h oneLevel _ uidProgram v { source := .seeded 1 } supply' d compile_uidProgram hv hresolve

end MockupStudio.Script
