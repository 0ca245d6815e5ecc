/-
Values that differ in the order of their maps.

* `Value.Alike`: values that are the same but for the order of the members of
  objects and of captured variables, in whatever they hold or may yield;
* `Value.Alike.symm`, `Value.Alike.trans`: it does not matter which came first;
* `Value.AllAlike`, `Scope.Alike`: the same of lists and of scopes;
* `alike_lookup`, `alike_define`, `alike_assign`, `alike_flattened` and the
  like: so all operations on scopes keep it.
-/
import MockupStudio.Proofs.Related
import MockupStudio.Proofs.Script.Operations

namespace MockupStudio.Script

open Bindings (Related)

/-- Whether a fixture yields no value that a script has built. -/
def Recipe.isPlain : Recipe → Bool
  | choice _ | copies .. | yields _ => false
  | _ => true

/-- Values that are the same but for the order in which objects and captured
variables are kept. -/
inductive Value.Alike : Value → Value → Prop where
  | scalar : v.isScalar → Alike v v
  | array : xs.length = ys.length →
      (∀ (i : Nat) (hx : i < xs.length) (hy : i < ys.length), Alike xs[i] ys[i]) →
      Alike (.array xs) (.array ys)
  | object : Related (fun _ _ => True) ms ns →
      (∀ key v w, Bindings.get? key ms = some v → Bindings.get? key ns = some w → Alike v w) →
      Alike (.object ms) (.object ns)
  | function :
      Alike (.function name parameters body none fid) (.function name parameters body none fid)
  | closure : Related (fun _ _ => True) ms ns →
      (∀ key v w, Bindings.get? key ms = some v → Bindings.get? key ns = some w → Alike v w) →
      Alike (.function name parameters body (some ms) fid)
        (.function name parameters body (some ns) fid)
  | native : Alike (.native f) (.native f)
  | plain : recipe.isPlain → Alike (.fixture name recipe depth) (.fixture name recipe depth)
  | choice : xs.length = ys.length →
      (∀ (i : Nat) (hx : i < xs.length) (hy : i < ys.length), Alike xs[i] ys[i]) →
      Alike (.fixture name (.choice xs) depth) (.fixture name (.choice ys) depth)
  | copies : Alike v w →
      Alike (.fixture name (.copies low high v) depth) (.fixture name (.copies low high w) depth)
  | yields : Alike v w →
      Alike (.fixture name (.yields v) depth) (.fixture name (.yields w) depth)

/-- Lists of values that are alike one by one. -/
abbrev Value.AllAlike : List Value → List Value → Prop := List.Forall₂ Value.Alike

/-- Variables with the same names and values that are alike. -/
abbrev Scope.Alike : Scope → Scope → Prop := Related Value.Alike

namespace Value

variable {v w x : Value} {xs ys : List Value} {ms ns : Scope}

lemma forall₂_of_get {R : Value → Value → Prop} (hlength : xs.length = ys.length)
    (h : ∀ (i : Nat) (hx : i < xs.length) (hy : i < ys.length), R xs[i] ys[i]) :
    List.Forall₂ R xs ys :=
  List.forall₂_iff_get.mpr ⟨hlength, h⟩

lemma related_of_get? {R : Value → Value → Prop} (hkeys : Related (fun _ _ => True) ms ns)
    (h : ∀ key v w, Bindings.get? key ms = some v → Bindings.get? key ns = some w → R v w) :
    Related R ms ns :=
  hkeys.mono fun key v w hv hw _ => h key v w hv hw

lemma alike_array (h : AllAlike xs ys) : Alike (.array xs) (.array ys) := by
  obtain ⟨hlength, h⟩ := List.forall₂_iff_get.mp h
  exact .array hlength h

lemma alike_object (h : Scope.Alike ms ns) : Alike (.object ms) (.object ns) :=
  .object (h.mono fun _ _ _ _ _ _ => trivial) fun _ _ _ => h.of_get?

lemma alike_closure (name : String) (parameters : List String) (body : List Stmt)
    (id : FunctionId) (h : Scope.Alike ms ns) : Alike (.function name parameters body (some ms) id)
      (.function name parameters body (some ns) id) :=
  .closure (h.mono fun _ _ _ _ _ _ => trivial) fun _ _ _ => h.of_get?

lemma alike_choice (name : String) (depth : Nat) (h : AllAlike xs ys) :
    Alike (.fixture name (.choice xs) depth) (.fixture name (.choice ys) depth) := by
  obtain ⟨hlength, h⟩ := List.forall₂_iff_get.mp h
  exact .choice hlength h

lemma Alike.items (h : Alike (.array xs) (.array ys)) : AllAlike xs ys := by
  cases h with
  | scalar h => cases h
  | array hlength h => exact forall₂_of_get hlength h

theorem Alike.symm (h : v.Alike w) : w.Alike v := by
  induction h with
  | scalar h => exact .scalar h
  | array hlength _ ih => exact .array hlength.symm fun i hx hy => ih i hy hx
  | object hkeys _ ih => exact .object hkeys.symm fun key v w hv hw => ih key w v hw hv
  | function => exact .function
  | closure hkeys _ ih => exact .closure hkeys.symm fun key v w hv hw => ih key w v hw hv
  | native => exact .native
  | plain h => exact .plain h
  | choice hlength _ ih => exact .choice hlength.symm fun i hx hy => ih i hy hx
  | copies _ ih => exact .copies ih
  | yields _ ih => exact .yields ih

theorem Alike.trans (h : v.Alike w) (h' : w.Alike x) : v.Alike x := by
  induction h generalizing x with
  | scalar | function | native | plain => exact h'
  | @array xs ys hlength _ ih =>
    cases h' with
    | scalar h => cases h
    | array hlength' h' =>
      exact .array (hlength.trans hlength') fun i hx hz =>
        ih i hx (hlength ▸ hx) (h' i (hlength ▸ hx) hz)
  | object hkeys _ ih =>
    cases h' with
    | scalar h => cases h
    | object hkeys' h' =>
      refine .object (hkeys.trans hkeys' fun _ _ _ _ _ => trivial) fun key v x hv hx => ?_
      obtain ⟨w, hw, -⟩ := hkeys.exists_right hv
      exact ih key v w hv hw (h' key w x hw hx)
  | closure hkeys _ ih =>
    cases h' with
    | scalar h => cases h
    | closure hkeys' h' =>
      refine .closure (hkeys.trans hkeys' fun _ _ _ _ _ => trivial) fun key v x hv hx => ?_
      obtain ⟨w, hw, -⟩ := hkeys.exists_right hv
      exact ih key v w hv hw (h' key w x hw hx)
  | choice hlength _ ih =>
    cases h' with
    | scalar h => cases h
    | plain h => cases h
    | choice hlength' h' =>
      exact .choice (hlength.trans hlength') fun i hx hz =>
        ih i hx (hlength ▸ hx) (h' i (hlength ▸ hx) hz)
  | copies _ ih =>
    cases h' with
    | scalar h => cases h
    | plain h => cases h
    | copies h' => exact .copies (ih h')
  | yields _ ih =>
    cases h' with
    | scalar h => cases h
    | plain h => cases h
    | yields h' => exact .yields (ih h')

lemma alike_null : Alike .null .null := .scalar rfl

/-- What the values can be told apart by. -/
lemma Alike.eq_of_isScalar (h : v.Alike w) (hv : v.isScalar) : v = w := by
  cases h with
  | scalar => rfl
  | _ => cases hv

lemma Alike.isScalar_eq (h : v.Alike w) : v.isScalar = w.isScalar := by
  cases h <;> rfl

lemma Alike.typeName_eq (h : v.Alike w) : v.typeName = w.typeName := by
  cases h <;> rfl

lemma Alike.truthy_eq (h : v.Alike w) : v.truthy = w.truthy := by
  cases h <;> rfl

lemma AllAlike.symm (h : AllAlike xs ys) : AllAlike ys xs := forall₂_symm (fun _ _ => Alike.symm) h

lemma AllAlike.trans {zs : List Value} (h : AllAlike xs ys) (h' : AllAlike ys zs) :
    AllAlike xs zs :=
  forall₂_trans (fun _ _ _ => Alike.trans) h h'

end Value

/-! ### Scopes -/

/-- Scopes that are alike one by one. -/
abbrev ScopesAlike : List Scope → List Scope → Prop := List.Forall₂ Scope.Alike

section Scopes

variable {v w : Value} {scope scope' : Scope} {scopes scopes' : List Scope} {name : String}

lemma Scope.Alike.symm (h : Scope.Alike scope scope') : Scope.Alike scope' scope :=
  (Related.symm h).mono fun _ _ _ _ _ => Value.Alike.symm

lemma Scope.Alike.trans {scope'' : Scope} (h : Scope.Alike scope scope')
    (h' : Scope.Alike scope' scope'') : Scope.Alike scope scope'' :=
  Related.trans h h' fun _ _ _ => Value.Alike.trans

lemma ScopesAlike.symm (h : ScopesAlike scopes scopes') : ScopesAlike scopes' scopes :=
  forall₂_symm (fun _ _ => Scope.Alike.symm) h

lemma ScopesAlike.trans {scopes'' : List Scope} (h : ScopesAlike scopes scopes')
    (h' : ScopesAlike scopes' scopes'') : ScopesAlike scopes scopes'' :=
  forall₂_trans (fun _ _ _ => Scope.Alike.trans) h h'

lemma alike_popped (h : ScopesAlike scopes scopes') :
    ScopesAlike (popped scopes) (popped scopes') := by
  cases h with
  | nil => exact .nil
  | cons hscope h =>
    cases h with
    | nil => exact .cons hscope .nil
    | cons hscope' h => exact .cons hscope' h

lemma alike_define (h : ScopesAlike scopes scopes') (name : String) (hv : v.Alike w) :
    ScopesAlike (define name v scopes) (define name w scopes') := by
  cases h with
  | nil => exact .nil
  | cons hscope h => exact .cons (hscope.insert name hv) h

lemma alike_lookup (h : ScopesAlike scopes scopes') (name : String) :
    Option.Rel Value.Alike (lookup name scopes) (lookup name scopes') := by
  induction h with
  | nil => exact .none
  | cons hscope _ ih =>
    rw [lookup, lookup]
    rcases Bindings.rel_cases (hscope.find name) with ⟨hb, hc⟩ | ⟨a, b, hb, hc, hab⟩
    · rw [hb, hc]
      exact ih
    · rw [hb, hc]
      exact .some hab

lemma alike_assign (h : ScopesAlike scopes scopes') (name : String) (hv : v.Alike w) :
    Option.Rel ScopesAlike (assign? name v scopes) (assign? name w scopes') := by
  induction h with
  | nil => exact .none
  | @cons scope scope' outer outer' hscope h ih =>
    rw [assign?, assign?, Scope.assign?, Scope.assign?, hscope.contains_eq]
    cases Bindings.contains name scope' with
    | true => exact .some (.cons (hscope.insert name hv) h)
    | false =>
      change Option.Rel ScopesAlike ((assign? name v outer).map (scope :: ·))
        ((assign? name w outer').map (scope' :: ·))
      rcases Bindings.rel_cases ih with ⟨hb, hc⟩ | ⟨a, b, hb, hc, hab⟩
      · rw [hb, hc]
        exact .none
      · rw [hb, hc]
        exact .some (.cons hscope hab)

lemma alike_flattened (h : ScopesAlike scopes scopes') :
    Scope.Alike (flattened scopes) (flattened scopes') := by
  induction h with
  | nil => exact Bindings.related_nil
  | cons hscope _ ih => exact ih.insertAll hscope

/-- What a name stands for, over helpers that are alike as well. -/
lemma alike_get? {helpers helpers' : Scope} (h : ScopesAlike scopes scopes')
    (hhelpers : Scope.Alike helpers helpers') (name : String) : Option.Rel Value.Alike
      ((Environment.mk scopes helpers).get? name) ((Environment.mk scopes' helpers').get? name) := by
  rw [Environment.get?, Environment.get?]
  rcases Bindings.rel_cases (alike_lookup h name) with ⟨hb, hc⟩ | ⟨a, b, hb, hc, hab⟩
  · rw [hb, hc]
    exact hhelpers.find name
  · rw [hb, hc]
    exact .some hab

lemma alike_parameters {xs ys : List Value} (h : Value.AllAlike xs ys) (parameters : List String) :
    Scope.Alike (Bindings.ofList (parameters.zip xs)) (Bindings.ofList (parameters.zip ys)) := by
  refine Bindings.related_ofList ?_
  induction h generalizing parameters with
  | nil =>
    rw [List.zip_nil_right]
    exact .nil
  | cons hxy _ ih =>
    cases parameters with
    | nil => exact .nil
    | cons parameter parameters => exact .cons ⟨rfl, hxy⟩ (ih parameters)

lemma alike_callScopes {captured captured' : Option Scope} {xs ys : List Value}
    (hv : v.Alike w) (hcaptured : Scope.Alike (captured.getD []) (captured'.getD []))
    (h : Value.AllAlike xs ys) (name : String) (parameters : List String) :
    ScopesAlike (Run.callScopes v name parameters captured xs)
      (Run.callScopes w name parameters captured' ys) := by
  refine .cons (alike_parameters h parameters) (.cons ?_ .nil)
  split
  · exact hcaptured
  · exact hcaptured.insert name hv

end Scopes

end MockupStudio.Script
