/-
No object has a key twice.

* `Value.Keyed`: values of scripts whose objects bind no key twice, in
  whatever they hold or may yield; `keyed_stable` says that running a program
  makes no others;
* `Json.Keyed`: the same of plain data;
* `Program.keyed_of_sample`: every sample is such data.
-/
import MockupStudio.Proofs.Script.Expansion
import MockupStudio.Proofs.Script.Hereditary

namespace MockupStudio

/-- Plain data in which no object has a key twice. -/
inductive Json.Keyed : Json → Prop where
  | null : Keyed .null
  | bool : Keyed (.bool b)
  | int : Keyed (.int n)
  | float : Keyed (.float x)
  | text : Keyed (.text s)
  | array : (∀ d ∈ items, Keyed d) → Keyed (.array items)
  | object : (Bindings.keys members).Nodup → (∀ m ∈ members, Keyed m.2) → Keyed (.object members)

namespace Script

/-- Values in which no object binds a key twice, whatever they hold, have
captured or may yield. -/
inductive Value.Keyed : Value → Prop where
  | scalar : v.isScalar → Keyed v
  | array : (∀ v ∈ items, Keyed v) → Keyed (.array items)
  | object : (Bindings.keys members).Nodup → (∀ m ∈ members, Keyed m.2) → Keyed (.object members)
  | function : (∀ scope ∈ captured, ∀ b ∈ scope, Keyed b.2) →
      Keyed (.function name parameters body captured fid)
  | native : Keyed (.native f)
  | drawn : recipe.isScalar → Keyed (.fixture name recipe depth)
  | choice : (∀ v ∈ choices, Keyed v) → Keyed (.fixture name (.choice choices) depth)
  | copies : Keyed template → Keyed (.fixture name (.copies low high template) depth)

namespace Value.Keyed

variable {v : Value} {vs : List Value} {ms : List (String × Value)}

lemma items (h : (Value.array vs).Keyed) : ∀ v ∈ vs, v.Keyed := by
  cases h with
  | scalar h => cases h
  | array h => exact h

lemma nodup_keys (h : (Value.object ms).Keyed) : (Bindings.keys ms).Nodup := by
  cases h with
  | scalar h => cases h
  | object h _ => exact h

lemma members (h : (Value.object ms).Keyed) : ∀ m ∈ ms, m.2.Keyed := by
  cases h with
  | scalar h => cases h
  | object _ h => exact h

lemma captured {name : String} {parameters : List String} {body : List Stmt} {scope : Scope}
    {id : FunctionId} (h : (Value.function name parameters body (some scope) id).Keyed) :
    ∀ b ∈ scope, b.2.Keyed := by
  cases h with
  | scalar h => cases h
  | function h => exact h scope rfl

/-- What a fixture yields is as the fixture. -/
lemma of_force {name : String} {recipe : Recipe} {depth : Nat} {supply supply' : Supply}
    (h : (Value.fixture name recipe depth).Keyed) (hv : recipe.force supply = .ok v supply') :
    v.Keyed := by
  cases h with
  | scalar h => cases h
  | drawn hscalar =>
    rcases Recipe.scalar_of_force hscalar hv with ⟨s, rfl⟩ | ⟨n, rfl⟩ <;> exact .scalar rfl
  | choice hchoices =>
    rcases Recipe.choice_of_force hv with hmem | rfl
    · exact hchoices v hmem
    · exact .scalar rfl
  | copies htemplate =>
    obtain ⟨n, rfl⟩ := Recipe.copies_of_force hv
    exact .array fun w hw => List.eq_of_mem_replicate hw ▸ htemplate

/-- A fixture that a helper makes of its arguments is as they are. -/
lemma of_made {maxRepeat maxDepth : Nat} {arguments : List Value}
    (hv : Made maxRepeat maxDepth arguments v) (h : ∀ a ∈ arguments, a.Keyed) : v.Keyed := by
  cases hv with
  | scalar hscalar _ => exact .drawn hscalar
  | choice _ hchoices =>
    rcases hchoices with rfl | rfl
    · exact .choice h
    · exact .choice (h _ List.mem_cons_self).items
  | copies _ _ hmem => exact .copies (h _ hmem)

end Value.Keyed

/-! ### Running a program -/

lemma keyed_hereditary : Hereditary Value.Keyed where
  scalar := .scalar
  array := .array
  items := Value.Keyed.items
  object := .object
  members := Value.Keyed.members
  function hscope := .function fun scope h b hb => by
    cases h
    exact hscope b hb
  captured := Value.Keyed.captured

/-- Running a program makes no value with a key bound twice. -/
theorem keyed_stable (limits : Limits) (serial : Nat) :
    Stable ⟨limits, Program.helpers limits, serial⟩ Value.Keyed :=
  keyed_hereditary.stable rfl (keyed_hereditary.all_helpers limits fun _ => .native)
    fun _ _ _ _ _ _ _ _ ha hv => .of_made hv ha

lemma keyed_of_invoke {p : Program} {v : Value} (h : p.invoke = .ok v) : v.Keyed := by
  have hstart : Holds Value.Keyed Machine.start.scopes := by
    intro scope hscope b hb
    cases List.mem_singleton.mp hscope
    cases hb
  have hrun := keeps_script (keyed_stable p.limits 0) p.code Machine.start hstart
  rw [Program.invoke] at h
  generalize Run.script _ _ _ = r at hrun h
  cases hrun with
  | ok hv => cases h; exact hv
  | error => cases h

/-! ### Expanding its value -/

section Steps

variable {ε σ α β γ : Type} {g : α → EStateM ε σ β} {items : List α} {bs : List β} {s s' : σ}

/-- What a list of steps gives, one of them gives. -/
lemma exists_of_mapM_ok (h : items.mapM g s = .ok bs s') :
    ∀ b ∈ bs, ∃ a ∈ items, ∃ t t', g a t = .ok b t' := by
  induction items generalizing s bs with
  | nil =>
    cases h
    exact fun _ hb => (List.not_mem_nil hb).elim
  | cons a items ih =>
    rw [List.mapM_cons] at h
    obtain ⟨b, t, hb, h⟩ := bind_ok_iff.mp h
    obtain ⟨rest, t', hrest, h⟩ := bind_ok_iff.mp h
    obtain ⟨rfl, rfl⟩ := pure_ok_iff.mp h
    refine List.forall_mem_cons.mpr ⟨⟨a, List.mem_cons_self, s, t, hb⟩, fun c hc => ?_⟩
    obtain ⟨x, hx, hc⟩ := ih hrest c hc
    exact ⟨x, List.mem_cons_of_mem _ hx, hc⟩

/-- Steps that keep a mark of what they are given keep it all along a list. -/
lemma map_eq_of_mapM_ok {mark : α → γ} {mark' : β → γ}
    (hg : ∀ a t b t', g a t = .ok b t' → mark' b = mark a) (h : items.mapM g s = .ok bs s') :
    bs.map mark' = items.map mark := by
  induction items generalizing s bs with
  | nil =>
    cases h
    rfl
  | cons a items ih =>
    rw [List.mapM_cons] at h
    obtain ⟨b, t, hb, h⟩ := bind_ok_iff.mp h
    obtain ⟨rest, t', hrest, h⟩ := bind_ok_iff.mp h
    obtain ⟨rfl, rfl⟩ := pure_ok_iff.mp h
    rw [List.map_cons, List.map_cons, hg a s b t hb, ih hrest]

end Steps

namespace Resolver

variable {r : Resolver} {levels : Nat}

/-- The members of an object are expanded one by one, each under its key. -/
lemma walk_member_ok {m : String × Value} {d : String × Json} {s s' : WalkState Supply}
    (h : (r.walk Recipe.force levels m.2 >>= fun data => pure (m.1, data)) s = .ok d s') :
    d.1 = m.1 ∧ ∃ t, r.walk Recipe.force levels m.2 s = .ok d.2 t := by
  obtain ⟨data, t, hwalk, h⟩ := bind_ok_iff.mp h
  obtain ⟨rfl, -⟩ := pure_ok_iff.mp h
  exact ⟨rfl, t, hwalk⟩

lemma keyed_of_walk {v : Value} {data : Json} {s s' : WalkState Supply} (hv : v.Keyed)
    (h : r.walk Recipe.force levels v s = .ok data s') : data.Keyed := by
  induction levels generalizing v data s s' with
  | zero => cases h
  | succ levels ih =>
    rw [walk.eq_def] at h
    obtain ⟨_, t, -, h⟩ := bind_ok_iff.mp h
    cases v with
    | null | function | native =>
      cases h
      exact .null
    | bool =>
      cases h
      exact .bool
    | int =>
      cases h
      exact .int
    | text =>
      cases h
      exact .text
    | float x =>
      obtain ⟨rfl, -⟩ := pure_ok_iff.mp h
      split
      · exact .float
      · exact .null
    | array items =>
      obtain ⟨ds, t', hds, h⟩ := bind_ok_iff.mp h
      obtain ⟨rfl, -⟩ := pure_ok_iff.mp h
      refine .array fun d hd => ?_
      obtain ⟨x, hx, _, _, hwalk⟩ := exists_of_mapM_ok hds d hd
      exact ih (hv.items x hx) hwalk
    | object members =>
      obtain ⟨ds, t', hds, h⟩ := bind_ok_iff.mp h
      obtain ⟨rfl, -⟩ := pure_ok_iff.mp h
      have hkeys : Bindings.keys ds = Bindings.keys (Bindings.sorted members) :=
        map_eq_of_mapM_ok (fun m t d t' hm => (walk_member_ok hm).1) hds
      refine .object ?_ fun d hd => ?_
      · rw [hkeys]
        exact ((List.mergeSort_perm members Members.keyLe).map _).nodup_iff.mpr hv.nodup_keys
      · obtain ⟨m, hm, _, _, hmember⟩ := exists_of_mapM_ok hds d hd
        obtain ⟨-, _, hwalk⟩ := walk_member_ok hmember
        exact ih (hv.members m (List.mem_mergeSort.mp hm)) hwalk
    | fixture name recipe depth =>
      obtain ⟨x, t', hx, h⟩ := bind_ok_iff.mp h
      exact ih (hv.of_force (forcing_ok hx)) h

end Resolver

/-- No object of a sample has a key twice. -/
theorem Program.keyed_of_sample {p : Program} {data : Json} {supply supply' : Supply}
    (h : p.sample supply = .ok data supply') : data.Keyed := by
  rw [Program.sample] at h
  split at h
  · next v hv =>
    rw [Program.resolve, Resolver.resolve] at h
    split at h
    · next hresolve =>
      split at hresolve
      · next hwalk =>
        cases h
        cases hresolve
        exact Resolver.keyed_of_walk (keyed_of_invoke hv) hwalk
      · cases hresolve
    · cases h
    · cases h
  · cases h

end Script

end MockupStudio
