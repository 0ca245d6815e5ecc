/-
When an expansion runs out of depth.

* `Resolver.stands_of_walk_depthExceeded`: a walk that runs out of levels has
  come to a value as many levels down;
* `Proceeds`, `Exceeds`: with some draws and enough nodes, a walk ends or runs
  out of levels, or does the latter for sure;
* `Resolver.proceeds_walk`: no walk over a value as scripts build them is
  stopped by anything else;
* `Resolver.exceeds_walk`: to whatever stands in such a value there are draws
  that lead the walk;
* `Resolver.depthExceeded_iff`: the two together.
-/
import MockupStudio.Proofs.Script.Nesting
import MockupStudio.Script.Resolver
import Mathlib.Tactic.Lemma

namespace MockupStudio.Script

namespace Resolver

/-! ### One level of a walk -/

section Levels

variable {σ : Type} (r : Resolver) (force : Recipe → EStateM ForceFailure σ Value) (levels : Nat)

lemma walk_array (items : List Value) : r.walk force (levels + 1) (.array items)
    = r.visit >>= fun _ => items.mapM (r.walk force levels) >>= fun data =>
      pure (.array data) := rfl

lemma walk_object (members : List (String × Value)) : r.walk force (levels + 1) (.object members)
    = r.visit >>= fun _ => ((Bindings.sorted members).mapM fun m =>
      r.walk force levels m.2 >>= fun data => pure (m.1, data)) >>= fun data =>
      pure (.object data) := rfl

lemma walk_fixture (name : String) (recipe : Recipe) (depth : Nat) :
    r.walk force (levels + 1) (.fixture name recipe depth)
      = r.visit >>= fun _ => forcing name (force recipe) >>= r.walk force levels := rfl

end Levels

/-! ### What a walk that runs out of levels has come to -/

lemma visit_error {σ : Type} {r : Resolver} {e : WalkStop} {s s' : WalkState σ}
    (h : r.visit s = .error e s') : e = .refused (.tooLarge r.maxNodes) := by
  rw [visit] at h
  dsimp only at h
  split at h <;> cases h
  rfl

lemma forcing_ok {σ : Type} {name : String} {force : EStateM ForceFailure σ Value} {v : Value}
    {s s' : WalkState σ} (h : forcing name force s = .ok v s') :
    force s.world = .ok v s'.world := by
  rw [forcing] at h
  split at h <;> cases h
  assumption

lemma forcing_error {σ : Type} {name : String} {force : EStateM ForceFailure σ Value}
    {d : Nat} {s s' : WalkState σ} :
    forcing name force s ≠ .error (.refused (.depthExceeded d)) s' := by
  intro h
  rw [forcing] at h
  split at h <;> cases h

lemma stands_of_walk_depthExceeded {r : Resolver} {levels d : Nat} {v : Value}
    {s s' : WalkState Supply}
    (h : r.walk Recipe.force levels v s = .error (.refused (.depthExceeded d)) s') :
    ∃ u, Stands v levels u := by
  induction levels generalizing v s s' with
  | zero => exact ⟨v, .here v⟩
  | succ levels ih =>
    rw [walk.eq_def, bind_error_iff] at h
    rcases h with h | ⟨_, s₁, -, h⟩
    · cases visit_error h
    · cases v with
      | array items =>
        rcases bind_error_iff.mp h with h | ⟨_, _, -, h⟩
        · obtain ⟨x, hx, _, h⟩ := exists_of_mapM_error h
          obtain ⟨u, hu⟩ := ih h
          exact ⟨u, .item hx hu⟩
        · cases h
      | object members =>
        rcases bind_error_iff.mp h with h | ⟨_, _, -, h⟩
        · obtain ⟨m, hm, _, h⟩ := exists_of_mapM_error h
          rcases bind_error_iff.mp h with h | ⟨_, _, -, h⟩
          · obtain ⟨u, hu⟩ := ih h
            exact ⟨u, .member (List.mem_mergeSort.mp hm) hu⟩
          · cases h
        · cases h
      | fixture name recipe depth =>
        rcases bind_error_iff.mp h with h | ⟨x, _, hx, h⟩
        · exact absurd h forcing_error
        · obtain ⟨u, hu⟩ := ih h
          exact ⟨u, .drawn (forcing_ok hx) hu⟩
      | _ => cases h

/-! ### Draws that lead somewhere -/

section Leading

variable {α β γ : Type}

/-- A walk has ended or run out of levels. -/
inductive After (r : Resolver) (visited : Nat) (source : Source) (room : Nat) :
    EStateM.Result WalkStop (WalkState Supply) α → Prop where
  | ended : s.visited ≤ visited → s.world.source = source → s.world.room = room →
      After r visited source room (.ok a s)
  | exceeded : After r visited source room (.error (.refused (.depthExceeded r.maxDepth)) s)

/-- So many draws come first, and there are enough nodes and enough room. -/
structure Provides (r : Resolver) (s : WalkState Supply) (draws : List UInt64) (nodes room : Nat)
    (rest : List UInt64) (complaint : String) : Prop where
  nodes : s.visited + nodes ≤ r.maxNodes
  room : room ≤ s.world.room
  source : s.world.source = .listed (draws ++ rest) complaint

/-- With some draws, enough nodes and enough room a walk ends or runs out of levels. -/
def Proceeds (walk : Resolver → Walk Supply α) : Prop :=
  ∃ draws nodes room, ∀ r s rest complaint, Provides r s draws nodes room rest complaint →
    After r (s.visited + nodes) (.listed rest complaint) s.world.room (walk r s)

/-- With some draws, enough nodes and enough room a walk runs out of levels. -/
def Exceeds (walk : Resolver → Walk Supply α) : Prop :=
  ∃ draws nodes room, ∀ r s rest complaint, Provides r s draws nodes room rest complaint →
    ∃ s', walk r s = .error (.refused (.depthExceeded r.maxDepth)) s'

/-- What is enough for two walks is enough for the first, -/
lemma Provides.first {r : Resolver} {s : WalkState Supply} {draws draws' rest : List UInt64}
    {nodes nodes' room room' : Nat} {complaint : String}
    (h : Provides r s (draws ++ draws') (nodes + nodes') (max room room') rest complaint) :
    Provides r s draws nodes room (draws' ++ rest) complaint where
  nodes := Nat.le_trans (by omega) h.nodes
  room := Nat.le_trans (Nat.le_max_left ..) h.room
  source := by rw [h.source, List.append_assoc]

/-- and after it for the second. -/
lemma Provides.second {r : Resolver} {s s' : WalkState Supply} {draws draws' rest : List UInt64}
    {nodes nodes' room room' : Nat} {complaint : String}
    (h : Provides r s (draws ++ draws') (nodes + nodes') (max room room') rest complaint)
    (hvisited : s'.visited ≤ s.visited + nodes)
    (hsource : s'.world.source = .listed (draws' ++ rest) complaint)
    (hroom : s'.world.room = s.world.room) :
    Provides r s' draws' nodes' room' rest complaint where
  nodes := by
    have hnodes := h.nodes
    omega
  room := hroom ▸ Nat.le_trans (Nat.le_max_right ..) h.room
  source := hsource

lemma Proceeds.pure (a : α) : Proceeds fun _ => pure a := by
  refine ⟨[], 0, 0, fun r s rest complaint h => ?_⟩
  exact .ended (Nat.le_refl _) h.source rfl

/-- One walk after the other. -/
lemma Proceeds.both {walk : Resolver → Walk Supply α} {walk' : Resolver → Walk Supply β}
    (h : Proceeds walk) (h' : Proceeds walk') (f : α → β → γ) :
    Proceeds fun r => walk r >>= fun a => walk' r >>= fun b => Pure.pure (f a b) := by
  obtain ⟨draws, nodes, room, h⟩ := h
  obtain ⟨draws', nodes', room', h'⟩ := h'
  refine ⟨draws ++ draws', nodes + nodes', max room room', fun r s rest complaint hs => ?_⟩
  have hfirst := h r s _ complaint hs.first
  simp only [bind, EStateM.bind]
  generalize walk r s = result at hfirst
  cases hfirst with
  | exceeded => exact .exceeded
  | @ended a s₁ hvisited hsource hroom =>
    have hsecond := h' r s₁ rest complaint (hs.second hvisited hsource hroom)
    simp only
    generalize walk' r s₁ = result at hsecond
    cases hsecond with
    | exceeded => exact .exceeded
    | ended hvisited' hsource' hroom' =>
      exact .ended (by omega) hsource' (hroom'.trans hroom)

/-- A walk that proceeds, and then one that runs out of levels. -/
lemma Exceeds.second {walk : Resolver → Walk Supply α} {walk' : Resolver → Walk Supply β}
    (h : Proceeds walk) (h' : Exceeds walk') (f : α → β → Walk Supply γ) :
    Exceeds fun r => walk r >>= fun a => walk' r >>= fun b => f a b := by
  obtain ⟨draws, nodes, room, h⟩ := h
  obtain ⟨draws', nodes', room', h'⟩ := h'
  refine ⟨draws ++ draws', nodes + nodes', max room room', fun r s rest complaint hs => ?_⟩
  have hfirst := h r s _ complaint hs.first
  simp only [bind, EStateM.bind]
  generalize walk r s = result at hfirst
  cases hfirst with
  | exceeded => exact ⟨_, rfl⟩
  | @ended a s₁ hvisited hsource hroom =>
    obtain ⟨s', hsecond⟩ := h' r s₁ rest complaint (hs.second hvisited hsource hroom)
    simp only [hsecond]
    exact ⟨s', rfl⟩

lemma Exceeds.first {walk : Resolver → Walk Supply α} (h : Exceeds walk)
    (f : Resolver → α → Walk Supply β) : Exceeds fun r => walk r >>= f r := by
  obtain ⟨draws, nodes, room, h⟩ := h
  refine ⟨draws, nodes, room, fun r s rest complaint hs => ?_⟩
  obtain ⟨s', h⟩ := h r s rest complaint hs
  exact ⟨s', bind_error_iff.mpr (.inl h)⟩

lemma Proceeds.mapM {walk : Resolver → β → Walk Supply α} {items : List β}
    (h : ∀ x ∈ items, Proceeds fun r => walk r x) : Proceeds fun r => items.mapM (walk r) := by
  induction items with
  | nil => exact .pure []
  | cons x items ih =>
    rw [List.forall_mem_cons] at h
    simp only [List.mapM_cons]
    exact h.1.both (ih h.2) List.cons

lemma Exceeds.mapM {walk : Resolver → β → Walk Supply α} {items : List β} {x : β}
    (h : ∀ x ∈ items, Proceeds fun r => walk r x) (hx : x ∈ items)
    (hexceeds : Exceeds fun r => walk r x) : Exceeds fun r => items.mapM (walk r) := by
  induction items with
  | nil => cases hx
  | cons y items ih =>
    rw [List.forall_mem_cons] at h
    simp only [List.mapM_cons]
    rcases List.mem_cons.mp hx with rfl | hx
    · exact hexceeds.first _
    · exact .second h.1 (ih h.2 hx) _

lemma visit_ok {σ : Type} {r : Resolver} {s : WalkState σ} (h : s.visited + 1 ≤ r.maxNodes) :
    r.visit s = .ok () { s with visited := s.visited + 1 } := by
  rw [visit]
  exact if_neg (Nat.not_lt.mpr h)

lemma visit_full {σ : Type} {r : Resolver} {s : WalkState σ} (h : r.maxNodes < s.visited + 1) :
    r.visit s = .error (.refused (.tooLarge r.maxNodes)) { s with visited := s.visited + 1 } := by
  rw [visit]
  exact if_pos h

/-- A visited value takes one node. -/
lemma Provides.visited {r : Resolver} {s : WalkState Supply} {draws rest : List UInt64}
    {nodes room : Nat} {complaint : String}
    (h : Provides r s draws (nodes + 1) room rest complaint) : s.visited + 1 ≤ r.maxNodes
      ∧ Provides r { s with visited := s.visited + 1 } draws nodes room rest complaint := by
  have hnodes := h.nodes
  exact ⟨by omega, by simp only; omega, h.room, h.source⟩

lemma Proceeds.visit {walk : Resolver → Walk Supply α} (h : Proceeds walk) :
    Proceeds fun r => r.visit >>= fun _ => walk r := by
  obtain ⟨draws, nodes, room, h⟩ := h
  refine ⟨draws, nodes + 1, room, fun r s rest complaint hs => ?_⟩
  have hwalk := h r _ rest complaint hs.visited.2
  simp only [bind, EStateM.bind, visit_ok hs.visited.1]
  rwa [show s.visited + (nodes + 1) = s.visited + 1 + nodes by omega]

lemma Exceeds.visit {walk : Resolver → Walk Supply α} (h : Exceeds walk) :
    Exceeds fun r => r.visit >>= fun _ => walk r := by
  obtain ⟨draws, nodes, room, h⟩ := h
  refine ⟨draws, nodes + 1, room, fun r s rest complaint hs => ?_⟩
  have hwalk := h r _ rest complaint hs.visited.2
  simp only [bind, EStateM.bind, visit_ok hs.visited.1]
  exact hwalk

/-- The draws for a fixture come before those for what it yields. -/
lemma Proceeds.forcing {recipe : Recipe} {v : Value} (hv : Gives recipe.force v) (name : String)
    {walk : Resolver → Value → Walk Supply α} (h : Proceeds fun r => walk r v) :
    Proceeds fun r => forcing name recipe.force >>= walk r := by
  obtain ⟨draws, room, hv⟩ := hv
  obtain ⟨draws', nodes, room', h⟩ := h
  refine ⟨draws ++ draws', nodes, max room room', fun r s rest complaint hs => ?_⟩
  rw [← Nat.zero_add nodes] at hs
  have hforce := hv s.world _ complaint hs.first.room hs.first.source
  simp only [bind, EStateM.bind, Resolver.forcing, hforce]
  exact h r { s with world := { s.world with source := .listed (draws' ++ rest) complaint } } rest
    complaint (hs.second (Nat.le_refl _) rfl rfl)

lemma Exceeds.forcing {recipe : Recipe} {v : Value} (hv : Gives recipe.force v) (name : String)
    {walk : Resolver → Value → Walk Supply α} (h : Exceeds fun r => walk r v) :
    Exceeds fun r => forcing name recipe.force >>= walk r := by
  obtain ⟨draws, room, hv⟩ := hv
  obtain ⟨draws', nodes, room', h⟩ := h
  refine ⟨draws ++ draws', nodes, max room room', fun r s rest complaint hs => ?_⟩
  rw [← Nat.zero_add nodes] at hs
  have hforce := hv s.world _ complaint hs.first.room hs.first.source
  simp only [bind, EStateM.bind, Resolver.forcing, hforce]
  exact h r { s with world := { s.world with source := .listed (draws' ++ rest) complaint } } rest
    complaint (hs.second (Nat.le_refl _) rfl rfl)

end Leading

/-! ### Walks over values as scripts build them -/

lemma isHelper_of_sound {limit depth : Nat} {name : String} {recipe : Recipe}
    (h : Sound limit (.fixture name recipe depth)) : recipe.isHelper ∧ recipe.Possible := by
  cases h with
  | scalar hscalar hpossible => exact ⟨Recipe.isHelper_of_isScalar hscalar, hpossible⟩
  | choice => exact ⟨rfl, trivial⟩
  | copies hrange => exact ⟨rfl, hrange⟩

lemma Sound.of_gives {limit depth : Nat} {name : String} {recipe : Recipe} {x : Value}
    (h : Sound limit (.fixture name recipe depth)) (hx : Gives recipe.force x) : Sound limit x := by
  obtain ⟨draws, room, hx⟩ := hx
  exact (h.of_force (hx ⟨.listed (draws ++ []) "", [], room⟩ [] "" (Nat.le_refl _) rfl)).1

/-- No walk over a value as scripts build them is stopped by anything but its
levels. -/
theorem proceeds_walk {limit : Nat} (levels : Nat) {v : Value} (hv : Sound limit v) :
    Proceeds fun r => r.walk Recipe.force levels v := by
  induction levels generalizing v with
  | zero => exact ⟨[], 0, 0, fun r s rest complaint _ => .exceeded⟩
  | succ levels ih =>
    have hleaf (data : Json) : Proceeds fun r => r.visit >>= fun _ => pure data :=
      (Proceeds.pure data).visit
    have hfixture {name recipe depth} (hv : Sound limit (.fixture name recipe depth)) :
        Proceeds fun r => r.walk Recipe.force (levels + 1) (.fixture name recipe depth) := by
      obtain ⟨hhelper, hpossible⟩ := isHelper_of_sound hv
      obtain ⟨x, hx⟩ := Recipe.exists_gives hhelper hpossible
      simp only [walk_fixture]
      exact (Proceeds.forcing hx name (ih (Sound.of_gives hv hx))).visit
    cases v with
    | array items =>
      cases hv with
      | array hitems =>
        have hwalk : Proceeds fun r => items.mapM (r.walk Recipe.force levels) :=
          Proceeds.mapM fun x hx => ih (hitems x hx)
        simp only [walk_array]
        exact (hwalk.both (.pure ()) fun data _ => Json.array data).visit
    | object members =>
      cases hv with
      | object hmembers =>
        have hmember (m : String × Value) (hm : m ∈ Bindings.sorted members) :
            Proceeds fun r => r.walk Recipe.force levels m.2 >>= fun data => pure (m.1, data) :=
          (ih (hmembers m (List.mem_mergeSort.mp hm))).both (.pure ()) fun data _ => (m.1, data)
        simp only [walk_object]
        exact ((Proceeds.mapM hmember).both (.pure ()) fun data _ => Json.object data).visit
    | fixture => exact hfixture hv
    | _ => exact hleaf _

/-- To whatever stands in a value as scripts build them there are draws that
lead a walk, and it has no level left there. -/
theorem exceeds_walk {limit k : Nat} {v u : Value} (h : Stands v k u) (hv : Sound limit v) :
    Exceeds fun r => r.walk Recipe.force k v := by
  induction h with
  | here => exact ⟨[], 0, 0, fun r s rest complaint _ => ⟨s, rfl⟩⟩
  | @item items x k u hx _ ih =>
    cases hv with
    | array hitems =>
      have hwalk : Exceeds fun r => items.mapM (r.walk Recipe.force k) :=
        Exceeds.mapM (fun y hy => proceeds_walk k (hitems y hy)) hx (ih (hitems x hx))
      simp only [walk_array]
      exact (hwalk.first _).visit
  | @member members m k u hm _ ih =>
    cases hv with
    | object hmembers =>
      have hmember (m : String × Value) (hm : m ∈ Bindings.sorted members) :
          Proceeds fun r => r.walk Recipe.force k m.2 >>= fun data => pure (m.1, data) :=
        (proceeds_walk k (hmembers m (List.mem_mergeSort.mp hm))).both (.pure ())
          fun data _ => (m.1, data)
      have hdeep : Exceeds fun r => r.walk Recipe.force k m.2 >>= fun data => pure (m.1, data) :=
        (ih (hmembers m hm)).first _
      simp only [walk_object]
      exact ((Exceeds.mapM hmember (List.mem_mergeSort.mpr hm) hdeep).first _).visit
  | drawn hx _ ih =>
    -- what was drawn once is drawn again
    have hgives := Recipe.gives_of_force (isHelper_of_sound hv).1 hx
    simp only [walk_fixture]
    exact (Exceeds.forcing hgives _ (ih (hv.of_force hx).1)).visit

/-- A walk can run out of levels just when something stands as deep. -/
theorem depthExceeded_iff {limit depth : Nat} {v : Value} (hv : Sound limit v) :
    (∃ nodes d supply supply', (Resolver.mk depth nodes).resolve Recipe.force v supply
      = .error (.refused (.depthExceeded d)) supply') ↔ ∃ u, Stands v (depth + 1) u := by
  constructor
  · rintro ⟨nodes, d, supply, supply', h⟩
    rw [resolve] at h
    split at h
    · cases h
    · next hwalk =>
      cases h
      exact stands_of_walk_depthExceeded hwalk
  · rintro ⟨u, hu⟩
    obtain ⟨draws, nodes, room, h⟩ := exceeds_walk hu hv
    obtain ⟨s, hs⟩ := h ⟨depth, nodes⟩ ⟨0, ⟨.listed (draws ++ []) "", [], room⟩⟩ [] ""
      ⟨Nat.le_of_eq (Nat.zero_add nodes), Nat.le_refl room, rfl⟩
    refine ⟨nodes, depth, ⟨.listed (draws ++ []) "", [], room⟩, s.world, ?_⟩
    rw [resolve]
    simp only [hs]

end Resolver

end MockupStudio.Script
