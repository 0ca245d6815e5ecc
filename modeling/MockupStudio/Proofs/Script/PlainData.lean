/-
Plain data, taken as a script's value and expanded again.

* `Json.depth`, `Json.size`: how deep data goes and of how many values it is
  made; `Json.Plain`: data as texts of JSON have it;
* `Resolver.Walked`: how a walk that forces nothing ends, by whether it has the
  levels it needs and by how many values there are to visit; kept by visits
  (`Walked.visit`) and by going through a list (`Walked.mapM`);
* `Resolver.walked_ofJson`: the walk over the value of plain data is such;
* `Resolver.resolve_ofJson`: plain data comes back as it is, if it is within
  both limits, and is refused for one that it is not within if it is not.
-/
import MockupStudio.Proofs.Script.Expansion
import Mathlib

namespace MockupStudio

namespace Json

/-! ### Measures of data -/

mutual

/-- The depth of the deepest value in data, the data itself being at depth
zero. -/
def depth : Json → Nat
  | array items => depthOfItems items
  | object members => depthOfMembers members
  | _ => 0

/-- The depth of the deepest value below an array. -/
def depthOfItems : List Json → Nat
  | [] => 0
  | item :: items => max (depth item + 1) (depthOfItems items)

/-- The depth of the deepest value below an object. -/
def depthOfMembers : List (String × Json) → Nat
  | [] => 0
  | (_, item) :: members => max (depth item + 1) (depthOfMembers members)

end

mutual

/-- Of how many values data is made, the data itself being one. -/
def size : Json → Nat
  | array items => sizeOfItems items + 1
  | object members => sizeOfMembers members + 1
  | _ => 1

/-- Of how many values the items of an array are made. -/
def sizeOfItems : List Json → Nat
  | [] => 0
  | item :: items => size item + sizeOfItems items

/-- Of how many values the members of an object are made. -/
def sizeOfMembers : List (String × Json) → Nat
  | [] => 0
  | (_, item) :: members => size item + sizeOfMembers members

end

/-- Data as texts of JSON have it: integers of 64 bits with a sign, floats that
are finite, and objects with their members in the order of their keys, each key
once. -/
inductive Plain : Json → Prop where
  | null : Plain null
  | bool {b : Bool} : Plain (bool b)
  | int {n : Int} (h : Decimal.fitsInt64 n) : Plain (int n)
  | float {x : Float} (h : x.isFinite) : Plain (float x)
  | text {s : String} : Plain (text s)
  | array {items : List Json} (h : ∀ item ∈ items, Plain item) : Plain (array items)
  | object {members : List (String × Json)} (hkeys : members.Pairwise fun m n => m.1 < n.1)
      (h : ∀ m ∈ members, Plain m.2) : Plain (object members)

lemma depthOfItems_le_iff {items : List Json} {n : Nat} :
    depthOfItems items ≤ n ↔ ∀ item ∈ items, depth item < n := by
  induction items with
  | nil => simp [depthOfItems]
  | cons item items ih => simp [depthOfItems, ih]

lemma depthOfMembers_le_iff {members : List (String × Json)} {n : Nat} :
    depthOfMembers members ≤ n ↔ ∀ m ∈ members, depth m.2 < n := by
  induction members with
  | nil => simp [depthOfMembers]
  | cons m members ih => simp [depthOfMembers, ih]

lemma sizeOfItems_eq (items : List Json) : sizeOfItems items = (items.map size).sum := by
  induction items with
  | nil => rfl
  | cons item items ih => rw [sizeOfItems, ih, List.map_cons, List.sum_cons]

lemma sizeOfMembers_eq (members : List (String × Json)) :
    sizeOfMembers members = (members.map fun m => size m.2).sum := by
  induction members with
  | nil => rfl
  | cons m members ih => rw [sizeOfMembers, ih, List.map_cons, List.sum_cons]

end Json

namespace Script

/-! ### Data as a value -/

lemma Value.ofItems_eq (items : List Json) : Value.ofItems items = items.map Value.ofJson := by
  induction items with
  | nil => rfl
  | cons item items ih => rw [Value.ofItems, ih, List.map_cons]

lemma Value.ofMembers_eq (members : List (String × Json)) :
    Value.ofMembers members = members.map fun m => (m.1, Value.ofJson m.2) := by
  induction members with
  | nil => rfl
  | cons m members ih => rw [Value.ofMembers, ih, List.map_cons]

/-- Members in the order of their keys need no sorting. -/
lemma sorted_ofMembers {members : List (String × Json)}
    (h : members.Pairwise fun m n => m.1 < n.1) :
    Bindings.sorted (Value.ofMembers members) = Value.ofMembers members := by
  rw [Value.ofMembers_eq]
  refine List.mergeSort_of_pairwise (List.pairwise_map.mpr (h.imp fun hlt => ?_))
  exact decide_eq_true (Std.le_of_not_ge fun hge => hge hlt)

/-- An integer of 64 bits is taken as it is. -/
lemma toInt_ofInt_of_fits {n : Int} (h : Decimal.fitsInt64 n) : (Int64.ofInt n).toInt = n := by
  rw [Decimal.fitsInt64, Bool.and_eq_true, decide_eq_true_eq, decide_eq_true_eq] at h
  exact Int64.toInt_ofInt_of_le h.1 h.2

namespace Resolver

variable {σ α β : Type} {r : Resolver} {fits fits' : Prop} {size size' : Nat} {data : α}
  {data' : β} {s : WalkState σ}

/-! ### How a walk that forces nothing ends -/

/-- A walk that forces nothing gives some data if it has the levels it needs
and may visit as many values as there are; if not, it is refused for one of the
two. -/
inductive Walked (r : Resolver) (fits : Prop) (size : Nat) (data : α) (s : WalkState σ) :
    EStateM.Result WalkStop (WalkState σ) α → Prop where
  | ended : fits → s.visited + size ≤ r.maxNodes →
      Walked r fits size data s (.ok data { s with visited := s.visited + size })
  | tooDeep {s' : WalkState σ} : ¬ fits → s'.world = s.world →
      Walked r fits size data s (.error (.refused (.depthExceeded r.maxDepth)) s')
  | tooMany {s' : WalkState σ} : r.maxNodes < s.visited + size → s'.world = s.world →
      Walked r fits size data s (.error (.refused (.tooLarge r.maxNodes)) s')

lemma Walked.congr {result : EStateM.Result WalkStop (WalkState σ) α}
    (h : Walked r fits size data s result) (hfits : fits ↔ fits') (hsize : size = size') :
    Walked r fits' size' data s result := by
  rwa [← propext hfits, ← hsize]

lemma walked_pure (hvisited : s.visited ≤ r.maxNodes) (a : α) :
    Walked r True 0 a s ((pure a : Walk σ α) s) := .ended trivial hvisited

/-- A visited value is counted. -/
lemma walked_visit (s : WalkState σ) : Walked r True 1 () s (r.visit s) := by
  rw [visit]
  split
  · next h => exact .tooMany h rfl
  · next h => exact .ended trivial (Nat.not_lt.mp h)

/-- One walk after the other. -/
lemma Walked.bind {walk : Walk σ α} {walk' : α → Walk σ β}
    (h : Walked r fits size data s (walk s))
    (h' : ∀ s : WalkState σ, s.visited ≤ r.maxNodes → Walked r fits' size' data' s (walk' data s)) :
    Walked r (fits ∧ fits') (size + size') data' s ((walk >>= walk') s) := by
  simp only [Bind.bind, EStateM.bind]
  generalize walk s = result at h
  cases h with
  | tooDeep hfits hworld => exact .tooDeep (fun hboth => hfits hboth.1) hworld
  | tooMany hnodes hworld => exact .tooMany (by omega) hworld
  | ended hfits hnodes =>
    have hrest := h' { s with visited := s.visited + size } hnodes
    simp only
    generalize walk' data _ = result at hrest
    cases hrest with
    | tooDeep hfits' hworld => exact .tooDeep (fun hboth => hfits' hboth.2) hworld
    | tooMany hnodes hworld => exact .tooMany (by simp only at hnodes; omega) hworld
    | ended hfits' hnodes =>
      simp only [Nat.add_assoc] at hnodes ⊢
      exact .ended ⟨hfits, hfits'⟩ hnodes

/-- What is made of the data afterwards. -/
lemma Walked.map {walk : Walk σ α} (h : Walked r fits size data s (walk s)) (f : α → β) :
    Walked r fits size (f data) s ((walk >>= fun a => pure (f a)) s) :=
  (h.bind fun _ hvisited => walked_pure hvisited (f data)).congr (iff_of_eq (and_true fits)) rfl

/-- A list is gone through, until a walk is refused. -/
lemma Walked.mapM {items : List α} {walk : α → Walk σ β} {fits : α → Prop} {size : α → Nat}
    {data : α → β} (h : ∀ item ∈ items, ∀ s : WalkState σ, s.visited ≤ r.maxNodes →
      Walked r (fits item) (size item) (data item) s (walk item s))
    (s : WalkState σ) (hvisited : s.visited ≤ r.maxNodes) :
    Walked r (∀ item ∈ items, fits item) (items.map size).sum (items.map data) s
      (items.mapM walk s) := by
  induction items generalizing s with
  | nil => exact (walked_pure hvisited []).congr (by simp) rfl
  | cons item items ih =>
    rw [List.forall_mem_cons] at h
    rw [List.mapM_cons, List.map_cons, List.map_cons, List.sum_cons, List.forall_mem_cons]
    exact (h.1 s hvisited).bind fun s hvisited => (ih h.2 s hvisited).map _

/-! ### The walk over plain data -/

/-- A value is visited before what is below it. -/
lemma walked_walk {walk : Walk σ α} {s : WalkState σ}
    (h : ∀ s : WalkState σ, s.visited ≤ r.maxNodes → Walked r fits size data s (walk s)) :
    Walked r fits (size + 1) data s ((r.visit >>= fun _ => walk) s) :=
  ((walked_visit s).bind h).congr (iff_of_eq (true_and fits)) (Nat.add_comm 1 size)

/-- Nothing is below a value that is no array and no object. -/
lemma walked_scalar (levels : Nat) (j : Json) (s : WalkState σ) :
    Walked r (0 < levels + 1) 1 j s ((r.visit >>= fun _ => pure j) s) :=
  (walked_walk fun _ hvisited => walked_pure hvisited j).congr (by simp) rfl

/-- The items of an array are walked one level deeper. -/
lemma walked_items (walk : Json → Walk σ Json) {levels : Nat} {items : List Json}
    (h : ∀ item ∈ items, ∀ s : WalkState σ, s.visited ≤ r.maxNodes →
      Walked r (item.depth < levels) item.size item s (walk item s)) (s : WalkState σ) :
    Walked r ((Json.array items).depth < levels + 1) (Json.array items).size (Json.array items) s
      ((r.visit >>= fun _ => items.mapM walk >>= fun data => pure (.array data)) s) := by
  have hwalked := walked_walk (s := s) fun s hvisited =>
    (Walked.mapM h s hvisited).map Json.array
  rw [List.map_id'] at hwalked
  refine hwalked.congr ?_ (by rw [Json.size, Json.sizeOfItems_eq])
  rw [Json.depth, Nat.lt_succ_iff, Json.depthOfItems_le_iff]

/-- The members of an object are walked one level deeper. -/
lemma walked_members (walk : Json → Walk σ Json) {levels : Nat}
    {members : List (String × Json)} (h : ∀ m ∈ members, ∀ s : WalkState σ, s.visited ≤ r.maxNodes →
      Walked r (m.2.depth < levels) m.2.size m.2 s (walk m.2 s)) (s : WalkState σ) :
    Walked r ((Json.object members).depth < levels + 1) (Json.object members).size
      (Json.object members) s
      ((r.visit >>= fun _ => (members.mapM fun m => walk m.2 >>= fun data => pure (m.1, data))
        >>= fun data => pure (.object data)) s) := by
  have hmember (m : String × Json) (hm : m ∈ members) (s : WalkState σ)
      (hvisited : s.visited ≤ r.maxNodes) : Walked r (m.2.depth < levels) m.2.size m s
        ((walk m.2 >>= fun data => pure (m.1, data)) s) :=
    (h m hm s hvisited).map fun data => (m.1, data)
  have hwalked := walked_walk (s := s) fun s hvisited =>
    (Walked.mapM hmember s hvisited).map Json.object
  rw [List.map_id'] at hwalked
  refine hwalked.congr ?_ (by rw [Json.size, Json.sizeOfMembers_eq])
  rw [Json.depth, Nat.lt_succ_iff, Json.depthOfMembers_le_iff]

/-- An integer of 64 bits is walked to itself. -/
lemma walk_int (force : Recipe → EStateM ForceFailure σ Value) (levels : Nat) {n : Int}
    (h : Decimal.fitsInt64 n) :
    r.walk force (levels + 1) (.ofJson (.int n)) = r.visit >>= fun _ => pure (.int n) := by
  have hwalk (n : Int64) : r.walk force (levels + 1) (.int n)
      = r.visit >>= fun _ => pure (.int n.toInt) := rfl
  rw [Value.ofJson, if_pos h, hwalk, toInt_ofInt_of_fits h]

/-- A finite float is walked to itself. -/
lemma walk_float (force : Recipe → EStateM ForceFailure σ Value) (levels : Nat) {x : Float}
    (h : x.isFinite) :
    r.walk force (levels + 1) (.ofJson (.float x)) = r.visit >>= fun _ => pure (.float x) := by
  have hwalk : r.walk force (levels + 1) (.float x)
      = r.visit >>= fun _ => pure (if x.isFinite then .float x else .null) := rfl
  rw [Value.ofJson, hwalk, if_pos h]

/-- The walk over the value of plain data gives the data, if it has the levels
and may visit the values that the data is made of. -/
lemma walked_ofJson (force : Recipe → EStateM ForceFailure σ Value) {j : Json} (hj : j.Plain)
    (levels : Nat) (s : WalkState σ) :
    Walked r (j.depth < levels) j.size j s (r.walk force levels (.ofJson j) s) := by
  induction levels generalizing j s with
  | zero => exact .tooDeep (Nat.not_lt_zero _) rfl
  | succ levels ih =>
    let below (j : Json) : Walk σ Json := r.walk force levels (.ofJson j)
    cases hj with
    | null | bool | text => exact walked_scalar levels _ s
    | int h =>
      rw [walk_int force levels h]
      exact walked_scalar levels _ s
    | float h =>
      rw [walk_float force levels h]
      exact walked_scalar levels _ s
    | array h =>
      rw [Value.ofJson, Value.ofItems_eq, walk_array, List.mapM_map]
      exact walked_items below (fun item hitem s _ => ih (h item hitem) s) s
    | object hkeys h =>
      rw [Value.ofJson, walk_object, sorted_ofMembers hkeys, Value.ofMembers_eq, List.mapM_map]
      exact walked_members below (fun m hm s _ => ih (h m hm) s) s

/-- Plain data, taken as a value, is expanded to itself if its deepest value is
no deeper than the resolver walks and it is made of no more values than the
resolver visits. If not, it is refused for one of the two that it is not within.
Nothing is forced. -/
theorem resolve_ofJson (depth nodes : Nat) (force : Recipe → EStateM ForceFailure σ Value)
    {j : Json} (hj : j.Plain) (world : σ) :
    (j.depth ≤ depth ∧ j.size ≤ nodes →
        resolve ⟨depth, nodes⟩ force (.ofJson j) world = .ok j world)
      ∧ (¬ (j.depth ≤ depth ∧ j.size ≤ nodes) →
        depth < j.depth ∧ resolve ⟨depth, nodes⟩ force (.ofJson j) world
            = .error (.refused (.depthExceeded depth)) world
          ∨ nodes < j.size ∧ resolve ⟨depth, nodes⟩ force (.ofJson j) world
            = .error (.refused (.tooLarge nodes)) world) := by
  have hwalked := walked_ofJson (r := ⟨depth, nodes⟩) force hj (depth + 1) ⟨0, world⟩
  rw [resolve]
  simp only
  generalize walk ⟨depth, nodes⟩ force (depth + 1) (.ofJson j) ⟨0, world⟩ = result at hwalked
  cases hwalked with
  | ended hdepth hsize =>
    rw [Nat.zero_add] at hsize
    exact ⟨fun _ => rfl, fun h => absurd ⟨Nat.le_of_lt_succ hdepth, hsize⟩ h⟩
  | @tooDeep s' hdepth hworld =>
    rw [Nat.lt_succ_iff] at hdepth
    refine ⟨fun h => absurd h.1 hdepth, fun _ => .inl ⟨Nat.lt_of_not_le hdepth, ?_⟩⟩
    exact congrArg (EStateM.Result.error _) hworld
  | @tooMany s' hsize hworld =>
    rw [Nat.zero_add] at hsize
    refine ⟨fun h => absurd h.2 (Nat.not_le.mpr hsize), fun _ => .inr ⟨hsize, ?_⟩⟩
    exact congrArg (EStateM.Result.error _) hworld

/-- `{"count": 3, "nested": {"deep": [1, [2, [3]]]}, "ratio": 0.25,
"tags": ["a", "b", null, true]}`. -/
def nestedSample : Json :=
  .object [("count", .int 3),
    ("nested", .object [("deep", .array [.int 1, .array [.int 2, .array [.int 3]]])]),
    ("ratio", .float 0.25), ("tags", .array [.text "a", .text "b", .null, .bool true])]

lemma plain_nestedSample : nestedSample.Plain := by
  have hdeep : (Json.array [.int 1, .array [.int 2, .array [.int 3]]]).Plain :=
    .array (List.forall_mem_cons.mpr ⟨.int (by decide), List.forall_mem_singleton.mpr
      (.array (List.forall_mem_cons.mpr ⟨.int (by decide), List.forall_mem_singleton.mpr
        (.array (List.forall_mem_singleton.mpr (.int (by decide))))⟩))⟩)
  have htags : (Json.array [.text "a", .text "b", .null, .bool true]).Plain := by
    refine .array ?_
    simp only [List.forall_mem_cons]
    exact ⟨.text, .text, .null, .bool, List.forall_mem_nil _⟩
  refine .object (by decide) ?_
  simp only [List.forall_mem_cons]
  exact ⟨.int (by decide), .object (List.pairwise_singleton _ _)
    (List.forall_mem_singleton.mpr hdeep), .float (by decide), htags, List.forall_mem_nil _⟩

/-- Six levels and fifteen values are just enough for it. -/
theorem resolve_nestedSample :
    let force (_ : Recipe) : EStateM ForceFailure Unit Value := throw (.failed "")
    nestedSample.Plain
      ∧ resolve ⟨5, 15⟩ force (.ofJson nestedSample) () = .ok nestedSample ()
      ∧ resolve ⟨4, 15⟩ force (.ofJson nestedSample) ()
        = .error (.refused (.depthExceeded 4)) ()
      ∧ resolve ⟨5, 14⟩ force (.ofJson nestedSample) ()
        = .error (.refused (.tooLarge 14)) () := by
  intro force
  have hplain := plain_nestedSample
  have hdepth : nestedSample.depth = 5 := rfl
  have hsize : nestedSample.size = 15 := rfl
  refine ⟨hplain, (resolve_ofJson 5 15 force hplain ()).1 (by omega), ?_, ?_⟩
  · obtain ⟨-, hresult⟩ | ⟨hnodes, -⟩ := (resolve_ofJson 4 15 force hplain ()).2 (by omega)
    · exact hresult
    · omega
  · obtain ⟨hlevels, -⟩ | ⟨-, hresult⟩ := (resolve_ofJson 5 14 force hplain ()).2 (by omega)
    · omega
    · exact hresult

end Resolver

end Script

end MockupStudio
