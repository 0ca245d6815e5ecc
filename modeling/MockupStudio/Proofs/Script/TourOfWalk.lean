/-
An expansion is a tour of a value.

* `Resolver.Toured`: a walk that does what a tour does, from some number of
  visited values on; closed under sequences (`Toured.bind`), lists
  (`Toured.mapM`) and visits (`Toured.passed`, `toured_visit`);
* `Resolver.toured_walk`: the walk of a value is such;
* `Resolver.resolve_tour`: so an expansion visits values in the order of their
  places, within its limits, and stops at the first fixture that fails.
-/
import MockupStudio.Proofs.Script.PlainData
import MockupStudio.Proofs.Script.Tour
import MockupStudio.Proofs.Related

namespace MockupStudio.Script

namespace Resolver

variable {σ α β : Type} {r : Resolver} {force : Recipe → EStateM ForceFailure σ Value}

/-! ### Walks that are tours -/

/-- A walk that ends has made some visits, as a tour makes them before it goes on
with what is left to do, and its data satisfies a predicate with the number of
visits that forced nothing. A walk that stops does so as a tour does, whatever is
left to do. -/
inductive Toured (r : Resolver) (force : Recipe → EStateM ForceFailure σ Value) (room : Nat)
    (todo : List (Place × Value)) (P : α → Nat → Prop) (s : WalkState σ) :
    EStateM.Result WalkStop (WalkState σ) α → Prop where
  | ended (visits : List Visit) (room' : Nat) {n : Nat} {data : α} {s' : WalkState σ} :
      s'.visited = s.visited + visits.length → room = visits.length + room' → P data n →
      visits.length = n + visits.countP (·.fate.forced) →
      (∀ rest t, r.Tours force room' rest s'.world t →
        r.Tours force room (todo ++ rest) s.world (t.following visits)) →
      Toured r force room todo P s (.ok data s')
  | stopped (t : Tour σ) {stop : WalkStop} {s' : WalkState σ} :
      t.stop = some stop → t.world = s'.world → s'.visited = s.visited + t.visits.length →
      (∀ rest, r.Tours force room (todo ++ rest) s.world t) →
      Toured r force room todo P s (.error stop s')

section Closure

variable {room : Nat} {todo todo' : List (Place × Value)} {P : α → Nat → Prop}
  {Q : β → Nat → Prop} {s : WalkState σ}

lemma toured_pure (a : α) (h : P a 0) : Toured r force room [] P s ((pure a : Walk σ α) s) :=
  .ended [] room rfl (Nat.zero_add _).symm h rfl fun _ _ ht => ht

/-- One walk after the other. -/
lemma Toured.bind {walk : Walk σ α} {walk' : α → Walk σ β} (hroom : s.visited + room = r.maxNodes)
    (h : Toured r force room todo P s (walk s))
    (h' : ∀ a n s' room', P a n → s'.visited + room' = r.maxNodes →
      Toured r force room' todo' (fun b n' => Q b (n + n')) s' (walk' a s')) :
    Toured r force room (todo ++ todo') Q s ((walk >>= walk') s) := by
  simp only [Bind.bind, EStateM.bind]
  generalize walk s = result at h
  cases h with
  | stopped t hstop hworld hvisited htours =>
    refine .stopped t hstop hworld hvisited fun rest => ?_
    rw [List.append_assoc]
    exact htours _
  | @ended visits room' n a s' hvisited hused hP hcount htours =>
    -- the second walk has the room that the first one has left
    have hrest := h' a n s' room' hP (by omega)
    simp only
    generalize walk' a s' = result at hrest
    cases hrest with
    | stopped t hstop hworld hvisited' htours' =>
      refine .stopped (t.following visits) hstop hworld ?_ fun rest => ?_
      · rw [hvisited', hvisited, Tour.following, List.length_append, Nat.add_assoc]
      · rw [List.append_assoc]
        exact htours _ _ (htours' rest)
    | @ended visits' room'' n' _ _ hvisited' hused' hQ hcount' htours' =>
      refine .ended (visits ++ visits') room'' (n := n + n') ?_ ?_ hQ ?_ fun rest t ht => ?_
      · rw [hvisited', hvisited, List.length_append, Nat.add_assoc]
      · rw [hused, hused', List.length_append, Nat.add_assoc]
      · rw [List.length_append, List.countP_append]
        omega
      · rw [List.append_assoc, ← Tour.following_following]
        exact htours _ _ (htours' rest t ht)

/-- What is made of the data afterwards. -/
lemma Toured.map {walk : Walk σ α} (hroom : s.visited + room = r.maxNodes)
    (h : Toured r force room todo P s (walk s)) (f : α → β) (hf : ∀ a n, P a n → Q (f a) n) :
    Toured r force room todo Q s ((walk >>= fun a => pure (f a)) s) := by
  rw [← List.append_nil todo]
  exact h.bind hroom fun a n _ _ hP _ => toured_pure (f a) (hf a n hP)

/-- A list is gone through, until a walk stops. -/
lemma Toured.mapM {walk : α → Walk σ β} {size : β → Nat} {Good : β → Prop} {items : List α}
    (h : List.Forall₂ (fun a item => ∀ (s : WalkState σ) room, s.visited + room = r.maxNodes →
      Toured r force room [item] (fun b n => n = size b ∧ Good b) s (walk a s)) items todo)
    (s : WalkState σ) (room : Nat) (hroom : s.visited + room = r.maxNodes) :
    Toured r force room todo (fun bs n => n = (bs.map size).sum ∧ ∀ b ∈ bs, Good b) s
      (items.mapM walk s) := by
  induction h generalizing s room with
  | nil => exact toured_pure [] ⟨rfl, List.forall_mem_nil _⟩
  | cons hitem _ ih =>
    rw [List.mapM_cons]
    refine (hitem s room hroom).bind hroom fun b n s room hb hroom => ?_
    refine (ih s room hroom).map hroom (b :: ·) fun bs n' hbs => ?_
    rw [List.map_cons, List.sum_cons, hb.1, hbs.1]
    exact ⟨rfl, List.forall_mem_cons.mpr ⟨hb.2, hbs.2⟩⟩

end Closure

section Visits

variable {room levels : Nat} {p : Place} {v : Value} {s : WalkState σ}

/-- A value is visited before its parts. -/
lemma Toured.passed {fate : Fate} {world : σ} {P Q : α → Nat → Prop}
    {result : EStateM.Result WalkStop (WalkState σ) α} (hp : p.length ≤ r.maxDepth)
    (hmeet : meet force v s.world = (fate, world)) (hpassed : fate.passed)
    (h : Toured r force room (placed p (Visit.parts ⟨p, v, fate⟩)) P ⟨s.visited + 1, world⟩ result)
    (hQ : ∀ a n, P a n → Q a (if fate.forced then n else n + 1)) :
    Toured r force (room + 1) [(p, v)] Q s result := by
  cases h with
  | stopped t hstop hworld hvisited htours =>
    refine .stopped (t.following [⟨p, v, fate⟩]) hstop hworld ?_ fun rest =>
      .passed hp hmeet hpassed (htours rest)
    rw [hvisited, Tour.following, List.length_append, List.length_singleton, Nat.add_assoc]
  | @ended visits room' n a _ hvisited hused hP hcount htours =>
    refine .ended (⟨p, v, fate⟩ :: visits) room' ?_ ?_ (hQ a n hP) ?_ fun rest t ht =>
      .passed hp hmeet hpassed (htours rest t ht)
    · rw [hvisited, List.length_cons, Nat.add_assoc, Nat.add_comm 1]
    · rw [List.length_cons]
      omega
    · rw [List.length_cons, List.countP_cons]
      split
      · omega
      · omega

/-- A value is visited if there is room. -/
lemma toured_visit {walk : Walk σ α} {P : α → Nat → Prop} (hp : p.length ≤ r.maxDepth)
    (hroom : s.visited + room = r.maxNodes)
    (h : ∀ room', room = room' + 1 →
      Toured r force (room' + 1) [(p, v)] P s (walk ⟨s.visited + 1, s.world⟩)) :
    Toured r force room [(p, v)] P s ((r.visit >>= fun _ => walk) s) := by
  simp only [Bind.bind, EStateM.bind]
  cases room with
  | zero =>
    rw [visit_full (by omega)]
    exact .stopped _ rfl rfl rfl fun _ => .tooMany hp
  | succ room =>
    rw [visit_ok (by omega)]
    exact h room rfl

/-- Data that is made of so many values and goes less deep than so many
levels. -/
def FitsIn (levels : Nat) (data : Json) (n : Nat) : Prop := n = data.size ∧ data.depth < levels

/-- A value that is no fixture is visited, and then its parts. -/
lemma toured_plain {walk : Walk σ Json} (hp : p.length ≤ r.maxDepth)
    (hroom : s.visited + room = r.maxNodes) (hmeet : ∀ world, meet force v world = (.plain, world))
    (h : ∀ (s : WalkState σ) room, s.visited + room = r.maxNodes →
      Toured r force room (placed p v.parts) (fun data n => FitsIn levels data (n + 1)) s
        (walk s)) :
    Toured r force room [(p, v)] (FitsIn levels) s ((r.visit >>= fun _ => walk) s) :=
  toured_visit hp hroom fun _ hused =>
    .passed hp (hmeet s.world) rfl (h _ _ (by simp only; omega)) fun _ _ => id

/-- Nothing is visited after a value without parts. -/
lemma toured_leaf {data : Json} (hp : p.length ≤ r.maxDepth) (hroom : s.visited + room = r.maxNodes)
    (hmeet : ∀ world, meet force v world = (.plain, world)) (hparts : v.parts = [])
    (hsize : data.size = 1) (hdepth : data.depth = 0) :
    Toured r force room [(p, v)] (FitsIn (levels + 1)) s ((r.visit >>= fun _ => pure data) s) := by
  refine toured_plain hp hroom hmeet fun s room _ => ?_
  rw [hparts]
  exact toured_pure data ⟨hsize.symm, hdepth ▸ Nat.succ_pos levels⟩

/-- A fixture is visited and forced, and then what it yields. -/
lemma toured_fixture {walk : Value → Walk σ Json} {name : String} {recipe : Recipe} {depth : Nat}
    (hp : p.length ≤ r.maxDepth) (hroom : s.visited + room = r.maxNodes)
    (h : ∀ w (s : WalkState σ) room, s.visited + room = r.maxNodes →
      Toured r force room [(p ++ [0], w)] (FitsIn levels) s (walk w s)) :
    Toured r force room [(p, .fixture name recipe depth)] (FitsIn (levels + 1)) s
      ((r.visit >>= fun _ => forcing name (force recipe) >>= walk) s) := by
  refine toured_visit hp hroom fun room hused => ?_
  simp only [Bind.bind, EStateM.bind, forcing]
  cases hforce : force recipe s.world with
  | ok w world =>
    have hmeet : meet force (.fixture name recipe depth) s.world = (.yielded w, world) := by
      simp only [meet, hforce]
    have hyielded := h w ⟨s.visited + 1, world⟩ room (by simp only; omega)
    exact .passed hp hmeet rfl hyielded fun _ _ hdata => ⟨hdata.1, Nat.lt_succ_of_lt hdata.2⟩
  | error failure world =>
    have hmeet : meet force (.fixture name recipe depth) s.world
        = (.failed (failure.stop name), world) := by
      simp only [meet, hforce]
    cases failure with
    | failed | aborted => exact .stopped _ rfl rfl rfl fun _ => .failed hp hmeet

end Visits

/-- The parts at a place are gone through. -/
lemma toured_parts {walk : α → Walk σ β} {size : β → Nat} {Good : β → Prop} (p : Place)
    (f : α → Value) (items : List α)
    (h : ∀ a i (s : WalkState σ) room, s.visited + room = r.maxNodes →
      Toured r force room [(p ++ [i], f a)] (fun b n => n = size b ∧ Good b) s (walk a s))
    (s : WalkState σ) (room : Nat) (hroom : s.visited + room = r.maxNodes) :
    Toured r force room (placed p (items.map f))
      (fun bs n => n = (bs.map size).sum ∧ ∀ b ∈ bs, Good b) s (items.mapM walk s) := by
  refine Toured.mapM ?_ s room hroom
  -- an item and its entry of the to-do list come from one pair of item and index
  rw [placed, List.zipIdx_map, List.map_map]
  nth_rewrite 1 [← List.zipIdx_map_fst 0 items]
  rw [List.forall₂_map_left_iff, List.forall₂_map_right_iff, List.forall₂_same]
  exact fun item _ => h item.1 item.2

/-- The walk of a value at a place is a tour, which gives data of as many values
as visits forced nothing, and no deeper than there are levels. -/
theorem toured_walk (levels : Nat) (v : Value) {p : Place} (hp : p.length + levels = r.maxDepth + 1)
    (s : WalkState σ) (room : Nat) (hroom : s.visited + room = r.maxNodes) :
    Toured r force room [(p, v)] (FitsIn levels) s (r.walk force levels v s) := by
  induction levels generalizing v p s room with
  | zero => exact .stopped _ rfl rfl rfl fun _ => .tooDeep (by omega)
  | succ levels ih =>
    have hshallow : p.length ≤ r.maxDepth := by omega
    have hbelow (i : Nat) : (p ++ [i]).length + levels = r.maxDepth + 1 := by
      rw [List.length_append, List.length_singleton]
      omega
    cases v with
    | array items =>
      rw [walk_array]
      refine toured_plain hshallow hroom (fun _ => rfl) fun s room hroom => ?_
      have hitems := toured_parts p id items (fun item i => ih item (hbelow i)) s room hroom
      rw [List.map_id] at hitems
      refine hitems.map hroom Json.array fun data n hdata => ?_
      rw [FitsIn, Json.size, Json.depth, Json.sizeOfItems_eq, hdata.1, Nat.lt_succ_iff,
        Json.depthOfItems_le_iff]
      exact ⟨rfl, hdata.2⟩
    | object members =>
      rw [walk_object]
      refine toured_plain hshallow hroom (fun _ => rfl) fun s room hroom => ?_
      have hmember (m : String × Value) (i : Nat) (s : WalkState σ) (room : Nat)
          (hroom : s.visited + room = r.maxNodes) :
          Toured r force room [(p ++ [i], m.2)] (fun d n => FitsIn levels d.2 n) s
            ((r.walk force levels m.2 >>= fun data => pure (m.1, data)) s) :=
        (ih m.2 (hbelow i) s room hroom).map hroom _ fun _ _ => id
      have hmembers := toured_parts p Prod.snd (Bindings.sorted members) hmember s room hroom
      refine hmembers.map hroom Json.object fun data n hdata => ?_
      rw [FitsIn, Json.size, Json.depth, Json.sizeOfMembers_eq, hdata.1, Nat.lt_succ_iff,
        Json.depthOfMembers_le_iff]
      exact ⟨rfl, hdata.2⟩
    | fixture name recipe depth =>
      rw [walk_fixture]
      exact toured_fixture hshallow hroom fun w => ih w (hbelow 0)
    | float x =>
      refine toured_leaf hshallow hroom (fun _ => rfl) rfl ?_ ?_
      · split <;> rfl
      · split <;> rfl
    | _ => exact toured_leaf hshallow hroom (fun _ => rfl) rfl rfl rfl

/-! ### Expansions -/

/-- A tour of a value within the limits of a resolver. -/
structure IsTour (r : Resolver) (force : Recipe → EStateM ForceFailure σ Value) (v : Value)
    (world : σ) (t : Tour σ) : Prop where
  /-- At most one value is visited past the limit. -/
  length_le : t.visits.length ≤ r.maxNodes + 1
  forced_le : t.forced ≤ r.maxNodes
  /-- Nothing below the deepest level is visited. -/
  place_le : ∀ x ∈ t.visits, x.place.length ≤ r.maxDepth
  /-- The value itself is visited first. -/
  root : ∃ fate after, t.visits = ⟨[], v, fate⟩ :: after
  /-- The visits are made in the order of the places. -/
  ascending : t.visits.Pairwise fun x y => x.place < y.place
  /-- A visited value is the value itself or a part of a visited value. -/
  reached : ∀ x ∈ t.visits, x.place = [] ∧ x.value = v
    ∨ ∃ y ∈ t.visits, ∃ i, x.place = y.place ++ [i] ∧ y.parts[i]? = some x.value
  /-- A part of a visited value is visited, or the visits stop before its place. -/
  accounts : ∀ y ∈ t.visits, ∀ i w, y.parts[i]? = some w → t.Accounts (y.place ++ [i], w)
  /-- The world left is what the forces of the visited fixtures leave, one after
  the other. -/
  replay : Replay force world t.visits t.world
  /-- A tour that stops for its depth has come to a value with parts at the
  deepest level. -/
  tooDeep : ∀ limit, t.stop = some (.refused (.depthExceeded limit)) → limit = r.maxDepth
    ∧ ∃ y ∈ t.visits, y.place.length = r.maxDepth ∧ y.parts ≠ []
  /-- A tour that stops for its length has come to a value past the limit. -/
  tooMany : ∀ limit, t.stop = some (.refused (.tooLarge limit)) → limit = r.maxNodes
    ∧ t.visits.length = r.maxNodes + 1
  /-- A tour that stops for a fixture stops when this one fails, all visited
  before having yielded something. -/
  failed : ∀ name message, t.stop = some (.refused (.fixture name message)) →
    EndsFailing force world t name (.failed message)
  /-- A tour that breaks off does so when a fixture is forced. -/
  aborted : ∀ complaint, t.stop = some (.aborted complaint) →
    ∃ name, EndsFailing force world t name (.aborted complaint)

/-- Going through a value alone is a tour of it. -/
lemma Tours.isTour {v : Value} {world : σ} {t : Tour σ}
    (h : r.Tours force r.maxNodes [([], v)] world t) : r.IsTour force v world t where
  length_le := h.length_le
  forced_le := h.forced_le
  place_le := h.length_place_le
  root := h.exists_cons (Nat.zero_le _)
  ascending := h.ascending (List.pairwise_singleton _ _)
  reached := by
    intro x hx
    obtain htodo | ⟨y, hy, hpart⟩ := h.reached x hx
    · rw [List.mem_singleton, Prod.mk.injEq] at htodo
      exact .inl htodo
    · exact .inr ⟨y, hy, mem_placed_iff.mp hpart⟩
  accounts y hy i w hpart :=
    (h.accounts (List.pairwise_singleton _ _)).2 y hy _ (mem_placed_iff.mpr ⟨i, rfl, hpart⟩)
  replay := h.replay
  tooDeep := by
    intro limit hstop
    cases h.stopsFor hstop with
    | @tooDeep item hdeep hitem =>
      refine ⟨rfl, ?_⟩
      obtain htodo | ⟨y, hy, hpart⟩ := hitem
      · rw [List.mem_singleton.mp htodo] at hdeep
        exact absurd hdeep (Nat.not_lt_zero _)
      · obtain ⟨i, hplace, hi⟩ := mem_placed_iff.mp hpart
        rw [hplace, List.length_append, List.length_singleton] at hdeep
        refine ⟨y, hy, Nat.le_antisymm (h.length_place_le y hy) (Nat.le_of_lt_succ hdeep), ?_⟩
        exact List.ne_nil_of_mem (List.mem_of_getElem? hi)
  tooMany := by
    intro limit hstop
    cases h.stopsFor hstop with
    | tooMany hlength => exact ⟨rfl, hlength⟩
  failed := by
    intro name message hstop
    cases h.stopsFor hstop with
    | failed hends => exact hends
  aborted := by
    intro complaint hstop
    cases h.stopsFor hstop with
    | aborted hends => exact ⟨_, hends⟩

/-- An expansion is a tour of the value, whatever forcing does. It ends as the
tour does and leaves the same world, and the values that it has counted are the
visits of the tour. The world may well be a record of what was forced, so it is
the tour's fixtures that the expansion forces, in the tour's order. If it gives
data, the data is made of as many values as there were visits that forced
nothing, all within the limit, and goes no deeper than the limit. The parts of an
object are its members in ascending order of their keys. -/
theorem resolve_tour (r : Resolver) (force : Recipe → EStateM ForceFailure σ Value) (v : Value)
    (world : σ) :
    (∃ t, r.IsTour force v world t
      ∧ ((∃ data, t.stop = none
          ∧ r.walk force (r.maxDepth + 1) v ⟨0, world⟩ = .ok data ⟨t.visits.length, t.world⟩
          ∧ r.resolve force v world = .ok data t.world
          ∧ data.size + t.forced = t.visits.length
          ∧ data.size + t.forced ≤ r.maxNodes
          ∧ data.depth ≤ r.maxDepth)
        ∨ ∃ stop, t.stop = some stop
          ∧ r.walk force (r.maxDepth + 1) v ⟨0, world⟩ = .error stop ⟨t.visits.length, t.world⟩
          ∧ r.resolve force v world = .error stop t.world))
    ∧ ∀ members : Bindings Value, ∃ sorted : Bindings Value, sorted.Perm members
      ∧ (Bindings.keys sorted).Pairwise (· ≤ ·)
      ∧ (Value.object members).parts = sorted.map (·.2) := by
  refine ⟨?_, fun members => ⟨Bindings.sorted members, Bindings.perm_sorted members,
    Bindings.pairwise_keys_sorted members, rfl⟩⟩
  have hwalk : Toured r force r.maxNodes [([], v)] (FitsIn (r.maxDepth + 1)) ⟨0, world⟩
      (r.walk force (r.maxDepth + 1) v ⟨0, world⟩) :=
    toured_walk _ v (Nat.zero_add _) _ _ (Nat.zero_add _)
  unfold resolve
  generalize r.walk force (r.maxDepth + 1) v ⟨0, world⟩ = result at hwalk
  cases hwalk with
  | @ended visits room n data s hvisited hused hdata hcount htours =>
    have hended : r.Tours force r.maxNodes [([], v)] world ⟨visits ++ [], none, s.world⟩ :=
      htours [] _ .ended
    rw [List.append_nil] at hended
    obtain ⟨visited, world'⟩ := s
    obtain rfl : visited = visits.length := hvisited.trans (Nat.zero_add _)
    rw [hdata.1] at hcount
    have hlength : visits.length ≤ r.maxNodes := hused ▸ Nat.le_add_right _ room
    exact ⟨_, hended.isTour, .inl ⟨data, rfl, rfl, rfl, hcount.symm,
      hcount.symm.trans_le hlength, Nat.le_of_lt_succ hdata.2⟩⟩
  | @stopped t stop s hstop hworld hvisited htours =>
    obtain ⟨visited, world'⟩ := s
    obtain rfl : visited = t.visits.length := hvisited.trans (Nat.zero_add _)
    obtain rfl : t.world = world' := hworld
    exact ⟨t, (htours []).isTour, .inr ⟨stop, hstop, rfl, rfl⟩⟩

end Resolver

end MockupStudio.Script
