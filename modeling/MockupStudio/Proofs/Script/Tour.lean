/-
The order in which an expansion visits values.

* `Place`, `Value.parts`: where values stand within a value, and what comes next
  to a place from left to right;
* `Visit`, `Tour`: a visited value and what became of it; the visits that an
  expansion makes, why it stops and the world it leaves;
* `Resolver.Tours`: going through a to-do list, the parts of what is visited
  being put in front of what is left;
* `Tours.ascending`, `Tours.reached`, `Tours.accounts`: the visits are made in
  the order of the places, of the value and of parts of visited ones, and none is
  passed over;
* `Replay`: what the forces of the visited fixtures leave;
* `Tours.stopsFor`: a tour stops for a limit that is passed, or at the first
  fixture that yields nothing.
-/
import MockupStudio.Script.Resolver
import Mathlib

namespace MockupStudio.Script

/-! ### Places -/

/-- A place within a value: which part, which part of that one, and so on. The
order is the lexicographic one, so a place comes before those below it and those
to the right of it. -/
abbrev Place := List Nat

/-- Whatever is at or below the one place comes before whatever is at or below
the other. -/
def Place.Ahead (p q : Place) : Prop := ∀ a b : Place, p ++ a < q ++ b

lemma Place.lt_below (p : Place) (i : Nat) (a : Place) : p < p ++ i :: a := by
  have hlt : p ++ [] < p ++ i :: a := List.append_left_lt (List.nil_lt_cons i a)
  rwa [List.append_nil] at hlt

lemma Place.ahead_of_lt (p : Place) {i j : Nat} (h : i < j) : Ahead (p ++ [i]) (p ++ [j]) := by
  intro a b
  rw [List.append_assoc, List.append_assoc]
  exact List.append_left_lt (List.cons_lt_cons_iff.mpr (.inl h))

lemma Place.Ahead.below {p q : Place} (h : Ahead p q) (i : Nat) : Ahead (p ++ [i]) q := by
  intro a b
  rw [List.append_assoc]
  exact h _ b

lemma Place.Ahead.lt {p q : Place} (h : Ahead p q) (b : Place) : p < q ++ b := by
  have hlt := h [] b
  rwa [List.append_nil] at hlt

/-! ### Parts -/

/-- The parts of a value from left to right: the items of an array, and the
members of an object in ascending order of their keys. -/
def Value.parts : Value → List Value
  | .array items => items
  | .object members => (Bindings.sorted members).map (·.2)
  | _ => []

/-- The parts at a place, each with its own. -/
def placed (p : Place) (parts : List Value) : List (Place × Value) :=
  parts.zipIdx.map fun part => (p ++ [part.2], part.1)

lemma mem_placed_iff {p : Place} {parts : List Value} {item : Place × Value} :
    item ∈ placed p parts ↔ ∃ i, item.1 = p ++ [i] ∧ parts[i]? = some item.2 := by
  rw [placed, List.mem_map]
  constructor
  · rintro ⟨⟨v, i⟩, hmem, rfl⟩
    exact ⟨i, rfl, List.mem_zipIdx_iff_getElem?.mp hmem⟩
  · rintro ⟨i, hplace, hpart⟩
    exact ⟨(item.2, i), List.mem_zipIdx_iff_getElem?.mpr hpart, Prod.ext hplace.symm rfl⟩

/-- Parts stand from left to right. -/
lemma pairwise_placed (p : Place) (parts : List Value) :
    (placed p parts).Pairwise fun x y => x.1.Ahead y.1 := by
  have hindices : (parts.zipIdx.map Prod.snd).Pairwise (· < ·) := by
    rw [List.zipIdx_map_snd]
    exact List.pairwise_lt_range' 1
  exact List.pairwise_map.mpr ((List.pairwise_map.mp hindices).imp (Place.ahead_of_lt p))

/-- Put in front of what is to the right of their place, the parts keep it so. -/
lemma pairwise_placed_append {p : Place} {v : Value} {rest : List (Place × Value)}
    (h : ((p, v) :: rest).Pairwise fun x y => x.1.Ahead y.1) (parts : List Value) :
    (placed p parts ++ rest).Pairwise fun x y => x.1.Ahead y.1 := by
  obtain ⟨hfirst, hrest⟩ := List.pairwise_cons.mp h
  refine List.pairwise_append.mpr ⟨pairwise_placed p parts, hrest, fun x hx y hy => ?_⟩
  obtain ⟨i, hplace, -⟩ := mem_placed_iff.mp hx
  rw [hplace]
  exact (hfirst y hy).below i

/-- All of it comes after their place. -/
lemma lt_of_mem_placed_append {p : Place} {v : Value} {rest : List (Place × Value)}
    (h : ((p, v) :: rest).Pairwise fun x y => x.1.Ahead y.1) {parts : List Value}
    {item : Place × Value} (hitem : item ∈ placed p parts ++ rest) (a : Place) :
    p < item.1 ++ a := by
  obtain hpart | hrest := List.mem_append.mp hitem
  · obtain ⟨i, hplace, -⟩ := mem_placed_iff.mp hpart
    rw [hplace, List.append_assoc]
    exact p.lt_below i a
  · exact ((List.pairwise_cons.mp h).1 item hrest).lt a

/-! ### Visits -/

/-- What became of a visited value. -/
inductive Fate where
  /-- It is no fixture. -/
  | plain
  /-- It is a fixture that yielded a value. -/
  | yielded (v : Value)
  /-- It is a fixture that yielded nothing. -/
  | failed (stop : WalkStop)
  /-- It was one value too many. -/
  | excess

/-- Whether there is more to visit. -/
def Fate.passed : Fate → Bool
  | plain | yielded _ => true
  | failed _ | excess => false

/-- Whether a fixture was forced. -/
def Fate.forced : Fate → Bool
  | yielded _ | failed _ => true
  | plain | excess => false

/-- A visited value. -/
structure Visit where
  place : Place
  value : Value
  fate : Fate

/-- What is to be visited next below a visited value. What a fixture yields is
its only part. -/
def Visit.parts (x : Visit) : List Value :=
  match x.fate with
  | .plain => x.value.parts
  | .yielded w => [w]
  | .failed _ | .excess => []

/-- The visits made, why they stop if they stop early, and the world they
leave. -/
structure Tour (σ : Type) where
  visits : List Visit
  stop : Option WalkStop
  world : σ

namespace Tour

variable {σ : Type}

/-- The same, some visits having been made before. -/
def following (t : Tour σ) (before : List Visit) : Tour σ := { t with visits := before ++ t.visits }

/-- How many fixtures are forced. -/
def forced (t : Tour σ) : Nat := t.visits.countP (·.fate.forced)

lemma following_following (t : Tour σ) (before after : List Visit) :
    (t.following after).following before = t.following (before ++ after) :=
  congrArg (fun visits => { t with visits }) (List.append_assoc before after t.visits).symm

lemma forced_following_le (t : Tour σ) (x : Visit) : (t.following [x]).forced ≤ t.forced + 1 := by
  rw [forced, following, List.singleton_append, List.countP_cons]
  split
  · rfl
  · exact Nat.le_succ _

/-- Whether a value at a place is visited, or the visits stop before its
place. -/
def Accounts (t : Tour σ) (item : Place × Value) : Prop :=
  (∃ x ∈ t.visits, x.place = item.1 ∧ x.value = item.2)
    ∨ t.stop.isSome ∧ ∀ x ∈ t.visits, x.place < item.1

lemma Accounts.following {t : Tour σ} {item : Place × Value} (h : t.Accounts item) {x : Visit}
    (hlt : x.place < item.1) : (t.following [x]).Accounts item := by
  obtain ⟨y, hy, hitem⟩ | ⟨hstop, hbefore⟩ := h
  · exact .inl ⟨y, List.mem_cons_of_mem x hy, hitem⟩
  · exact .inr ⟨hstop, List.forall_mem_cons.mpr ⟨hlt, hbefore⟩⟩

end Tour

section Tours

variable {σ : Type} {r : Resolver} {force : Recipe → EStateM ForceFailure σ Value}

/-- Why a walk stops when a fixture yields nothing. -/
def ForceFailure.stop (name : String) : ForceFailure → WalkStop
  | failed message => .refused (.fixture name message)
  | aborted complaint => .aborted complaint

/-- What visiting a value comes to. A fixture is forced. -/
def meet (force : Recipe → EStateM ForceFailure σ Value) (v : Value) (world : σ) : Fate × σ :=
  match v with
  | .fixture name recipe _ =>
    match force recipe world with
    | .ok w world => (.yielded w, world)
    | .error failure world => (.failed (failure.stop name), world)
  | _ => (.plain, world)

lemma exists_of_meet_failed {v : Value} {world world' : σ} {stop : WalkStop}
    (h : meet force v world = (.failed stop, world')) :
    ∃ name recipe depth failure, v = .fixture name recipe depth ∧ stop = failure.stop name
      ∧ force recipe world = .error failure world' := by
  unfold meet at h
  split at h
  · next name recipe depth =>
    split at h
    · cases h
    · next failure _ hforce =>
      cases h
      exact ⟨name, recipe, depth, failure, rfl, rfl, hforce⟩
  · cases h

/-- What visits come to, one after the other: the world at the start, the visits
and the world that is left. -/
inductive Replay (force : Recipe → EStateM ForceFailure σ Value) :
    σ → List Visit → σ → Prop where
  | nil : Replay force world [] world
  | excess : x.fate = .excess → Replay force world [x] world
  | cons : meet force x.value world = (x.fate, world') → Replay force world' xs world'' →
      Replay force world (x :: xs) world''

/-- Going through a to-do list with room for so many values. The first one is
visited, unless it is too deep, and its parts come before what is left to do. -/
inductive Resolver.Tours (r : Resolver) (force : Recipe → EStateM ForceFailure σ Value) :
    Nat → List (Place × Value) → σ → Tour σ → Prop where
  | ended : Tours r force room [] world ⟨[], none, world⟩
  | tooDeep : r.maxDepth < p.length → Tours r force room ((p, v) :: rest) world
      ⟨[], some (.refused (.depthExceeded r.maxDepth)), world⟩
  | tooMany : p.length ≤ r.maxDepth → Tours r force 0 ((p, v) :: rest) world
      ⟨[⟨p, v, .excess⟩], some (.refused (.tooLarge r.maxNodes)), world⟩
  | failed : p.length ≤ r.maxDepth → meet force v world = (.failed stop, world') →
      Tours r force (room + 1) ((p, v) :: rest) world ⟨[⟨p, v, .failed stop⟩], some stop, world'⟩
  | passed : p.length ≤ r.maxDepth → meet force v world = (fate, world') → fate.passed →
      Tours r force room (placed p (Visit.parts ⟨p, v, fate⟩) ++ rest) world' t →
      Tours r force (room + 1) ((p, v) :: rest) world (t.following [⟨p, v, fate⟩])

/-- The visits end with the force of a fixture that yields nothing, all fixtures
visited before having yielded something. -/
def EndsFailing (force : Recipe → EStateM ForceFailure σ Value) (world : σ) (t : Tour σ)
    (name : String) (failure : ForceFailure) : Prop :=
  ∃ before place recipe depth world', Replay force world before world'
    ∧ force recipe world' = .error failure t.world
    ∧ (∀ x ∈ before, x.fate.passed)
    ∧ t.visits = before ++ [⟨place, .fixture name recipe depth, .failed (failure.stop name)⟩]

lemma EndsFailing.following {world world' : σ} {t : Tour σ} {name : String}
    {failure : ForceFailure} (h : EndsFailing force world' t name failure) {x : Visit}
    (hmeet : meet force x.value world = (x.fate, world')) (hpassed : x.fate.passed) :
    EndsFailing force world (t.following [x]) name failure := by
  obtain ⟨before, place, recipe, depth, last, hreplay, hforce, hbefore, hvisits⟩ := h
  refine ⟨x :: before, place, recipe, depth, last, .cons hmeet hreplay, hforce,
    List.forall_mem_cons.mpr ⟨hpassed, hbefore⟩, ?_⟩
  rw [Tour.following, hvisits]
  rfl

/-- Why a tour stops early: something to do is too deep, there is no room for what
is visited last, or what is visited last is a fixture that yields nothing. -/
inductive Resolver.StopsFor (r : Resolver) (force : Recipe → EStateM ForceFailure σ Value)
    (room : Nat) (todo : List (Place × Value)) (world : σ) (t : Tour σ) : WalkStop → Prop where
  | tooDeep : r.maxDepth < item.1.length →
      (item ∈ todo ∨ ∃ y ∈ t.visits, item ∈ placed y.place y.parts) →
      StopsFor r force room todo world t (.refused (.depthExceeded r.maxDepth))
  | tooMany : t.visits.length = room + 1 →
      StopsFor r force room todo world t (.refused (.tooLarge r.maxNodes))
  | failed : EndsFailing force world t name (.failed message) →
      StopsFor r force room todo world t (.refused (.fixture name message))
  | aborted : EndsFailing force world t name (.aborted complaint) →
      StopsFor r force room todo world t (.aborted complaint)

namespace Resolver.Tours

variable {room : Nat} {todo : List (Place × Value)} {world : σ} {t : Tour σ}

/-! ### How much is visited -/

/-- One value at most is visited for which there is no room. -/
lemma length_le (h : r.Tours force room todo world t) : t.visits.length ≤ room + 1 := by
  induction h with
  | ended | tooDeep => exact Nat.zero_le _
  | tooMany | failed => exact Nat.le_add_left 1 _
  | passed _ _ _ _ ih => exact Nat.succ_le_succ ih

/-- No fixture is forced for which there is no room. -/
lemma forced_le (h : r.Tours force room todo world t) : t.forced ≤ room := by
  induction h with
  | ended | tooDeep | tooMany => exact Nat.zero_le _
  | failed => exact Nat.le_add_left 1 _
  | passed _ _ _ _ ih => exact (Tour.forced_following_le _ _).trans (Nat.succ_le_succ ih)

/-- Nothing too deep is visited. -/
lemma length_place_le (h : r.Tours force room todo world t) :
    ∀ x ∈ t.visits, x.place.length ≤ r.maxDepth := by
  induction h with
  | ended | tooDeep => exact List.forall_mem_nil _
  | tooMany hp | failed hp => exact List.forall_mem_singleton.mpr hp
  | passed hp _ _ _ ih => exact List.forall_mem_cons.mpr ⟨hp, ih⟩

/-! ### The order of visits -/

/-- The first thing to do is visited first, unless it is too deep. -/
lemma exists_cons {p : Place} {v : Value} {rest : List (Place × Value)}
    (h : r.Tours force room ((p, v) :: rest) world t) (hp : p.length ≤ r.maxDepth) :
    ∃ fate after, t.visits = ⟨p, v, fate⟩ :: after := by
  cases h with
  | tooDeep hdeep => exact absurd hp (Nat.not_le.mpr hdeep)
  | tooMany | failed | passed => exact ⟨_, _, rfl⟩

/-- What is visited is to do or below something to do. -/
lemma exists_prefix (h : r.Tours force room todo world t) :
    ∀ x ∈ t.visits, ∃ item ∈ todo, ∃ a, x.place = item.1 ++ a := by
  induction h with
  | ended | tooDeep => exact List.forall_mem_nil _
  | tooMany | failed =>
    exact List.forall_mem_singleton.mpr ⟨_, List.mem_cons_self, [], (List.append_nil _).symm⟩
  | passed _ _ _ _ ih =>
    refine List.forall_mem_cons.mpr
      ⟨⟨_, List.mem_cons_self, [], (List.append_nil _).symm⟩, fun x hx => ?_⟩
    obtain ⟨item, hitem, a, hplace⟩ := ih x hx
    obtain hpart | hrest := List.mem_append.mp hitem
    · obtain ⟨i, hi, -⟩ := mem_placed_iff.mp hpart
      refine ⟨_, List.mem_cons_self, i :: a, ?_⟩
      rw [hplace, hi, List.append_assoc, List.singleton_append]
    · exact ⟨item, List.mem_cons_of_mem _ hrest, a, hplace⟩

/-- What is visited after a value comes after it. -/
lemma lt_of_mem {p : Place} {v : Value} {parts : List Value} {rest : List (Place × Value)}
    (h : r.Tours force room (placed p parts ++ rest) world t)
    (htodo : ((p, v) :: rest).Pairwise fun x y => x.1.Ahead y.1) :
    ∀ x ∈ t.visits, p < x.place := by
  intro x hx
  obtain ⟨item, hitem, a, hplace⟩ := h.exists_prefix x hx
  rw [hplace]
  exact lt_of_mem_placed_append htodo hitem a

/-- Visits are made in the order of the places. -/
lemma ascending (h : r.Tours force room todo world t)
    (htodo : todo.Pairwise fun x y => x.1.Ahead y.1) :
    t.visits.Pairwise fun x y => x.place < y.place := by
  induction h with
  | ended | tooDeep => exact .nil
  | tooMany | failed => exact List.pairwise_singleton _ _
  | passed _ _ _ hrest ih =>
    exact .cons (hrest.lt_of_mem htodo) (ih (pairwise_placed_append htodo _))

/-- What is visited is to do, or a part of something visited. -/
lemma reached (h : r.Tours force room todo world t) :
    ∀ x ∈ t.visits, (x.place, x.value) ∈ todo
      ∨ ∃ y ∈ t.visits, (x.place, x.value) ∈ placed y.place y.parts := by
  induction h with
  | ended | tooDeep => exact List.forall_mem_nil _
  | tooMany | failed => exact List.forall_mem_singleton.mpr (.inl List.mem_cons_self)
  | passed _ _ _ _ ih =>
    refine List.forall_mem_cons.mpr ⟨.inl List.mem_cons_self, fun x hx => ?_⟩
    obtain htodo | ⟨y, hy, hpart⟩ := ih x hx
    · obtain hpart | hrest := List.mem_append.mp htodo
      · exact .inr ⟨_, List.mem_cons_self, hpart⟩
      · exact .inl (List.mem_cons_of_mem _ hrest)
    · exact .inr ⟨y, List.mem_cons_of_mem _ hy, hpart⟩

/-- Nothing that is to do is passed over, and no part of a visited value is. -/
lemma accounts (h : r.Tours force room todo world t)
    (htodo : todo.Pairwise fun x y => x.1.Ahead y.1) :
    (∀ item ∈ todo, t.Accounts item)
      ∧ ∀ y ∈ t.visits, ∀ item ∈ placed y.place y.parts, t.Accounts item := by
  have hstopped {p : Place} {v : Value} {rest : List (Place × Value)} {x : Visit}
      {stop : WalkStop} {world : σ} (hx : x.place = p ∧ x.value = v)
      (htodo : ((p, v) :: rest).Pairwise fun x y => x.1.Ahead y.1) :
      ∀ item ∈ (p, v) :: rest, Tour.Accounts ⟨[x], some stop, world⟩ item := by
    refine List.forall_mem_cons.mpr ⟨.inl ⟨x, List.mem_cons_self, hx⟩, fun item hitem => ?_⟩
    have hlt := ((List.pairwise_cons.mp htodo).1 item hitem).lt []
    rw [List.append_nil] at hlt
    exact .inr ⟨rfl, List.forall_mem_singleton.mpr (hx.1 ▸ hlt)⟩
  induction h with
  | ended => exact ⟨List.forall_mem_nil _, List.forall_mem_nil _⟩
  | tooDeep =>
    exact ⟨fun _ _ => .inr ⟨rfl, List.forall_mem_nil _⟩, List.forall_mem_nil _⟩
  | tooMany | failed =>
    exact ⟨hstopped ⟨rfl, rfl⟩ htodo, List.forall_mem_singleton.mpr (List.forall_mem_nil _)⟩
  | @passed v _ fate _ _ p rest t _ _ _ hrest ih =>
    obtain ⟨hdone, hparts⟩ := ih (pairwise_placed_append htodo _)
    -- Whatever is accounted for later comes after the visited value.
    have hlater (item : Place × Value)
        (hitem : item ∈ placed p (Visit.parts ⟨p, v, fate⟩) ++ rest) :
        (t.following [⟨p, v, fate⟩]).Accounts item := by
      have hlt := lt_of_mem_placed_append htodo hitem []
      rw [List.append_nil] at hlt
      exact (hdone item hitem).following hlt
    refine ⟨List.forall_mem_cons.mpr ⟨.inl ⟨_, List.mem_cons_self, rfl, rfl⟩, fun item hitem =>
      hlater item (List.mem_append_right _ hitem)⟩, List.forall_mem_cons.mpr ⟨fun item hitem =>
      hlater item (List.mem_append_left _ hitem), fun y hy item hitem => ?_⟩⟩
    obtain ⟨i, hplace, -⟩ := mem_placed_iff.mp hitem
    refine (hparts y hy item hitem).following ?_
    rw [hplace]
    exact List.lt_trans (hrest.lt_of_mem htodo y hy) (y.place.lt_below i [])

/-! ### Forces -/

/-- The world left is what the forces leave. -/
lemma replay (h : r.Tours force room todo world t) : Replay force world t.visits t.world := by
  induction h with
  | ended | tooDeep => exact .nil
  | tooMany => exact .excess rfl
  | failed _ hmeet => exact .cons hmeet .nil
  | passed _ hmeet _ _ ih => exact .cons hmeet ih

/-- What a tour stops for. -/
lemma stopsFor {stop : WalkStop} (h : r.Tours force room todo world t)
    (hstop : t.stop = some stop) : r.StopsFor force room todo world t stop := by
  induction h with
  | ended => cases hstop
  | tooDeep hdeep =>
    cases hstop
    exact .tooDeep hdeep (.inl List.mem_cons_self)
  | tooMany =>
    cases hstop
    exact .tooMany rfl
  | @failed _ _ world' _ _ p _ _ hmeet =>
    obtain ⟨name, recipe, depth, failure, rfl, rfl, hforce⟩ := exists_of_meet_failed hmeet
    have hends : EndsFailing force _ ⟨[⟨p, .fixture name recipe depth, .failed (failure.stop name)⟩],
        some (failure.stop name), world'⟩ name failure :=
      ⟨[], p, recipe, depth, _, .nil, hforce, List.forall_mem_nil _, rfl⟩
    cases hstop
    cases failure with
    | failed => exact .failed hends
    | aborted => exact .aborted hends
  | @passed v _ fate _ _ p _ _ _ hmeet hpassed _ ih =>
    cases ih hstop with
    | tooDeep hdeep hitem =>
      refine .tooDeep hdeep ?_
      obtain htodo | ⟨y, hy, hpart⟩ := hitem
      · obtain hpart | hrest := List.mem_append.mp htodo
        · exact .inr ⟨⟨p, v, fate⟩, List.mem_cons_self, hpart⟩
        · exact .inl (List.mem_cons_of_mem _ hrest)
      · exact .inr ⟨y, List.mem_cons_of_mem _ hy, hpart⟩
    | tooMany hlength => exact .tooMany (congrArg Nat.succ hlength)
    | failed hends => exact .failed (hends.following hmeet hpassed)
    | aborted hends => exact .aborted (hends.following hmeet hpassed)

end Resolver.Tours

end Tours

end MockupStudio.Script
