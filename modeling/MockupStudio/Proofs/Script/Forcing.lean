/-
What forcing a fixture can yield.

* `bind_ok_iff`, `bind_error_iff`: the two ways through a sequence of steps;
* `Recipe.isHelper`, `Recipe.isScalar`, `Recipe.Possible`: the recipes that
  helpers make, those among them that yield a text or a number, and those
  that have anything to yield;
* `Recipe.scalar_of_force`, `Recipe.choice_of_force`,
  `Recipe.copies_of_force`: what is yielded;
* `Gives`: some draws, put before any others, lead to a result;
* `Recipe.gives_of_force`: whatever a helper's fixture yields once, it yields
  again for draws that are given to it;
* `Recipe.exists_gives`: there are draws for which it yields something.
-/
import MockupStudio.Script.Library
import Mathlib.Tactic.Lemma

namespace MockupStudio.Script

/-! ### Sequences of steps -/

section Steps

variable {ε σ α β : Type} {x : EStateM ε σ α} {f : α → EStateM ε σ β} {s s' : σ}

lemma bind_ok_iff {b : β} :
    (x >>= f) s = .ok b s' ↔ ∃ a t, x s = .ok a t ∧ f a t = .ok b s' := by
  simp only [bind, EStateM.bind]
  split <;> grind

lemma bind_error_iff {e : ε} :
    (x >>= f) s = .error e s' ↔ x s = .error e s' ∨ ∃ a t, x s = .ok a t ∧ f a t = .error e s' := by
  simp only [bind, EStateM.bind]
  split <;> grind

lemma pure_ok_iff {a b : α} : (pure a : EStateM ε σ α) s = .ok b s' ↔ a = b ∧ s = s' := by
  simp [pure, EStateM.pure]

/-- A list of steps fails where one of them does. -/
lemma exists_of_mapM_error {γ : Type} {g : γ → EStateM ε σ α} {items : List γ} {e : ε}
    (h : items.mapM g s = .error e s') : ∃ item ∈ items, ∃ t, g item t = .error e s' := by
  induction items generalizing s with
  | nil => cases h
  | cons item items ih =>
    rw [List.mapM_cons, bind_error_iff] at h
    rcases h with h | ⟨_, _, -, h⟩
    · exact ⟨item, List.mem_cons_self, s, h⟩
    · rw [bind_error_iff] at h
      rcases h with h | ⟨_, _, -, h⟩
      · obtain ⟨other, hother, ht⟩ := ih h
        exact ⟨other, List.mem_cons_of_mem _ hother, ht⟩
      · cases h

end Steps

/-! ### What helpers yield -/

namespace Recipe

/-- Whether a helper makes such a fixture. -/
def isHelper : Recipe → Bool
  | firstName | lastName | fullName | between .. | digits _ | choice _ | copies .. => true
  | _ => false

/-- Whether a helper makes such a fixture and it yields a text or a number. -/
def isScalar : Recipe → Bool
  | firstName | lastName | fullName | between .. | digits _ => true
  | _ => false

/-- Whether there is anything for a fixture to yield. -/
def Possible : Recipe → Prop
  | between low high => low < high
  | copies low high _ => low ≤ high
  | _ => True

lemma isHelper_of_isScalar {recipe : Recipe} (h : recipe.isScalar) : recipe.isHelper := by
  cases recipe <;> first | rfl | cases h

variable {supply supply' : Supply} {v : Value}

lemma scalar_of_force {recipe : Recipe} (hr : recipe.isScalar)
    (h : recipe.force supply = .ok v supply') : (∃ s, v = .text s) ∨ ∃ n, v = .int n := by
  cases recipe with
  | firstName | lastName | digits =>
    obtain ⟨_, _, -, h⟩ := bind_ok_iff.mp h
    exact .inl ⟨_, (pure_ok_iff.mp h).1.symm⟩
  | fullName =>
    obtain ⟨_, _, -, h⟩ := bind_ok_iff.mp h
    obtain ⟨_, _, -, h⟩ := bind_ok_iff.mp h
    exact .inl ⟨_, (pure_ok_iff.mp h).1.symm⟩
  | between =>
    obtain ⟨_, _, -, h⟩ := bind_ok_iff.mp h
    exact .inr ⟨_, (pure_ok_iff.mp h).1.symm⟩
  | _ => cases hr

lemma choice_of_force {choices : List Value}
    (h : (choice choices).force supply = .ok v supply') : v ∈ choices ∨ v = .null := by
  obtain ⟨i, _, -, h⟩ := bind_ok_iff.mp h
  obtain ⟨rfl, -⟩ := pure_ok_iff.mp h
  by_cases hi : i.toNat < choices.length
  · simp [hi]
  · simp [hi]

lemma copies_of_force {low high : Nat} {template : Value}
    (h : (copies low high template).force supply = .ok v supply') :
    ∃ n, v = .array (List.replicate n template) := by
  have hrepeated {n : Nat} {supply : Supply} (h : repeated n template supply = .ok v supply') :
      ∃ n, v = .array (List.replicate n template) := by
    rw [repeated] at h
    split at h <;> cases h
    exact ⟨n, rfl⟩
  rw [force] at h
  split at h
  · exact hrepeated h
  · obtain ⟨n, _, -, h⟩ := bind_ok_iff.mp h
    exact hrepeated h

end Recipe

/-! ### Giving the draws -/

section Giving

variable {α β : Type}

/-- Some draws, put before any others, lead to a result where there is enough room,
and are used up. -/
def Gives (f : Force α) (a : α) : Prop :=
  ∃ (draws : List UInt64) (room : Nat), ∀ (supply : Supply) (rest : List UInt64)
    (complaint : String), room ≤ supply.room → supply.source = .listed (draws ++ rest) complaint →
      f supply = .ok a { supply with source := .listed rest complaint }

/-- Whatever comes out once comes out again for some draws. -/
def Replays (f : Force α) : Prop :=
  ∀ ⦃supply a supply'⦄, f supply = .ok a supply' → Gives f a

lemma Gives.pure (a : α) : Gives (pure a : Force α) a :=
  ⟨[], 0, fun supply rest complaint _ h => by
    rw [List.nil_append] at h
    rw [← h]
    rfl⟩

lemma Gives.bind {f : Force α} {g : α → Force β} {a : α} {b : β} (hf : Gives f a)
    (hg : Gives (g a) b) : Gives (f >>= g) b := by
  obtain ⟨draws, room, hf⟩ := hf
  obtain ⟨draws', room', hg⟩ := hg
  refine ⟨draws ++ draws', max room room', fun supply rest complaint hroom h => ?_⟩
  rw [List.append_assoc] at h
  have hfirst := hf supply _ complaint (Nat.le_trans (Nat.le_max_left ..) hroom) h
  have hsecond := hg { supply with source := .listed (draws' ++ rest) complaint } rest complaint
    (Nat.le_trans (Nat.le_max_right ..) hroom) rfl
  exact bind_ok_iff.mpr ⟨a, _, hfirst, hsecond⟩

/-- There are copies of a value where there is room for them. -/
lemma gives_repeated (n : Nat) (template : Value) :
    Gives (repeated n template) (.array (List.replicate n template)) := by
  refine ⟨[], n * valueBytes, fun supply rest complaint hroom h => ?_⟩
  rw [repeated, if_pos hroom, ← List.nil_append rest, ← h]

lemma replays_repeated (n : Nat) (template : Value) : Replays (repeated n template) := by
  intro supply v supply' h
  rw [repeated] at h
  split at h <;> cases h
  exact gives_repeated n template

lemma Replays.pure (a : α) : Replays (pure a : Force α) := by
  intro supply b supply' h
  obtain ⟨rfl, -⟩ := pure_ok_iff.mp h
  exact Gives.pure a

lemma Replays.throw (e : ForceFailure) : Replays (throw e : Force α) := by
  intro supply b supply' h
  cases h

lemma Replays.bind {f : Force α} {g : α → Force β} (hf : Replays f) (hg : ∀ a, Replays (g a)) :
    Replays (f >>= g) := by
  intro supply b supply' h
  obtain ⟨a, t, ha, hb⟩ := bind_ok_iff.mp h
  exact (hf ha).bind (hg a hb)

/-- Every bound lets some raw draw through, giving zero. -/
lemma exists_residue (bound : UInt64) : ∃ raw, residue? bound raw = some 0 := by
  by_cases h : bound = 0
  · exact ⟨0, by rw [h]; decide⟩
  · have hpos : 0 < bound := UInt64.pos_iff_ne_zero.mpr h
    have hle : threshold bound ≤ bound := UInt64.le_of_lt (UInt64.mod_lt _ hpos)
    exact ⟨bound, by rw [residue?, if_pos hle, UInt64.mod_self]⟩

lemma residue_of_seededBelow (bound : UInt64) (tries : Nat) (state : UInt64) :
    ∃ raw, residue? bound raw = some (Source.seededBelow bound tries state).1 := by
  induction tries generalizing state with
  | zero => exact exists_residue bound
  | succ tries ih =>
    rw [Source.seededBelow]
    cases h : residue? bound (mix (state + stride)) with
    | some n => exact ⟨_, h⟩
    | none => exact ih _

lemma residue_of_listedBelow {bound n : UInt64} {draws rest : List UInt64}
    (h : Source.listedBelow bound draws = some (n, rest)) : ∃ raw, residue? bound raw = some n := by
  induction draws with
  | nil => cases h
  | cons raw draws ih =>
    rw [Source.listedBelow] at h
    split at h
    · next hraw =>
      cases h
      exact ⟨raw, hraw⟩
    · exact ih h

/-- A draw below a bound comes from a raw draw that the bound lets through. -/
lemma residue_of_below {bound n : UInt64} {source source' : Source}
    (h : Source.below bound source = .ok n source') : ∃ raw, residue? bound raw = some n := by
  cases source with
  | seeded state =>
    simp only [Source.below, EStateM.Result.ok.injEq] at h
    rw [← h.1]
    exact residue_of_seededBelow bound _ state
  | listed draws complaint =>
    rw [Source.below] at h
    split at h
    · next hlisted =>
      cases h
      exact residue_of_listedBelow hlisted
    · cases h

lemma gives_below {bound raw n : UInt64} (h : residue? bound raw = some n) :
    Gives (drawing (Source.below bound)) n := by
  refine ⟨[raw], 0, fun supply rest complaint _ hs => ?_⟩
  rw [List.singleton_append] at hs
  simp only [drawing, hs, Source.below, Source.listedBelow, h]

lemma replays_below (bound : UInt64) : Replays (drawing (Source.below bound)) := by
  intro supply n supply' h
  rw [drawing] at h
  split at h
  · next hn =>
    cases h
    obtain ⟨raw, hraw⟩ := residue_of_below hn
    exact gives_below hraw
  · cases h

lemma replays_drawFrom (choices : List α) (d : α) : Replays (drawFrom choices d) :=
  (replays_below _).bind fun _ => .pure _

lemma replays_drawDigits (n : Nat) (done : List Char) : Replays (drawDigits n done) := by
  induction n generalizing done with
  | zero => exact .pure _
  | succ n ih => exact (replays_below 16).bind fun _ => ih _

lemma drawing_bind (draw : Draw α) (next : α → Draw β) :
    drawing (draw >>= next) = drawing draw >>= fun a => drawing (next a) := by
  funext supply
  simp only [drawing, bind, EStateM.bind]
  cases draw supply.source <;> rfl

/-- Between bounds that leave room, a draw below their distance is added to the
lower one. -/
lemma drawBetween_eq {low high : Int} (h : low < high) (emptyText : String) :
    drawBetween low high emptyText
      = drawing (Source.below (UInt64.ofNat (high - low).toNat)) >>= fun n =>
        pure (low + n.toNat) := by
  rw [drawBetween, Source.between, if_neg (Int.not_le.mpr h), drawing_bind, bind_assoc]
  rfl

lemma replays_drawBetween (low high : Int) (emptyText : String) :
    Replays (drawBetween low high emptyText) := by
  by_cases h : low < high
  · rw [drawBetween_eq h]
    exact (replays_below _).bind fun _ => .pure _
  · rw [drawBetween, Source.between, if_pos (Int.not_lt.mp h)]
    exact Replays.throw _

/-- A draw can always give zero. -/
lemma exists_gives_below (bound : UInt64) : Gives (drawing (Source.below bound)) 0 := by
  obtain ⟨raw, h⟩ := exists_residue bound
  exact gives_below h

lemma exists_gives_drawFrom (choices : List α) (d : α) : ∃ a, Gives (drawFrom choices d) a :=
  ⟨_, (exists_gives_below _).bind (.pure _)⟩

lemma exists_gives_drawDigits (n : Nat) (done : List Char) :
    ∃ cs, Gives (drawDigits n done) cs := by
  induction n generalizing done with
  | zero => exact ⟨_, .pure _⟩
  | succ n ih =>
    obtain ⟨cs, h⟩ := ih (Nat.digitChar (0 : UInt64).toNat :: done)
    exact ⟨cs, (exists_gives_below 16).bind h⟩

lemma exists_gives_drawBetween {low high : Int} (h : low < high) (emptyText : String) :
    ∃ n, Gives (drawBetween low high emptyText) n := by
  rw [drawBetween_eq h]
  exact ⟨_, (exists_gives_below _).bind (.pure _)⟩

end Giving

namespace Recipe

/-- Whatever a helper's fixture yields once, it yields again for some draws. -/
theorem gives_of_force {recipe : Recipe} (hr : recipe.isHelper) : Replays recipe.force := by
  cases recipe with
  | firstName => exact (replays_drawFrom _ _).bind fun _ => .pure _
  | lastName => exact (replays_drawFrom _ _).bind fun _ => .pure _
  | fullName =>
    exact (replays_drawFrom _ _).bind fun _ => (replays_drawFrom _ _).bind fun _ => .pure _
  | between => exact (replays_drawBetween _ _ _).bind fun _ => .pure _
  | choice => exact replays_drawFrom _ _
  | digits => exact (replays_drawDigits _ _).bind fun _ => .pure _
  | copies low high =>
    rw [force]
    split
    · exact replays_repeated _ _
    · exact (replays_drawBetween _ _ _).bind fun _ => replays_repeated _ _
  | _ => cases hr

/-- There are draws for which a helper's fixture yields something. -/
theorem exists_gives {recipe : Recipe} (hr : recipe.isHelper) (hp : recipe.Possible) :
    ∃ v, Gives recipe.force v := by
  cases recipe with
  | firstName | lastName =>
    obtain ⟨s, h⟩ := exists_gives_drawFrom _ _
    exact ⟨_, h.bind (.pure _)⟩
  | fullName =>
    obtain ⟨s, h⟩ := exists_gives_drawFrom firstNames ""
    obtain ⟨t, h'⟩ := exists_gives_drawFrom lastNames ""
    exact ⟨_, h.bind (h'.bind (.pure _))⟩
  | between =>
    obtain ⟨n, h⟩ := exists_gives_drawBetween hp _
    exact ⟨_, h.bind (.pure _)⟩
  | choice => exact exists_gives_drawFrom _ _
  | digits n =>
    obtain ⟨cs, h⟩ := exists_gives_drawDigits n []
    exact ⟨_, h.bind (.pure _)⟩
  | copies low high =>
    rw [force]
    split
    · exact ⟨_, gives_repeated _ _⟩
    · have hp : low ≤ high := hp
      obtain ⟨n, h⟩ := exists_gives_drawBetween (by omega : (low : Int) < high + 1) _
      exact ⟨_, h.bind (gives_repeated _ _)⟩
  | _ => cases hr

end Recipe

end MockupStudio.Script
