/-
Bindings that differ in their order and in related values.

* `Bindings.Related R`: two bindings with the same keys, each bound once, to
  values in the relation `R`;
* `Related.insert`, `Related.insertAll`, `related_ofList`: such bindings are
  built of related parts;
* `Related.forall₂_sorted`: sorted by keys, they differ in their values alone.
-/
import MockupStudio.Proofs.Bindings
import Mathlib.Data.List.Forall2

namespace MockupStudio

section Lists

variable {α : Type} {R : α → α → Prop} {xs ys zs : List α}

lemma forall₂_symm (hR : ∀ a b, R a b → R b a) (h : List.Forall₂ R xs ys) :
    List.Forall₂ R ys xs :=
  (h.imp hR).flip

lemma forall₂_trans (hR : ∀ a b c, R a b → R b c → R a c) (h : List.Forall₂ R xs ys)
    (h' : List.Forall₂ R ys zs) : List.Forall₂ R xs zs := by
  induction h generalizing zs with
  | nil => exact h'
  | cons hab _ ih =>
    cases h' with
    | cons hbc h' => exact .cons (hR _ _ _ hab hbc) (ih h')

end Lists

namespace Bindings

/-- Two bindings with the same keys, each bound once, to related values. -/
structure Related (R : α → α → Prop) (bs cs : Bindings α) : Prop where
  nodup : (keys bs).Nodup
  nodup' : (keys cs).Nodup
  find : ∀ key, Option.Rel R (get? key bs) (get? key cs)

section Related

variable {α β : Type} {R S : α → α → Prop} {bs bs' cs cs' : Bindings α} {key : String} {a b : α}

lemma rel_cases {x y : Option α} (h : Option.Rel R x y) :
    x = none ∧ y = none ∨ ∃ a b, x = some a ∧ y = some b ∧ R a b := by
  cases h with
  | none => exact .inl ⟨rfl, rfl⟩
  | some hab => exact .inr ⟨_, _, rfl, rfl, hab⟩

lemma related_nil : Related R [] [] :=
  ⟨List.nodup_nil, List.nodup_nil, fun _ => .none⟩

/-- Bindings are related to themselves if their values are. -/
lemma related_self (h : (keys bs).Nodup) (hR : ∀ b ∈ bs, R b.2 b.2) : Related R bs bs := by
  refine ⟨h, h, fun key => ?_⟩
  cases hb : get? key bs with
  | none => exact .none
  | some a => exact .some (hR (key, a) ((mem_iff_get?_eq h).mpr hb))

lemma Related.mono (h : Related R bs cs)
    (hRS : ∀ key a b, get? key bs = some a → get? key cs = some b → R a b → S a b) :
    Related S bs cs := by
  refine ⟨h.nodup, h.nodup', fun key => ?_⟩
  rcases rel_cases (h.find key) with ⟨hb, hc⟩ | ⟨a, b, hb, hc, hab⟩
  · rw [hb, hc]
    exact .none
  · rw [hb, hc]
    exact .some (hRS key a b hb hc hab)

lemma Related.symm (h : Related R bs cs) : Related (fun b a => R a b) cs bs := by
  refine ⟨h.nodup', h.nodup, fun key => ?_⟩
  rcases rel_cases (h.find key) with ⟨hb, hc⟩ | ⟨a, b, hb, hc, hab⟩
  · rw [hb, hc]
    exact .none
  · rw [hb, hc]
    exact .some hab

lemma Related.exists_right (h : Related R bs cs) (ha : get? key bs = some a) :
    ∃ b, get? key cs = some b ∧ R a b := by
  rcases rel_cases (h.find key) with ⟨hb, -⟩ | ⟨a', b, hb, hc, hab⟩
  · rw [hb] at ha
    cases ha
  · rw [hb] at ha
    cases ha
    exact ⟨b, hc, hab⟩

lemma Related.of_get? (h : Related R bs cs) (ha : get? key bs = some a)
    (hb : get? key cs = some b) : R a b := by
  obtain ⟨b', hb', hab⟩ := h.exists_right ha
  rw [hb'] at hb
  cases hb
  exact hab

lemma Related.trans {T : α → α → Prop} (h : Related R bs cs) (h' : Related S cs cs')
    (hRS : ∀ a b c, R a b → S b c → T a c) : Related T bs cs' := by
  refine ⟨h.nodup, h'.nodup', fun key => ?_⟩
  rcases rel_cases (h.find key) with ⟨hb, hc⟩ | ⟨a, b, hb, hc, hab⟩
  · rcases rel_cases (h'.find key) with ⟨-, hc'⟩ | ⟨b, _, hb', -, -⟩
    · rw [hb, hc']
      exact .none
    · rw [hc] at hb'
      cases hb'
  · obtain ⟨c, hc', hbc⟩ := h'.exists_right hc
    rw [hb, hc']
    exact .some (hRS a b c hab hbc)

lemma Related.isSome_eq (h : Related R bs cs) (key : String) :
    (get? key bs).isSome = (get? key cs).isSome := by
  rcases rel_cases (h.find key) with ⟨hb, hc⟩ | ⟨a, b, hb, hc, -⟩
  · rw [hb, hc]
  · rw [hb, hc]
    rfl

lemma Related.contains_eq (h : Related R bs cs) (key : String) :
    contains key bs = contains key cs := by
  rw [contains_eq_isSome, contains_eq_isSome, h.isSome_eq]

lemma Related.insert (h : Related R bs cs) (key : String) (hab : R a b) :
    Related R (insert key a bs) (insert key b cs) := by
  refine ⟨nodup_keys_insert h.nodup, nodup_keys_insert h.nodup', fun k => ?_⟩
  rw [get?_insert, get?_insert]
  split
  · exact .some hab
  · exact h.find k

lemma Related.insertAll (h : Related R bs cs) (hmore : Related R bs' cs') :
    Related R (insertAll bs bs') (insertAll cs cs') := by
  refine ⟨nodup_keys_insertAll h.nodup, nodup_keys_insertAll h.nodup', fun key => ?_⟩
  rw [get?_insertAll hmore.nodup, get?_insertAll hmore.nodup']
  rcases rel_cases (hmore.find key) with ⟨hb, hc⟩ | ⟨a, b, hb, hc, hab⟩
  · rw [hb, hc]
    exact h.find key
  · rw [hb, hc]
    exact .some hab

/-- Pairs with the same keys and related values. -/
abbrev PairRelated (R : α → α → Prop) (b c : String × α) : Prop := b.1 = c.1 ∧ R b.2 c.2

lemma pairRelated_symm (hR : ∀ a b, R a b → R b a) (p q : String × α) (h : PairRelated R p q) :
    PairRelated R q p :=
  ⟨h.1.symm, hR _ _ h.2⟩

lemma pairRelated_trans (hR : ∀ a b c, R a b → R b c → R a c) (p q r : String × α)
    (h : PairRelated R p q) (h' : PairRelated R q r) : PairRelated R p r :=
  ⟨h.1.trans h'.1, hR _ _ _ h.2 h'.2⟩

/-- Bindings made of pairs one by one. -/
lemma related_insertAll_pairs {ps qs : List (String × α)} (h : Related R bs cs)
    (hpairs : List.Forall₂ (PairRelated R) ps qs) :
    Related R (Bindings.insertAll bs ps) (Bindings.insertAll cs qs) := by
  induction hpairs generalizing bs cs with
  | nil => exact h
  | @cons p q ps qs hpq _ ih =>
    obtain ⟨k, a⟩ := p
    obtain ⟨l, b⟩ := q
    obtain ⟨rfl, hab⟩ := hpq
    exact ih (h.insert k hab)

lemma related_ofList {ps qs : List (String × α)} (hpairs : List.Forall₂ (PairRelated R) ps qs) :
    Related R (ofList ps) (ofList qs) :=
  related_insertAll_pairs related_nil hpairs

/-! ### Orders of keys -/

lemma Related.perm_keys (h : Related R bs cs) : (keys bs).Perm (keys cs) :=
  (List.perm_ext_iff_of_nodup h.nodup h.nodup').mpr fun key => by
    rw [mem_keys_iff, mem_keys_iff, h.isSome_eq]

lemma Related.length_eq (h : Related R bs cs) : bs.length = cs.length := by
  have hlength := h.perm_keys.length_eq
  rwa [keys, keys, List.length_map, List.length_map] at hlength

lemma perm_sorted (bs : Bindings α) : (sorted bs).Perm bs := List.mergeSort_perm bs _

/-- In another order, each key is bound to the same value. -/
lemma get?_perm (h : bs.Perm cs) (hnodup : (keys cs).Nodup) : get? key bs = get? key cs := by
  have hnodup' : (keys bs).Nodup := (h.map _).nodup_iff.mpr hnodup
  refine Option.ext fun a => ?_
  rw [← mem_iff_get?_eq hnodup', ← mem_iff_get?_eq hnodup, h.mem_iff]

/-- In another order, the bindings are related as before. -/
lemma Related.perm (h : Related R bs cs) (hb : bs'.Perm bs) (hc : cs'.Perm cs) :
    Related R bs' cs' := by
  refine ⟨(hb.map _).nodup_iff.mpr h.nodup, (hc.map _).nodup_iff.mpr h.nodup', fun key => ?_⟩
  rw [get?_perm hb h.nodup, get?_perm hc h.nodup']
  exact h.find key

lemma Related.tail {p q : String × α} (h : Related R (p :: bs) (q :: cs)) (hkey : p.1 = q.1) :
    Related R bs cs := by
  obtain ⟨k, a⟩ := p
  obtain ⟨l, b⟩ := q
  obtain rfl : k = l := hkey
  obtain ⟨hnodup, hnodup', hfind⟩ := h
  simp only [keys, List.map_cons, List.nodup_cons] at hnodup hnodup'
  refine ⟨hnodup.2, hnodup'.2, fun key => ?_⟩
  by_cases hk : k = key
  · subst hk
    rw [get?_eq_none hnodup.1, get?_eq_none hnodup'.1]
    exact .none
  · have hkey := hfind key
    rwa [get?, get?, if_neg hk, if_neg hk] at hkey

/-- With their keys in the same order, related bindings are related one by
one. -/
lemma Related.forall₂ (h : Related R bs cs) (hkeys : keys bs = keys cs) :
    List.Forall₂ (PairRelated R) bs cs := by
  induction bs generalizing cs with
  | nil =>
    obtain rfl := List.map_eq_nil_iff.mp hkeys.symm
    exact .nil
  | cons p bs ih =>
    obtain ⟨q, cs, rfl, hkey, hrest⟩ := List.map_eq_cons_iff.mp hkeys.symm
    obtain ⟨k, a⟩ := p
    obtain ⟨l, b⟩ := q
    obtain rfl : l = k := hkey
    refine .cons ⟨rfl, ?_⟩ (ih (h.tail rfl) hrest.symm)
    have hfind := h.find l
    rw [get?, get?, if_pos rfl, if_pos rfl] at hfind
    cases hfind with
    | some hab => exact hab

lemma pairwise_keys_sorted (bs : Bindings α) : (keys (sorted bs)).Pairwise (· ≤ ·) := by
  have htrans (a b c : String × α) (hab : Members.keyLe a b) (hbc : Members.keyLe b c) :
      Members.keyLe a c := by
    simp only [Members.keyLe, decide_eq_true_eq] at *
    exact String.le_trans hab hbc
  have htotal (a b : String × α) : Members.keyLe a b || Members.keyLe b a := by
    simp only [Members.keyLe, Bool.or_eq_true, decide_eq_true_eq]
    exact String.le_total a.1 b.1
  have hsorted := List.pairwise_mergeSort htrans htotal bs
  exact List.pairwise_map.mpr (hsorted.imp fun h => of_decide_eq_true h)

/-- Sorted by their keys, related bindings are related one by one. -/
theorem Related.forall₂_sorted (h : Related R bs cs) :
    List.Forall₂ (PairRelated R) (sorted bs) (sorted cs) := by
  have hsorted := h.perm (perm_sorted bs) (perm_sorted cs)
  refine hsorted.forall₂ ?_
  exact List.Perm.eq_of_pairwise (fun a b _ _ hab hba => String.le_antisymm hab hba)
    (pairwise_keys_sorted bs) (pairwise_keys_sorted cs) hsorted.perm_keys

/-- What does not tell related values apart does not tell related bindings
apart, up to order. -/
lemma Related.perm_map {f : String × α → β} (h : Related R bs cs)
    (hf : ∀ key a b, R a b → f (key, a) = f (key, b)) : (bs.map f).Perm (cs.map f) := by
  have hsorted : (sorted bs).map f = (sorted cs).map f := by
    have hforall := h.forall₂_sorted
    generalize sorted bs = xs at hforall
    generalize sorted cs = ys at hforall
    induction hforall with
    | nil => rfl
    | @cons p q _ _ hpq _ ih =>
      obtain ⟨k, a⟩ := p
      obtain ⟨l, b⟩ := q
      obtain ⟨rfl, hab⟩ := hpq
      rw [List.map_cons, List.map_cons, ih, hf k a b hab]
  calc bs.map f
    _ |>.Perm ((sorted bs).map f) := ((perm_sorted bs).map f).symm
    _ |>.Perm (cs.map f) := hsorted ▸ (perm_sorted cs).map f

end Related

end Bindings

end MockupStudio
