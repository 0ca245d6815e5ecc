/-
What operators and helpers make of values that are alike.

* `Value.Alike.shown_eq`, `nesting_eq`, `same_eq`: their texts, nestings and
  comparisons are the same;
* `Agree`: two outcomes of an operation, the same error or results in a
  relation;
* `binary_alike`, `unary_alike`, `index_alike`, `member_alike`,
  `iteration_alike`: operators;
* `native_alike`: built-in functions.
-/
import MockupStudio.Proofs.Script.Alike
import MockupStudio.Proofs.Script.Nesting

namespace MockupStudio.Script

open Bindings (Related)

namespace Value

section Texts

variable {v w x y : Value} {xs ys vs : List Value} {ms ns : Scope} {β : Type}

lemma map_eq_of_forall₂ {f : Value → β} (h : List.Forall₂ (fun v w => f v = f w) xs ys) :
    xs.map f = ys.map f := by
  induction h with
  | nil => rfl
  | cons hxy _ ih => rw [List.map_cons, List.map_cons, hxy, ih]

/-! ### Texts -/

lemma shownItems_eq (done : List String) (vs : List Value) :
    shownItems done vs = done.reverse ++ vs.map shown := by
  induction vs generalizing done with
  | nil => rw [shownItems, List.map_nil, List.append_nil]
  | cons v vs ih =>
    rw [shownItems, ih, List.reverse_cons, List.append_assoc]
    rfl

lemma shownMembers_eq (done : List String) (ms : List (String × Value)) :
    shownMembers done ms = done.reverse ++ ms.map fun m => m.1 ++ ": " ++ m.2.shown := by
  induction ms generalizing done with
  | nil => rw [shownMembers, List.map_nil, List.append_nil]
  | cons m ms ih =>
    rw [shownMembers, ih, List.reverse_cons, List.append_assoc]
    rfl

/-- Texts in ascending order do not depend on the order in which they come. -/
lemma ascending_congr {texts texts' : List String} (h : texts.Perm texts') :
    ascending texts = ascending texts' := by
  have hsorted (texts : List String) : (ascending texts).Pairwise (· ≤ ·) := by
    have htotal (a b : String) : (decide (a ≤ b) || decide (b ≤ a)) = true := by
      rw [Bool.or_eq_true, decide_eq_true_eq, decide_eq_true_eq]
      exact String.le_total a b
    have htrans (a b c : String) (hab : decide (a ≤ b) = true) (hbc : decide (b ≤ c) = true) :
        decide (a ≤ c) = true :=
      decide_eq_true (String.le_trans (of_decide_eq_true hab) (of_decide_eq_true hbc))
    exact (List.pairwise_mergeSort htrans htotal texts).imp fun h => of_decide_eq_true h
  refine List.Perm.eq_of_pairwise (fun a b _ _ => String.le_antisymm) (hsorted _) (hsorted _) ?_
  exact (List.mergeSort_perm _ _).trans (h.trans (List.mergeSort_perm _ _).symm)

/-- Values that are alike have the same text. -/
theorem Alike.shown_eq (h : v.Alike w) : v.shown = w.shown := by
  induction h with
  | scalar | function | closure | native | plain | choice | copies | yields => rfl
  | array hlength _ ih =>
    rw [shown, shown, shownItems_eq, shownItems_eq, map_eq_of_forall₂ (forall₂_of_get hlength ih)]
  | object hkeys _ ih =>
    have hmembers := (related_of_get? hkeys ih).perm_map (f := fun m => m.1 ++ ": " ++ m.2.shown)
      fun key a b (hab : a.shown = b.shown) => by rw [hab]
    rw [shown, shown, shownMembers_eq, shownMembers_eq, List.reverse_nil, List.nil_append,
      List.nil_append, ascending_congr hmembers]

/-! ### Nesting -/

lemma deepest_eq_of_forall₂ (h : List.Forall₂ (fun v w : Value => v.nesting = w.nesting) xs ys) :
    deepest xs = deepest ys := by
  induction h with
  | nil => rfl
  | cons hxy _ ih => rw [deepest, deepest, hxy, ih]

lemma deepestMember_le_of_related
    (h : Related (fun v w : Value => v.nesting = w.nesting) ms ns) :
    deepestMember ms ≤ deepestMember ns := by
  refine deepestMember_le_iff.mpr fun m hm => ?_
  obtain ⟨b, hb, heq⟩ := h.exists_right ((Bindings.mem_iff_get?_eq h.nodup).mp hm)
  rw [heq]
  exact nesting_le_deepestMember (Bindings.mem_of_get?_eq hb)

lemma deepestMember_eq_of_related (h : Related (fun v w : Value => v.nesting = w.nesting) ms ns) :
    deepestMember ms = deepestMember ns :=
  Nat.le_antisymm (deepestMember_le_of_related h)
    (deepestMember_le_of_related (h.symm.mono fun _ _ _ _ _ => Eq.symm))

/-- Values that are alike nest equally deep. -/
theorem Alike.nesting_eq (h : v.Alike w) : v.nesting = w.nesting := by
  induction h with
  | scalar | function | native | plain | choice | copies | yields => rfl
  | array hlength _ ih =>
    rw [nesting, nesting, deepest_eq_of_forall₂ (forall₂_of_get hlength ih)]
  | object hkeys _ ih =>
    rw [nesting, nesting, deepestMember_eq_of_related (related_of_get? hkeys ih)]
  | closure hkeys _ ih =>
    rw [nesting, nesting, deepestMember_eq_of_related (related_of_get? hkeys ih)]

lemma Alike.countUpTo_eq (h : v.Alike w) (cap : Nat) : v.countUpTo cap = w.countUpTo cap := by
  rw [Value.countUpTo_eq, Value.countUpTo_eq, h.nesting_eq]

/-! ### Comparisons -/

lemma sameMembers_iff : sameMembers ms ns = true ↔
    ∀ m ∈ ms, ∃ w, Bindings.get? m.1 ns = some w ∧ same m.2 w = true := by
  induction ms with
  | nil => simp [sameMembers]
  | cons m ms ih =>
    obtain ⟨key, v⟩ := m
    rw [sameMembers, List.forall_mem_cons, ← ih]
    cases hw : Bindings.get? key ns with
    | none => simp
    | some w => simp

lemma sameItems_eq {as bs : List Value} (h : List.Forall₂
      (fun v w => ∀ x y : Value, x.Alike y → same v x = same w y) xs ys)
    (h' : AllAlike as bs) : sameItems xs as = sameItems ys bs := by
  induction h generalizing as bs with
  | nil => cases h' <;> rfl
  | cons hxy _ ih =>
    cases h' with
    | nil => rfl
    | cons hab h' => rw [sameItems, sameItems, hxy _ _ hab, ih h']

lemma sameMembers_of_related {os ps : Scope}
    (h : Related (fun v w => ∀ x y : Value, x.Alike y → same v x = same w y) ms ns)
    (h' : Scope.Alike os ps) (hsame : sameMembers ms os = true) : sameMembers ns ps = true := by
  rw [sameMembers_iff] at hsame ⊢
  intro m hm
  obtain ⟨v, hv, hvm⟩ := h.symm.exists_right ((Bindings.mem_iff_get?_eq h.nodup').mp hm)
  obtain ⟨x, hx, hvx⟩ := hsame (m.1, v) (Bindings.mem_of_get?_eq hv)
  obtain ⟨y, hy, hxy⟩ := h'.exists_right hx
  exact ⟨y, hy, hvm x y hxy ▸ hvx⟩

/-- A scalar is equal to scalars alone. -/
lemma same_of_isScalar (hv : v.isScalar) (hx : x.isScalar = false) : same v x = false := by
  cases x with
  | null | bool | int | float | text => cases hx
  | _ => cases v <;> first | rfl | cases hv

lemma same_of_isScalar_right (hv : v.isScalar = false) (hx : x.isScalar) : same v x = false := by
  cases v with
  | null | bool | int | float | text => cases hv
  | _ => cases x <;> first | rfl | cases hx

/-- Values that are alike are equal to the same values, and to those that are
alike to these. -/
theorem Alike.same_eq (h : v.Alike w) (h' : x.Alike y) : same v x = same w y := by
  induction h generalizing x y with
  | @scalar v hv =>
    cases hx : x.isScalar with
    | true => rw [h'.eq_of_isScalar hx]
    | false => rw [same_of_isScalar hv hx, same_of_isScalar hv (h'.isScalar_eq ▸ hx)]
  | array hlength h ih =>
    cases h' with
    | scalar hx => exact (same_of_isScalar_right rfl hx).trans (same_of_isScalar_right rfl hx).symm
    | array hlength' h' =>
      rw [same, same]
      exact sameItems_eq (forall₂_of_get hlength fun i hx hy x y => ih i hx hy)
        (forall₂_of_get hlength' h')
    | _ => rfl
  | @object ms ns hkeys h ih =>
    cases h' with
    | scalar hx => exact (same_of_isScalar_right rfl hx).trans (same_of_isScalar_right rfl hx).symm
    | @object os ps hkeys' h' =>
      have hfirst : Related (fun v w => ∀ x y : Value, x.Alike y → same v x = same w y) ms ns :=
        related_of_get? hkeys fun key v w hv hw x y => ih key v w hv hw
      have hsecond := related_of_get? hkeys' h'
      have hmembers : sameMembers ms os = sameMembers ns ps := by
        refine Bool.eq_iff_iff.mpr ⟨sameMembers_of_related hfirst hsecond, ?_⟩
        refine sameMembers_of_related (hfirst.symm.mono ?_) (Scope.Alike.symm hsecond)
        exact fun _ _ _ _ _ hvw x y hxy => (hvw y x hxy.symm).symm
      rw [same, same, hkeys.length_eq, hkeys'.length_eq, hmembers]
    | _ => rfl
  | _ =>
    cases h' with
    | scalar hx => exact (same_of_isScalar_right rfl hx).trans (same_of_isScalar_right rfl hx).symm
    | _ => rfl

end Texts

end Value

/-! ### Outcomes -/

/-- Two outcomes of an operation: related results, or the same error. -/
inductive Agree {ε α β : Type} (R : α → β → Prop) : Except ε α → Except ε β → Prop where
  | ok : R a b → Agree R (.ok a) (.ok b)
  | error (e : ε) : Agree R (.error e) (.error e)

section Outcomes

variable {ε α β γ : Type} {R : α → β → Prop} {r r' : Except ε α}

/-- Two operations that begin in the same way. -/
lemma agree_bind (x : Except ε γ) {f : γ → Except ε α} {g : γ → Except ε β}
    (h : ∀ c, Agree R (f c) (g c)) : Agree R (x >>= f) (x >>= g) := by
  cases x with
  | ok c => exact h c
  | error e => exact .error e

lemma Agree.of_eq {R : α → α → Prop} (h : r = r') (hr : ∀ a, r = .ok a → R a a) : Agree R r r' := by
  subst h
  cases r with
  | ok a => exact .ok (hr a rfl)
  | error e => exact .error e

end Outcomes

/-! ### Operators -/

namespace Value

section Operators

variable {a a' b b' v w : Value} {γ : Type}

lemma agree_of_isBrief {ε : Type} {r r' : Except ε Value} (h : r = r')
    (hr : ∀ v, r = .ok v → v.isBrief) : Agree Alike r r' :=
  .of_eq h fun v hv => .scalar (isScalar_of_isBrief (hr v hv))

lemma Alike.isNumber_eq (h : v.Alike w) : v.isNumber = w.isNumber := by
  cases h <;> rfl

lemma Alike.toFloat?_eq (h : v.Alike w) : v.toFloat? = w.toFloat? := by
  cases h <;> rfl

lemma Alike.isFixture_eq (h : v.Alike w) : v.isFixture = w.isFixture := by
  cases h <;> rfl

lemma Alike.isZero_eq (h : v.Alike w) : v.isZero = w.isZero := by
  rw [isZero, isZero, h.isNumber_eq, h.toFloat?_eq]

lemma Alike.floatOp_eq (ha : a.Alike a') (hb : b.Alike b') (verb : String)
    (op : Float → Float → Float) : floatOp verb op a b = floatOp verb op a' b' := by
  rw [floatOp, floatOp, pairFault, pairFault, ha.isNumber_eq, hb.isNumber_eq, ha.toFloat?_eq,
    hb.toFloat?_eq, ha.typeName_eq, hb.typeName_eq]

/-- What does not tell values apart that are alike, unless both operands are
scalars, does not tell them apart at all. -/
lemma Alike.eq_of_compound {f g : Value → Value → γ} (ha : a.Alike a') (hb : b.Alike b')
    (hfg : ∀ a b, ¬ (a.isScalar = true ∧ b.isScalar = true) → f a b = g a b)
    (hg : g a b = g a' b') : f a b = f a' b' := by
  by_cases h : a.isScalar = true ∧ b.isScalar = true
  · rw [ha.eq_of_isScalar h.1, hb.eq_of_isScalar h.2]
  · have h' : ¬ (a'.isScalar = true ∧ b'.isScalar = true) := by
      rwa [← ha.isScalar_eq, ← hb.isScalar_eq]
    rw [hfg a b h, hfg a' b' h', hg]

lemma Alike.sub_eq (ha : a.Alike a') (hb : b.Alike b') : sub? a b = sub? a' b' := by
  refine ha.eq_of_compound hb (fun a b h => ?_) (ha.floatOp_eq hb "subtract" (· - ·))
  rw [sub?.eq_def]
  split
  · exact absurd ⟨rfl, rfl⟩ h
  · rfl

lemma Alike.mul_eq (ha : a.Alike a') (hb : b.Alike b') : mul? a b = mul? a' b' := by
  refine ha.eq_of_compound hb (fun a b h => ?_) (ha.floatOp_eq hb "multiply" (· * ·))
  rw [mul?.eq_def]
  split
  · exact absurd ⟨rfl, rfl⟩ h
  · exact absurd ⟨rfl, rfl⟩ h
  · exact absurd ⟨rfl, rfl⟩ h
  · rfl

lemma Alike.div_eq (ha : a.Alike a') (hb : b.Alike b') : div? a b = div? a' b' := by
  refine ha.eq_of_compound (g := fun a b => if b.isZero then .error .divisionByZero
    else floatOp "divide" (· / ·) a b) hb (fun a b h => ?_) ?_
  · rw [div?.eq_def]
    split
    · exact absurd ⟨rfl, rfl⟩ h
    · rfl
  · simp only [hb.isZero_eq, ha.floatOp_eq hb]

lemma Alike.mod_eq (ha : a.Alike a') (hb : b.Alike b') : mod? a b = mod? a' b' := by
  refine ha.eq_of_compound (g := fun a b => if b.isZero then .error .divisionByZero
    else floatOp "modulo" Decimal.remainder a b) hb (fun a b h => ?_) ?_
  · rw [mod?.eq_def]
    split
    · exact absurd ⟨rfl, rfl⟩ h
    · rfl
  · simp only [hb.isZero_eq, ha.floatOp_eq hb]

lemma isScalar_of_isNumber (h : v.isNumber) : v.isScalar := by
  cases v with
  | int | float => rfl
  | _ => cases h

lemma Alike.compare_eq (ha : a.Alike a') (hb : b.Alike b') (test : Ordering → Bool) :
    compare? test a b = compare? test a' b' := by
  refine ha.eq_of_compound (g := pairFault "compare") hb (fun a b h => ?_) ?_
  · rw [compare?.eq_def]
    split
    · exact absurd ⟨rfl, rfl⟩ h
    · exact absurd ⟨rfl, rfl⟩ h
    · refine if_neg fun hnumbers => h ?_
      rw [Bool.and_eq_true] at hnumbers
      exact ⟨isScalar_of_isNumber hnumbers.1, isScalar_of_isNumber hnumbers.2⟩
  · rw [pairFault, pairFault, ha.typeName_eq, hb.typeName_eq]

/-- The text that a value is. -/
def text? : Value → Option String
  | text s => some s
  | _ => none

lemma Alike.text?_eq (h : v.Alike w) : v.text? = w.text? := by
  cases h <;> rfl

lemma text?_eq_none (h : ∀ s, v = .text s → False) : v.text? = none := by
  cases v with
  | text s => exact (h s rfl).elim
  | _ => rfl

/-- A sum that is neither of two scalars nor of two arrays. -/
lemma add?_eq_of_compound (hscalar : ¬ (a.isScalar = true ∧ b.isScalar = true))
    (harray : ∀ xs ys, a = .array xs → b ≠ .array ys) : add? a b =
      match a.text?, b.text? with
      | some s, _ => if b.isFixture then floatOp "add" (· + ·) a b else joinTexts s b.shown
      | none, some t => if a.isFixture then floatOp "add" (· + ·) a b else joinTexts a.shown t
      | none, none => floatOp "add" (· + ·) a b := by
  rw [add?.eq_def]
  split
  · exact absurd ⟨rfl, rfl⟩ hscalar
  · exact absurd rfl (harray _ _ rfl)
  · rfl
  · next hleft =>
    rw [text?_eq_none hleft]
    rfl
  · next hleft hright _ _ => rw [text?_eq_none hleft, text?_eq_none hright]

lemma Alike.exists_array {ys : List Value} (h : v.Alike (.array ys)) : ∃ xs, v = .array xs := by
  cases h with
  | scalar h => cases h
  | array => exact ⟨_, rfl⟩

lemma add_alike (ha : a.Alike a') (hb : b.Alike b') : Agree Alike (add? a b) (add? a' b') := by
  by_cases harray : ∃ xs ys, a = .array xs ∧ b = .array ys
  · obtain ⟨xs, ys, rfl, rfl⟩ := harray
    cases ha with
    | scalar h => cases h
    | array hlength h =>
      cases hb with
      | scalar h => cases h
      | array hlength' h' =>
        rw [add?, add?, hlength, hlength']
        split
        · exact .error _
        · exact .ok (alike_array (List.rel_append (forall₂_of_get hlength h)
            (forall₂_of_get hlength' h')))
  · have hbrief (v : Value) (h : add? a b = .ok v) : v.isBrief := by
      rcases add_cases h with h | ⟨xs, ys, rfl, rfl, -⟩
      · exact h
      · exact absurd ⟨xs, ys, rfl, rfl⟩ harray
    refine agree_of_isBrief ?_ hbrief
    by_cases h : a.isScalar = true ∧ b.isScalar = true
    · rw [ha.eq_of_isScalar h.1, hb.eq_of_isScalar h.2]
    · have h' : ¬ (a'.isScalar = true ∧ b'.isScalar = true) := by
        rwa [← ha.isScalar_eq, ← hb.isScalar_eq]
      have harray' (xs ys : List Value) (ha' : a' = .array xs) : b' ≠ .array ys := by
        rintro rfl
        subst ha'
        obtain ⟨xs, rfl⟩ := ha.exists_array
        obtain ⟨ys, rfl⟩ := hb.exists_array
        exact harray ⟨xs, ys, rfl, rfl⟩
      rw [add?_eq_of_compound h fun xs ys ha hb => harray ⟨xs, ys, ha, hb⟩,
        add?_eq_of_compound h' harray', ha.text?_eq, hb.text?_eq, ha.isFixture_eq, hb.isFixture_eq,
        ha.shown_eq, hb.shown_eq, ha.floatOp_eq hb]

/-- Operators give results that are alike for operands that are alike. -/
theorem binary_alike (op : BinaryOp) (ha : a.Alike a') (hb : b.Alike b') :
    Agree Alike (binary? op a b) (binary? op a' b') := by
  cases op with
  | add => exact add_alike ha hb
  | sub => exact agree_of_isBrief (ha.sub_eq hb) fun _ => sub_brief
  | mul => exact agree_of_isBrief (ha.mul_eq hb) fun _ => mul_brief
  | div => exact agree_of_isBrief (ha.div_eq hb) fun _ => div_brief
  | mod => exact agree_of_isBrief (ha.mod_eq hb) fun _ => mod_brief
  | eq | ne =>
    rw [binary?, binary?, ha.same_eq hb]
    exact .ok (.scalar rfl)
  | lt | le | gt | ge => exact agree_of_isBrief (ha.compare_eq hb _) fun _ => compare_brief
  | and | or =>
    rw [binary?, binary?, ha.truthy_eq]
    split
    · exact .ok ‹_›
    · exact .ok ‹_›

theorem unary_alike (op : UnaryOp) (h : v.Alike w) : Agree Alike (unary? op v) (unary? op w) := by
  refine agree_of_isBrief ?_ fun _ => unary_brief
  cases op with
  | not => rw [unary?, unary?, h.truthy_eq]
  | neg =>
    cases hv : v.isScalar with
    | true => rw [h.eq_of_isScalar hv]
    | false =>
      have hneg (x : Value) (hx : x.isScalar = false) :
          unary? .neg x = .error (.mistyped (.negate x.typeName)) := by
        cases x with
        | null | bool | int | float | text => cases hx
        | _ => rfl
      rw [hneg v hv, hneg w (h.isScalar_eq ▸ hv), h.typeName_eq]

lemma decidedBy_eq (op : BinaryOp) (h : v.Alike w) : op.decidedBy v = op.decidedBy w := by
  cases op <;> simp only [BinaryOp.decidedBy, h.truthy_eq]

/-! ### Items and members -/

lemma memberOf_alike {ms ns : Scope} (h : Scope.Alike ms ns) (key : String) :
    (memberOf ms key).Alike (memberOf ns key) := by
  rw [memberOf, memberOf]
  rcases Bindings.rel_cases (h.find key) with ⟨hb, hc⟩ | ⟨v, w, hb, hc, hvw⟩
  · rw [hb, hc]
    exact alike_null
  · rw [hb, hc]
    exact hvw

lemma rel_getElem? {xs ys : List Value} (h : AllAlike xs ys) (n : Nat) :
    Option.Rel Alike xs[n]? ys[n]? := by
  induction h generalizing n with
  | nil => exact .none
  | cons hxy _ ih =>
    cases n with
    | zero => exact .some hxy
    | succ n => exact ih n

lemma item_alike {xs ys : List Value} (h : AllAlike xs ys) (i : Int) :
    Agree Alike (item? xs i) (item? ys i) := by
  rw [item?, item?, h.length_eq]
  cases position? i ys.length with
  | none => exact .error _
  | some n =>
    rw [Option.bind_some, Option.bind_some]
    rcases Bindings.rel_cases (rel_getElem? h n) with ⟨hx, hy⟩ | ⟨v, w, hx, hy, hvw⟩
    · rw [hx, hy]
      exact .error _
    · rw [hx, hy]
      exact .ok hvw

/-- What a value that is no scalar gives as a key. -/
lemma index?_of_compound (h : b.isScalar = false) : index? a b = .error (match a with
    | .array _ => .mistyped .arrayIndex
    | .text _ => .mistyped .textIndex
    | .object _ => .mistyped (.objectKey b.typeName)
    | a => .mistyped (.index a.typeName)) := by
  cases b with
  | null | bool | int | float | text => cases h
  | _ => cases a <;> rfl

theorem index_alike (ha : a.Alike a') (hb : b.Alike b') :
    Agree Alike (index? a b) (index? a' b') := by
  cases hkey : b.isScalar with
  | false =>
    rw [index?_of_compound hkey, index?_of_compound (hb.isScalar_eq ▸ hkey), hb.typeName_eq]
    cases ha <;> exact .error _
  | true =>
    obtain rfl := hb.eq_of_isScalar hkey
    cases ha with
    | scalar h =>
      refine agree_of_isBrief rfl fun v hv => ?_
      rcases index_cases hv with ⟨_, rfl, _⟩ | ⟨_, rfl, _⟩ | hbrief
      · cases h
      · cases h
      · exact hbrief
    | array hlength h =>
      cases b with
      | int n => exact item_alike (forall₂_of_get hlength h) n.toInt
      | _ => exact .error _
    | object hkeys h =>
      have hmembers := memberOf_alike (related_of_get? hkeys h)
      cases b with
      | text s => exact .ok (hmembers s)
      | int n => exact .ok (hmembers (Decimal.integer n.toInt))
      | _ => exact .error _
    | _ => exact .error _

theorem member_alike (h : v.Alike w) (key : String) :
    Agree Alike (member? v key) (member? w key) := by
  cases h with
  | scalar h =>
    refine agree_of_isBrief rfl fun v hv => ?_
    rcases member_cases hv with ⟨_, rfl, _⟩ | hbrief
    · cases h
    · exact hbrief
  | array hlength h =>
    rw [member?, member?, hlength]
    split
    · exact .ok (.scalar rfl)
    · exact .error _
  | object hkeys h => exact .ok (memberOf_alike (related_of_get? hkeys h) key)
  | _ => exact .error _

lemma allAlike_of_isScalar {vs : List Value} (h : ∀ v ∈ vs, v.isScalar) : AllAlike vs vs :=
  List.forall₂_same.mpr fun v hv => .scalar (h v hv)

theorem iteration_alike (h : v.Alike w) :
    Agree AllAlike (iteration? v) (iteration? w) := by
  cases h with
  | scalar h =>
    refine .of_eq rfl fun vs hvs => ?_
    rcases iteration_cases hvs with rfl | hscalar
    · cases h
    · exact allAlike_of_isScalar hscalar
  | array hlength h => exact .ok (forall₂_of_get hlength h)
  | object hkeys h =>
    rw [iteration?, iteration?, ascending_congr hkeys.perm_keys]
    refine .ok (allAlike_of_isScalar fun v hv => ?_)
    obtain ⟨key, -, rfl⟩ := List.mem_map.mp hv
    rfl
  | _ => exact .error _

end Operators

end Value

/-! ### Helpers -/

section Helpers

open Value (AllAlike)

variable {v w : Value} {xs ys : List Value} {maxRepeat maxDepth : Nat}

lemma deepestOf_eq_of_alike (cap : Nat) (h : AllAlike xs ys) :
    deepestOf cap xs = deepestOf cap ys := by
  rw [deepestOf_eq, deepestOf_eq,
    Value.deepest_eq_of_forall₂ (h.imp fun _ _ => Value.Alike.nesting_eq)]

lemma wholeArgument_eq (helper what : String) (h : v.Alike w) :
    wholeArgument helper what v = wholeArgument helper what w := by
  cases h <;> rfl

/-- A fixture that a helper makes of values that are alike to themselves is
alike to itself. -/
lemma Made.alike_self (h : Made maxRepeat maxDepth xs v) (hxs : AllAlike xs xs) : v.Alike v := by
  cases h with
  | @scalar _ recipe hscalar _ =>
    refine .plain ?_
    cases recipe with
    | choice | copies | yields => cases hscalar
    | _ => rfl
  | choice _ hchoices =>
    obtain rfl | rfl := hchoices
    · exact Value.alike_choice _ _ hxs
    · cases hxs with
      | cons h _ => exact Value.alike_choice _ _ h.items
  | copies _ _ hmem => exact .copies (List.forall₂_same.mp hxs _ hmem)

lemma callPlain_eq (helper : String) (recipe : Recipe) (h : AllAlike xs ys) :
    callPlain helper recipe xs = callPlain helper recipe ys := by
  cases h with
  | nil => rfl
  | cons _ h =>
    rw [callPlain, callPlain, List.length_cons, List.length_cons, h.length_eq]
    rfl

lemma callRandInt_eq (h : AllAlike xs ys) : callRandInt xs = callRandInt ys := by
  cases h with
  | nil => rfl
  | cons hfirst h =>
    cases h with
    | nil => simp only [callRandInt, wholeArgument_eq _ _ hfirst]
    | cons hsecond h =>
      cases h with
      | nil => simp only [callRandInt, wholeArgument_eq _ _ hfirst, wholeArgument_eq _ _ hsecond]
      | cons _ h => simp only [callRandInt, List.length_cons, h.length_eq]

lemma callUid_eq (h : AllAlike xs ys) : callUid xs = callUid ys := by
  cases h with
  | nil => rfl
  | cons hfirst h =>
    cases h with
    | nil => simp only [callUid, wholeArgument_eq _ _ hfirst]
    | cons _ h => simp only [callUid, List.length_cons, h.length_eq]

lemma callPick_alike (h : AllAlike xs ys) :
    Agree Value.Alike (callPick maxDepth xs) (callPick maxDepth ys) := by
  have hchoices {choices choices' : List Value} (h : AllAlike choices choices') :
      Agree Value.Alike
        (if choices.isEmpty then .error "pick() needs at least one choice"
          else .ok (.fixture "pick" (.choice choices) (deepestOf maxDepth choices + 1)))
        (if choices'.isEmpty then .error "pick() needs at least one choice"
          else Except.ok (.fixture "pick" (.choice choices') (deepestOf maxDepth choices' + 1))) := by
    rw [deepestOf_eq_of_alike maxDepth h]
    cases h with
    | nil => exact .error _
    | cons hfirst h => exact .ok (Value.alike_choice _ _ (.cons hfirst h))
  cases h with
  | nil => exact .error _
  | @cons v _ _ _ hfirst h =>
    cases h with
    | nil =>
      cases hfirst with
      | scalar hscalar =>
        cases v with
        | null | bool | int | float | text => exact .error _
        | _ => cases hscalar
      | array hlength h => exact hchoices (Value.forall₂_of_get hlength h)
      | _ => exact .error _
    | cons hsecond h =>
      simp only [callPick]
      exact hchoices (.cons hfirst (.cons hsecond h))

lemma callSome_alike (h : AllAlike xs ys) :
    Agree Value.Alike (callSome maxRepeat maxDepth xs) (callSome maxRepeat maxDepth ys) := by
  have hcopies {v w : Value} (low high : Int) (h : v.Alike w) : Agree Value.Alike
      (if low < 0 ∨ high < low then
          .error ("some() count range " ++ rangeText low high "]" ++ " is invalid")
        else if (maxRepeat : Int) < high then
          .error ("some() count " ++ Decimal.integer high ++ " exceeds the limit of "
            ++ toString maxRepeat)
        else .ok (.fixture "some" (.copies low.toNat high.toNat v) (v.countUpTo maxDepth + 2)))
      (if low < 0 ∨ high < low then
          .error ("some() count range " ++ rangeText low high "]" ++ " is invalid")
        else if (maxRepeat : Int) < high then
          .error ("some() count " ++ Decimal.integer high ++ " exceeds the limit of "
            ++ toString maxRepeat)
        else Except.ok
          (.fixture "some" (.copies low.toNat high.toNat w) (w.countUpTo maxDepth + 2))) := by
    rw [h.countUpTo_eq]
    split
    · exact .error _
    · split
      · exact .error _
      · exact .ok (.copies h)
  cases h with
  | nil => exact .error _
  | cons hfirst h =>
    cases h with
    | nil => exact .error _
    | cons hsecond h =>
      cases h with
      | nil =>
        simp only [callSome, wholeArgument_eq _ _ hfirst]
        exact agree_bind _ fun n => hcopies n n hsecond
      | cons hthird h =>
        cases h with
        | nil =>
          simp only [callSome, wholeArgument_eq _ _ hfirst, wholeArgument_eq _ _ hsecond]
          exact agree_bind _ fun low => agree_bind _ fun high => hcopies low high hthird
        | cons _ h =>
          simp only [callSome, List.length_cons, h.length_eq]
          exact .error _

theorem helper_alike (helper : Helper) (h : AllAlike xs ys) :
    Agree Value.Alike (helper.call maxRepeat maxDepth xs) (helper.call maxRepeat maxDepth ys) := by
  have hself : AllAlike xs xs := Value.AllAlike.trans h (Value.AllAlike.symm h)
  have hmade (v : Value) (hv : helper.call maxRepeat maxDepth xs = .ok v) : v.Alike v :=
    (Helper.made hv).alike_self hself
  cases helper with
  | firstName | lastName | fullName => exact .of_eq (callPlain_eq _ _ h) hmade
  | randInt => exact .of_eq (callRandInt_eq h) hmade
  | pick => exact callPick_alike h
  | uid => exact .of_eq (callUid_eq h) hmade
  | some => exact callSome_alike h

/-- Built-in functions give results that are alike for arguments that are
alike. -/
theorem native_alike (f : Native) (h : AllAlike xs ys) {host host' : Host}
    (hhost : ∀ number, Agree Value.Alike (host number xs) (host' number ys)) :
    Agree Value.Alike (f.call xs host) (f.call ys host') := by
  rw [Native.call, Native.call, h.length_eq]
  split
  · exact .error _
  · split
    · exact helper_alike _ h
    · exact .ok (Value.alike_array h)
    · exact .ok Value.alike_null
    · exact hhost _

end Helpers

end MockupStudio.Script
