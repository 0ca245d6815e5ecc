/-
What operators and helpers can give.

* `Value.isScalar`: null, truth values, numbers and texts; `Value.isBrief`: those
  within the size limit of texts;
* `binary_cases`: an operator between two values gives a brief scalar, one of the
  two or their items in one array, within the size limit of arrays;
* `unary_brief`, `index_cases`, `member_cases`, `turns_cases`, `iteration_cases`:
  what else comes out of values;
* `Made`: the fixtures that helpers make of their arguments; `Helper.made`.
-/
import MockupStudio.Script.Evaluator
import MockupStudio.Proofs.Script.Forcing
import Mathlib.Tactic.Lemma

namespace MockupStudio.Script

/-! ### Operators -/

/-- Whether a value is null, a truth value, a number or a text. -/
def Value.isScalar : Value → Bool
  | null | bool _ | int _ | float _ | text _ => true
  | _ => false

/-- Whether a value is null, a truth value, a number or a text that operators may
produce. -/
def Value.isBrief : Value → Bool
  | null | bool _ | int _ | float _ => true
  | text s => s.utf8ByteSize ≤ maxTextBytes
  | _ => false

section Operators

variable {a b v : Value} {vs : List Value} {key : String}

lemma isScalar_of_isBrief (h : v.isBrief) : v.isScalar := by
  cases v with
  | null | bool | int | float | text => rfl
  | _ => cases h

lemma checkedInt_brief {operator : String} {n : Int} (h : checkedInt operator n = .ok v) :
    v.isBrief := by
  rw [checkedInt] at h
  split at h <;> cases h
  rfl

lemma floatOp_brief {verb : String} {op : Float → Float → Float}
    (h : Value.floatOp verb op a b = .ok v) : v.isBrief := by
  rw [Value.floatOp] at h
  split at h
  · split at h <;> cases h
    rfl
  · cases h

lemma joinTexts_brief {s t : String} (h : Value.joinTexts s t = .ok v) : v.isBrief := by
  rw [Value.joinTexts] at h
  split at h
  · cases h
  · next hsize =>
    cases h
    rw [Value.isBrief, decide_eq_true_eq, String.utf8ByteSize_append]
    exact Nat.not_lt.mp hsize

lemma utf8ByteSize_repeatText (s : String) (count : Nat) :
    (repeatText s count).utf8ByteSize = s.utf8ByteSize * count := by
  have hrepeat (count : Nat) : (Nat.repeat (fun out => out ++ s) count "").utf8ByteSize
      = s.utf8ByteSize * count := by
    induction count with
    | zero => rfl
    | succ count ih => rw [Nat.repeat, String.utf8ByteSize_append, ih, Nat.mul_succ]
  rw [repeatText]
  split
  · next hs =>
    rw [String.isEmpty_iff.mp hs, String.utf8ByteSize_empty, Nat.zero_mul]
  · exact hrepeat count

lemma repeat_brief {s : String} {n : Int64} (h : Value.repeat? s n = .ok v) : v.isBrief := by
  rw [Value.repeat?] at h
  split at h
  · cases h
  · dsimp only at h
    split at h
    · cases h
    · next hsize =>
      cases h
      rw [Value.isBrief, decide_eq_true_eq, utf8ByteSize_repeatText]
      exact Nat.not_lt.mp hsize

lemma compare_brief {test : Ordering → Bool} (h : Value.compare? test a b = .ok v) :
    v.isBrief := by
  rw [Value.compare?.eq_def] at h
  split at h
  · cases h
    rfl
  · cases h
    rfl
  · split at h
    · split at h <;> cases h <;> rfl
    · cases h

lemma add_cases (h : Value.add? a b = .ok v) :
    v.isBrief ∨ ∃ xs ys, a = .array xs ∧ b = .array ys ∧ v = .array (xs ++ ys)
      ∧ (xs ++ ys).length ≤ maxArrayLength := by
  rw [Value.add?.eq_def] at h
  split at h
  · exact .inl (checkedInt_brief h)
  · split at h
    · cases h
    · next hlength =>
      cases h
      rw [← List.length_append] at hlength
      exact .inr ⟨_, _, rfl, rfl, rfl, Nat.not_lt.mp hlength⟩
  · split at h
    · exact .inl (floatOp_brief h)
    · exact .inl (joinTexts_brief h)
  · split at h
    · exact .inl (floatOp_brief h)
    · exact .inl (joinTexts_brief h)
  · exact .inl (floatOp_brief h)

lemma sub_brief (h : Value.sub? a b = .ok v) : v.isBrief := by
  rw [Value.sub?.eq_def] at h
  split at h
  · exact checkedInt_brief h
  · exact floatOp_brief h

lemma mul_brief (h : Value.mul? a b = .ok v) : v.isBrief := by
  rw [Value.mul?.eq_def] at h
  split at h
  · exact checkedInt_brief h
  · exact repeat_brief h
  · exact repeat_brief h
  · exact floatOp_brief h

lemma div_brief (h : Value.div? a b = .ok v) : v.isBrief := by
  rw [Value.div?.eq_def] at h
  split at h
  · split at h
    · cases h
    · exact checkedInt_brief h
  · split at h
    · cases h
    · exact floatOp_brief h

lemma mod_brief (h : Value.mod? a b = .ok v) : v.isBrief := by
  rw [Value.mod?.eq_def] at h
  split at h
  · split at h
    · cases h
    · split at h
      · exact checkedInt_brief h
      · cases h
  · split at h
    · cases h
    · exact floatOp_brief h

/-- An operator between two values gives a brief scalar, one of the two, or
the items of both. -/
theorem binary_cases {op : BinaryOp} (h : Value.binary? op a b = .ok v) :
    v.isBrief ∨ v = a ∨ v = b ∨ ∃ xs ys, a = .array xs ∧ b = .array ys ∧ v = .array (xs ++ ys)
      ∧ (xs ++ ys).length ≤ maxArrayLength := by
  cases op with
  | add =>
    rcases add_cases h with h | h
    · exact .inl h
    · exact .inr (.inr (.inr h))
  | sub => exact .inl (sub_brief h)
  | mul => exact .inl (mul_brief h)
  | div => exact .inl (div_brief h)
  | mod => exact .inl (mod_brief h)
  | eq | ne =>
    cases h
    exact .inl rfl
  | lt | le | gt | ge => exact .inl (compare_brief h)
  | and | or =>
    cases h
    by_cases ha : a.truthy <;> simp [ha]

lemma unary_brief {op : UnaryOp} (h : Value.unary? op a = .ok v) : v.isBrief := by
  cases op with
  | not =>
    cases h
    rfl
  | neg =>
    rw [Value.unary?.eq_def] at h
    dsimp only at h
    split at h
    · exact checkedInt_brief h
    · cases h
      rfl
    · cases h

lemma memberOf_cases (members : List (String × Value)) (key : String) :
    (∃ m ∈ members, Value.memberOf members key = m.2) ∨ Value.memberOf members key = .null := by
  rw [Value.memberOf]
  induction members with
  | nil => exact .inr rfl
  | cons m members ih =>
    rw [Bindings.get?]
    split
    · exact .inl ⟨m, List.mem_cons_self, rfl⟩
    · rcases ih with ⟨m', hm', h⟩ | h
      · exact .inl ⟨m', List.mem_cons_of_mem _ hm', h⟩
      · exact .inr h

lemma item_mem {items : List Value} {i : Int} (h : Value.item? items i = .ok v) : v ∈ items := by
  rw [Value.item?] at h
  split at h
  · next hv =>
    cases h
    obtain ⟨n, -, hn⟩ := Option.bind_eq_some_iff.mp hv
    exact List.mem_of_getElem? hn
  · cases h

/-- A character is a brief text. -/
lemma ofChar_brief (c : Char) : (Value.ofChar c).isBrief := by
  have hchar : c.utf8Size ≤ maxTextBytes := Nat.le_trans c.utf8Size_le_four (by decide)
  rw [Value.ofChar, Value.isBrief, decide_eq_true_eq]
  simpa using hchar

/-- A subscript gives an item, a member or a brief scalar. -/
theorem index_cases {k : Value} (h : Value.index? a k = .ok v) :
    (∃ items, a = .array items ∧ v ∈ items)
      ∨ (∃ members, a = .object members ∧ ∃ m ∈ members, v = m.2) ∨ v.isBrief := by
  have hmember (members : List (String × Value)) (key : String) :
      (∃ m ∈ members, Value.memberOf members key = m.2)
        ∨ (Value.memberOf members key).isBrief := by
    rcases memberOf_cases members key with h | h
    · exact .inl h
    · exact .inr (by rw [h]; rfl)
  rw [Value.index?.eq_def] at h
  split at h
  · split at h
    · exact .inl ⟨_, rfl, item_mem h⟩
    · cases h
  · split at h
    · rw [Value.charAt?] at h
      split at h <;> cases h
      exact .inr (.inr (ofChar_brief _))
    · cases h
  · next members =>
    split at h
    · cases h
      exact .inr ((hmember members _).imp_left fun h => ⟨members, rfl, h⟩)
    · cases h
      exact .inr ((hmember members _).imp_left fun h => ⟨members, rfl, h⟩)
    · cases h
  · cases h

theorem member_cases (h : Value.member? a key = .ok v) :
    (∃ members, a = .object members ∧ ∃ m ∈ members, v = m.2) ∨ v.isBrief := by
  rw [Value.member?.eq_def] at h
  split at h
  · next members =>
    cases h
    rcases memberOf_cases members key with h | h
    · exact .inl ⟨members, rfl, h⟩
    · exact .inr (by rw [h]; rfl)
  · split at h <;> cases h
    exact .inr rfl
  · split at h <;> cases h
    exact .inr rfl
  · cases h
  · cases h

/-- A loop runs through the items of an array, through brief texts or through the
keys of an object. -/
theorem turns_cases (h : Value.iteration? a = .ok vs) :
    a = .array vs ∨ (∀ v ∈ vs, v.isBrief)
      ∨ ∃ members, a = .object members ∧ ∀ v ∈ vs, ∃ member ∈ members, v = .text member.1 := by
  rw [Value.iteration?.eq_def] at h
  split at h
  · cases h
    exact .inl rfl
  · cases h
    refine .inr (.inl fun v hv => ?_)
    obtain ⟨c, -, rfl⟩ := List.mem_map.mp hv
    exact ofChar_brief c
  · next members =>
    cases h
    refine .inr (.inr ⟨members, rfl, fun v hv => ?_⟩)
    obtain ⟨key, hkey, rfl⟩ := List.mem_map.mp hv
    obtain ⟨member, hmember, rfl⟩ := List.mem_map.mp (List.mem_mergeSort.mp hkey)
    exact ⟨member, hmember, rfl⟩
  · cases h

/-- A loop runs through the items of an array or through texts. -/
theorem iteration_cases (h : Value.iteration? a = .ok vs) :
    a = .array vs ∨ ∀ v ∈ vs, v.isScalar := by
  rcases turns_cases h with h | h | ⟨members, -, h⟩
  · exact .inl h
  · exact .inr fun v hv => isScalar_of_isBrief (h v hv)
  · refine .inr fun v hv => ?_
    obtain ⟨member, -, rfl⟩ := h v hv
    rfl

end Operators

/-! ### Helpers -/

/-- The fixtures that helpers make of their arguments. -/
inductive Made (maxRepeat maxDepth : Nat) (arguments : List Value) : Value → Prop where
  | scalar : recipe.isScalar → recipe.Possible → Made maxRepeat maxDepth arguments
      (.fixture name recipe 0)
  | choice : choices ≠ [] →
      choices = arguments ∨ arguments = [.array choices] → Made maxRepeat maxDepth arguments
        (.fixture "pick" (.choice choices) (deepestOf maxDepth choices + 1))
  | copies : low ≤ high → high ≤ maxRepeat → template ∈ arguments →
      Made maxRepeat maxDepth arguments
        (.fixture "some" (.copies low high template) (template.countUpTo maxDepth + 2))

section Helpers

variable {maxRepeat maxDepth : Nat} {arguments : List Value} {v : Value}

lemma except_bind_ok_iff {ε α β : Type} {x : Except ε α} {f : α → Except ε β} {b : β} :
    (x >>= f) = .ok b ↔ ∃ a, x = .ok a ∧ f a = .ok b := by
  cases x <;> simp [bind, Except.bind]

/-- What stands behind a check has been reached if there is a result. -/
lemma ok_of_guard {ε α : Type} {refused : Prop} [Decidable refused] {e : ε} {x : Except ε α}
    {a : α} (h : (if refused then .error e else x) = .ok a) : ¬refused ∧ x = .ok a := by
  split at h
  · cases h
  · exact ⟨‹_›, h⟩

lemma callPlain_made {helper : String} {r : Recipe} (hr : r.isScalar) (hp : r.Possible)
    (h : callPlain helper r arguments = .ok v) :
    Made maxRepeat maxDepth arguments v := by
  rw [callPlain] at h
  split at h <;> cases h
  exact .scalar hr hp

lemma callRandInt_made (h : callRandInt arguments = .ok v) :
    Made maxRepeat maxDepth arguments v := by
  have hrange {low high : Int} {e : String} (h : (if high ≤ low then .error e
      else .ok (.fixture "randInt" (.between low high) 0)) = Except.ok v) :
      Made maxRepeat maxDepth arguments v := by
    split at h
    · cases h
    · next hlt =>
      cases h
      exact .scalar rfl (Int.not_le.mp hlt)
  rw [callRandInt.eq_def] at h
  dsimp only at h
  split at h
  · obtain ⟨high, -, h⟩ := except_bind_ok_iff.mp h
    exact hrange h
  · obtain ⟨low, -, h⟩ := except_bind_ok_iff.mp h
    obtain ⟨high, -, h⟩ := except_bind_ok_iff.mp h
    exact hrange h
  · cases h

/-- A pick is from the items of the only argument or from all arguments. -/
lemma callPick_gives (h : callPick maxDepth arguments = .ok v) :
    ∃ choices, choices ≠ [] ∧ (choices = arguments ∨ arguments = [.array choices])
      ∧ v = .fixture "pick" (.choice choices) (deepestOf maxDepth choices + 1) := by
  rw [callPick.eq_def] at h
  dsimp only at h
  split at h
  · obtain ⟨hne, h⟩ := ok_of_guard h
    cases h
    exact ⟨_, by simpa using hne, .inr rfl, rfl⟩
  · cases h
  · obtain ⟨hne, h⟩ := ok_of_guard h
    cases h
    exact ⟨_, by simpa using hne, .inl rfl, rfl⟩

lemma callPick_made (h : callPick maxDepth arguments = .ok v) :
    Made maxRepeat maxDepth arguments v := by
  obtain ⟨choices, hne, hchoices, rfl⟩ := callPick_gives h
  exact .choice hne hchoices

lemma callUid_made (h : callUid arguments = .ok v) : Made maxRepeat maxDepth arguments v := by
  have hlength {n : Int} {e : String} (h : (if 0 ≤ n ∧ n ≤ maxDigits then
      .ok (.fixture "uid" (.digits n.toNat) 0) else .error e) = Except.ok v) :
      Made maxRepeat maxDepth arguments v := by
    split at h <;> cases h
    exact .scalar rfl trivial
  rw [callUid.eq_def] at h
  dsimp only at h
  split at h
  · obtain ⟨n, -, h⟩ := except_bind_ok_iff.mp h
    exact hlength h
  · obtain ⟨n, -, h⟩ := except_bind_ok_iff.mp h
    exact hlength h
  · cases h

/-- Copies are made of the last argument. -/
lemma callSome_gives (h : callSome maxRepeat maxDepth arguments = .ok v) :
    ∃ low high template, low ≤ high ∧ high ≤ maxRepeat ∧ arguments.getLast? = some template
      ∧ v = .fixture "some" (.copies low high template)
        (template.countUpTo maxDepth + 2) := by
  rw [callSome.eq_def] at h
  dsimp only at h
  split at h
  · obtain ⟨n, -, h⟩ := except_bind_ok_iff.mp h
    obtain ⟨hrange, h⟩ := ok_of_guard h
    obtain ⟨hlimit, h⟩ := ok_of_guard h
    cases h
    exact ⟨_, _, _, by omega, by omega, rfl, rfl⟩
  · obtain ⟨low, -, h⟩ := except_bind_ok_iff.mp h
    obtain ⟨high, -, h⟩ := except_bind_ok_iff.mp h
    obtain ⟨hrange, h⟩ := ok_of_guard h
    obtain ⟨hlimit, h⟩ := ok_of_guard h
    cases h
    exact ⟨_, _, _, by omega, by omega, rfl, rfl⟩
  · cases h

lemma callSome_made (h : callSome maxRepeat maxDepth arguments = .ok v) :
    Made maxRepeat maxDepth arguments v := by
  obtain ⟨low, high, template, hrange, hlimit, hlast, rfl⟩ := callSome_gives h
  exact .copies hrange hlimit (List.mem_of_getLast? hlast)

/-- What a helper gives is a fixture made of its arguments. -/
theorem Helper.made {helper : Helper} (h : helper.call maxRepeat maxDepth arguments = .ok v) :
    Made maxRepeat maxDepth arguments v := by
  cases helper with
  | firstName => exact callPlain_made (r := .firstName) rfl trivial h
  | lastName => exact callPlain_made (r := .lastName) rfl trivial h
  | fullName => exact callPlain_made (r := .fullName) rfl trivial h
  | randInt => exact callRandInt_made h
  | pick => exact callPick_made h
  | uid => exact callUid_made h
  | some => exact callSome_made h

end Helpers

end MockupStudio.Script
