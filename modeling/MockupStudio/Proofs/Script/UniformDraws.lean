/-
Draws below a bound and between two ints are uniform.

* `toNat_threshold`: a bound rejects as many raw draws as its multiples leave
  over in `2 ^ 64`;
* `card_accepted`, `card_residue`: how many numbers are left, and how many of
  them have each remainder;
* `toNat_spanOf`, `toInt_shifted`, `bijOn_shifted`: the distance of two ints and what is added to
  the lower one are words, so nothing is cut off;
* `Source.draws_uniform`: every result has as many raw draws, and the results
  below the distance of two ints are the ints between them.
-/
import MockupStudio.Proofs.Script.Generator

namespace MockupStudio.Script

/-! ### Counting raw draws -/

section Counting

variable {N b n : Nat}

/-- The numbers that are left when the multiples of `b` in `N` start at the
end. -/
lemma card_accepted : ((Finset.range N).filter fun x => N % b ≤ x).card = N / b * b := by
  have hinterval : (Finset.range N).filter (fun x => N % b ≤ x) = Finset.Ico (N % b) N := by
    ext x
    simp [and_comm]
  rw [hinterval, Nat.card_Ico, Nat.sub_eq_of_eq_add (Nat.div_add_mod' N b).symm]

/-- Of them each remainder has as many. -/
lemma card_residue (hn : n < b) :
    ((Finset.range N).filter fun x => N % b ≤ x ∧ x % b = n).card = N / b := by
  have hb : 0 < b := Nat.lt_of_le_of_lt (Nat.zero_le n) hn
  have hend : N % b + N / b * b = N := by rw [Nat.add_comm, Nat.div_add_mod']
  have hinterval : (Finset.range N).filter (fun x => N % b ≤ x ∧ x % b = n)
      = (Finset.Ico (N % b) (N % b + N / b * b)).filter (· ≡ n [MOD b]) := by
    ext x
    rw [hend, Finset.mem_filter, Finset.mem_filter, Finset.mem_range, Finset.mem_Ico, Nat.ModEq,
      Nat.mod_eq_of_lt hn]
    omega
  have hperiod : Function.Periodic (· ≡ n [MOD b]) (N / b * b) := fun x => by
    simp [Nat.ModEq]
  rw [hinterval, Nat.filter_Ico_card_eq_of_periodic _ _ _ hperiod, Nat.count_modEq_card _ hb]
  simp [hb]

/-- No more than half is rejected. -/
lemma le_two_mul_accepted (hb : 0 < b) (hN : b ≤ N) : N ≤ 2 * (N / b * b) := by
  have hmultiple : b ≤ N / b * b := Nat.le_mul_of_pos_left b (Nat.div_pos hN hb)
  have hrest : N % b < b := Nat.mod_lt N hb
  have hsum := Nat.div_add_mod' N b
  omega

/-- Words with a property are counted as numbers. -/
lemma ncard_words (p : Nat → Prop) [DecidablePred p] :
    {raw : UInt64 | p raw.toNat}.ncard = ((Finset.range (2 ^ 64)).filter p).card := by
  have himage : UInt64.toNat '' {raw | p raw.toNat} = ((Finset.range (2 ^ 64)).filter p : Set Nat) := by
    ext x
    simp only [Set.mem_image, Set.mem_ofPred_eq, Finset.coe_filter, Finset.mem_range]
    constructor
    · rintro ⟨raw, hraw, rfl⟩
      exact ⟨raw.toNat_lt, hraw⟩
    · rintro ⟨hx, hp⟩
      have htoNat : (UInt64.ofNat x).toNat = x := UInt64.toNat_ofNat_of_lt' hx
      exact ⟨UInt64.ofNat x, htoNat.symm ▸ hp, htoNat⟩
  rw [← Set.ncard_image_of_injective _ fun _ _ => UInt64.toNat_inj.mp, himage, Set.ncard_coe_finset]

end Counting

section Bounds

variable {bound raw n : UInt64}

lemma toNat_pos (h : bound ≠ 0) : 0 < bound.toNat :=
  UInt64.lt_iff_toNat_lt.mp (UInt64.pos_iff_ne_zero.mpr h)

/-- A bound rejects as many raw draws as its multiples leave over. -/
lemma toNat_threshold (h : bound ≠ 0) : (threshold bound).toNat = 2 ^ 64 % bound.toNat := by
  have hpos := toNat_pos h
  have hlt := bound.toNat_lt
  have hneg : (0 - bound).toNat = 2 ^ 64 - bound.toNat := by
    rw [UInt64.toNat_sub]
    exact Nat.mod_eq_of_lt (by simp only [UInt64.toNat_zero]; omega)
  rw [threshold, UInt64.toNat_mod, hneg, ← Nat.add_mod_right, Nat.sub_add_cancel hlt.le]

lemma residue_eq_some_iff (h : bound ≠ 0) : residue? bound raw = some n
    ↔ 2 ^ 64 % bound.toNat ≤ raw.toNat ∧ raw.toNat % bound.toNat = n.toNat := by
  rw [residue?, ← toNat_threshold h, ← UInt64.le_iff_toNat_le, ← UInt64.toNat_mod, UInt64.toNat_inj]
  split <;> simp_all

/-- What comes of a raw draw is below the bound. -/
lemma residue_lt (h : bound ≠ 0) (hn : residue? bound raw = some n) : n < bound := by
  rw [UInt64.lt_iff_toNat_lt, ← ((residue_eq_some_iff h).mp hn).2]
  exact Nat.mod_lt _ (toNat_pos h)

lemma ncard_accepted (h : bound ≠ 0) :
    {raw | (residue? bound raw).isSome}.ncard = 2 ^ 64 / bound.toNat * bound.toNat := by
  have haccepted (raw : UInt64) :
      (residue? bound raw).isSome ↔ 2 ^ 64 % bound.toNat ≤ raw.toNat := by
    rw [residue?, ← toNat_threshold h, ← UInt64.le_iff_toNat_le]
    split <;> simp_all
  simp only [haccepted]
  rw [ncard_words, card_accepted]

lemma ncard_residue (h : bound ≠ 0) (hn : n < bound) :
    {raw | residue? bound raw = some n}.ncard = 2 ^ 64 / bound.toNat := by
  simp only [residue_eq_some_iff h]
  rw [ncard_words fun x => 2 ^ 64 % bound.toNat ≤ x ∧ x % bound.toNat = n.toNat]
  exact card_residue (UInt64.lt_iff_toNat_lt.mp hn)

end Bounds

/-! ### Between two ints -/

section Between

variable {low high : Int64} {n : UInt64}

/-- The distance of two ints, as a word. -/
def spanOf (low high : Int64) : UInt64 := UInt64.ofNat (high.toInt - low.toInt).toNat

/-- The distance of two ints is a word. -/
lemma toNat_spanOf (h : low < high) : ((spanOf low high).toNat : Int) = high.toInt - low.toInt := by
  have hlt := Int64.lt_iff_toInt_lt.mp h
  have hlow := low.le_toInt
  have hhigh := high.toInt_lt
  rw [spanOf, UInt64.toNat_ofNat_of_lt' (by simp only [UInt64.size]; omega)]
  omega

/-- What is added to the lower int stays below the higher one, so the sum is an
int. -/
lemma toInt_shifted (h : low < high) (hn : n < spanOf low high) :
    (Int64.ofInt (low.toInt + n.toNat)).toInt = low.toInt + n.toNat := by
  have hspan := toNat_spanOf h
  have hn := UInt64.lt_iff_toNat_lt.mp hn
  have hlow := low.le_toInt
  have hhigh := high.toInt_lt
  exact Int64.toInt_ofInt_of_le (by omega) (by omega)

/-- Added to the lower int, the words below the distance give every int in
between once. -/
lemma bijOn_shifted (h : low < high) :
    Set.BijOn (fun n : UInt64 => Int64.ofInt (low.toInt + n.toNat)) {n | n < spanOf low high}
      {m | low ≤ m ∧ m < high} := by
  have hspan := toNat_spanOf h
  refine ⟨fun n hn => ?_, fun n hn n' hn' heq => ?_, fun m hm => ?_⟩
  · have hlt := UInt64.lt_iff_toNat_lt.mp hn
    rw [Set.mem_ofPred_eq, Int64.le_iff_toInt_le, Int64.lt_iff_toInt_lt, toInt_shifted h hn]
    omega
  · have hsums := congrArg Int64.toInt heq
    simp only [toInt_shifted h hn, toInt_shifted h hn'] at hsums
    exact UInt64.toNat_inj.mp (by omega)
  · have hlow := Int64.le_iff_toInt_le.mp hm.1
    have hhigh := Int64.lt_iff_toInt_lt.mp hm.2
    have hword := (spanOf low high).toNat_lt
    have hdistance : (UInt64.ofNat (m.toInt - low.toInt).toNat).toNat
        = (m.toInt - low.toInt).toNat :=
      UInt64.toNat_ofNat_of_lt' (by simp only [UInt64.size]; omega)
    refine ⟨UInt64.ofNat (m.toInt - low.toInt).toNat, ?_, ?_⟩
    · rw [Set.mem_ofPred_eq, UInt64.lt_iff_toNat_lt, hdistance]
      omega
    · refine Int64.toInt_inj.mp ?_
      have hsum : low.toInt + ((UInt64.ofNat (m.toInt - low.toInt).toNat).toNat : Int)
          = m.toInt := by
        rw [hdistance]
        omega
      simp only [hsum, Int64.ofInt_toInt]

end Between

namespace Source

/-- A draw below a bound takes the first raw draw that the bound lets through.
That is all raw draws but fewer than the bound, at least half of them, and each
result comes of as many. A draw between two ints is a draw below their distance,
and the results below the distance are the ints in between, one for each. -/
theorem draws_uniform :
    (∀ bound : UInt64, bound ≠ 0 →
      (below bound = next >>= fun raw =>
        match residue? bound raw with
        | some n => pure n
        | none => below bound)
      ∧ {raw | (residue? bound raw).isSome}.ncard = 2 ^ 64 / bound.toNat * bound.toNat
      ∧ 2 ^ 64 ≤ 2 * {raw | (residue? bound raw).isSome}.ncard
      ∧ (∀ raw n, residue? bound raw = some n → n < bound)
      ∧ ∀ n < bound, {raw | residue? bound raw = some n}.ncard = 2 ^ 64 / bound.toNat)
    ∧ ∀ low high : Int64, low < high →
      ((spanOf low high).toNat : Int) = high.toInt - low.toInt
      ∧ between low.toInt high.toInt
        = (do return some (low.toInt + (← below (spanOf low high)).toNat))
      ∧ (∀ n < spanOf low high,
        (Int64.ofInt (low.toInt + n.toNat)).toInt = low.toInt + n.toNat)
      ∧ Set.BijOn (fun n : UInt64 => Int64.ofInt (low.toInt + n.toNat))
        {n | n < spanOf low high} {m | low ≤ m ∧ m < high} := by
  refine ⟨fun bound hbound => ?_, fun low high hlt => ?_⟩
  · refine ⟨below_eq bound, ncard_accepted hbound, ?_, fun raw n => residue_lt hbound,
      fun n => ncard_residue hbound⟩
    rw [ncard_accepted hbound]
    exact le_two_mul_accepted (toNat_pos hbound) bound.toNat_lt.le
  · refine ⟨toNat_spanOf hlt, ?_, fun n => toInt_shifted hlt, bijOn_shifted hlt⟩
    exact if_neg (Int.not_le.mpr (Int64.lt_iff_toInt_lt.mp hlt))

/-- The bound past half of the raw draws, which rejects the most of them, and all
ints but the largest one. -/
theorem draws_uniform_extremes :
    (9223372036854775809 : UInt64) ≠ 0
    ∧ {raw | (residue? 9223372036854775809 raw).isSome}.ncard = 9223372036854775809
    ∧ {raw | residue? 9223372036854775809 raw = some 7}.ncard = 1
    ∧ Int64.minValue < Int64.maxValue
    ∧ spanOf Int64.minValue Int64.maxValue = 18446744073709551615
    ∧ Set.BijOn (fun n : UInt64 => Int64.ofInt (Int64.minValue.toInt + n.toNat))
      {n | n < spanOf Int64.minValue Int64.maxValue}
      {m | Int64.minValue ≤ m ∧ m < Int64.maxValue} := by
  have hbound : (9223372036854775809 : UInt64) ≠ 0 := by decide
  have hlt : Int64.minValue < Int64.maxValue := by decide
  obtain ⟨-, haccepted, -, -, hresults⟩ := draws_uniform.1 9223372036854775809 hbound
  obtain ⟨-, -, -, hbijOn⟩ := draws_uniform.2 Int64.minValue Int64.maxValue hlt
  exact ⟨hbound, haccepted.trans (by decide), (hresults 7 (by decide)).trans (by decide), hlt,
    by decide, hbijOn⟩

end Source

end MockupStudio.Script
