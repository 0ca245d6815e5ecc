/-
The generator of raw draws never gets stuck.

* `mix_injective`: scrambling loses nothing, each of its steps being undone;
* `Source.exists_mix_eq`: from every state, each number comes within `2 ^ 64`
  draws;
* `Source.below_eq`: a draw below a bound is the first raw draw that the bound
  lets through, and the number of tries never cuts the search off;
* `Source.outputs`, `Source.full_cycle`: so many raw draws in a row; `2 ^ 64` of
  them are all numbers, each once, and the search ends among them.
-/
import MockupStudio.Proofs.Script.Forcing
import Mathlib

namespace MockupStudio.Script

/-! ### Scrambling -/

/-- A word is known from its exclusive or with itself shifted down: its highest
bits are, and each bit from a higher one. -/
lemma xorShift_injective {w k : Nat} (hk : 0 < k) :
    Function.Injective fun z : BitVec w => z ^^^ (z >>> k) := by
  intro y z h
  have hbits (n i : Nat) (hi : w ≤ i + n) : y.getLsbD i = z.getLsbD i := by
    induction n generalizing i with
    | zero => rw [BitVec.getLsbD_of_ge y i hi, BitVec.getLsbD_of_ge z i hi]
    | succ n ih =>
      have hhigher := ih (k + i) (by omega)
      have hboth := congrArg (fun x => BitVec.getLsbD x i) h
      simp only [BitVec.getLsbD_xor, BitVec.getLsbD_ushiftRight, hhigher] at hboth
      exact Bool.xor_left_inj.mp hboth
  exact BitVec.eq_of_getLsbD_eq fun i _ => hbits w i (Nat.le_add_left w i)

/-- Exclusive or with a shift of a word that is no whole turn loses nothing. -/
lemma xorShift_word_injective {k : UInt64} (hk : 0 < k.toBitVec.toNat % 64) :
    Function.Injective fun z : UInt64 => z ^^^ (z >>> k) := by
  intro y z h
  have hwords := congrArg UInt64.toBitVec h
  simp only [UInt64.toBitVec_xor, UInt64.toBitVec_shiftRight, BitVec.ushiftRight_eq'] at hwords
  exact UInt64.toBitVec_inj.mp (xorShift_injective (by simpa using hk) hwords)

/-- A factor that has an inverse loses nothing. -/
lemma mul_word_injective {c d : UInt64} (h : c * d = 1) :
    Function.Injective fun z : UInt64 => z * c := by
  intro y z hyz
  have hback := congrArg (· * d) hyz
  simpa only [UInt64.mul_assoc, h, UInt64.mul_one] using hback

/-- Scrambling a state loses nothing. -/
theorem mix_injective : Function.Injective mix := by
  have hfirst : Function.Injective fun z : UInt64 => (z ^^^ (z >>> 30)) * 0xbf58476d1ce4e5b9 :=
    (mul_word_injective (d := 0x96de1b173f119089) (by decide)).comp
      (xorShift_word_injective (by decide))
  have hsecond : Function.Injective fun z : UInt64 => (z ^^^ (z >>> 27)) * 0x94d049bb133111eb :=
    (mul_word_injective (d := 0x319642b2d24d8ec3) (by decide)).comp
      (xorShift_word_injective (by decide))
  exact (xorShift_word_injective (k := 31) (by decide)).comp (hsecond.comp hfirst)

/-- Every number is the scrambled form of some state. -/
lemma mix_surjective : Function.Surjective mix :=
  Finite.injective_iff_surjective.mp mix_injective

namespace Source

/-! ### The walk of the states -/

/-- The distance between states is odd, so it has an inverse and its multiples
are all states. -/
lemma exists_mul_stride (d : UInt64) : ∃ k, k < 2 ^ 64 ∧ UInt64.ofNat k * stride = d := by
  have hinverse : (0xf1de83e19937733d : UInt64) * stride = 1 := by decide
  refine ⟨(d * 0xf1de83e19937733d).toNat, UInt64.toNat_lt _, ?_⟩
  rw [UInt64.ofNat_toNat, UInt64.mul_assoc, hinverse, UInt64.mul_one]

/-- From every state, each number comes within `2 ^ 64` draws. -/
theorem exists_mix_eq (state raw : UInt64) :
    ∃ k, k < 2 ^ 64 ∧ mix (state + stride + UInt64.ofNat k * stride) = raw := by
  obtain ⟨target, rfl⟩ := mix_surjective raw
  obtain ⟨k, hk, hd⟩ := exists_mul_stride (target - (state + stride))
  refine ⟨k, hk, congrArg mix ?_⟩
  rw [hd, UInt64.add_comm, UInt64.sub_add_cancel]

/-! ### The search for an accepted draw -/

/-- The first try, and those after it. -/
lemma seededBelow_succ (bound : UInt64) (tries : Nat) (state : UInt64) :
    seededBelow bound (tries + 1) state =
      match residue? bound (mix (state + stride)) with
      | some n => (n, state + stride)
      | none => seededBelow bound tries (state + stride) := rfl

/-- The states after the next one. -/
lemma stride_mul_succ (state : UInt64) (k : Nat) :
    state + UInt64.ofNat (k + 1) * stride = state + stride + UInt64.ofNat k * stride := by
  have hone : UInt64.ofNat 1 = 1 := rfl
  rw [UInt64.ofNat_add, UInt64.add_mul, hone, UInt64.one_mul, UInt64.add_assoc,
    UInt64.add_comm stride]

/-- One try more makes no difference once a draw has been accepted. -/
lemma seededBelow_succ_of_accepted {bound : UInt64} {tries k : Nat} {state : UInt64}
    (hk : k < tries)
    (h : (residue? bound (mix (state + stride + UInt64.ofNat k * stride))).isSome) :
    seededBelow bound (tries + 1) state = seededBelow bound tries state := by
  induction tries generalizing k state with
  | zero => exact absurd hk (Nat.not_lt_zero k)
  | succ tries ih =>
    rw [seededBelow_succ bound (tries + 1), seededBelow_succ bound tries state]
    cases hfirst : residue? bound (mix (state + stride)) with
    | some n => rfl
    | none =>
      -- the first draw was rejected, so the accepted one is a later one
      cases k with
      | zero => simp [hfirst] at h
      | succ k =>
        rw [stride_mul_succ] at h
        exact ih (Nat.lt_of_succ_lt_succ hk) h

/-- A full cycle of tries finds an accepted draw, and where the first draw of
the cycle is rejected so does one try less from the state after it. -/
lemma seededBelow_full {bound : UInt64} {tries : Nat} (htries : tries + 1 = 2 ^ 64)
    {state : UInt64} (h : residue? bound (mix (state + stride)) = none) :
    seededBelow bound tries (state + stride) = seededBelow bound (tries + 1) (state + stride) := by
  obtain ⟨raw, hraw⟩ := exists_residue bound
  obtain ⟨k, hk, hmix⟩ := exists_mix_eq (state + stride) raw
  have haccepted : (residue? bound
      (mix (state + stride + stride + UInt64.ofNat k * stride))).isSome := by
    rw [hmix, hraw]
    rfl
  refine (seededBelow_succ_of_accepted (Nat.lt_of_le_of_ne (by omega) fun hlast => ?_)
    haccepted).symm
  -- after a full cycle the rejected draw comes again
  have hcycle : state + stride + UInt64.ofNat (k + 1) * stride = state + stride := by
    have hzero : UInt64.ofNat (2 ^ 64) = 0 := by decide
    rw [hlast, htries, hzero, UInt64.zero_mul, UInt64.add_zero]
  rw [← stride_mul_succ, hcycle, h] at haccepted
  cases haccepted

/-- A draw below a bound is the first raw draw that the bound lets through. -/
theorem below_eq (bound : UInt64) :
    below bound = next >>= fun raw =>
      match residue? bound raw with
      | some n => pure n
      | none => below bound := by
  funext source
  cases source with
  | seeded state =>
    obtain ⟨tries, htries⟩ : ∃ tries, twoTo 64 = tries + 1 := ⟨2 ^ 64 - 1, rfl⟩
    have hbelow (state : UInt64) : below bound (seeded state)
        = .ok (seededBelow bound (tries + 1) state).1
          (seeded (seededBelow bound (tries + 1) state).2) := by
      rw [← htries]
      rfl
    have hstep : (next >>= fun raw => match residue? bound raw with
          | some n => pure n
          | none => below bound) (seeded state)
        = match residue? bound (mix (state + stride)) with
          | some n => .ok n (seeded (state + stride))
          | none => below bound (seeded (state + stride)) := by
      simp only [bind, EStateM.bind, next]
      cases residue? bound (mix (state + stride)) <;> rfl
    rw [hstep, hbelow, seededBelow_succ]
    cases h : residue? bound (mix (state + stride)) with
    | some n => rfl
    | none =>
      dsimp only
      rw [hbelow, seededBelow_full htries.symm h]
  | listed draws complaint =>
    cases draws with
    | nil => rfl
    | cons raw rest =>
      simp only [bind, EStateM.bind, next]
      rw [below, listedBelow]
      cases h : residue? bound raw <;> rfl

/-! ### A full cycle -/

/-- So many raw draws, one after the other. -/
def outputs : Nat → Draw (List UInt64)
  | 0 => pure []
  | n + 1 => do
    let raw ← next
    let more ← outputs n
    return raw :: more

/-- The raw draw that comes after so many others. -/
def output (state : UInt64) (k : Nat) : UInt64 := mix (state + stride + UInt64.ofNat k * stride)

lemma zero_mul_stride (state : UInt64) : state + UInt64.ofNat 0 * stride = state := by
  have hzero : UInt64.ofNat 0 = 0 := rfl
  rw [hzero, UInt64.zero_mul, UInt64.add_zero]

lemma output_zero (state : UInt64) : output state 0 = mix (state + stride) := by
  rw [output, zero_mul_stride]

lemma output_succ (state : UInt64) (k : Nat) : output state (k + 1) = output (state + stride) k := by
  rw [output, output, stride_mul_succ]

/-- The first raw draw, and those after it. -/
lemma outputs_succ (n : Nat) (state : UInt64) :
    outputs (n + 1) (seeded state)
      = match outputs n (seeded (state + stride)) with
        | .ok more source => .ok (mix (state + stride) :: more) source
        | .error complaint source => .error complaint source := by
  simp only [outputs, bind, EStateM.bind, next]
  cases outputs n (seeded (state + stride)) <;> rfl

lemma outputs_seeded (n : Nat) (state : UInt64) :
    outputs n (seeded state)
      = .ok ((List.range n).map (output state)) (seeded (state + UInt64.ofNat n * stride)) := by
  induction n generalizing state with
  | zero =>
    rw [zero_mul_stride]
    rfl
  | succ n ih =>
    rw [outputs_succ, ih, stride_mul_succ, List.range_succ_eq_map, List.map_cons, List.map_map,
      output_zero]
    simp only [Function.comp_def, Nat.succ_eq_add_one, output_succ]

/-- No number comes twice within a cycle: the multiples of the stride differ. -/
lemma nodup_outputs (state : UInt64) : ((List.range (2 ^ 64)).map (output state)).Nodup := by
  have hinverse : stride * (0xf1de83e19937733d : UInt64) = 1 := by decide
  refine List.Nodup.map_on (fun k hk l hl h => ?_) List.nodup_range
  rw [List.mem_range] at hk hl
  have hwords := mul_word_injective hinverse (add_left_cancel (mix_injective h))
  rw [← UInt64.toNat_ofNat_of_lt' hk, hwords, UInt64.toNat_ofNat_of_lt' hl]

lemma count_outputs (state raw : UInt64) :
    ((List.range (2 ^ 64)).map (output state)).count raw = 1 := by
  obtain ⟨k, hk, hraw⟩ := exists_mix_eq state raw
  exact List.count_eq_one_of_mem (nodup_outputs state)
    (List.mem_map.mpr ⟨k, List.mem_range.mpr hk, hraw⟩)

/-- A whole cycle leads back to the state it began with. -/
lemma add_cycle (state : UInt64) : state + UInt64.ofNat (2 ^ 64) * stride = state := by
  have hzero : UInt64.ofNat (2 ^ 64) = 0 := by decide
  rw [hzero, UInt64.zero_mul, UInt64.add_zero]

/-- The search stops at the first accepted draw. -/
lemma seededBelow_first {bound n : UInt64} {tries k : Nat} {state : UInt64} (hk : k < tries)
    (hrejected : ∀ j < k, residue? bound (output state j) = none)
    (haccepted : residue? bound (output state k) = some n) :
    seededBelow bound tries state = (n, state + UInt64.ofNat (k + 1) * stride) := by
  obtain ⟨tries, rfl⟩ := Nat.exists_eq_add_of_lt hk
  clear hk
  induction k generalizing state with
  | zero =>
    rw [output_zero] at haccepted
    rw [Nat.zero_add, seededBelow_succ, haccepted, stride_mul_succ, zero_mul_stride]
  | succ k ih =>
    have hfirst := hrejected 0 (Nat.succ_pos k)
    rw [output_zero] at hfirst
    rw [output_succ] at haccepted
    rw [Nat.add_right_comm k, seededBelow_succ, hfirst, stride_mul_succ]
    refine ih (fun j hj => ?_) haccepted
    rw [← output_succ]
    exact hrejected (j + 1) (Nat.succ_lt_succ hj)

lemma eq_mod_of_residue {bound raw n : UInt64} (h : residue? bound raw = some n) :
    n = raw % bound := by
  rw [residue?] at h
  split at h
  · exact (Option.some.inj h).symm
  · cases h

/-- Some draw of a cycle is accepted, so there is a first one. -/
lemma exists_first (bound state : UInt64) :
    ∃ k, k < 2 ^ 64 ∧ (∀ j < k, residue? bound (output state j) = none)
      ∧ residue? bound (output state k) = some (output state k % bound) := by
  obtain ⟨raw, hraw⟩ := exists_residue bound
  obtain ⟨l, hl, hmix⟩ := exists_mix_eq state raw
  have hlast : (residue? bound (output state l)).isSome := by
    rw [output, hmix, hraw]
    rfl
  have hsome : ∃ k, (residue? bound (output state k)).isSome := ⟨l, hlast⟩
  refine ⟨Nat.find hsome, Nat.lt_of_le_of_lt (Nat.find_min' hsome hlast) hl, fun j hj => ?_, ?_⟩
  · exact Option.not_isSome_iff_eq_none.mp (Nat.find_min hsome hj)
  · obtain ⟨n, hn⟩ := Option.isSome_iff_exists.mp (Nat.find_spec hsome)
    rw [hn, eq_mod_of_residue hn]

/-- From every state the generator gives each number once in `2 ^ 64` draws, and
then it is in that state again. So the search for a draw that a bound lets
through ends within as many tries, at the first such draw. -/
theorem full_cycle (state : UInt64) :
    (∃ drawn, outputs (2 ^ 64) (seeded state) = .ok drawn (seeded state)
      ∧ drawn.length = 2 ^ 64 ∧ ∀ raw, drawn.count raw = 1)
    ∧ ∀ bound : UInt64, bound ≠ 0 → ∃ rejected raw after,
      rejected.length < 2 ^ 64
      ∧ outputs (rejected.length + 1) (seeded state) = .ok (rejected ++ [raw]) (seeded after)
      ∧ (∀ r ∈ rejected, residue? bound r = none)
      ∧ residue? bound raw = some (raw % bound)
      ∧ below bound (seeded state) = .ok (raw % bound) (seeded after) := by
  have hlength (n : Nat) : ((List.range n).map (output state)).length = n := by
    rw [List.length_map, List.length_range]
  constructor
  · have hcycle := outputs_seeded (2 ^ 64) state
    rw [add_cycle] at hcycle
    exact ⟨_, hcycle, hlength _, count_outputs state⟩
  · intro bound _
    obtain ⟨k, hk, hrejected, haccepted⟩ := exists_first bound state
    refine ⟨(List.range k).map (output state), output state k,
      state + UInt64.ofNat (k + 1) * stride, (hlength k).symm ▸ hk, ?_, fun r hr => ?_,
      haccepted, ?_⟩
    · rw [hlength, outputs_seeded, List.range_succ, List.map_append]
      rfl
    · obtain ⟨j, hj, rfl⟩ := List.mem_map.mp hr
      exact hrejected j (List.mem_range.mp hj)
    · have htwo : twoTo 64 = 2 ^ 64 := rfl
      rw [below, htwo, seededBelow_first hk hrejected haccepted]

/-- A bound that rejects almost half of all draws. -/
theorem full_cycle_above_half : (9223372036854775809 : UInt64) ≠ 0
    ∧ (∃ drawn, outputs (2 ^ 64) (seeded 1) = .ok drawn (seeded 1)
      ∧ drawn.length = 2 ^ 64 ∧ ∀ raw, drawn.count raw = 1)
    ∧ ∃ rejected raw after, rejected.length < 2 ^ 64
      ∧ outputs (rejected.length + 1) (seeded 1) = .ok (rejected ++ [raw]) (seeded after)
      ∧ below 9223372036854775809 (seeded 1) = .ok (raw % 9223372036854775809) (seeded after) := by
  have hbound : (9223372036854775809 : UInt64) ≠ 0 := by decide
  obtain ⟨hcycle, hsearch⟩ := full_cycle 1
  obtain ⟨rejected, raw, after, hlength, hdrawn, -, -, hbelow⟩ :=
    hsearch 9223372036854775809 hbound
  exact ⟨hbound, hcycle, rejected, raw, after, hlength, hdrawn, hbelow⟩

end Source

end MockupStudio.Script
