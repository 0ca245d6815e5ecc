/-
What helpers promise when they accept their arguments.

* `Draws`: a drawing that never fails and gives a result with a property; only
  a list of draws can be used up before, and the room for arrays be too small;
* `Recipe.Yields`, `Recipe.roomTaken`, `Recipe.draws_force`: what the fixtures of
  helpers yield, the room they take, and that with this room they always yield it;
* `Recipe.alwaysYields_iff`: with less room some state of the generator makes
  them break off;
* `Helper.Promises`: what a helper promises, read off its arguments;
* `Helper.serves_of_call`: accepted arguments make a fixture that keeps the
  promise, and no sum that is drawn with goes past 64 bits;
* `Resolver.walk_ne_fixture`: no walk over a value as scripts build them is
  stopped by a fixture;
* `accepted_yields_iff_room`: the promises, and samples of programs;
* `accepted_copies_break_off`: copies that are accepted and too many for any array.
-/
import MockupStudio.Proofs.Script.ExpansionDepth
import MockupStudio.Proofs.Script.UniformDraws

namespace MockupStudio.Script

/-! ### Drawings that never fail -/

/-- The source that is left when some draws have been made. -/
inductive Source.LeadsTo : Source → Source → Prop where
  | seeded : LeadsTo (.seeded state) (.seeded state')
  | listed : rest <:+ draws → LeadsTo (.listed draws complaint) (.listed rest complaint)

lemma Source.LeadsTo.refl (source : Source) : source.LeadsTo source := by
  cases source with
  | seeded => exact .seeded
  | listed draws => exact .listed (List.suffix_refl draws)

lemma Source.LeadsTo.trans {a b c : Source} (h : a.LeadsTo b) (h' : b.LeadsTo c) :
    a.LeadsTo c := by
  cases h with
  | seeded =>
    cases h' with
    | seeded => exact .seeded
  | listed hrest =>
    cases h' with
    | listed hrest' => exact .listed (hrest'.trans hrest)

/-- How a drawing that never fails ends: with a result that has a property, or,
where the draws are those of a list, when the list is used up, or for want of the room
that it takes. -/
inductive Drawn (P : α → Prop) (room : Nat) (supply : Supply) :
    EStateM.Result ForceFailure Supply α → Prop where
  | ok : P a → supply.source.LeadsTo source → Drawn P room supply (.ok a { supply with source })
  | usedUp : supply.source = .listed draws complaint →
      Drawn P room supply
        (.error (.aborted complaint) { supply with source := .listed [] complaint })
  | noRoom : supply.room < room → supply.source.LeadsTo source →
      Drawn P room supply (.error (.aborted capacityOverflow) { supply with source })

/-- A drawing that never fails, from whatever source, and takes so much room at most. -/
def Draws (P : α → Prop) (room : Nat) (f : Force α) : Prop :=
  ∀ supply, Drawn P room supply (f supply)

section Drawing

variable {α β : Type} {P : α → Prop} {Q : β → Prop} {room : Nat} {f : Force α}

lemma Draws.pure {a : α} (h : P a) : Draws P room (pure a) := fun supply =>
  .ok h (.refl supply.source)

lemma Draws.mono {P' : α → Prop} (h : Draws P room f) (hP : ∀ a, P a → P' a) :
    Draws P' room f := by
  intro supply
  have hdrawn := h supply
  generalize f supply = result at hdrawn
  cases hdrawn with
  | ok ha hleads => exact .ok (hP _ ha) hleads
  | usedUp hsource => exact .usedUp hsource
  | noRoom hroom hleads => exact .noRoom hroom hleads

lemma Draws.bind {g : α → Force β} (h : Draws P room f) (h' : ∀ a, P a → Draws Q room (g a)) :
    Draws Q room (f >>= g) := by
  intro supply
  have hfirst := h supply
  simp only [Bind.bind, EStateM.bind]
  generalize f supply = result at hfirst
  cases hfirst with
  | usedUp hsource => exact .usedUp hsource
  | noRoom hroom hleads => exact .noRoom hroom hleads
  | @ok a source ha hleads =>
    have hsecond := h' a ha { supply with source }
    simp only
    generalize g a { supply with source } = result at hsecond
    cases hsecond with
    | ok hb hleads' => exact .ok hb (hleads.trans hleads')
    | noRoom hroom hleads' => exact .noRoom hroom (hleads.trans hleads')
    | usedUp hsource =>
      simp only at hsource
      subst hsource
      generalize hfrom : supply.source = start at hleads
      cases hleads with
      | listed => exact .usedUp hfrom

/-- From a state of the generator and with enough room the drawing always gives a result. -/
lemma Draws.exists_ok {supply : Supply} (h : Draws P room f) (hroom : room ≤ supply.room)
    {state : UInt64} (hsource : supply.source = .seeded state) :
    ∃ a supply', f supply = .ok a supply' ∧ P a := by
  have hdrawn := h supply
  generalize f supply = result at hdrawn
  cases hdrawn with
  | ok ha => exact ⟨_, _, rfl, ha⟩
  | usedUp hlisted => cases hsource.symm.trans hlisted
  | noRoom hless => omega

lemma Draws.ne_failed (h : Draws P room f) (message : String) (supply supply' : Supply) :
    f supply ≠ .error (.failed message) supply' := by
  intro hfailed
  have hdrawn := h supply
  rw [hfailed] at hdrawn
  cases hdrawn

lemma listedBelow_suffix {bound n : UInt64} {draws rest : List UInt64}
    (h : Source.listedBelow bound draws = some (n, rest)) : rest <:+ draws := by
  induction draws with
  | nil => cases h
  | cons raw draws ih =>
    rw [Source.listedBelow] at h
    split at h
    · cases h
      exact List.suffix_cons raw rest
    · exact (ih h).trans (List.suffix_cons raw draws)

lemma draws_below (bound : UInt64) :
    Draws (fun n => ∃ raw, residue? bound raw = some n) room (drawing (Source.below bound)) := by
  intro ⟨source, counters, _⟩
  cases source with
  | seeded state =>
    obtain ⟨raw, hraw⟩ := residue_of_seededBelow bound (twoTo 64) state
    exact .ok ⟨raw, hraw⟩ .seeded
  | listed draws complaint =>
    simp only [drawing, Source.below]
    cases h : Source.listedBelow bound draws with
    | none => exact .usedUp rfl
    | some result => exact .ok (residue_of_listedBelow h) (.listed (listedBelow_suffix h))

/-- A draw below a count is below it, also where the count is no word. -/
lemma toNat_lt_of_residue {count : Nat} {raw n : UInt64} (hcount : 0 < count)
    (h : residue? (UInt64.ofNat count) raw = some n) : n.toNat < count := by
  by_cases hzero : UInt64.ofNat count = 0
  · have hmod : count % 2 ^ 64 = 0 := by
      rw [← UInt64.toNat_ofNat', hzero, UInt64.toNat_zero]
    have hword := n.toNat_lt
    omega
  · have hlt := UInt64.lt_iff_toNat_lt.mp (residue_lt hzero h)
    rw [UInt64.toNat_ofNat'] at hlt
    exact Nat.lt_of_lt_of_le hlt (Nat.mod_le count _)

lemma draws_drawFrom (choices : List α) (d : α) :
    Draws (fun a => choices ≠ [] → a ∈ choices) room (drawFrom choices d) := by
  refine (draws_below _).bind fun i hi => .pure fun hne => ?_
  obtain ⟨raw, hraw⟩ := hi
  have hlt := toNat_lt_of_residue (List.length_pos_iff.mpr hne) hraw
  rw [List.getD_eq_getElem _ _ hlt]
  exact List.getElem_mem hlt

lemma draws_drawBetween {low high : Int} (h : low < high) (emptyText : String) :
    Draws (fun n => low ≤ n ∧ n < high) room (drawBetween low high emptyText) := by
  rw [drawBetween_eq h]
  refine (draws_below _).bind fun n hn => .pure ?_
  obtain ⟨raw, hraw⟩ := hn
  have hlt := toNat_lt_of_residue (by omega) hraw
  omega

/-- The digits of identifiers. -/
def hexDigits : List Char := "0123456789abcdef".toList

lemma digitChar_mem (n : Nat) (h : n < 16) : Nat.digitChar n ∈ hexDigits := by
  have hall : ∀ n < 16, Nat.digitChar n ∈ hexDigits := by decide
  exact hall n h

lemma draws_drawDigits (n : Nat) {done : List Char} (hdone : ∀ c ∈ done, c ∈ hexDigits) :
    Draws (fun cs => cs.length = n + done.length ∧ ∀ c ∈ cs, c ∈ hexDigits) room
      (drawDigits n done) := by
  induction n generalizing done with
  | zero => exact .pure (by simpa using hdone)
  | succ n ih =>
    refine (draws_below 16).bind fun d hd => ?_
    obtain ⟨raw, hraw⟩ := hd
    have hdigit := digitChar_mem d.toNat (UInt64.lt_iff_toNat_lt.mp (residue_lt (by decide) hraw))
    have hrest := ih (List.forall_mem_cons.mpr ⟨hdigit, hdone⟩)
    rwa [List.length_cons, ← Nat.add_assoc, Nat.add_right_comm] at hrest

lemma draws_repeated {n : Nat} (template : Value) (hn : n * valueBytes ≤ room) :
    Draws (fun v => v = .array (List.replicate n template)) room (repeated n template) := by
  intro supply
  rw [repeated]
  split
  · exact .ok rfl (.refl supply.source)
  · exact .noRoom (by omega) (.refl supply.source)

end Drawing

/-! ### What fixtures of helpers yield -/

namespace Recipe

/-- What the fixture of a helper may yield. -/
def Yields : Recipe → Value → Prop
  | firstName, v => ∃ s ∈ firstNames, v = .text s
  | lastName, v => ∃ s ∈ lastNames, v = .text s
  | fullName, v => ∃ s ∈ firstNames, ∃ t ∈ lastNames, v = .text (s ++ " " ++ t)
  | between low high, v => ∃ n, low ≤ n ∧ n < high ∧ v = .int (Int64.ofInt n)
  | choice choices, v => choices ≠ [] → v ∈ choices
  | digits length, v =>
    ∃ s : String, s.length = length ∧ (∀ c ∈ s.toList, c ∈ hexDigits) ∧ v = .text s
  | copies low high template, v =>
    ∃ k, low ≤ k ∧ k ≤ high ∧ v = .array (List.replicate k template)
  | _, _ => False

/-- The most room that forcing a fixture takes. -/
def roomTaken : Recipe → Nat
  | copies _ high _ => high * valueBytes
  | _ => 0

/-- The fixture of a helper never fails, and yields what it may yield. -/
theorem draws_force {recipe : Recipe} (hr : recipe.isHelper) (hp : recipe.Possible) :
    Draws recipe.Yields recipe.roomTaken recipe.force := by
  have hfirst : Draws (fun s => firstNames ≠ [] → s ∈ firstNames) 0 (drawFrom firstNames "") :=
    draws_drawFrom firstNames ""
  have hlast : Draws (fun s => lastNames ≠ [] → s ∈ lastNames) 0 (drawFrom lastNames "") :=
    draws_drawFrom lastNames ""
  have hfirstNames : firstNames ≠ [] := by decide
  have hlastNames : lastNames ≠ [] := by decide
  cases recipe with
  | firstName => exact hfirst.bind fun s hs => .pure ⟨s, hs hfirstNames, rfl⟩
  | lastName => exact hlast.bind fun s hs => .pure ⟨s, hs hlastNames, rfl⟩
  | fullName =>
    exact hfirst.bind fun s hs => hlast.bind fun t ht =>
      .pure ⟨s, hs hfirstNames, t, ht hlastNames, rfl⟩
  | between low high =>
    exact (draws_drawBetween hp _).bind fun n hn => .pure ⟨n, hn.1, hn.2, rfl⟩
  | choice choices => exact draws_drawFrom choices .null
  | digits length =>
    refine (draws_drawDigits length fun c hc => by cases hc).bind fun cs hcs => .pure ?_
    exact ⟨String.ofList cs, by simpa using hcs.1, by simpa using hcs.2, rfl⟩
  | copies low high template =>
    have hp : low ≤ high := hp
    have hcopies (k : Nat) (hlow : low ≤ k) (hhigh : k ≤ high) :
        Draws (copies low high template).Yields (high * valueBytes) (repeated k template) :=
      (draws_repeated template (Nat.mul_le_mul_right _ hhigh)).mono fun v hv =>
        ⟨k, hlow, hhigh, hv⟩
    rw [force]
    split
    · exact hcopies low (Nat.le_refl low) hp
    · exact (draws_drawBetween (by omega) _).bind fun n hn =>
        hcopies n.toNat (by omega) (by omega)
  | _ => cases hr

/-- Whether the ints that a fixture draws between are of 64 bits. -/
def FitsWords : Recipe → Prop
  | between low high => Decimal.fitsInt64 low ∧ Decimal.fitsInt64 high
  | copies low high _ => Decimal.fitsInt64 low ∧ Decimal.fitsInt64 (high + 1)
  | _ => True

end Recipe

/-! ### The room that is needed -/

lemma fitsInt64_iff {n : Int} : Decimal.fitsInt64 n ↔ -2 ^ 63 ≤ n ∧ n < 2 ^ 63 := by
  rw [Decimal.fitsInt64, Bool.and_eq_true, decide_eq_true_eq, decide_eq_true_eq]
  rfl

/-- Every word below a bound comes out first from some state of the generator. -/
lemma exists_below_eq {bound n : UInt64} (hn : n < bound) : ∃ state state',
    Source.below bound (.seeded state) = .ok n (.seeded state') := by
  have hbound : bound ≠ 0 := UInt64.pos_iff_ne_zero.mp (UInt64.lt_of_le_of_lt UInt64.zero_le hn)
  obtain ⟨raw, hraw⟩ : {raw | residue? bound raw = some n}.Nonempty := by
    refine Set.nonempty_of_ncard_ne_zero ?_
    rw [ncard_residue hbound hn]
    exact (Nat.div_pos bound.toNat_lt.le (toNat_pos hbound)).ne'
  obtain ⟨state, rfl⟩ := mix_surjective raw
  refine ⟨state - stride, state, ?_⟩
  have hfirst : Source.seededBelow bound (twoTo 64) (state - stride) = (n, state) := by
    rw [show twoTo 64 = twoTo 64 - 1 + 1 from rfl, Source.seededBelow_succ,
      UInt64.sub_add_cancel, hraw]
  rw [Source.below, hfirst]

/-- Every number between two bounds that are a word apart comes out first from some
state of the generator. -/
lemma exists_drawBetween_eq {low high n : Int} (hlow : low ≤ n) (hhigh : n < high)
    (hword : high - low < 2 ^ 64) (emptyText : String) : ∃ state state', ∀ supply : Supply,
      supply.source = .seeded state → drawBetween low high emptyText supply
        = .ok n { supply with source := .seeded state' } := by
  have hbound : (UInt64.ofNat (high - low).toNat).toNat = (high - low).toNat :=
    UInt64.toNat_ofNat_of_lt' (show _ < 2 ^ 64 by omega)
  have hnumber : (UInt64.ofNat (n - low).toNat).toNat = (n - low).toNat :=
    UInt64.toNat_ofNat_of_lt' (show _ < 2 ^ 64 by omega)
  have hsum : low + (n - low) = n := by omega
  have hless : UInt64.ofNat (n - low).toNat < UInt64.ofNat (high - low).toNat := by
    rw [UInt64.lt_iff_toNat_lt, hbound, hnumber]
    omega
  obtain ⟨state, state', hbelow⟩ := exists_below_eq hless
  refine ⟨state, state', fun supply hsource => ?_⟩
  rw [drawBetween_eq (by omega)]
  simp only [bind, EStateM.bind, drawing, hsource, hbelow, hnumber,
    Int.toNat_of_nonneg (show 0 ≤ n - low by omega), hsum]
  rfl

namespace Recipe

/-- From every state of the generator a fixture yields something that keeps a promise,
where an array may take so much room. -/
def Keeps (recipe : Recipe) (promise : Value → Prop) (room : Nat) : Prop :=
  ∀ state counters, ∃ v supply', recipe.force ⟨.seeded state, counters, room⟩ = .ok v supply'
    ∧ promise v

/-- Copies that are made take their room. -/
lemma room_of_repeated {n : Nat} {template v : Value} {supply supply' : Supply}
    (h : repeated n template supply = .ok v supply') : n * valueBytes ≤ supply.room := by
  rw [repeated] at h
  split at h
  · assumption
  · cases h

/-- The fixture of a helper keeps its promise just where there is the room that it
takes: some state of the generator makes it take all of it. -/
theorem keeps_iff {recipe : Recipe} {promise : Value → Prop}
    (hdraws : Draws promise recipe.roomTaken recipe.force) (hp : recipe.Possible)
    (hwords : recipe.FitsWords) (room : Nat) :
    recipe.Keeps promise room ↔ recipe.roomTaken ≤ room := by
  refine ⟨fun h => ?_, fun hroom state counters => hdraws.exists_ok hroom rfl⟩
  cases recipe with
  | copies low high template =>
    have hle : low ≤ high := hp
    by_cases heq : low = high
    · obtain ⟨v, supply', hforce, -⟩ := h 0 []
      rw [force, if_pos heq, heq] at hforce
      exact room_of_repeated hforce
    · have hword : (high : Int) + 1 < 2 ^ 63 := (fitsInt64_iff.mp hwords.2).2
      obtain ⟨state, state', hdrawn⟩ := exists_drawBetween_eq
        (show (low : Int) ≤ high by omega) (show (high : Int) < high + 1 by omega) (by omega)
        ("count range " ++ rangeText low high "]" ++ " is empty")
      obtain ⟨v, supply', hforce, -⟩ := h state []
      rw [force, if_neg heq, bind_ok_iff] at hforce
      obtain ⟨n, supply, hn, hforce⟩ := hforce
      cases (hdrawn _ rfl).symm.trans hn
      exact room_of_repeated hforce
  | _ => exact Nat.zero_le room

end Recipe

/-! ### Promises -/

/-- The int that an argument stands for: an int as it is, and a finite float
without a fraction as the int next to it. -/
def Value.IsWhole : Value → Int → Prop
  | .int m, n => m.toInt = n
  | .float x, n => x.isFinite ∧ x.floor == x ∧ x.toInt64.toInt = n
  | _, _ => False

/-- What a helper promises of the values that its fixture yields. -/
inductive Helper.Promises : Helper → List Value → Value → Prop where
  | firstName : s ∈ firstNames → Promises .firstName [] (.text s)
  | lastName : s ∈ lastNames → Promises .lastName [] (.text s)
  | fullName : s ∈ firstNames → t ∈ lastNames → Promises .fullName [] (.text (s ++ " " ++ t))
  | below {max : Value} : max.IsWhole high → 0 ≤ n.toInt → n.toInt < high →
      Promises .randInt [max] (.int n)
  | between {min max : Value} : min.IsWhole low → max.IsWhole high → low ≤ n.toInt →
      n.toInt < high → Promises .randInt [min, max] (.int n)
  | item : v ∈ items → Promises .pick [.array items] v
  | argument : 2 ≤ arguments.length → v ∈ arguments → Promises .pick arguments v
  | digits {s : String} : s.length = 32 → (∀ c ∈ s.toList, c ∈ hexDigits) →
      Promises .uid [] (.text s)
  | digitsOf {length : Value} {s : String} : length.IsWhole s.length →
      (∀ c ∈ s.toList, c ∈ hexDigits) → Promises .uid [length] (.text s)
  | copies {count : Value} {k : Nat} : count.IsWhole k →
      Promises .some [count, template] (.array (List.replicate k template))
  | copiesBetween {min max : Value} {k : Nat} : min.IsWhole low → max.IsWhole high → low ≤ k →
      k ≤ high → Promises .some [min, max, template] (.array (List.replicate k template))

/-- A fixture that a helper makes of arguments it accepts: one that always
yields something, draws between ints of 64 bits, and keeps the promise. -/
structure Recipe.Serves (recipe : Recipe) (helper : Helper) (arguments : List Value) : Prop where
  isHelper : recipe.isHelper
  possible : recipe.Possible
  fitsWords : recipe.FitsWords
  promised : ∀ v, recipe.Yields v → helper.Promises arguments v

section Calls

variable {maxRepeat maxDepth : Nat} {arguments : List Value} {v : Value}

lemma wholeArgument_ok_iff {helper what : String} {n : Int} :
    wholeArgument helper what v = .ok n ↔ v.IsWhole n := by
  cases v with
  | int m => simp [wholeArgument, Value.IsWhole]
  | float x =>
    rw [wholeArgument, Value.IsWhole, ← and_assoc, ← Bool.and_eq_true]
    split
    · next h => simp only [h, true_and, Except.ok.injEq]
    · next h => simp only [h, false_and, reduceCtorEq]
  | _ => simp [wholeArgument, Value.IsWhole]

lemma fits_toInt (n : Int64) : Decimal.fitsInt64 n.toInt :=
  fitsInt64_iff.mpr ⟨n.le_toInt, n.toInt_lt⟩

lemma Value.IsWhole.fits {n : Int} (h : v.IsWhole n) : Decimal.fitsInt64 n := by
  cases v with
  | int m => exact (show m.toInt = n from h) ▸ fits_toInt m
  | float x => exact h.2.2 ▸ fits_toInt x.toInt64
  | _ => cases h

/-- What stands between two ints of 64 bits is one. -/
lemma toInt_between {low high n : Int} (hlow : Decimal.fitsInt64 low)
    (hhigh : Decimal.fitsInt64 high) (h : low ≤ n) (h' : n < high) :
    (Int64.ofInt n).toInt = n := by
  rw [fitsInt64_iff] at hlow hhigh
  exact Int64.toInt_ofInt_of_le (by omega) (by omega)

lemma serves_of_callPlain {helper : Helper} {name : String} {recipe : Recipe}
    (hr : recipe.Serves helper []) (h : callPlain name recipe arguments = .ok v) :
    v = .fixture name recipe 0 ∧ recipe.Serves helper arguments := by
  rw [callPlain] at h
  split at h
  · next hnil =>
    cases h
    rw [List.isEmpty_iff] at hnil
    exact ⟨rfl, hnil ▸ hr⟩
  · cases h

lemma serves_of_callRandInt (h : callRandInt arguments = .ok v) :
    ∃ recipe, v = .fixture "randInt" recipe 0 ∧ recipe.Serves .randInt arguments := by
  have hrange {low high : Int} {e : String} (hlow : Decimal.fitsInt64 low)
      (hhigh : Decimal.fitsInt64 high) (hpromise : ∀ n : Int64, low ≤ n.toInt → n.toInt < high →
        Helper.Promises .randInt arguments (.int n))
      (h : (if high ≤ low then .error e
        else .ok (.fixture "randInt" (.between low high) 0)) = Except.ok v) :
      ∃ recipe, v = .fixture "randInt" recipe 0 ∧ recipe.Serves .randInt arguments := by
    split at h
    · cases h
    · next hlt =>
      cases h
      refine ⟨_, rfl, rfl, Int.not_le.mp hlt, ⟨hlow, hhigh⟩, fun v hv => ?_⟩
      obtain ⟨n, hn, hn', rfl⟩ := hv
      have htoInt := toInt_between hlow hhigh hn hn'
      exact hpromise _ (htoInt.symm ▸ hn) (htoInt.symm ▸ hn')
  rw [callRandInt.eq_def] at h
  dsimp only at h
  split at h
  · obtain ⟨high, hmax, h⟩ := except_bind_ok_iff.mp h
    rw [wholeArgument_ok_iff] at hmax
    exact hrange (by decide) hmax.fits (fun n => .below hmax) h
  · obtain ⟨low, hmin, h⟩ := except_bind_ok_iff.mp h
    obtain ⟨high, hmax, h⟩ := except_bind_ok_iff.mp h
    rw [wholeArgument_ok_iff] at hmin hmax
    exact hrange hmin.fits hmax.fits (fun n => .between hmin hmax) h
  · cases h

lemma serves_of_callPick (h : callPick maxDepth arguments = .ok v) :
    ∃ recipe depth, v = .fixture "pick" recipe depth ∧ recipe.Serves .pick arguments := by
  have hchoices {choices : List Value} {e : String}
      (hpromise : choices ≠ [] → ∀ v ∈ choices, Helper.Promises .pick arguments v)
      (h : (if choices.isEmpty then .error e
        else .ok (.fixture "pick" (.choice choices) (deepestOf maxDepth choices + 1)))
          = Except.ok v) :
      ∃ recipe depth, v = .fixture "pick" recipe depth ∧ recipe.Serves .pick arguments := by
    split at h
    · cases h
    · next hne =>
      cases h
      rw [List.isEmpty_iff] at hne
      exact ⟨_, _, rfl, rfl, trivial, trivial, fun v hv => hpromise hne v (hv hne)⟩
  rw [callPick.eq_def] at h
  dsimp only at h
  split at h
  · exact hchoices (fun _ v => .item) h
  · cases h
  · next hitems hsingle =>
    refine hchoices (fun hne v => .argument ?_) h
    cases arguments with
    | nil => exact absurd rfl hne
    | cons first rest =>
      cases rest with
      | nil => exact absurd rfl (hsingle first)
      | cons => exact Nat.le_add_left 2 _

lemma serves_of_callUid (h : callUid arguments = .ok v) :
    ∃ recipe, v = .fixture "uid" recipe 0 ∧ recipe.Serves .uid arguments := by
  have hlength {n : Int} {e : String} (hpromise : ∀ s : String, (s.length : Int) = n →
        (∀ c ∈ s.toList, c ∈ hexDigits) → Helper.Promises .uid arguments (.text s))
      (h : (if 0 ≤ n ∧ n ≤ maxDigits then .ok (.fixture "uid" (.digits n.toNat) 0)
        else .error e) = Except.ok v) :
      ∃ recipe, v = .fixture "uid" recipe 0 ∧ recipe.Serves .uid arguments := by
    split at h
    · next hn =>
      cases h
      refine ⟨_, rfl, rfl, trivial, trivial, fun v hv => ?_⟩
      obtain ⟨s, hs, hdigits, rfl⟩ := hv
      exact hpromise s (by omega) hdigits
    · cases h
  rw [callUid.eq_def] at h
  dsimp only at h
  split at h
  · obtain ⟨n, hn, h⟩ := except_bind_ok_iff.mp h
    cases hn
    exact hlength (fun s hs => .digits (Int.ofNat_inj.mp hs)) h
  · obtain ⟨n, hn, h⟩ := except_bind_ok_iff.mp h
    rw [wholeArgument_ok_iff] at hn
    exact hlength (fun s hs => .digitsOf (hs ▸ hn)) h
  · cases h

lemma serves_of_callSome (hmax : (maxRepeat : Int) < Int64.maxValue.toInt)
    (h : callSome maxRepeat maxDepth arguments = .ok v) :
    ∃ recipe depth, v = .fixture "some" recipe depth ∧ recipe.Serves .some arguments := by
  have hcopies {low high : Int} {template : Value} {e e' : String}
      (hpromise : ∀ k : Nat, low ≤ k → k ≤ high →
        Helper.Promises .some arguments (.array (List.replicate k template)))
      (h : (if low < 0 ∨ high < low then .error e
        else if (maxRepeat : Int) < high then .error e'
        else .ok (.fixture "some" (.copies low.toNat high.toNat template)
          (template.countUpTo maxDepth + 2))) = Except.ok v) :
      ∃ recipe depth, v = .fixture "some" recipe depth ∧ recipe.Serves .some arguments := by
    split at h
    · cases h
    · split at h
      · cases h
      · cases h
        have hword : Int64.maxValue.toInt = 2 ^ 63 - 1 := rfl
        have hfits : Decimal.fitsInt64 (low.toNat : Int) := fitsInt64_iff.mpr (by omega)
        have hfits' : Decimal.fitsInt64 ((high.toNat : Int) + 1) := fitsInt64_iff.mpr (by omega)
        refine ⟨_, _, rfl, rfl, ?_, ⟨hfits, hfits'⟩, fun v hv => ?_⟩
        · exact Int.toNat_le_toNat (by omega)
        · obtain ⟨k, hk, hk', rfl⟩ := hv
          exact hpromise k (by omega) (by omega)
  rw [callSome.eq_def] at h
  dsimp only at h
  split at h
  · obtain ⟨n, hn, h⟩ := except_bind_ok_iff.mp h
    rw [wholeArgument_ok_iff] at hn
    exact hcopies (fun k hk hk' => .copies (Int.le_antisymm hk' hk ▸ hn)) h
  · obtain ⟨low, hlow, h⟩ := except_bind_ok_iff.mp h
    obtain ⟨high, hhigh, h⟩ := except_bind_ok_iff.mp h
    rw [wholeArgument_ok_iff] at hlow hhigh
    exact hcopies (fun k => .copiesBetween hlow hhigh) h
  · cases h

lemma call_some_count {count : Value} {n : Nat} (hcount : count.IsWhole n)
    (hn : n ≤ maxRepeat) : Helper.some.call maxRepeat maxDepth [count, template]
      = .ok (.fixture "some" (.copies n n template) (template.countUpTo maxDepth + 2)) := by
  have hwhole : wholeArgument "some" "count" count = .ok n := wholeArgument_ok_iff.mpr hcount
  rw [Helper.call, callSome]
  simp only [hwhole, bind, Except.bind, pure, Except.pure]
  rw [if_neg (by omega), if_neg (by omega), Int.toNat_natCast]

/-- The room that a fixture of a helper takes is within the largest repeat count. -/
lemma Helper.roomTaken_le {helper : Helper} {name : String} {recipe : Recipe} {depth : Nat}
    (h : helper.call maxRepeat maxDepth arguments = .ok (.fixture name recipe depth)) :
    recipe.roomTaken ≤ maxRepeat * valueBytes := by
  cases Helper.made h with
  | scalar hscalar => cases recipe <;> first | exact Nat.zero_le _ | cases hscalar
  | choice => exact Nat.zero_le _
  | copies _ hhigh => exact Nat.mul_le_mul_right _ hhigh

/-- Accepted arguments make a fixture of the helper's name that keeps its
promise. -/
theorem Helper.serves_of_call {helper : Helper}
    (hmax : (maxRepeat : Int) < Int64.maxValue.toInt)
    (h : helper.call maxRepeat maxDepth arguments = .ok v) :
    ∃ recipe depth, v = .fixture helper.name recipe depth ∧ recipe.Serves helper arguments := by
  cases helper with
  | firstName =>
    have hserves : Recipe.firstName.Serves .firstName [] :=
      ⟨rfl, trivial, trivial, fun _ ⟨_, hs, hv⟩ => hv ▸ .firstName hs⟩
    obtain ⟨hv, hserves⟩ := serves_of_callPlain hserves h
    exact ⟨_, _, hv, hserves⟩
  | lastName =>
    have hserves : Recipe.lastName.Serves .lastName [] :=
      ⟨rfl, trivial, trivial, fun _ ⟨_, hs, hv⟩ => hv ▸ .lastName hs⟩
    obtain ⟨hv, hserves⟩ := serves_of_callPlain hserves h
    exact ⟨_, _, hv, hserves⟩
  | fullName =>
    have hserves : Recipe.fullName.Serves .fullName [] :=
      ⟨rfl, trivial, trivial, fun _ ⟨_, hs, _, ht, hv⟩ => hv ▸ .fullName hs ht⟩
    obtain ⟨hv, hserves⟩ := serves_of_callPlain hserves h
    exact ⟨_, _, hv, hserves⟩
  | randInt =>
    obtain ⟨recipe, hv, hserves⟩ := serves_of_callRandInt h
    exact ⟨recipe, 0, hv, hserves⟩
  | pick => exact serves_of_callPick h
  | uid =>
    obtain ⟨recipe, hv, hserves⟩ := serves_of_callUid h
    exact ⟨recipe, 0, hv, hserves⟩
  | some => exact serves_of_callSome hmax h

end Calls

/-! ### Samples of programs -/

namespace Resolver

/-- A fixture that never fails stops no walk. -/
lemma forcing_ne_fixture {name : String} {recipe : Recipe} {P : Value → Prop} {room : Nat}
    (h : Draws P room recipe.force) {other message : String} {s s' : WalkState Supply} :
    forcing name recipe.force s ≠ .error (.refused (.fixture other message)) s' := by
  intro hfailed
  rw [forcing] at hfailed
  split at hfailed
  · cases hfailed
  · next hforce => exact h.ne_failed _ _ _ hforce
  · cases hfailed

/-- No walk over a value as scripts build them is stopped by a fixture. -/
theorem walk_ne_fixture {r : Resolver} {limit : Nat} (levels : Nat) {v : Value}
    (hv : Sound limit v) {name message : String} {s s' : WalkState Supply} :
    r.walk Recipe.force levels v s ≠ .error (.refused (.fixture name message)) s' := by
  intro h
  induction levels generalizing v s s' with
  | zero => cases h
  | succ levels ih =>
    rw [walk.eq_def, bind_error_iff] at h
    rcases h with h | ⟨_, _, -, h⟩
    · cases visit_error h
    · cases v with
      | array items =>
        cases hv with
        | array hitems =>
          rcases bind_error_iff.mp h with h | ⟨_, _, -, h⟩
          · obtain ⟨x, hx, _, h⟩ := exists_of_mapM_error h
            exact ih (hitems x hx) h
          · cases h
      | object members =>
        cases hv with
        | object hmembers =>
          rcases bind_error_iff.mp h with h | ⟨_, _, -, h⟩
          · obtain ⟨m, hm, _, h⟩ := exists_of_mapM_error h
            rcases bind_error_iff.mp h with h | ⟨_, _, -, h⟩
            · exact ih (hmembers m (List.mem_mergeSort.mp hm)) h
            · cases h
          · cases h
      | fixture name recipe depth =>
        obtain ⟨hhelper, hpossible⟩ := isHelper_of_sound hv
        rcases bind_error_iff.mp h with h | ⟨x, _, hx, h⟩
        · exact forcing_ne_fixture (Recipe.draws_force hhelper hpossible) h
        · exact ih (hv.of_force (forcing_ok hx)).1 h
      | _ => cases h

end Resolver

/-- No sample of a program is refused for a fixture that fails. -/
lemma Program.sample_ne_fixture (p : Program) (name message : String) (supply supply' : Supply) :
    p.sample supply ≠ .error (.resolve (.fixture name message)) supply' := by
  intro h
  rw [Program.sample] at h
  split at h
  · next v hv =>
    rw [Program.resolve] at h
    split at h
    · cases h
    · next hresolve =>
      cases h
      rw [Resolver.resolve] at hresolve
      split at hresolve
      · cases hresolve
      · next hwalk =>
        cases hresolve
        exact Resolver.walk_ne_fixture _ (within_of_invoke hv).1 hwalk
    · cases h
  · next e he =>
    rw [Program.invoke] at he
    split at he <;> cases he
    cases h

/-- Where the largest repeat count and one more are ints of 64 bits, arguments
that a helper accepts make a fixture that never fails: however often it is
forced, from every state of the generator it yields what the helper promises,
and from a list of draws it does unless the list is used up, as long as there is
room for the largest array it may yield. Where there is not, some state of the
generator makes it break off. So all that is accepted keeps its promise just where
there is room for an array of the largest repeat count. No sample of a compiled program
is refused for a fixture. -/
theorem accepted_yields_iff_room (limits : Limits)
    (hlimits : (limits.maxRepeat : Int) < Int64.maxValue.toInt) :
    (∀ helper arguments v,
      Helper.call helper limits.maxRepeat limits.maxResolveDepth arguments = .ok v →
        ∃ recipe depth, v = .fixture helper.name recipe depth
          ∧ recipe.FitsWords
          ∧ Draws (helper.Promises arguments) recipe.roomTaken recipe.force
          ∧ ∀ room, recipe.Keeps (helper.Promises arguments) room ↔ recipe.roomTaken ≤ room)
    ∧ (∀ room, (∀ helper arguments name recipe depth,
        Helper.call helper limits.maxRepeat limits.maxResolveDepth arguments
          = .ok (.fixture name recipe depth) → recipe.Keeps (helper.Promises arguments) room)
        ↔ limits.maxRepeat * valueBytes ≤ room)
    ∧ ∀ text p, Program.compile limits text = .ok p → ∀ supply supply' name message,
      p.sample supply ≠ .error (.resolve (.fixture name message)) supply' := by
  have haccepted {helper arguments v}
      (h : Helper.call helper limits.maxRepeat limits.maxResolveDepth arguments = .ok v) :
      ∃ recipe depth, v = .fixture helper.name recipe depth ∧ recipe.FitsWords
        ∧ Draws (helper.Promises arguments) recipe.roomTaken recipe.force
        ∧ ∀ room, recipe.Keeps (helper.Promises arguments) room ↔ recipe.roomTaken ≤ room := by
    obtain ⟨recipe, depth, hv, hserves⟩ := Helper.serves_of_call hlimits h
    have hdraws : Draws (helper.Promises arguments) recipe.roomTaken recipe.force :=
      (Recipe.draws_force hserves.isHelper hserves.possible).mono hserves.promised
    exact ⟨recipe, depth, hv, hserves.fitsWords, hdraws,
      Recipe.keeps_iff hdraws hserves.possible hserves.fitsWords⟩
  refine ⟨fun helper arguments v => haccepted, fun room => ⟨fun h => ?_, fun hroom => ?_⟩,
    fun text p _ supply supply' name message => p.sample_ne_fixture name message supply supply'⟩
  · -- as many copies as are allowed take all of the room
    have hword : Int64.maxValue.toInt = 2 ^ 63 - 1 := rfl
    have hcount : Value.IsWhole (.int (Int64.ofNat limits.maxRepeat)) limits.maxRepeat :=
      Int64.toInt_ofNat_of_lt (by omega)
    have hcall : Helper.some.call limits.maxRepeat limits.maxResolveDepth
        [.int (Int64.ofNat limits.maxRepeat), .null] = .ok (.fixture "some"
          (.copies limits.maxRepeat limits.maxRepeat .null)
          (Value.null.countUpTo limits.maxResolveDepth + 2)) :=
      call_some_count hcount (Nat.le_refl limits.maxRepeat)
    obtain ⟨recipe, depth, hv, -, -, hkeeps⟩ := haccepted hcall
    cases hv
    exact (hkeeps room).mp (h _ _ _ _ _ hcall)
  · intro helper arguments name recipe depth hcall
    obtain ⟨_, _, hv, -, -, hkeeps⟩ := haccepted hcall
    cases hv
    exact (hkeeps room).mpr (Nat.le_trans (Helper.roomTaken_le hcall) hroom)

/-- The default repeat count is far below the largest int, and there is room for an
array of so many values; `some(0, 2, null)` and `return [uid()];` under it. -/
theorem accepted_yields_by_default :
    (oneLevel.maxRepeat : Int) < Int64.maxValue.toInt
    ∧ (∃ recipe depth, Helper.some.call oneLevel.maxRepeat oneLevel.maxResolveDepth
        [.int 0, .int 2, .null] = .ok (.fixture "some" recipe depth)
      ∧ Draws (Helper.some.Promises [.int 0, .int 2, .null]) (2 * valueBytes) recipe.force
      ∧ recipe.Keeps (Helper.some.Promises [.int 0, .int 2, .null]) mostBytes)
    ∧ Program.compile oneLevel "return [uid()];" = .ok uidProgram
    ∧ ∀ supply supply' name message,
      uidProgram.sample supply ≠ .error (.resolve (.fixture name message)) supply' := by
  have hlimits : (oneLevel.maxRepeat : Int) < Int64.maxValue.toInt := by decide
  obtain ⟨hhelpers, hroom, hprograms⟩ := accepted_yields_iff_room oneLevel hlimits
  have hcall : Helper.some.call oneLevel.maxRepeat oneLevel.maxResolveDepth
      [.int 0, .int 2, .null] = .ok (.fixture "some" (.copies 0 2 .null) 2) := rfl
  have hkeeps := (hroom mostBytes).mpr (by decide) _ _ _ _ _ hcall
  obtain ⟨recipe, depth, heq, -, hdraws, -⟩ := hhelpers .some _ _ hcall
  cases heq
  exact ⟨hlimits, ⟨_, _, hcall, hdraws, hkeeps⟩, compile_uidProgram,
    hprograms _ _ compile_uidProgram⟩

/-! ### Copies that are accepted and too many -/

/-- Far more copies than there is room for, still an int of 64 bits. -/
def manyCopies : Limits := { maxRepeat := 1152921504606846976 }

/-- `return some(1152921504606846976, null);` as a program under these limits. -/
def copiesProgram : Program :=
  ⟨[.result (some (.call (.name "some") [.literal (.int 1152921504606846976), .literal .null]))],
    manyCopies⟩

lemma read_copiesProgram :
    Program.read manyCopies "return some(1152921504606846976, null);" = .ok copiesProgram := by cbv

/-- Whether a program ends with a fixture of so many copies. -/
def Program.endsWithCopies (p : Program) (n : Nat) : Bool :=
  match p.invoke with
  | .ok (.fixture _ (.copies low high _) _) => low == n && high == n
  | _ => false

/-- Such a program breaks off when it is sampled and there is no room for the copies. -/
lemma Program.sample_of_endsWithCopies {p : Program} {n : Nat} {supply : Supply}
    (h : p.endsWithCopies n) (hnodes : 0 < p.limits.maxResolvedNodes)
    (hroom : supply.room < n * valueBytes) :
    p.sample supply = .error (.panicked capacityOverflow) supply := by
  rw [endsWithCopies] at h
  split at h
  · next name low high template depth hinvoke =>
    rw [Bool.and_eq_true, beq_iff_eq, beq_iff_eq] at h
    obtain ⟨rfl, rfl⟩ := h
    have hvisit : p.resolver.visit ⟨0, supply⟩ = .ok () ⟨1, supply⟩ := Resolver.visit_ok hnodes
    rw [sample, hinvoke]
    simp only [resolve, Resolver.resolve, Resolver.walk_fixture, bind, EStateM.bind, hvisit,
      Resolver.forcing, Recipe.force, if_pos, repeated, if_neg (Nat.not_le.mpr hroom)]
  · cases h

lemma endsWithCopies_copiesProgram : copiesProgram.endsWithCopies manyCopies.maxRepeat := by
  decide +kernel

lemma compile_copiesProgram : Program.compile manyCopies
    "return some(1152921504606846976, null);" = .ok copiesProgram := by
  have h := endsWithCopies_copiesProgram
  rw [Program.endsWithCopies] at h
  rw [Program.compile, read_copiesProgram]
  split at h
  · next hv => simp only [hv]
  · cases h

/-- Not all that is accepted yields something: `some(1152921504606846976, null)` is
accepted under a largest repeat count of as many, and there is no room for the copies. A
script that returns them compiles, and none of its samples comes to an end. -/
theorem accepted_copies_break_off :
    (Program.compile manyCopies "return some(1152921504606846976, null);" = .ok copiesProgram
      ∧ ∀ state, copiesProgram.sample { source := .seeded state }
        = .error (.panicked capacityOverflow) { source := .seeded state })
    ∧ ¬ ∀ (limits : Limits), (limits.maxRepeat : Int) < Int64.maxValue.toInt →
      ∀ helper arguments name recipe depth,
        Helper.call helper limits.maxRepeat limits.maxResolveDepth arguments
          = .ok (.fixture name recipe depth) →
        ∀ state, ∃ w supply', recipe.force { source := .seeded state } = .ok w supply' := by
  have hroom : mostBytes < manyCopies.maxRepeat * valueBytes := by decide
  refine ⟨⟨compile_copiesProgram, fun state => ?_⟩, fun h => ?_⟩
  · exact Program.sample_of_endsWithCopies endsWithCopies_copiesProgram (by decide) hroom
  · have hcall : Helper.some.call manyCopies.maxRepeat manyCopies.maxResolveDepth
        [.int 1152921504606846976, .null] = .ok (.fixture "some"
          (.copies 1152921504606846976 1152921504606846976 .null) 2) := rfl
    obtain ⟨w, supply', hforce⟩ := h manyCopies (by decide) _ _ _ _ _ hcall 0
    rw [Recipe.force, if_pos rfl] at hforce
    exact Nat.not_le.mpr hroom (Recipe.room_of_repeated hforce)
end MockupStudio.Script
