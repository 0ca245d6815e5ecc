/-
How large the values of a run grow.

Joining, repeating, subscripts and loops make texts, joining makes arrays, and
each of them has a check of its own or takes apart what is there. All else a
script has to write down.

* `Value.Carries`: a value and everything in it, what fixtures may yield included;
* `Value.IsSmall`: a text is no longer, and an array has no more items, than given;
* `Value.Capped`: values made of such texts, such arrays and the code that writes
  no others down; `capped_stable` says that a run makes no others;
* `small_after_start`: at no moment does a run get at a larger text or array.
-/
import MockupStudio.Proofs.Script.MomentValues
import MockupStudio.Proofs.Script.Operations
import MockupStudio.Script.Sandbox

namespace MockupStudio.Script

/-! ### Small values -/

/-- The values that a fixture may yield or copy. -/
def Recipe.holdings : Recipe → List Value
  | .choice choices => choices
  | .copies _ _ template => [template]
  | .yields v => [v]
  | _ => []

/-- A value carries itself, its items and members, the variables that its functions
have captured, and what its fixtures may yield or copy. -/
inductive Value.Carries : Value → Value → Prop where
  | self (v : Value) : Carries v v
  | item {items x u} : x ∈ items → Carries x u → Carries (.array items) u
  | member {members member u} : member ∈ members → Carries member.2 u →
      Carries (.object members) u
  | captured {name parameters body scope id captive u} : captive ∈ scope →
      Carries captive.2 u → Carries (.function name parameters body (some scope) id) u
  | held {name recipe depth x u} : x ∈ Recipe.holdings recipe → Carries x u →
      Carries (.fixture name recipe depth) u

/-- A text has no more bytes, and an array no more items, than given. -/
def Value.IsSmall (bytes length : Nat) : Value → Prop
  | .text s => s.utf8ByteSize ≤ bytes
  | .array vs => vs.length ≤ length
  | _ => True

/-- An expression itself writes down no longer text and no longer array. -/
def Expr.IsSmall (bytes length : Nat) (e : Expr) : Prop :=
  e.textBytes ≤ bytes ∧ e.arrayItems ≤ length

/-- Values of small texts and arrays, whatever they hold, have captured or may
yield. The keys of objects are small as well, since loops make texts of them, and
so is what the bodies of functions write down. -/
inductive Value.Capped (bytes length : Nat) : Value → Prop where
  | scalar : v.isScalar → v.IsSmall bytes length → Capped bytes length v
  | array : vs.length ≤ length → (∀ v ∈ vs, Capped bytes length v) → Capped bytes length (.array vs)
  | object : (∀ m ∈ members, m.1.utf8ByteSize ≤ bytes) → (∀ m ∈ members, Capped bytes length m.2) →
      Capped bytes length (.object members)
  | function : Code.Every (Expr.IsSmall bytes length) body →
      (∀ scope ∈ captured, ∀ b ∈ scope, Capped bytes length b.2) →
      Capped bytes length (.function name parameters body captured fid)
  | helper : Capped bytes length (Helper.native serial maxRepeat maxDepth h)
  | fixture : (∀ v ∈ Recipe.holdings recipe, Capped bytes length v) →
      Capped bytes length (.fixture name recipe depth)

namespace Value.Capped

variable {bytes length : Nat} {v u : Value} {vs : List Value} {ms : List (String × Value)}

lemma isSmall (h : v.Capped bytes length) : v.IsSmall bytes length := by
  cases h with
  | scalar _ h => exact h
  | array h => exact h
  | _ => trivial

lemma items (h : (Value.array vs).Capped bytes length) : ∀ v ∈ vs, v.Capped bytes length := by
  cases h with
  | scalar h => cases h
  | array _ h => exact h

lemma keys (h : (Value.object ms).Capped bytes length) : ∀ m ∈ ms, m.1.utf8ByteSize ≤ bytes := by
  cases h with
  | scalar h => cases h
  | object h _ => exact h

lemma members (h : (Value.object ms).Capped bytes length) : ∀ m ∈ ms, m.2.Capped bytes length := by
  cases h with
  | scalar h => cases h
  | object _ h => exact h

lemma held {name : String} {recipe : Recipe} {depth : Nat}
    (h : (Value.fixture name recipe depth).Capped bytes length) :
    ∀ v ∈ recipe.holdings, v.Capped bytes length := by
  cases h with
  | scalar h => cases h
  | fixture h => exact h

section Functions

variable {name : String} {parameters : List String} {code : Code} {outer : Option Scope}
  {scope : Scope} {id : FunctionId}

lemma body (h : (Value.function name parameters code outer id).Capped bytes length) :
    Code.Every (Expr.IsSmall bytes length) code := by
  cases h with
  | scalar h => cases h
  | function h _ => exact h

lemma captured (h : (Value.function name parameters code (some scope) id).Capped bytes length) :
    ∀ b ∈ scope, b.2.Capped bytes length := by
  cases h with
  | scalar h => cases h
  | function _ h => exact h scope rfl

end Functions

/-- Everything that a capped value carries is capped, and so it is small. -/
lemma of_carries (h : v.Capped bytes length) (hu : v.Carries u) : u.Capped bytes length := by
  induction hu with
  | self => exact h
  | item hx _ ih => exact ih (h.items _ hx)
  | member hmember _ ih => exact ih (h.members _ hmember)
  | captured hcaptive _ ih => exact ih (h.captured _ hcaptive)
  | held hx _ ih => exact ih (h.held _ hx)

/-- Brief scalars are capped wherever texts may be as long as operators make them. -/
lemma of_brief (hbytes : maxTextBytes ≤ bytes) (h : v.isBrief) : v.Capped bytes length := by
  refine .scalar (isScalar_of_isBrief h) ?_
  cases v with
  | text s => exact Nat.le_trans (of_decide_eq_true h) hbytes
  | null | bool | int | float => trivial
  | _ => cases h

/-- A fixture that a helper makes of its arguments is as they are. -/
lemma of_made {maxRepeat maxDepth : Nat} {arguments : List Value}
    (hv : Made maxRepeat maxDepth arguments v) (h : ∀ a ∈ arguments, a.Capped bytes length) :
    v.Capped bytes length := by
  cases hv with
  | @scalar name recipe hscalar =>
    refine .fixture fun v hv => ?_
    cases recipe with
    | choice | copies | yields => cases hscalar
    | _ => exact (List.not_mem_nil hv).elim
  | choice _ hchoices =>
    rcases hchoices with rfl | rfl
    · exact .fixture h
    · exact .fixture (h _ List.mem_cons_self).items
  | copies _ _ hmem => exact .fixture (List.forall_mem_singleton.mpr (h _ hmem))

end Value.Capped

/-! ### Ways of making a value -/

section Runs

variable {bytes length : Nat}

/-- The names that the helpers go by. -/
def helperNames : List String := helpersName :: Helper.all.map Helper.name

/-- All keys of bindings made of pairs are keys of the pairs. -/
lemma key_mem_of_mem_ofList {pairs : List (String × Value)} {b : String × Value}
    (h : b ∈ Bindings.ofList pairs) : b.1 ∈ pairs.map Prod.fst := by
  have hkey : b.1 ∈ Bindings.keys (Bindings.ofList pairs) := List.mem_map_of_mem h
  by_contra hnot
  have hnone : Bindings.get? b.1 (Bindings.insertAll [] pairs) = none :=
    Bindings.get?_insertAll_of_notMem hnot
  rw [Bindings.mem_keys_iff, Bindings.ofList, hnone] at hkey
  cases hkey

lemma capped_helpers (limits : Limits)
    (hnames : ∀ name ∈ helperNames, name.utf8ByteSize ≤ bytes) :
    ∀ b ∈ Program.helpers limits, b.2.Capped bytes length := by
  have hhelpers : ∀ b ∈ Helper.all.map fun h : Helper =>
      (h.name, h.native 0 limits.maxRepeat limits.maxResolveDepth), b.2.Capped bytes length := by
    intro b hb
    obtain ⟨helper, -, rfl⟩ := List.mem_map.mp hb
    exact .helper
  refine all_insert hhelpers (.object (fun b hb => ?_) hhelpers)
  obtain ⟨helper, hhelper, rfl⟩ := List.mem_map.mp hb
  exact hnames _ (List.mem_cons_of_mem _ (List.mem_map_of_mem hhelper))

lemma capped_literal {l : Literal} (h : (Expr.literal l).IsSmall bytes length) :
    (Run.ofLiteral l).Capped bytes length := by
  cases l with
  | text s => exact .scalar rfl h.1
  | _ => exact .scalar rfl trivial

lemma capped_object {members : List (String × Expr)} {pairs : List (String × Value)}
    (h : (Expr.object members).IsSmall bytes length)
    (hkeys : pairs.map Prod.fst = members.map Prod.fst)
    (hpairs : ∀ pair ∈ pairs, pair.2.Capped bytes length) :
    (Value.object (Bindings.ofList pairs)).Capped bytes length := by
  refine .object (fun b hb => ?_) (all_ofList hpairs)
  have hkey : b.1 ∈ members.map Prod.fst := hkeys ▸ key_mem_of_mem_ofList hb
  obtain ⟨member, hmember, hname⟩ := List.mem_map.mp hkey
  have hsize : member.1.utf8ByteSize ≤ (Expr.object members).textBytes :=
    le_greatest (List.mem_map_of_mem hmember)
  rw [← hname]
  exact Nat.le_trans hsize h.1

/-- Running small code over the helpers makes nothing but capped values, if texts
and arrays may be as large as operators make them. -/
theorem capped_stable (limits : Limits) (serial : Nat) (hbytes : maxTextBytes ≤ bytes)
    (hlength : maxArrayLength ≤ length) (hnames : ∀ name ∈ helperNames, name.utf8ByteSize ≤ bytes) :
    StableOver ⟨limits, Program.helpers limits, serial⟩ (Expr.IsSmall bytes length)
      (Value.Capped bytes length) where
  blank := ⟨Nat.zero_le _, Nat.zero_le _⟩
  helpers := capped_helpers limits hnames
  literal := capped_literal
  binary ha hb h := by
    rcases binary_cases h with h | rfl | rfl | ⟨xs, ys, rfl, rfl, rfl, hjoined⟩
    · exact .of_brief hbytes h
    · exact ha
    · exact hb
    · exact .array (Nat.le_trans hjoined hlength)
        (List.forall_mem_append.mpr ⟨ha.items, hb.items⟩)
  unary _ h := .of_brief hbytes (unary_brief h)
  index ha h := by
    rcases index_cases h with ⟨items, rfl, hv⟩ | ⟨members, rfl, m, hm, rfl⟩ | h
    · exact ha.items _ hv
    · exact ha.members m hm
    · exact .of_brief hbytes h
  member ha h := by
    rcases member_cases h with ⟨members, rfl, m, hm, rfl⟩ | h
    · exact ha.members m hm
    · exact .of_brief hbytes h
  iteration ha h := by
    rcases turns_cases h with rfl | hbrief | ⟨members, rfl, hkeys⟩
    · exact ha.items
    · exact fun v hv => .of_brief hbytes (hbrief v hv)
    · intro v hv
      obtain ⟨member, hmember, rfl⟩ := hkeys v hv
      exact .scalar rfl (ha.keys member hmember)
  array h hcount hvs _ := .array (hcount ▸ h.2) hvs
  object h hkeys hpairs _ := capped_object h hkeys hpairs
  closure hbody hcaptured _ := .function hbody fun scope h => by
    cases h
    exact hcaptured
  body h := h.body
  captured h := h.captured
  native hf ha hcall _ := by
    cases hf with
    | scalar h => cases h
    | helper => exact .of_made (Helper.made hcall) ha

/-! ### Runs -/

/-- The most bytes that a text of a run may have. -/
def Code.textCap (code : Code) : Nat :=
  max (2 ^ 24) (max (Code.longestText code) (greatest (helperNames.map String.utf8ByteSize)))

/-- The most items that an array of a run may have. -/
def Code.arrayCap (code : Code) : Nat := max (2 ^ 20) (Code.longestArray code)

/-- At no moment of a script does a run get at a text that is longer than operators
make them, than the longest that the script writes down and than the names of the
helpers, or at an array that is longer than operators make them and than the longest
that the script writes down, in whatever other value or scope it may be. -/
theorem small_after_start (limits : Limits) (serial : Nat) (code : Code) (n : Nat) :
    (Run.after ⟨limits, Program.helpers limits, serial⟩ n (.start code)).Holds fun v =>
      ∀ u, v.Carries u → u.IsSmall (Code.textCap code) (Code.arrayCap code) := by
  have hbytes : maxTextBytes ≤ Code.textCap code := Nat.le_max_left _ _
  have hlength : maxArrayLength ≤ Code.arrayCap code := Nat.le_max_left _ _
  have hnames : ∀ name ∈ helperNames, name.utf8ByteSize ≤ Code.textCap code := by
    intro name hname
    have hsize := le_greatest (List.mem_map_of_mem (f := String.utf8ByteSize) hname)
    exact Nat.le_trans hsize (Nat.le_trans (Nat.le_max_right _ _) (Nat.le_max_right _ _))
  have hcode : Code.Every (Expr.IsSmall (Code.textCap code) (Code.arrayCap code)) code := by
    intro part hpart
    obtain ⟨htext, harray⟩ := Code.every_le_longest code part hpart
    have hcap : Code.longestText code ≤ Code.textCap code :=
      Nat.le_trans (Nat.le_max_left _ _) (Nat.le_max_right _ _)
    exact ⟨Nat.le_trans htext hcap, Nat.le_trans harray (Nat.le_max_right _ _)⟩
  have hstable := capped_stable limits serial hbytes hlength hnames
  exact (consists_after_start hstable hcode n).holds.mono fun v hv u hu => (hv.of_carries hu).isSmall

end Runs

end MockupStudio.Script
