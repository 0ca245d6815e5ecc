/-
Items, places and lengths of texts and arrays.

* `Sequence`: a text or an array, and its items;
* `position?_eq`: the place that an index stands for; `Value.item?_eq`,
  `Sequence.index_eq`: a subscript gives the item at that place;
* `Run.Turns`: turns of a loop, one for each of some items, after each of which
  it goes on; `Run.eachLoop_turns`: a loop takes a turn for each item in order,
  unless a turn leaves it;
* `Sequence.counted_alike`: loops, subscripts and lengths are about the same
  items.
-/
import MockupStudio.Proofs.Script.Agreement
import Mathlib.Algebra.GroupWithZero.Nat

namespace MockupStudio.Script

/-- The values that have items at places. -/
inductive Sequence where
  | text (s : String)
  | array (items : List Value)

namespace Sequence

/-- A text or an array as a value. -/
def value : Sequence → Value
  | text s => .text s
  | array items => .array items

/-- The items of an array; a text has one for each character. -/
def items : Sequence → List Value
  | text s => s.toList.map Value.ofChar
  | array items => items

end Sequence

/-! ### Places -/

/-- The place that an index stands for, if there is one. -/
lemma position?_eq (i : Int) (n : Nat) : position? i n =
    if 0 ≤ i ∧ i < n then some i.toNat
    else if -n ≤ i ∧ i < 0 then some (n + i).toNat
    else none := by
  rw [position?]
  split_ifs <;> first | rfl | omega | (congr 1; omega)

/-- A subscript gives the item at the place that it stands for. -/
lemma Value.item?_eq (items : List Value) (i : Int) : Value.item? items i =
    if h : 0 ≤ i ∧ i < items.length then .ok (items.get ⟨i.toNat, by omega⟩)
    else if h : -items.length ≤ i ∧ i < 0 then
      .ok (items.get ⟨(items.length + i).toNat, by omega⟩)
    else .error (.indexOutOfBounds i items.length) := by
  rw [Value.item?, position?_eq]
  split_ifs with hfront hback
  · rw [Option.bind_some, List.getElem?_eq_getElem]
    rfl
  · rw [Option.bind_some, List.getElem?_eq_getElem]
    rfl
  · rfl

/-- A character of a text is found as an item is. -/
lemma Value.charAt?_eq (cs : List Char) (i : Int) :
    Value.charAt? cs i = Value.item? (cs.map Value.ofChar) i := by
  rw [Value.charAt?, Value.item?, List.length_map]
  cases position? i cs.length with
  | none => rfl
  | some k =>
    rw [Option.bind_some, Option.bind_some, List.getElem?_map]
    cases cs[k]? <;> rfl

namespace Sequence

lemma index_eq (v : Sequence) (i : Int64) :
    Value.index? v.value (.int i) = Value.item? v.items i.toInt := by
  cases v with
  | text s => exact Value.charAt?_eq s.toList i.toInt
  | array items => rfl

lemma iteration_eq (v : Sequence) : Value.iteration? v.value = .ok v.items := by
  cases v <;> rfl

lemma member_eq (v : Sequence) {key : String} (h : Value.isLengthKey key) :
    Value.member? v.value key = .ok (.int (Int64.ofNat v.items.length)) := by
  cases v with
  | text s =>
    rw [value, items, List.length_map, String.length_toList]
    exact if_pos h
  | array items => exact if_pos h

end Sequence

/-! ### Turns of a loop -/

namespace Run

/-- A turn of a loop: its variable gets the item, and the body runs. -/
def turn (x : String) (body : Eval Flow) (v : Value) : Eval Flow := fun m =>
  body { m with scopes := Script.define x v m.scopes }

/-- Turns of a loop, one for each of some items in order, after each of which
it goes on. -/
inductive Turns (x : String) (body : Eval Flow) : List Value → Machine → Machine → Prop where
  | none (m : Machine) : Turns x body [] m m
  | next {v : Value} {later : List Value} {flow : Flow} {m m' m'' : Machine} :
      turn x body v m = .ok flow m' → flow.goesOn → Turns x body later m' m'' →
        Turns x body (v :: later) m m''

/-- What comes of a loop after a turn, unless it goes on. -/
def leaves? : EStateM.Result RuntimeError Machine Flow →
    Option (EStateM.Result RuntimeError Machine Flow)
  | .ok (.normal _) _ | .ok .nextTurn _ => none
  | .ok .leftLoop m => some (.ok (.normal .null) m)
  | .ok (.returned v) m => some (.ok (.returned v) m)
  | .error e m => some (.error e m)

/-- A loop goes on to the next item, or it is left. -/
lemma eachLoop_turn (x : String) (body : Eval Flow) (v : Value) (later : List Value)
    (m : Machine) :
    (∃ flow m', turn x body v m = .ok flow m' ∧ flow.goesOn
        ∧ eachLoop x body (v :: later) m = eachLoop x body later m')
      ∨ leaves? (turn x body v m) = some (eachLoop x body (v :: later) m) := by
  simp only [eachLoop, turn]
  generalize body { m with scopes := Script.define x v m.scopes } = r
  cases r with
  | error e m' => exact .inr rfl
  | ok flow m' =>
    cases flow with
    | normal | nextTurn => exact .inl ⟨_, m', rfl, rfl, rfl⟩
    | returned | leftLoop => exact .inr rfl

/-- A loop takes a turn for every item in order, or for some of the first ones
until a turn leaves it. -/
theorem eachLoop_turns (x : String) (body : Eval Flow) (items : List Value) (m : Machine) :
    (∃ m', Turns x body items m m' ∧ eachLoop x body items m = .ok (.normal .null) m')
      ∨ ∃ visited v later m', items = visited ++ v :: later ∧ Turns x body visited m m'
        ∧ leaves? (turn x body v m') = some (eachLoop x body items m) := by
  induction items generalizing m with
  | nil => exact .inl ⟨m, .none m, rfl⟩
  | cons v later ih =>
    obtain ⟨flow, m', hturn, hflow, hloop⟩ | hleft := eachLoop_turn x body v later m
    · rw [hloop]
      obtain ⟨m'', hturns, hend⟩ | ⟨visited, w, rest, m'', rfl, hturns, hleft⟩ := ih m'
      · exact .inl ⟨m'', .next hturn hflow hturns, hend⟩
      · exact .inr ⟨v :: visited, w, rest, m'', rfl, .next hturn hflow hturns, hleft⟩
    · exact .inr ⟨[], v, later, m, rfl, .none m, hleft⟩

/-- The outcome of a part once its scope is closed. -/
def closed : EStateM.Result RuntimeError Machine Flow → EStateM.Result RuntimeError Machine Flow
  | .ok flow m => .ok flow { m with scopes := popped m.scopes }
  | .error e m => .error e { m with scopes := popped m.scopes }

lemma inScope_eq_closed (part : Eval Flow) (m : Machine) :
    inScope part m = closed (part { m with scopes := [] :: m.scopes }) := by
  rw [inScope]
  cases part { m with scopes := [] :: m.scopes } <;> rfl

variable {run : Run} {depth : Nat} {place : List Nat} {x : String} {source : Expr}
  {code : List Stmt} {m m' : Machine}

/-- A loop over a text or an array takes turns in a scope of its own. -/
lemma execute_each (v : Sequence)
    (h : (run.tick >>= fun _ => run.evaluate depth source) m = .ok v.value m') :
    run.execute (depth + 1) place (.each x source code) m
      = closed (eachLoop x (run.execute depth place (.block code)) v.items
          { m' with scopes := [] :: m'.scopes }) := by
  have hparts : run.execute (depth + 1) place (.each x source code)
      = (run.tick >>= fun _ => run.evaluate depth source) >>= fun v =>
          lift (Value.iteration? v) >>= fun items =>
            inScope (eachLoop x (run.execute depth place (.block code)) items) := by
    rw [Run.execute.eq_def, bind_assoc]
  rw [← inScope_eq_closed, hparts]
  calc _ = (lift (Value.iteration? v.value) >>= fun items =>
        inScope (eachLoop x (run.execute depth place (.block code)) items)) m' := by
        simp only [bind, EStateM.bind] at h ⊢
        rw [h]
    _ = _ := by rw [v.iteration_eq]; rfl

end Run

namespace Sequence

/-- Loops, lengths and subscripts are about the same items. A loop takes a turn
for each of them in order, or for the first ones until a turn leaves it; the
length is their number, as far as 64 bits hold it; and a subscript gives the
item at its place, from the end if it is negative, or says that there is none. -/
theorem counted_alike (v : Sequence) :
    (∀ (run : Run) (depth : Nat) (place : List Nat) (x : String) (source : Expr)
        (code : List Stmt) (m m' : Machine),
      (run.tick >>= fun _ => run.evaluate depth source) m = .ok v.value m' →
        let body := run.execute depth place (.block code)
        let result := run.execute (depth + 1) place (.each x source code) m
        let opened := { m' with scopes := [] :: m'.scopes }
        (∃ m'', Run.Turns x body v.items opened m''
            ∧ result = Run.closed (.ok (.normal .null) m''))
          ∨ ∃ visited w later m'' outcome, v.items = visited ++ w :: later
            ∧ Run.Turns x body visited opened m''
            ∧ Run.leaves? (Run.turn x body w m'') = some outcome ∧ result = Run.closed outcome)
      ∧ (∀ key, Value.isLengthKey key →
        Value.member? v.value key = .ok (.int (Int64.ofNat v.items.length)))
      ∧ (v.items.length < 2 ^ 63 → (Int64.ofNat v.items.length).toInt = v.items.length)
      ∧ ∀ i : Int64, Value.index? v.value (.int i) =
        if h : 0 ≤ i.toInt ∧ i.toInt < v.items.length then
          .ok (v.items.get ⟨i.toInt.toNat, by omega⟩)
        else if h : -v.items.length ≤ i.toInt ∧ i.toInt < 0 then
          .ok (v.items.get ⟨(v.items.length + i.toInt).toNat, by omega⟩)
        else .error (.indexOutOfBounds i.toInt v.items.length) := by
  refine ⟨fun run depth place x source code m m' h => ?_, fun key => v.member_eq, fun hlength => ?_,
    fun i => ?_⟩
  · dsimp only
    rw [Run.execute_each v h]
    obtain ⟨m'', hturns, hloop⟩ | ⟨visited, w, later, m'', hitems, hturns, hleft⟩ :=
      Run.eachLoop_turns x (run.execute depth place (.block code)) v.items
        { m' with scopes := [] :: m'.scopes }
    · exact .inl ⟨m'', hturns, congrArg Run.closed hloop⟩
    · exact .inr ⟨visited, w, later, m'', _, hitems, hturns, hleft, rfl⟩
  · exact Int64.toInt_ofNat_of_lt hlength
  · rw [index_eq, Value.item?_eq]

/-- A run with all limits as they are by default. -/
def plainRun : Run := ⟨{}, .none, 0⟩

/-- A character of two bytes is one item: a loop takes one turn, and the least
index of all stands for no place. -/
theorem counted_alike_accent :
    (∃ m, Run.Turns "c" (plainRun.execute 1 [] (.block [])) [.text "é"] ⟨[[], []], 2, 0, 0⟩ m
      ∧ plainRun.execute 2 [] (.each "c" (.literal (.text "é")) []) Machine.start
        = Run.closed (.ok (.normal .null) m))
      ∧ Value.member? (.text "é") "length" = .ok (.int (Int64.ofNat 1))
      ∧ Value.index? (.text "é") (.int (-1)) = .ok (.text "é")
      ∧ Value.index? (.text "é") (.int Int64.minValue)
        = .error (.indexOutOfBounds (-9223372036854775808) 1) := by
  obtain ⟨hloop, hlength, -, hindex⟩ := counted_alike (.text "é")
  refine ⟨?_, hlength "length" (by decide), hindex (-1), hindex Int64.minValue⟩
  obtain hall | ⟨visited, w, later, m, outcome, hitems, hturns, hleft, -⟩ :=
    hloop plainRun 1 [] "c" (.literal (.text "é")) [] Machine.start ⟨[[]], 2, 0, 0⟩ rfl
  · exact hall
  · -- the only turn does not leave the loop
    cases visited with
    | nil =>
      cases hturns
      cases hleft
    | cons first rest =>
      have hcount : 1 = (first :: (rest ++ w :: later)).length := congrArg List.length hitems
      simp at hcount

end Sequence

end MockupStudio.Script
