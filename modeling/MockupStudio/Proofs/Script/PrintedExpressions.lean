/-
Reading the tokens of expressions.

* `Laid`: tokens of given kinds, wherever they stand;
* `Finds`: with room enough, a part of the parser finds something and leaves
  some tokens; one lemma for each way in which a rule succeeds;
* `Found`: the tokens of an expression are read as that expression, by the
  rules that its strength allows, and whatever the operators and links after
  it make of it;
* `found_written`: so they are, for every expression.
-/
import MockupStudio.Proofs.Script.NestingLimit
import MockupStudio.Proofs.Script.Printing
import Mathlib.Order.Filter.AtTopBot.Basic

namespace MockupStudio.Script

open Grammar Filter

/-! ### Tokens of given kinds -/

/-- Tokens of given kinds, wherever they stand. -/
def Laid (kinds : List Token.Kind) (ts : List Token) : Prop := ts.map Token.kind = kinds

section Laid

variable {k : Token.Kind} {kinds kinds' : List Token.Kind} {ts : List Token}

lemma laid_nil : Laid [] ts ↔ ts = [] := List.map_eq_nil_iff

lemma laid_cons : Laid (k :: kinds) ts ↔ ∃ q rest, ts = ⟨k, q⟩ :: rest ∧ Laid kinds rest := by
  constructor
  · intro h
    obtain ⟨t, rest, rfl, rfl, hrest⟩ := List.map_eq_cons_iff.mp h
    exact ⟨t.position, rest, rfl, hrest⟩
  · rintro ⟨q, rest, rfl, rfl⟩
    rfl

lemma laid_append :
    Laid (kinds ++ kinds') ts ↔ ∃ us vs, ts = us ++ vs ∧ Laid kinds us ∧ Laid kinds' vs :=
  List.map_eq_append_iff

lemma laid_singleton : Laid [k] ts ↔ ∃ q, ts = [⟨k, q⟩] := by
  simp [laid_cons, laid_nil]

end Laid

/-! ### What follows an expression -/

/-- Whether a call, an index or a member begins with a token. -/
def Token.Kind.opensLink : Token.Kind → Bool
  | .symbol .leftParen | .symbol .dot | .symbol .leftBracket => true
  | _ => false

/-- The operator between two expressions that a token is. -/
def Token.Kind.operator? : Token.Kind → Option BinaryOp
  | .symbol m => BinaryOp.ofSymbol? m
  | _ => none

/-- Whether an expression cannot go on with a token. -/
def Token.Kind.closes (k : Token.Kind) : Bool := !k.opensLink && k.operator?.isNone

/-- The operator that comes next, if there is one, does not bind more tightly
than so. -/
def Weak (strength : Nat) (rest : List Token) : Prop :=
  ∀ op, (found rest).operator? = some op → op.precedence ≤ strength

section Follow

variable {rest : List Token} {g : Grammar} {room least strength : Nat} {left base : Expr}

lemma opensLink_of_closes (h : (found rest).closes) : (found rest).opensLink = false := by
  simp only [Token.Kind.closes, Bool.and_eq_true, Bool.not_eq_true'] at h
  exact h.1

lemma operator_of_closes (h : (found rest).closes) : (found rest).operator? = none := by
  simp only [Token.Kind.closes, Bool.and_eq_true, Option.isNone_iff_eq_none] at h
  exact h.2

lemma weak_of_closes (h : (found rest).closes) : Weak strength rest := by
  intro op hop
  rw [operator_of_closes h] at hop
  cases hop

lemma Weak.mono {more : Nat} (h : Weak strength rest) (hle : strength ≤ more) :
    Weak more rest :=
  fun op hop => Nat.le_trans (h op hop) hle

lemma links_end (h : (found rest).opensLink = false) :
    Yields (g.links room base rest) base rest := by
  refine ⟨Nat.lt_succ_self _, ?_⟩
  rw [links.eq_def]
  split
  · cases h
  · cases h
  · cases h
  · rfl

lemma operators_end (h : ∀ op, (found rest).operator? = some op → op.precedence < least) :
    Yields (g.operators room least left rest) left rest := by
  refine ⟨Nat.lt_succ_self _, ?_⟩
  rw [operators.eq_def]
  split
  · next m q more =>
    split
    · rfl
    · next op hop => rw [if_pos (h op hop)]
  · rfl

end Follow

/-! ### Parts of the parser with room enough -/

/-- With room enough, and whatever the limit, a part of the parser finds
something and leaves some tokens. -/
def Finds {α : Type} {n : Nat} (part : Grammar → Nat → Except ParseError (Parsed α n)) (a : α)
    (rest : List Token) : Prop :=
  ∀ᶠ room in atTop, ∀ g, Yields (part g room) a rest

/-- Where one more level is taken there is room enough all the same. -/
lemma eventually_of_succ {P : Nat → Prop} (h : ∀ᶠ room in atTop, P (room + 1)) :
    ∀ᶠ room in atTop, P room := by
  rw [← map_add_atTop_eq_nat 1]
  exact h

section Parts

variable {ts mid rest : List Token} {e left right base key body x out : Expr}
  {es args : List Expr} {op : BinaryOp} {sign : UnaryOp} {least : Nat} {q r : Position}
  {name : String}

lemma finds_of_yields {α : Type} {n : Nat}
    {part : Grammar → Nat → Except ParseError (Parsed α n)} {a : α}
    (h : ∀ g room, Yields (part g room) a rest) : Finds part a rest :=
  .of_forall fun room g => h g room

lemma finds_expression (h : Finds (·.precedence · 1 ts) e rest) :
    Finds (·.expression · ts) e rest := by
  refine eventually_of_succ ?_
  filter_upwards [h] with room h g
  obtain ⟨hl, h⟩ := h g
  exact ⟨hl, by rw [expression.eq_def]; exact h⟩

lemma finds_precedence (hleft : Finds (·.unary · ts) left mid)
    (hmore : Finds (·.operators · least left mid) e rest) :
    Finds (·.precedence · least ts) e rest := by
  filter_upwards [hleft, hmore] with room hleft hmore g
  exact precedence_yields (hleft g) (hmore g)

lemma finds_operator (hle : least ≤ op.precedence)
    (hright : Finds (·.precedence · (op.precedence + 1) ts) right mid)
    (hmore : Finds (·.operators · least (.binary op left right) mid) e rest) :
    Finds (·.operators · least left (⟨.symbol op.symbol, q⟩ :: ts)) e rest := by
  refine eventually_of_succ ?_
  filter_upwards [hright, hmore] with room hright hmore g
  obtain ⟨hl, hright⟩ := hright g
  obtain ⟨hl', hmore⟩ := hmore g
  refine ⟨by simp only [List.length_cons]; omega, ?_⟩
  rw [operators.eq_def]
  simp only [BinaryOp.ofSymbol?_symbol, if_neg (Nat.not_lt.mpr hle), hright, hmore]

lemma finds_sign (h : Finds (·.unary · ts) e rest) :
    Finds (·.unary · (⟨.symbol sign.symbol, q⟩ :: ts)) (.unary sign e) rest := by
  refine eventually_of_succ ?_
  filter_upwards [h] with room h g
  obtain ⟨hl, h⟩ := h g
  refine ⟨by simp only [List.length_cons]; omega, ?_⟩
  rw [unary.eq_def]
  simp only [UnaryOp.ofSymbol?_symbol, h]

/-- Whether a token is an operator before an expression. -/
def Token.Kind.isSign : Token.Kind → Bool
  | .symbol m => (UnaryOp.ofSymbol? m).isSome
  | _ => false

lemma finds_unary (hsign : (found ts).isSign = false) (h : Finds (·.chain · ts) e rest) :
    Finds (·.unary · ts) e rest := by
  filter_upwards [h] with room h g
  obtain ⟨hl, h⟩ := h g
  refine ⟨hl, ?_⟩
  rw [unary.eq_def]
  split
  · next m q more =>
    split
    · exact h
    · next op hop => simp [found, Token.Kind.isSign, hop] at hsign
  · exact h

lemma finds_chain (hbase : Finds (·.primary · ts) base mid)
    (hlinks : Finds (·.links · base mid) e rest) : Finds (·.chain · ts) e rest := by
  filter_upwards [hbase, hlinks] with room hbase hlinks g
  exact chain_yields (hbase g) (hlinks g)

/-! ### Links -/

lemma finds_call (hargs : Finds (·.callArguments · ts) args mid)
    (hmore : Finds (·.links · (.call base args) mid) e rest) :
    Finds (·.links · base (⟨.symbol .leftParen, q⟩ :: ts)) e rest := by
  refine eventually_of_succ ?_
  filter_upwards [hargs, hmore] with room hargs hmore g
  obtain ⟨hl, hargs⟩ := hargs g
  obtain ⟨hl', hmore⟩ := hmore g
  refine ⟨by simp only [List.length_cons]; omega, ?_⟩
  rw [links.eq_def]
  simp only [hargs, hmore]

lemma finds_member (hmore : Finds (·.links · (.member base name) ts) e rest) :
    Finds (·.links · base (⟨.symbol .dot, q⟩ :: ⟨.name name, r⟩ :: ts)) e rest := by
  refine eventually_of_succ ?_
  filter_upwards [hmore] with room hmore g
  obtain ⟨hl, hmore⟩ := hmore g
  refine ⟨by simp only [List.length_cons]; omega, ?_⟩
  rw [links.eq_def]
  simp only [Grammar.name, hmore]

lemma finds_index (hkey : Finds (·.expression · ts) key (⟨.symbol .rightBracket, r⟩ :: mid))
    (hmore : Finds (·.links · (.index base key) mid) e rest) :
    Finds (·.links · base (⟨.symbol .leftBracket, q⟩ :: ts)) e rest := by
  refine eventually_of_succ ?_
  filter_upwards [hkey, hmore] with room hkey hmore g
  obtain ⟨hl, hkey⟩ := hkey g
  obtain ⟨hl', hmore⟩ := hmore g
  rw [List.length_cons] at hl
  refine ⟨by simp only [List.length_cons]; omega, ?_⟩
  rw [links.eq_def]
  simp only [hkey, symbol, isSymbol, decide_true, if_true, hmore]

/-! ### Bases -/

lemma finds_literal (l : Literal) : Finds (·.primary · (⟨.literal l, q⟩ :: rest)) (.literal l) rest :=
  finds_of_yields fun _ _ => ⟨Nat.lt_succ_self _, by rw [primary.eq_def]⟩

lemma finds_name (name : String) : Finds (·.primary · (⟨.name name, q⟩ :: rest)) (.name name) rest :=
  finds_of_yields fun _ _ => ⟨Nat.lt_succ_self _, by rw [primary.eq_def]⟩

lemma finds_parens (h : Finds (·.expression · ts) e (⟨.symbol .rightParen, r⟩ :: rest)) :
    Finds (·.primary · (⟨.symbol .leftParen, q⟩ :: ts)) e rest := by
  filter_upwards [h] with room h g
  obtain ⟨hl, h⟩ := h g
  rw [List.length_cons] at hl
  refine ⟨by simp only [List.length_cons]; omega, ?_⟩
  rw [primary.eq_def]
  simp only [h, symbol, isSymbol, decide_true, if_true]

lemma finds_array (h : Finds (·.items · [] ts) es rest) :
    Finds (·.primary · (⟨.symbol .leftBracket, q⟩ :: ts)) (.array es) rest := by
  filter_upwards [h] with room h g
  obtain ⟨hl, h⟩ := h g
  refine ⟨by simp only [List.length_cons]; omega, ?_⟩
  rw [primary.eq_def]
  simp only [h]

lemma finds_object {ms : List (String × Expr)} (h : Finds (·.members · [] ts) ms rest) :
    Finds (·.primary · (⟨.symbol .leftBrace, q⟩ :: ts)) (.object ms) rest := by
  filter_upwards [h] with room h g
  obtain ⟨hl, h⟩ := h g
  refine ⟨by simp only [List.length_cons]; omega, ?_⟩
  rw [primary.eq_def]
  simp only [h]

lemma finds_thunk (h : Finds (·.expression · ts) body rest) :
    Finds (·.primary · (⟨.symbol .either, q⟩ :: ts)) (.lambda [] body) rest := by
  filter_upwards [h] with room h g
  obtain ⟨hl, h⟩ := h g
  refine ⟨by simp only [List.length_cons]; omega, ?_⟩
  rw [primary.eq_def]
  simp only [h]

lemma finds_lambda {ps : List String}
    (hps : ∀ g : Grammar, Yields (g.parameters .pipe ts) ps (⟨.symbol .pipe, r⟩ :: mid))
    (h : Finds (·.expression · mid) body rest) :
    Finds (·.primary · (⟨.symbol .pipe, q⟩ :: ts)) (.lambda ps body) rest := by
  filter_upwards [h] with room h g
  obtain ⟨hl, h⟩ := h g
  obtain ⟨hl', hps⟩ := hps g
  rw [List.length_cons] at hl'
  refine ⟨by simp only [List.length_cons]; omega, ?_⟩
  rw [primary.eq_def]
  simp only [hps, symbol, isSymbol, decide_true, if_true, h]

end Parts

/-! ### Lists -/

/-- The tokens of an expression are read as that expression, if nothing after
them goes on with it. -/
def Expr.Parses (e : Expr) : Prop :=
  ∀ ts rest, Laid e.written ts → (found rest).closes → Finds (·.expression · (ts ++ rest)) e rest

section Lists

variable {g : Grammar} {us rest : List Token} {kinds : List Token.Kind} {e : Expr}
  {es : List Expr} {q r : Position}

lemma startsWith_eq (m : Symbol) (ts : List Token) : startsWith m ts = isSymbol m (found ts) := by
  cases ts <;> rfl

lemma isSymbol_of_opensExpression {k : Token.Kind} {m : Symbol} (h : k.opensExpression)
    (hm : (Token.Kind.symbol m).opensExpression = false) : isSymbol m k = false := by
  rw [Bool.eq_false_iff]
  intro hk
  rw [isSymbol_iff.mp hk, hm] at h
  cases h

lemma opensExpression_found (h : Laid (e.written ++ kinds) us) :
    (found (us ++ rest)).opensExpression := by
  obtain ⟨k, more, hwritten, hk⟩ := e.exists_written
  rw [hwritten, List.cons_append] at h
  obtain ⟨q, us, rfl, -⟩ := laid_cons.mp h
  exact hk

lemma parametersFrom_yields (done : List String) {x : String} {xs : List String}
    (h : Laid (moreNames xs) us) (hlength : done.length + xs.length < 255) (hrest : isSymbol .comma (found rest) = false) :
    Yields (g.parametersFrom done (⟨.name x, q⟩ :: (us ++ rest))) (done.reverse ++ x :: xs)
      rest := by
  induction xs generalizing done x us q with
  | nil =>
    obtain rfl := laid_nil.mp h
    refine ⟨Nat.lt_succ_self _, ?_⟩
    have hroom : ¬ 255 ≤ done.length := Nat.not_le.mpr hlength
    rw [parametersFrom.eq_def, if_neg hroom]
    cases rest with
    | nil => simp [Grammar.name]
    | cons t rest =>
      have hcomma : isSymbol .comma t.kind = false := hrest
      simp [Grammar.name, hcomma]
  | cons y xs ih =>
    rw [moreNames] at h
    obtain ⟨q', _, rfl, hcons⟩ := laid_cons.mp h
    obtain ⟨q'', us, rfl, hnames⟩ := laid_cons.mp hcons
    rw [List.length_cons] at hlength
    obtain ⟨hl, hmore⟩ := ih (x :: done) (x := y) (q := q'') hnames
      (by rw [List.length_cons]; omega)
    have hroom : ¬ 255 ≤ done.length := by omega
    refine ⟨by simp only [List.length_cons, List.cons_append] at hl ⊢; omega, ?_⟩
    rw [parametersFrom.eq_def, if_neg hroom]
    simp only [Grammar.name, List.cons_append, isSymbol, decide_true, if_true, hmore]
    simp

lemma parameters_yields {xs : List String} {close : Symbol} (h : Laid (writtenNames xs) us)
    (hlength : xs.length ≤ 255) (hclose : close ≠ .comma) :
    Yields (g.parameters close (us ++ ⟨.symbol close, q⟩ :: rest)) xs
      (⟨.symbol close, q⟩ :: rest) := by
  cases xs with
  | nil =>
    obtain rfl := laid_nil.mp h
    exact ⟨Nat.lt_succ_self _, by simp [parameters, startsWith, isSymbol]⟩
  | cons x xs =>
    obtain ⟨q', us, rfl, hnames⟩ := laid_cons.mp h
    have hcomma : isSymbol .comma (found (⟨.symbol close, q⟩ :: rest)) = false := by
      simp [found, isSymbol, hclose.symm]
    rw [List.length_cons] at hlength
    obtain ⟨hl, hfrom⟩ := parametersFrom_yields (g := g) [] (x := x) (q := q') hnames
      (by rw [List.length_nil]; omega) hcomma
    refine ⟨Nat.lt_succ_of_lt hl, ?_⟩
    rw [parameters, startsWith_eq]
    simp [found, isSymbol, hfrom, Except.map]

lemma finds_arguments (done : List Expr) (hes : ∀ e' ∈ e :: es, e'.Parses)
    (h : Laid (e.written ++ Expr.moreList es) us) (hlength : done.length + es.length < 255) :
    Finds (·.arguments · done (us ++ ⟨.symbol .rightParen, r⟩ :: rest)) (done.reverse ++ e :: es)
      (⟨.symbol .rightParen, r⟩ :: rest) := by
  induction es generalizing done e us with
  | nil =>
    obtain ⟨us, vs, rfl, hfirst, hnil⟩ := laid_append.mp h
    obtain rfl := laid_nil.mp hnil
    have he := hes e List.mem_cons_self us (⟨.symbol .rightParen, r⟩ :: rest) hfirst rfl
    have hroom : ¬ 255 ≤ done.length := Nat.not_le.mpr hlength
    rw [List.append_nil]
    filter_upwards [he] with room he g
    obtain ⟨hl, he⟩ := he g
    refine ⟨hl, ?_⟩
    rw [arguments.eq_def, if_neg hroom]
    simp [he, isSymbol]
  | cons e' es ih =>
    obtain ⟨us, vs, rfl, hfirst, hmore⟩ := laid_append.mp h
    obtain ⟨q, vs, rfl, hlater⟩ := laid_cons.mp hmore
    rw [List.length_cons] at hlength
    have he := hes e List.mem_cons_self us
      (⟨.symbol .comma, q⟩ :: (vs ++ ⟨.symbol .rightParen, r⟩ :: rest)) hfirst rfl
    have hafter := ih (e :: done) (fun _ h => hes _ (List.mem_cons_of_mem _ h)) hlater
      (by rw [List.length_cons]; omega)
    have hroom : ¬ 255 ≤ done.length := by omega
    have hstart : startsWith .rightParen (vs ++ ⟨.symbol .rightParen, r⟩ :: rest) = false := by
      rw [startsWith_eq]
      exact isSymbol_of_opensExpression (opensExpression_found hlater) rfl
    rw [List.append_assoc, List.cons_append]
    filter_upwards [he, hafter] with room he hafter g
    obtain ⟨hl, he⟩ := he g
    obtain ⟨hl', hafter⟩ := hafter g
    refine ⟨by simp only [List.length_cons, List.length_append] at hl hl' ⊢; omega, ?_⟩
    rw [arguments.eq_def, if_neg hroom]
    simp only [he, isSymbol, decide_true, if_true, hstart, hafter]
    simp

/-- The arguments of a call, with the closing parenthesis. -/
lemma finds_callArguments (hes : ∀ e ∈ es, e.Parses) (h : Laid (Expr.writtenList es) us)
    (hlength : es.length ≤ 255) :
    Finds (·.callArguments · (us ++ ⟨.symbol .rightParen, r⟩ :: rest)) es rest := by
  cases es with
  | nil =>
    obtain rfl := laid_nil.mp h
    refine finds_of_yields fun g room => ⟨Nat.lt_succ_self _, ?_⟩
    rw [callArguments.eq_def]
    rfl
  | cons e es =>
    have hstart : startsWith .rightParen (us ++ ⟨.symbol .rightParen, r⟩ :: rest) = false := by
      rw [startsWith_eq]
      exact isSymbol_of_opensExpression (opensExpression_found h) rfl
    rw [List.length_cons] at hlength
    have hargs : Finds (·.arguments · [] (us ++ ⟨.symbol .rightParen, r⟩ :: rest)) (e :: es)
        (⟨.symbol .rightParen, r⟩ :: rest) :=
      finds_arguments [] hes h (by rw [List.length_nil]; omega)
    filter_upwards [hargs] with room hargs g
    obtain ⟨hl, hargs⟩ := hargs g
    refine ⟨by simp only [List.length_cons, List.length_append] at hl ⊢; omega, ?_⟩
    rw [callArguments.eq_def, if_neg (by simp [hstart])]
    simp only [hargs, symbol, isSymbol, decide_true, if_true]

lemma finds_itemsFrom (done : List Expr) (hes : ∀ e' ∈ e :: es, e'.Parses)
    (h : Laid (e.written ++ Expr.moreList es) us) :
    Finds (·.items · done (us ++ ⟨.symbol .rightBracket, r⟩ :: rest)) (done.reverse ++ e :: es)
      rest := by
  have hstart : startsWith .rightBracket (us ++ ⟨.symbol .rightBracket, r⟩ :: rest) = false := by
    rw [startsWith_eq]
    exact isSymbol_of_opensExpression (opensExpression_found h) rfl
  induction es generalizing done e us with
  | nil =>
    obtain ⟨us, vs, rfl, hfirst, hnil⟩ := laid_append.mp h
    obtain rfl := laid_nil.mp hnil
    have he := hes e List.mem_cons_self us (⟨.symbol .rightBracket, r⟩ :: rest) hfirst rfl
    rw [List.append_nil] at hstart ⊢
    filter_upwards [he] with room he g
    obtain ⟨hl, he⟩ := he g
    refine ⟨by rw [List.length_cons] at hl; omega, ?_⟩
    rw [items.eq_def, if_neg (by simp [hstart])]
    simp [he, skipSymbol, symbol, isSymbol]
  | cons e' es ih =>
    obtain ⟨us, vs, rfl, hfirst, hmore⟩ := laid_append.mp h
    obtain ⟨q, vs, rfl, hlater⟩ := laid_cons.mp hmore
    have he := hes e List.mem_cons_self us
      (⟨.symbol .comma, q⟩ :: (vs ++ ⟨.symbol .rightBracket, r⟩ :: rest)) hfirst rfl
    have hlaterStart : startsWith .rightBracket (vs ++ ⟨.symbol .rightBracket, r⟩ :: rest)
        = false := by
      rw [startsWith_eq]
      exact isSymbol_of_opensExpression (opensExpression_found hlater) rfl
    have hafter := ih (e :: done) (fun _ h => hes _ (List.mem_cons_of_mem _ h)) hlater hlaterStart
    rw [List.append_assoc, List.cons_append] at hstart ⊢
    filter_upwards [he, hafter] with room he hafter g
    obtain ⟨hl, he⟩ := he g
    obtain ⟨hl', hafter⟩ := hafter g
    refine ⟨by simp only [List.length_cons, List.length_append] at hl hl' ⊢; omega, ?_⟩
    rw [items.eq_def, if_neg (by simp [hstart])]
    simp only [he, skipSymbol, isSymbol, decide_true, if_true, hafter]
    simp

/-- The items of an array, with the closing bracket. -/
lemma finds_items (hes : ∀ e ∈ es, e.Parses) (h : Laid (Expr.writtenList es) us) :
    Finds (·.items · [] (us ++ ⟨.symbol .rightBracket, r⟩ :: rest)) es rest := by
  cases es with
  | nil =>
    obtain rfl := laid_nil.mp h
    refine finds_of_yields fun g room => ⟨Nat.lt_succ_self _, ?_⟩
    rw [items.eq_def]
    rfl
  | cons e es => exact finds_itemsFrom [] hes h

lemma finds_membersFrom {ms : List (String × Expr)} (done : List (String × Expr)) (key : String)
    (q q' : Position) (hms : ∀ m ∈ (key, e) :: ms, m.2.Parses)
    (h : Laid (e.written ++ Expr.moreMembers ms) us) :
    Finds (·.members · done (⟨.literal (.text key), q⟩ :: ⟨.symbol .colon, q'⟩
        :: (us ++ ⟨.symbol .rightBrace, r⟩ :: rest)))
      (done.reverse ++ (key, e) :: ms) rest := by
  induction ms generalizing done key e us q q' with
  | nil =>
    obtain ⟨us, vs, rfl, hfirst, hnil⟩ := laid_append.mp h
    obtain rfl := laid_nil.mp hnil
    have he := hms (key, e) List.mem_cons_self us (⟨.symbol .rightBrace, r⟩ :: rest) hfirst rfl
    rw [List.append_nil]
    filter_upwards [he] with room he g
    obtain ⟨hl, he⟩ := he g
    refine ⟨by simp only [List.length_cons] at hl ⊢; omega, ?_⟩
    rw [members.eq_def]
    simp [he, startsWith, propertyKey, skipSymbol, symbol, isSymbol]
  | cons m ms ih =>
    obtain ⟨us, vs, rfl, hfirst, hmore⟩ := laid_append.mp h
    obtain ⟨p, _, rfl, hkey⟩ := laid_cons.mp hmore
    obtain ⟨p', _, rfl, hcolon⟩ := laid_cons.mp hkey
    obtain ⟨p'', vs, rfl, hlater⟩ := laid_cons.mp hcolon
    have he := hms (key, e) List.mem_cons_self us
      (⟨.symbol .comma, p⟩ :: ⟨.literal (.text m.1), p'⟩ :: ⟨.symbol .colon, p''⟩
        :: (vs ++ ⟨.symbol .rightBrace, r⟩ :: rest)) hfirst rfl
    have hafter := ih ((key, e) :: done) m.1 p' p''
      (fun _ h => hms _ (List.mem_cons_of_mem _ h)) hlater
    rw [List.append_assoc]
    filter_upwards [he, hafter] with room he hafter g
    obtain ⟨hl, he⟩ := he g
    obtain ⟨hl', hafter⟩ := hafter g
    refine ⟨by simp only [List.length_cons, List.length_append] at hl hl' ⊢; omega, ?_⟩
    rw [members.eq_def]
    simp only [startsWith, propertyKey, symbol, skipSymbol, isSymbol, decide_true, if_true,
      List.cons_append, he, hafter]
    simp

/-- The members of an object, with the closing brace. -/
lemma finds_members {ms : List (String × Expr)} (hms : ∀ m ∈ ms, m.2.Parses)
    (h : Laid (Expr.writtenMembers ms) us) :
    Finds (·.members · [] (us ++ ⟨.symbol .rightBrace, r⟩ :: rest)) ms rest := by
  cases ms with
  | nil =>
    obtain rfl := laid_nil.mp h
    refine finds_of_yields fun g room => ⟨Nat.lt_succ_self _, ?_⟩
    rw [members.eq_def]
    rfl
  | cons m ms =>
    obtain ⟨q, _, rfl, hcolon⟩ := laid_cons.mp h
    obtain ⟨q', us, rfl, hfirst⟩ := laid_cons.mp hcolon
    exact finds_membersFrom [] m.1 q q' hms hfirst

end Lists

/-! ### Expressions -/

/-- Tokens are read as an expression by the rules that so much strength
allows. Whatever the operators after a weak expression, or the links after a
strong one, make of it is made of it after these tokens. -/
structure Found (strength : Nat) (e : Expr) (ts : List Token) : Prop where
  expression : ∀ rest, (found rest).closes → Finds (·.expression · (ts ++ rest)) e rest
  precedence : ∀ least rest x out, 0 < least → least ≤ strength → (found rest).opensLink = false →
    Weak strength rest → Finds (·.operators · least e rest) x out →
    Finds (·.precedence · least (ts ++ rest)) x out
  unary : 7 ≤ strength → ∀ rest, (found rest).opensLink = false →
    Finds (·.unary · (ts ++ rest)) e rest
  chain : 8 ≤ strength → ∀ rest x out, Finds (·.links · e rest) x out →
    Finds (·.chain · (ts ++ rest)) x out
  unsigned : 8 ≤ strength → ∀ rest, (found (ts ++ rest)).isSign = false

section Found

variable {e left right base key body : Expr} {ts us rest : List Token} {q r : Position}
  {strength least : Nat} {op : BinaryOp} {sign : UnaryOp} {name : String}

lemma Found.mono {more : Nat} (h : Found more e ts) (hle : strength ≤ more) :
    Found strength e ts where
  expression := h.expression
  precedence least rest x out hpos hleast hlink hweak :=
    h.precedence least rest x out hpos (Nat.le_trans hleast hle) hlink (hweak.mono hle)
  unary hseven := h.unary (Nat.le_trans hseven hle)
  chain height := h.chain (Nat.le_trans height hle)
  unsigned height := h.unsigned (Nat.le_trans height hle)

/-- What can be read with operators after it can be read on its own. -/
lemma finds_alone (hprecedence : ∀ rest x out, (found rest).opensLink = false → Weak strength rest →
      Finds (·.operators · 1 e rest) x out → Finds (·.precedence · 1 (ts ++ rest)) x out)
    (hclose : (found rest).closes) : Finds (·.expression · (ts ++ rest)) e rest := by
  refine finds_expression (hprecedence rest e rest (opensLink_of_closes hclose)
    (weak_of_closes hclose) (finds_of_yields fun g room => operators_end fun op hop => ?_))
  rw [operator_of_closes hclose] at hop
  cases hop

lemma found_of_unary (h : ∀ rest, (found rest).opensLink = false →
    Finds (·.unary · (ts ++ rest)) e rest) : Found 7 e ts where
  expression _ := finds_alone fun rest _ _ hlink (_ : Weak 7 rest) => finds_precedence (h rest hlink)
  precedence _ rest _ _ _ _ hlink _ := finds_precedence (h rest hlink)
  unary _ := h
  chain height := absurd height (by decide)
  unsigned height := absurd height (by decide)

lemma found_of_chain (hsign : ∀ rest, (found (ts ++ rest)).isSign = false)
    (h : ∀ rest x out, Finds (·.links · e rest) x out → Finds (·.chain · (ts ++ rest)) x out) :
    Found 8 e ts := by
  have hunary : ∀ rest, (found rest).opensLink = false → Finds (·.unary · (ts ++ rest)) e rest :=
    fun rest hlink => finds_unary (hsign rest)
      (h rest e rest (finds_of_yields fun _ _ => links_end hlink))
  exact {
    expression := (found_of_unary hunary).expression
    precedence := fun _ rest _ _ _ _ hlink _ => finds_precedence (hunary rest hlink)
    unary := fun _ => hunary
    chain := fun _ => h
    unsigned := fun _ => hsign }

lemma found_of_primary (hsign : ∀ rest, (found (ts ++ rest)).isSign = false)
    (h : ∀ rest, Finds (·.primary · (ts ++ rest)) e rest) : Found 8 e ts :=
  found_of_chain hsign fun rest _ _ hlinks => finds_chain (h rest) hlinks

/-- Brackets make anything strong. -/
lemma Found.parens (h : Found strength e ts) :
    Found 8 e (⟨.symbol .leftParen, q⟩ :: (ts ++ [⟨.symbol .rightParen, r⟩])) := by
  refine found_of_primary (fun _ => rfl) fun rest => ?_
  have he := h.expression (⟨.symbol .rightParen, r⟩ :: rest) rfl
  rw [List.cons_append, List.append_assoc]
  exact finds_parens he

lemma Found.enclosed (h : ∀ ts, Laid e.written ts → Found e.strength e ts) (hleast : least ≤ 8)
    (hts : Laid (Script.enclosed least e.strength e.written) ts) : Found least e ts := by
  rw [Script.enclosed] at hts
  split at hts
  · obtain ⟨q, _, rfl, hmore⟩ := laid_cons.mp hts
    obtain ⟨us, _, rfl, hus, hlast⟩ := laid_append.mp hmore
    obtain ⟨r, rfl⟩ := laid_singleton.mp hlast
    exact (h us hus).parens.mono hleast
  · next hstrong => exact (h ts hts).mono (Nat.not_lt.mp hstrong)

lemma found_binary (hleft : Found op.precedence left ts)
    (hright : Found (op.precedence + 1) right us) :
    Found op.precedence (.binary op left right) (ts ++ ⟨.symbol op.symbol, q⟩ :: us) := by
  have hpos : 0 < op.precedence := by cases op <;> decide
  have hlow : op.precedence < 7 := by cases op <;> decide
  have hlink (rest : List Token) :
      (found (⟨.symbol op.symbol, q⟩ :: rest)).opensLink = false := by cases op <;> rfl
  have hweak (rest : List Token) : Weak op.precedence (⟨.symbol op.symbol, q⟩ :: rest) := by
    intro op' hop
    have hsame : some op = some op' := (BinaryOp.ofSymbol?_symbol op).symm.trans hop
    cases hsame
    exact Nat.le_refl _
  have hprecedence : ∀ least rest x out, 0 < least → least ≤ op.precedence →
      (found rest).opensLink = false → Weak op.precedence rest →
      Finds (·.operators · least (.binary op left right) rest) x out →
      Finds (·.precedence · least (ts ++ ⟨.symbol op.symbol, q⟩ :: us ++ rest)) x out := by
    intro least rest x out hleast hle hrest hrestWeak hmore
    -- an operator after the right operand does not bind tightly enough for it
    have hright := hright.precedence (op.precedence + 1) rest right rest (Nat.succ_pos _)
      (Nat.le_refl _) hrest (hrestWeak.mono (Nat.le_succ _))
      (finds_of_yields fun _ _ => operators_end fun op' hop => Nat.lt_succ_of_le (hrestWeak op' hop))
    have hleft := hleft.precedence least (⟨.symbol op.symbol, q⟩ :: (us ++ rest)) x out hleast hle
      (hlink _) (hweak _) (finds_operator hle hright hmore)
    rw [List.append_assoc, List.cons_append]
    exact hleft
  exact {
    expression := fun rest => finds_alone fun rest x out => hprecedence 1 rest x out Nat.one_pos hpos
    precedence := hprecedence
    unary := fun hseven => absurd hseven (Nat.not_le.mpr hlow)
    chain := fun height => absurd height (by omega)
    unsigned := fun height => absurd height (by omega) }

lemma found_unary (h : Found 7 e ts) : Found 7 (.unary sign e) (⟨.symbol sign.symbol, q⟩ :: ts) :=
  found_of_unary fun rest hlink => finds_sign (h.unary (Nat.le_refl _) rest hlink)

/-- A link goes on with a strong expression. -/
lemma found_link {link : List Token} {x : Expr} (hbase : Found 8 base ts)
    (h : ∀ rest y out, Finds (·.links · x rest) y out →
      Finds (·.links · base (link ++ rest)) y out) : Found 8 x (ts ++ link) := by
  refine found_of_chain (fun rest => ?_) fun rest y out hmore => ?_
  · rw [List.append_assoc]
    exact hbase.unsigned (Nat.le_refl _) _
  · rw [List.append_assoc]
    exact hbase.chain (Nat.le_refl _) _ _ _ (h rest y out hmore)

/-- A lambda takes as much into its body as there is. -/
lemma found_lambda {parameters : List String} (hbody : Found strength body us)
    (hbars : Laid (writtenBars parameters) ts) (hlength : parameters.length ≤ 255) :
    Found 0 (.lambda parameters body) (ts ++ us) := by
  have hprimary (rest : List Token) (hclose : (found rest).closes) :
      Finds (·.primary · (ts ++ us ++ rest)) (.lambda parameters body) rest := by
    have hbody := hbody.expression rest hclose
    cases parameters with
    | nil =>
      obtain ⟨q, rfl⟩ := laid_singleton.mp hbars
      exact finds_thunk hbody
    | cons p ps =>
      obtain ⟨q, _, rfl, hmore⟩ := laid_cons.mp hbars
      obtain ⟨vs, _, rfl, hnames, hlast⟩ := laid_append.mp hmore
      obtain ⟨r, rfl⟩ := laid_singleton.mp hlast
      rw [List.append_assoc, List.cons_append, List.append_assoc]
      exact finds_lambda (fun _ => parameters_yields hnames hlength (by decide)) hbody
  have hsign (rest : List Token) : (found (ts ++ us ++ rest)).isSign = false := by
    cases parameters with
    | nil =>
      obtain ⟨q, rfl⟩ := laid_singleton.mp hbars
      rfl
    | cons p ps =>
      obtain ⟨q, _, rfl, -⟩ := laid_cons.mp hbars
      rfl
  exact {
    expression := fun rest hclose => finds_expression (finds_precedence
      (finds_unary (hsign rest) (finds_chain (hprimary rest hclose)
        (finds_of_yields fun _ _ => links_end (opensLink_of_closes hclose))))
      (finds_of_yields fun _ _ => operators_end fun op hop => by
        rw [operator_of_closes hclose] at hop
        cases hop))
    precedence := fun _ _ _ _ hpos hle => absurd hpos (by omega)
    unary := fun hseven => absurd hseven (by decide)
    chain := fun height => absurd height (by decide)
    unsigned := fun height => absurd height (by decide) }

/-! ### The tokens of an expression -/

mutual

/-- The tokens of an expression are read as that expression. -/
theorem found_written : (e : Expr) → e.isBrief → ∀ ts, Laid e.written ts → Found e.strength e ts
  | .literal l, _, ts, hts => by
    obtain ⟨q, rfl⟩ := laid_singleton.mp hts
    exact found_of_primary (fun _ => rfl) fun _ => finds_literal l
  | .name x, _, ts, hts => by
    obtain ⟨q, rfl⟩ := laid_singleton.mp hts
    exact found_of_primary (fun _ => rfl) fun _ => finds_name x
  | .binary op left right, hbrief, ts, hts => by
    rw [Expr.isBrief, Bool.and_eq_true] at hbrief
    obtain ⟨us, _, rfl, hleft, hmore⟩ := laid_append.mp hts
    obtain ⟨q, vs, rfl, hright⟩ := laid_cons.mp hmore
    have hbound : op.precedence + 1 ≤ 8 := by cases op <;> decide
    exact found_binary
      (.enclosed (found_written left hbrief.1) (by omega) hleft)
      (.enclosed (found_written right hbrief.2) hbound hright)
  | .unary sign operand, hbrief, ts, hts => by
    obtain ⟨q, us, rfl, hoperand⟩ := laid_cons.mp hts
    exact found_unary (.enclosed (found_written operand hbrief) (by decide) hoperand)
  | .call callee arguments, hbrief, ts, hts => by
    simp only [Expr.isBrief, Bool.and_eq_true, decide_eq_true_eq] at hbrief
    obtain ⟨⟨hcallee, hlength⟩, harguments⟩ := hbrief
    obtain ⟨us, _, rfl, hbase, hmore⟩ := laid_append.mp hts
    obtain ⟨q, _, rfl, hlist⟩ := laid_cons.mp hmore
    obtain ⟨vs, _, rfl, hvs, hlast⟩ := laid_append.mp hlist
    obtain ⟨r, rfl⟩ := laid_singleton.mp hlast
    refine found_link (.enclosed (found_written callee hcallee) (Nat.le_refl _) hbase)
      fun rest y out hrest => ?_
    rw [List.cons_append, List.append_assoc]
    exact finds_call (finds_callArguments (parses_written arguments harguments) hvs hlength) hrest
  | .index base key, hbrief, ts, hts => by
    rw [Expr.isBrief, Bool.and_eq_true] at hbrief
    obtain ⟨us, _, rfl, hbase, hmore⟩ := laid_append.mp hts
    obtain ⟨q, _, rfl, hkey⟩ := laid_cons.mp hmore
    obtain ⟨vs, _, rfl, hvs, hlast⟩ := laid_append.mp hkey
    obtain ⟨r, rfl⟩ := laid_singleton.mp hlast
    refine found_link (.enclosed (found_written base hbrief.1) (Nat.le_refl _) hbase)
      fun rest y out hrest => ?_
    rw [List.cons_append, List.append_assoc]
    exact finds_index ((found_written key hbrief.2 vs hvs).expression (_ :: rest) rfl) hrest
  | .member base key, hbrief, ts, hts => by
    obtain ⟨us, _, rfl, hbase, hmore⟩ := laid_append.mp hts
    obtain ⟨q, _, rfl, hkey⟩ := laid_cons.mp hmore
    obtain ⟨r, rfl⟩ := laid_singleton.mp hkey
    exact found_link (.enclosed (found_written base hbrief) (Nat.le_refl _) hbase)
      fun rest y out hrest => finds_member hrest
  | .array items, hbrief, ts, hts => by
    obtain ⟨q, _, rfl, hlist⟩ := laid_cons.mp hts
    obtain ⟨vs, _, rfl, hvs, hlast⟩ := laid_append.mp hlist
    obtain ⟨r, rfl⟩ := laid_singleton.mp hlast
    refine found_of_primary (fun _ => rfl) fun rest => ?_
    rw [List.cons_append, List.append_assoc]
    exact finds_array (finds_items (parses_written items hbrief) hvs)
  | .object members, hbrief, ts, hts => by
    obtain ⟨q, _, rfl, hlist⟩ := laid_cons.mp hts
    obtain ⟨vs, _, rfl, hvs, hlast⟩ := laid_append.mp hlist
    obtain ⟨r, rfl⟩ := laid_singleton.mp hlast
    refine found_of_primary (fun _ => rfl) fun rest => ?_
    rw [List.cons_append, List.append_assoc]
    exact finds_object (finds_members (parses_writtenMembers members hbrief) hvs)
  | .lambda parameters body, hbrief, ts, hts => by
    simp only [Expr.isBrief, Bool.and_eq_true, decide_eq_true_eq] at hbrief
    obtain ⟨us, vs, rfl, hbars, hbody⟩ := laid_append.mp hts
    exact found_lambda (found_written body hbrief.2 vs hbody) hbars hbrief.1

theorem parses_written : (es : List Expr) → Expr.areBrief es → ∀ e ∈ es, e.Parses
  | [], _, _, he => (List.not_mem_nil he).elim
  | e :: es, hbrief, x, hx => by
    rw [Expr.areBrief, Bool.and_eq_true] at hbrief
    rcases List.mem_cons.mp hx with heq | hx
    · rw [heq]
      exact fun ts rest hts => (found_written e hbrief.1 ts hts).expression rest
    · exact parses_written es hbrief.2 x hx

theorem parses_writtenMembers : (ms : List (String × Expr)) → Expr.membersBrief ms →
    ∀ m ∈ ms, m.2.Parses
  | [], _, _, hm => (List.not_mem_nil hm).elim
  | (key, e) :: ms, hbrief, x, hx => by
    rw [Expr.membersBrief, Bool.and_eq_true] at hbrief
    rcases List.mem_cons.mp hx with heq | hx
    · rw [heq]
      exact fun ts rest hts => (found_written e hbrief.1 ts hts).expression rest
    · exact parses_writtenMembers ms hbrief.2 x hx

end

/-- If nothing after them goes on with it, the tokens of an expression are
read as that expression. -/
theorem Expr.parses (e : Expr) (h : e.isBrief) : e.Parses :=
  fun ts rest hts => (found_written e h ts hts).expression rest

end Found

end MockupStudio.Script
