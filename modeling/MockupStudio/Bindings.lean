/-
Values bound to texts.

* `Bindings`: a list of keys with their values, in no particular order; no
  key is bound twice in a list built by `insert`;
* `insert`: binds a key, in place of an earlier value;
* `ofList`: of equal keys the last one given counts;
* `sorted`: in ascending order of the keys.
-/
import MockupStudio.Json.Basic

namespace MockupStudio

/-- Keys with their values. -/
abbrev Bindings (α : Type u) := List (String × α)

namespace Bindings

/-- The value bound to a key. -/
def get? (key : String) : Bindings α → Option α
  | [] => none
  | (k, a) :: rest => if k = key then some a else get? key rest

/-- Whether a key is bound. -/
def contains (key : String) : Bindings α → Bool
  | [] => false
  | (k, _) :: rest => k = key || contains key rest

/-- Binds a key, in place of the value it had. -/
def insert (key : String) (value : α) : Bindings α → Bindings α
  | [] => [(key, value)]
  | (k, a) :: rest =>
    if k = key then (key, value) :: rest else (k, a) :: insert key value rest

/-- Removes a key. -/
def erase (key : String) (bs : Bindings α) : Bindings α := bs.filter (·.1 ≠ key)

/-- Adds bindings one after the other. -/
def insertAll (bs more : Bindings α) : Bindings α :=
  more.foldl (fun bs (b : String × α) => insert b.1 b.2 bs) bs

/-- Bindings from pairs, the last of equal keys counting. -/
def ofList (pairs : List (String × α)) : Bindings α := insertAll [] pairs

/-- The bound keys. -/
def keys (bs : Bindings α) : List String := bs.map (·.1)

/-- The bindings in ascending order of their keys. -/
def sorted (bs : Bindings α) : Bindings α := bs.mergeSort Members.keyLe

@[simp] theorem get?_nil (key : String) : get? key ([] : Bindings α) = none := rfl

theorem contains_eq_isSome (key : String) (bs : Bindings α) :
    contains key bs = (get? key bs).isSome := by
  induction bs with
  | nil => rfl
  | cons b rest ih =>
    obtain ⟨k, a⟩ := b
    by_cases h : k = key <;> simp [contains, get?, h, ih]

/-- After binding a key it has the new value, and no other key has changed. -/
theorem get?_insert (key k : String) (value : α) (bs : Bindings α) :
    get? k (insert key value bs) = if key = k then some value else get? k bs := by
  induction bs with
  | nil => simp [insert, get?]
  | cons b rest ih =>
    obtain ⟨l, a⟩ := b
    by_cases hl : l = key
    · subst hl
      by_cases hk : l = k <;> simp [insert, get?, hk]
    · by_cases hk : l = k
      · subst hk
        have : key ≠ l := fun h => hl h.symm
        simp [insert, get?, hl, this]
      · simp [insert, get?, hl, hk, ih]

end Bindings

end MockupStudio
