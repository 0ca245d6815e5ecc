/-
Compact JSON text stays on one line.

* `Json.Printable`: no character of a text is a control character;
* `Json.printable_writeString`, `Json.printable_write`: so it is with texts in
  quotes and with numbers;
* `Json.printable_compact`: so it is with all data on one line;
  `Json.newLine_notMem_compact`: its text has no end of a line in it.
-/
import MockupStudio.Proofs.Json.Reading

namespace MockupStudio.Json

/-- No character of a text is a control character. -/
def Printable (s : String) : Prop := ∀ c ∈ s.toList, ' ' ≤ c

section Parts

variable {s t : String} {cs : List Char}

lemma Printable.append (hs : Printable s) (ht : Printable t) : Printable (s ++ t) := by
  intro c hc
  rw [String.toList_append, List.mem_append] at hc
  exact hc.elim (hs c) (ht c)

lemma printable_ofList (h : ∀ c ∈ cs, ' ' ≤ c) : Printable (String.ofList cs) := by
  rwa [Printable, String.toList_ofList]

lemma le_of_isDigit {c : Char} (h : c.isDigit) : ' ' ≤ c := by
  rw [Char.isDigit, Bool.and_eq_true, decide_eq_true_eq] at h
  exact Char.le_trans (by decide) h.1

lemma le_of_mem_naturalDigits {c : Char} {n : Nat} (h : c ∈ Decimal.naturalDigits n) : ' ' ≤ c :=
  le_of_isDigit (Nat.isDigit_of_mem_toDigits (by decide) (by decide) h)

/-- A character inside quotes is written by printable ones: control characters
are escaped. -/
lemma printable_writeChar (c : Char) : Printable (writeChar c) := by
  have hdigits : ∀ n < 32, ' ' ≤ hexDigit (n / 16) ∧ ' ' ≤ hexDigit (n % 16) := by decide
  rw [writeChar]
  split_ifs
  iterate 7 simp [Printable]
  · next hlt =>
    obtain ⟨hhigh, hlow⟩ := hdigits c.toNat hlt
    exact Printable.append (by simp [Printable]) (printable_ofList (by simp [hhigh, hlow]))
  · next hle =>
    intro d hd
    have hself : c.toString.toList = [c] := String.toList_singleton c
    rw [hself, List.mem_singleton] at hd
    exact hd ▸ Char.not_lt.mp hle

/-- Texts in quotes. -/
lemma printable_writeString (s : String) : Printable (writeString s) := by
  intro c hc
  rw [toList_writeString, List.cons_append, List.mem_cons, List.mem_append, List.mem_singleton,
    quoted, List.mem_flatMap] at hc
  obtain rfl | ⟨d, -, hc⟩ | rfl := hc
  · decide
  · exact printable_writeChar d c hc
  · decide

/-- Integers. -/
lemma printable_integer (n : Int) : Printable (Decimal.integer n) := by
  rw [Decimal.integer]
  split
  · exact Printable.append (by simp [Printable]) (printable_ofList fun _ => le_of_mem_naturalDigits)
  · exact printable_ofList fun _ => le_of_mem_naturalDigits

lemma le_of_mem_positionally {layout : Decimal.Layout} {d : Decimal.Scaled} {c : Char}
    (h : c ∈ layout.positionally d) : ' ' ≤ c := by
  have hzeros (n : Nat) (hc : c ∈ List.replicate n '0') : ' ' ≤ c := by
    rw [List.eq_of_mem_replicate hc]
    decide
  have hsigns (hc : c = '.' ∨ c = '0') : ' ' ≤ c := by
    obtain rfl | rfl := hc <;> decide
  rw [Decimal.Layout.positionally] at h
  split at h
  · rw [List.mem_append, List.mem_append] at h
    obtain (h | h) | h := h
    · exact le_of_mem_naturalDigits h
    · exact hzeros _ h
    · split at h
      · exact hsigns (by simpa using h)
      · cases h
  · dsimp only at h
    split at h
    · rw [List.mem_cons, List.mem_cons, List.mem_append] at h
      obtain rfl | rfl | h | h := h
      · decide
      · decide
      · exact hzeros _ h
      · exact le_of_mem_naturalDigits h
    · rw [List.mem_append, List.mem_cons] at h
      obtain h | rfl | h := h
      · exact le_of_mem_naturalDigits (List.mem_of_mem_take h)
      · decide
      · exact le_of_mem_naturalDigits (List.mem_of_mem_drop h)

lemma le_of_mem_scientifically {layout : Decimal.Layout} {d : Decimal.Scaled} {c : Char}
    (h : c ∈ layout.scientifically d) : ' ' ≤ c := by
  rw [Decimal.Layout.scientifically] at h
  simp only [List.mem_append, List.mem_cons] at h
  obtain (h | h) | rfl | h | h := h
  · exact le_of_mem_naturalDigits (List.mem_of_mem_take h)
  · split at h
    · cases h
    · obtain rfl | h := List.mem_cons.mp h
      · decide
      · exact le_of_mem_naturalDigits (List.mem_of_mem_drop h)
  · decide
  · split at h
    · rw [List.mem_singleton.mp h]
      decide
    · split at h
      · rw [List.mem_singleton.mp h]
        decide
      · cases h
  · exact le_of_mem_naturalDigits h

lemma le_of_mem_magnitude {layout : Decimal.Layout} {d : Decimal.Dyadic} {c : Char}
    (h : c ∈ layout.magnitude d) : ' ' ≤ c := by
  rw [Decimal.Layout.magnitude] at h
  split at h
  · exact le_of_mem_positionally h
  · split at h
    · exact le_of_mem_positionally h
    · exact le_of_mem_scientifically h

/-- Floats, whatever their layout. -/
lemma printable_write (layout : Decimal.Layout) (x : Float) : Printable (layout.write x) := by
  rw [Decimal.Layout.write]
  split
  · next d _ =>
    refine printable_ofList fun c hc => ?_
    rw [List.mem_append] at hc
    obtain hc | hc := hc
    · split at hc
      · rw [List.mem_singleton.mp hc]
        decide
      · cases hc
    · exact le_of_mem_magnitude hc
  · split
    · simp [Printable]
    · split <;> simp [Printable]

lemma printable_writeFloat (x : Float) : Printable (writeFloat x) := by
  rw [writeFloat]
  split
  · exact printable_write numeral x
  · simp [Printable]

/-- Parts that are separated by commas. -/
lemma Printable.separated (first : Bool) (h : Printable s) :
    Printable (if first then s else s ++ ",") := by
  split
  · exact h
  · exact h.append (by simp [Printable])

end Parts

/-! ### Data on one line -/

mutual

lemma Printable.appendCompact {out : String} (h : Printable out) (data : Json) :
    Printable (Json.appendCompact out data) := by
  cases data with
  | null => exact h.append (by simp [Printable])
  | bool b => exact h.append (by cases b <;> simp [Printable])
  | int n => exact h.append (printable_integer n)
  | float x => exact h.append (printable_writeFloat x)
  | text s => exact h.append (printable_writeString s)
  | array items =>
    have hopen : Printable (out ++ "[") := h.append (by simp [Printable])
    exact (hopen.appendItems true items).append (by simp [Printable])
  | object members =>
    have hopen : Printable (out ++ openBrace) := h.append (by simp [Printable, openBrace])
    exact (hopen.appendMembers true members).append (by simp [Printable, closeBrace])

lemma Printable.appendItems {out : String} (h : Printable out) (first : Bool)
    (items : List Json) : Printable (Json.appendItems out first items) := by
  cases items with
  | nil => exact h
  | cons item items => exact ((h.separated first).appendCompact item).appendItems false items

lemma Printable.appendMembers {out : String} (h : Printable out) (first : Bool)
    (members : List (String × Json)) : Printable (Json.appendMembers out first members) := by
  cases members with
  | nil => exact h
  | cons member members =>
    obtain ⟨key, item⟩ := member
    have hkey : Printable ((if first then out else out ++ ",") ++ writeString key ++ ":") :=
      ((h.separated first).append (printable_writeString key)).append (by simp [Printable])
    exact (hkey.appendCompact item).appendMembers false members

end

/-- On one line, data is written without control characters. -/
theorem printable_compact (data : Json) : Printable data.compact :=
  Printable.appendCompact (by simp [Printable]) data

/-- One line is one line. -/
theorem newLine_notMem_compact (data : Json) : '\n' ∉ data.compact.toList := fun h =>
  absurd (printable_compact data '\n' h) (by decide)

end MockupStudio.Json
