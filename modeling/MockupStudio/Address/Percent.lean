/-
Percent signs in addresses.

* `encode`: writes the bytes of characters that may not stand in an address
  as `%` and two digits;
* `decode`: the text meant by such a writing.
-/
import MockupStudio.Json.Reader

namespace MockupStudio.Percent

/-- A digit to base sixteen, upper case. -/
def hexDigit (n : Nat) : Char := (Nat.digitChar n).toUpper

/-- A byte as a percent sign and two digits. -/
def encodeByte (b : UInt8) : List Char :=
  ['%', hexDigit (b.toNat / 16), hexDigit (b.toNat % 16)]

/-- A character, written out in bytes unless it may stand for itself. -/
def encodeChar (reserved : List Char) (c : Char) : List Char :=
  if c < ' ' ∨ '~' < c ∨ c ∈ reserved then c.toString.toUTF8.toList.flatMap encodeByte
  else [c]

/-- A text with the reserved characters written out in bytes. -/
def encode (reserved : List Char) (cs : List Char) : List Char :=
  cs.flatMap (encodeChar reserved)

/-- What is reserved in a path. -/
def inPath : List Char := [' ', '"', '<', '>', '\x60', '#', '?', '\x7b', '\x7d']

/-- What is reserved in front of a host. -/
def inUser : List Char := inPath ++ ['/', ':', ';', '=', '@', '[', '\\', ']', '^', '|']

/-- The bytes meant by a text with percent signs. -/
def decodeBytes : List Char → List UInt8
  | '%' :: a :: b :: rest =>
    match Json.hexValue? a, Json.hexValue? b with
    | some a, some b => UInt8.ofNat (16 * a + b) :: decodeBytes rest
    | _, _ => '%'.toString.toUTF8.toList ++ decodeBytes (a :: b :: rest)
  | c :: rest => c.toString.toUTF8.toList ++ decodeBytes rest
  | [] => []

/-- The text meant by a text with percent signs, if it is one. -/
def decode? (cs : List Char) : Option (List Char) :=
  (String.fromUTF8? ⟨(decodeBytes cs).toArray⟩).map String.toList

end MockupStudio.Percent
