/-
Hosts of addresses.

* `readIPv4?`, `readIPv6?`: numeric hosts;
* `readHost`: a host in its usual form: domains in lower case, numeric hosts
  as numbers.
-/
import MockupStudio.Address.Error
import MockupStudio.Address.Percent
import MockupStudio.Address.Punycode
import MockupStudio.Decimal.Layout
import MockupStudio.Decimal.Numeral

namespace MockupStudio.Host

/-- A number to a base, if all characters are digits of it. -/
def readDigits? (base : Nat) (cs : List Char) : Option Nat :=
  cs.foldlM (fun n c => do
    let d ← Json.hexValue? c
    if d < base then some (base * n + d) else none) 0

/-- A part of a numeric host: hexadecimal after `0x`, octal after `0`. -/
def readPart? : List Char → Option Nat
  | [] => none
  | '0' :: 'x' :: digits => readDigits? 16 digits
  | '0' :: 'X' :: digits => readDigits? 16 digits
  | '0' :: digits => readDigits? 8 digits
  | digits => readDigits? 10 digits

/-- The parts between the points of a host; a point at the end does not
count. -/
def labels (cs : List Char) : List (List Char) :=
  let parts := cs.splitOn '.'
  if 1 < parts.length ∧ parts.getLast? = some [] then parts.dropLast else parts

/-- Whether a host has to be a numeric one: its last part is a number. -/
def endsInNumber (cs : List Char) : Bool :=
  match (labels cs).getLast? with
  | some last =>
    !last.isEmpty && last.all Char.isDigit
      || (last.take 2 = ['0', 'x'] || last.take 2 = ['0', 'X']) && (readPart? last).isSome
  | none => false

/-- A number of 32 bits from the parts of a host: every part but the last is
a byte, the last one fills the rest. -/
def joinParts? : Nat → List Nat → Option Nat
  | left, [last] => if last < twoTo (8 * left) then some last else none
  | left, part :: rest =>
    if part < 256 then (joinParts? (left - 1) rest).map (part * twoTo (8 * (left - 1)) + ·)
    else none
  | _, [] => none

/-- A numeric host of 32 bits. -/
def readIPv4? (cs : List Char) : Option Nat := do
  let parts ← (labels cs).mapM readPart?
  if parts.length ≤ 4 then joinParts? 4 parts else none

/-- A number of 32 bits as four bytes. -/
def writeIPv4 (n : Nat) : List Char :=
  let bytes : List Nat := [n / twoTo 24, n / twoTo 16 % 256, n / 256 % 256, n % 256]
  (".".intercalate (bytes.map fun (byte : Nat) => Decimal.integer byte)).toList

/-- Groups of sixteen bits between colons, the last of which may be a numeric
host of 32 bits. -/
def readGroups? (cs : List Char) : Option (List Nat) :=
  if cs.isEmpty then some []
  else
    let parts := cs.splitOn ':'
    let group? (part : List Char) : Option Nat :=
      if part.isEmpty ∨ 4 < part.length then none else readDigits? 16 part
    match parts.getLast? with
    | some last =>
      if last.contains '.' then do
        let front ← parts.dropLast.mapM group?
        let bytes ← (last.splitOn '.').mapM fun b =>
          if b.isEmpty ∨ (1 < b.length ∧ b.head? = some '0') then none else readDigits? 10 b
        match bytes with
        | [a, b, c, d] =>
          if bytes.all (· < 256) then some (front ++ [256 * a + b, 256 * c + d]) else none
        | _ => none
      else parts.mapM group?
    | none => none

/-- Splits at the first pair of colons. -/
def splitAtGap : List Char → Option (List Char × List Char)
  | ':' :: ':' :: rest => some ([], rest)
  | c :: rest => (splitAtGap rest).map fun (a, b) => (c :: a, b)
  | [] => none

/-- A numeric host of 128 bits, as eight groups. -/
def readIPv6? (cs : List Char) : Option (List Nat) := do
  match splitAtGap cs with
  | some (front, back) =>
    let front ← readGroups? front
    let back ← readGroups? back
    let missing := 8 - (front.length + back.length)
    if 0 < missing then some (front ++ List.replicate missing 0 ++ back) else none
  | none =>
    let groups ← readGroups? cs
    if groups.length = 8 then some groups else none

/-- The number of zeros a list begins with. -/
def leadingZeros (groups : List Nat) : Nat := (groups.takeWhile (· = 0)).length

/-- Begin and length of the first longest run of zeros. -/
def longestGap (groups : List Nat) : Nat × Nat :=
  (List.range groups.length).foldl (fun (best : Nat × Nat) i =>
    let size := leadingZeros (groups.drop i)
    if best.2 < size then (i, size) else best) (0, 0)

/-- Groups with colons between them. -/
def writeGroups (groups : List Nat) : List Char :=
  (":".intercalate (groups.map fun g => String.ofList (Nat.toDigits 16 g))).toList

/-- Eight groups, the longest run of at least two zeros left out. -/
def writeIPv6 (groups : List Nat) : List Char :=
  let (start, size) := longestGap groups
  if size < 2 then writeGroups groups
  else writeGroups (groups.take start) ++ [':', ':'] ++ writeGroups (groups.drop (start + size))

/-- Whether a character may not occur in a domain. -/
def isForbidden (c : Char) : Bool :=
  c ≤ ' ' || c = '\x7f' || "#/:<>?@[\\]^|%".toList.contains c

/-- The characters that part the labels of a domain. -/
def isLabelEnd (c : Char) : Bool :=
  c = '.' || c = '\u3002' || c = '\uff0e' || c = '\uff61'

/-- A domain in plain lower case letters. -/
def plainDomain (cs : List Char) : List Char :=
  let labels := (cs.splitOnP isLabelEnd).map fun label =>
    Punycode.label (label.map Punycode.smallForm)
  ['.'].intercalate labels

/-- A host in its usual form. -/
def readHost (cs : List Char) : Except AddressError (List Char) :=
  match cs with
  | '[' :: rest =>
    if rest.getLast? = some ']' then
      match readIPv6? rest.dropLast with
      | some groups => .ok ('[' :: writeIPv6 groups ++ [']'])
      | none => .error .badIPv6
    else .error .badIPv6
  | cs =>
    match Percent.decode? cs with
    | none => .error .badDomain
    | some domain =>
      if domain.isEmpty then .error .emptyHost
      else if domain.any isForbidden then .error .badDomain
      else
        let domain := plainDomain domain
        if endsInNumber domain then
          match readIPv4? domain with
          | some n => .ok (writeIPv4 n)
          | none => .error .badIPv4
        else .ok domain

end MockupStudio.Host
