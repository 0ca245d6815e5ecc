/-
Files packed into one archive, each as it is.

* `littleEndian`: numbers as bytes;
* `checksum`: the cyclic redundancy check of 32 bits;
* `Archive.pack`: a record with its content for each file, then the
  directory of the files, then where the directory is. The directory says at
  which byte the record of each file begins.
-/
namespace MockupStudio

/-- The lowest bytes of a number, the lowest first. -/
def littleEndian : Nat → Nat → List UInt8
  | 0, _ => []
  | width + 1, n => UInt8.ofNat n :: littleEndian width (n / 256)

@[simp] theorem length_littleEndian (width n : Nat) : (littleEndian width n).length = width := by
  induction width generalizing n with
  | zero => rfl
  | succ width ih => simp [littleEndian, ih]

/-- One division step of the check. -/
def checkBit (c : UInt32) : UInt32 :=
  if c &&& 1 = 1 then (c >>> 1) ^^^ 0xedb88320 else c >>> 1

/-- One byte of the check. -/
def checkByte (c : UInt32) (byte : UInt8) : UInt32 :=
  Nat.repeat checkBit 8 (c ^^^ byte.toUInt32)

/-- The check of bytes. -/
def checksum (bytes : List UInt8) : UInt32 := bytes.foldl checkByte 0xffffffff ^^^ 0xffffffff

namespace Archive

/-- A file of an archive. -/
structure Member where
  name : List UInt8
  content : List UInt8

/-- A file from its name and its text. -/
def Member.ofText (file : String × String) : Member :=
  ⟨file.1.toUTF8.toList, file.2.toUTF8.toList⟩

namespace Member

/-- What the record of a file and its line in the directory have in common:
version, method, date, check and sizes. -/
def description (m : Member) : List UInt8 :=
  littleEndian 2 20 ++ littleEndian 2 0 ++ littleEndian 2 0 ++ littleEndian 2 0
    ++ littleEndian 2 33 ++ littleEndian 4 (checksum m.content).toNat
    ++ littleEndian 4 m.content.length ++ littleEndian 4 m.content.length
    ++ littleEndian 2 m.name.length ++ littleEndian 2 0

/-- The record of a file. -/
def record (m : Member) : List UInt8 :=
  littleEndian 4 0x04034b50 ++ m.description ++ m.name ++ m.content

/-- The line of a file in the directory, with the place of its record. -/
def line (place : Nat) (m : Member) : List UInt8 :=
  littleEndian 4 0x02014b50 ++ littleEndian 2 20 ++ m.description ++ littleEndian 2 0
    ++ littleEndian 2 0 ++ littleEndian 2 0 ++ littleEndian 4 0 ++ littleEndian 4 place ++ m.name

end Member

/-- The lines of files whose records begin at a place. -/
def directory : Nat → List Member → List UInt8
  | _, [] => []
  | place, m :: ms => m.line place ++ directory (place + m.record.length) ms

/-- The end of an archive: how many files there are, and the size and place
of the directory. -/
def ending (count size place : Nat) : List UInt8 :=
  littleEndian 4 0x06054b50 ++ littleEndian 2 0 ++ littleEndian 2 0 ++ littleEndian 2 count
    ++ littleEndian 2 count ++ littleEndian 4 size ++ littleEndian 4 place ++ littleEndian 2 0

/-- Files in one archive. -/
def pack (files : List (String × String)) : List UInt8 :=
  let members := files.map Member.ofText
  let records := members.flatMap Member.record
  let lines := directory 0 members
  records ++ lines ++ ending members.length lines.length records.length

end Archive

end MockupStudio
