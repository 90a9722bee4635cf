import Conch.Text.Basic

/-!
Bytes and their texts. What a command writes and reads is a list of bytes; a text
is written in UTF-8. Bytes that are not UTF-8 can still be shown: each maximal
start of a character that is cut short becomes one replacement character.
-/

namespace Conch

/-- What goes through a descriptor or lies in a file. -/
abbrev Bytes := List UInt8

namespace Text

/-- The UTF-8 form of a text. -/
def utf8 (s : Text) : Bytes := s.flatMap String.utf8EncodeChar

/-- The number of bytes in the UTF-8 form of a text. -/
def byteLength (s : Text) : Nat := s.foldl (fun n c => n + c.utf8Size) 0

end Text

namespace Bytes

/-- Stands for bytes that do not form a character. -/
def replacement : Char := Char.ofNat 0xFFFD

/-- The character that the bytes begin with, if they begin with one. -/
def firstChar? (bytes : Bytes) : Option Char := (bytes.take 4).toByteArray.utf8DecodeChar? 0

/-- Whether a byte continues a character of several bytes. -/
def isContinuation (b : UInt8) : Bool := 0x80 ≤ b && b ≤ 0xBF

/-- The values that a second byte may have after the first byte of a character
of three or four bytes. -/
def secondByteRange (first : UInt8) : UInt8 × UInt8 :=
  if first == 0xE0 then (0xA0, 0xBF)
  else if first == 0xED then (0x80, 0x9F)
  else if first == 0xF0 then (0x90, 0xBF)
  else if first == 0xF4 then (0x80, 0x8F)
  else (0x80, 0xBF)

/-- How many bytes at the front, which do not begin with a character, are a start
of one; at least one byte. -/
def brokenLength : Bytes → Nat
  | first :: second :: rest =>
    let range := secondByteRange first
    if 0xE0 ≤ first && first ≤ 0xF4 && range.1 ≤ second && second ≤ range.2 then
      if 0xF0 ≤ first && (rest.head?.map isContinuation).getD false then 3 else 2
    else 1
  | _ => 1

/-- The next character to show and the number of bytes that it stands for. -/
def nextChar (bytes : Bytes) : Char × Nat :=
  match firstChar? bytes with
  | some c => (c, c.utf8Size)
  | none => (replacement, brokenLength bytes)

/-- Decodes behind the characters `done`, latest first, when `skip` bytes at the
front belong to the last of them. -/
def decodeFrom (done : Text) : Nat → Bytes → Text
  | _, [] => done.reverse
  | skip + 1, _ :: rest => decodeFrom done skip rest
  | 0, b :: rest =>
    let (c, size) := nextChar (b :: rest)
    decodeFrom (c :: done) (size - 1) rest

/-- The text that bytes show, with replacement characters where they are not UTF-8. -/
def shown (bytes : Bytes) : Text := decodeFrom [] 0 bytes

/-- The text whose UTF-8 form the bytes are, if there is one. -/
def toText? (bytes : Bytes) : Option Text :=
  let text := shown bytes
  if text.utf8 = bytes then some text else none

end Bytes

end Conch
