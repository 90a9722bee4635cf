import Conch.Text.Utf8

/-!
Octets: texts whose characters stand for single bytes. A program takes its arguments
apart byte by byte, whatever letters the bytes may form; so what it is given, and
what it keeps, are texts in which every character has a code below 256.
-/

namespace Conch

namespace Octets

/-- Bytes as a text with one character for each. -/
def ofBytes (bytes : Bytes) : Text := bytes.map fun b => Char.ofNat b.toNat

/-- The bytes that the characters stand for. -/
def toBytes (octets : Text) : Bytes := octets.map fun c => c.toNat.toUInt8

/-- A text as its bytes. -/
def ofText (s : Text) : Text := ofBytes s.utf8

/-- The text that the bytes show. -/
def toText (octets : Text) : Text := Bytes.shown (toBytes octets)

@[simp] theorem toBytes_nil : toBytes [] = [] := rfl

@[simp] theorem toBytes_append (s t : Text) : toBytes (s ++ t) = toBytes s ++ toBytes t := by
  simp [toBytes]

/-- Bytes that are kept as octets come back unchanged. -/
@[simp] theorem toBytes_ofBytes (bytes : Bytes) : toBytes (ofBytes bytes) = bytes := by
  simp only [toBytes, ofBytes, List.map_map]
  refine (List.map_congr_left fun b _ => ?_).trans (List.map_id _)
  have small : b.toNat < 256 := b.toNat_lt
  have valid : b.toNat.isValidChar := Or.inl (by omega)
  have code : (Char.ofNat b.toNat).toNat = b.toNat := by
    rw [Char.ofNat, dif_pos valid]
    rfl
  simp [code]

end Octets

end Conch
