import RecallShell.Text.Utf8

/-!
# Octet strings

Bytes that need not be UTF-8 can be handled as a string with one character below 256 for each byte.
Text of the ASCII range is its own octet string, and no byte is lost on the way there and back.
-/

namespace RecallShell.Text

/-- The string with one character for each byte. -/
def octets (bs : Bytes) : String := String.ofList (bs.map fun b => Char.ofNat b.toNat)

/-- The bytes that the characters of an octet string stand for. -/
def ofOctets (s : String) : Bytes := s.toList.map fun c => UInt8.ofNat c.toNat

/-- The character of a byte stands for that byte. -/
theorem ofNat_toNat_ofNat (b : UInt8) : UInt8.ofNat (Char.ofNat b.toNat).toNat = b := by
  have h : b.toNat.isValidChar := Or.inl (Nat.lt_trans b.toNat_lt (by decide))
  have hc : (Char.ofNat b.toNat).toNat = b.toNat := by
    rw [Char.ofNat, dif_pos h]
    rfl
  rw [hc]
  exact UInt8.ofNat_toNat

/-- No byte is lost in an octet string. -/
@[simp] theorem ofOctets_octets (bs : Bytes) : ofOctets (octets bs) = bs := by
  simp only [ofOctets, octets, String.toList_ofList, List.map_map]
  exact (List.map_congr_left fun b _ => ofNat_toNat_ofNat b).trans (List.map_id bs)

end RecallShell.Text
