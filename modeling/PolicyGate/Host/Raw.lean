import PolicyGate.Text.Utf8

/-!
# Texts of bytes

Scripts and tools see bytes, not characters. A *raw* text has one character for each byte, the one
with the byte's number, so that texts can still be written and compared as texts.
-/

namespace PolicyGate

namespace Host

/-- A text in which every character stands for a byte. -/
abbrev Raw := String

namespace Raw

def ofBytes (bytes : List UInt8) : Raw := String.ofList (bytes.map fun b => Char.ofNat b.toNat)

def toBytes (r : Raw) : List UInt8 := r.toList.map fun c => UInt8.ofNat c.toNat

/-- The bytes of a text. -/
def ofText (s : String) : Raw := ofBytes (Utf8.encode s)

/-- What the bytes read as. -/
def toText (r : Raw) : String := String.ofList (Utf8.lossy (toBytes r))

theorem toNat_ofNat_of_lt {n : Nat} (h : n < 256) : (Char.ofNat n).toNat = n := by
  have hv : n.isValidChar := Or.inl (Nat.lt_of_lt_of_le h (by decide))
  unfold Char.ofNat
  rw [dif_pos hv]
  rfl

/-- No byte is lost. -/
theorem toBytes_ofBytes (bytes : List UInt8) : toBytes (ofBytes bytes) = bytes := by
  have h : ∀ b : UInt8, UInt8.ofNat (Char.ofNat b.toNat).toNat = b := fun b => by
    rw [toNat_ofNat_of_lt b.toNat_lt, UInt8.ofNat_toNat]
  induction bytes with
  | nil => simp [toBytes, ofBytes]
  | cons b bs ih =>
    simp only [toBytes, ofBytes, String.toList_ofList, List.map_cons] at ih ⊢
    rw [h, ih]

end Raw

end Host

end PolicyGate
