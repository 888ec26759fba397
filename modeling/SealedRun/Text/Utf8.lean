import SealedRun.Word

/-! Text as bytes. -/
namespace SealedRun

def utf8Bytes (s : String) : Bytes := s.toUTF8.data.toList

/-- The text with these bytes, if they are well-formed. -/
def utf8String? (bs : Bytes) : Option String := String.fromUTF8? ⟨bs.toArray⟩

theorem utf8String?_utf8Bytes (s : String) : utf8String? (utf8Bytes s) = some s := by
  have h : (ByteArray.mk (utf8Bytes s).toArray) = s.toUTF8 := by simp [utf8Bytes]
  have hv : s.toUTF8.IsValidUTF8 := s.isValidUTF8
  rw [utf8String?, h, String.fromUTF8?, dif_pos hv]
  rfl

end SealedRun
