/-! Raw bytes, and their reading as text. Text is strict UTF-8: a sequence that is cut off, that is
longer than it needs to be or that stands for a surrogate makes the whole run of bytes no text. -/

namespace TaskRunner

abbrev Bytes := List UInt8

namespace Bytes

def ofString (s : String) : Bytes := s.toUTF8.data.toList

def toString? (bytes : Bytes) : Option String := String.fromUTF8? ⟨bytes.toArray⟩

theorem toString?_ofString (s : String) : toString? (ofString s) = some s := by
  have valid : (ByteArray.mk s.toUTF8.data.toList.toArray).IsValidUTF8 := s.isValidUTF8
  unfold toString? ofString String.fromUTF8?
  rw [dif_pos valid]
  rfl

end Bytes
end TaskRunner
