import TaskRunner.Bytes

/-! Text on the host. A program works on bytes; each byte is held as the character of its number, so
that names, arguments and scripts can be taken apart as strings. -/

namespace TaskRunner.Host

abbrev Raw := String

namespace Raw

def charOf (b : UInt8) : Char := Char.ofNat b.toNat

def byteOf (c : Char) : UInt8 := UInt8.ofNat c.toNat

def ofBytes (bytes : Bytes) : Raw := String.ofList (bytes.map charOf)

def bytes (raw : Raw) : Bytes := raw.toList.map byteOf

def ofText (text : String) : Raw := ofBytes (Bytes.ofString text)

/-- The text that bytes encode; bytes that encode none are left as they are. -/
def toText (raw : Raw) : String := (Bytes.toString? raw.bytes).getD raw

def ofArray (bytes : ByteArray) : Raw := ofBytes bytes.toList

def toArray (raw : Raw) : ByteArray := ⟨(raw.bytes).toArray⟩

end Raw
end TaskRunner.Host
