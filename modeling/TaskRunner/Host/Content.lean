/-! The content of a file or a pipe. It grows at its end part by part, so the parts are kept with
the last one first, and are put together when the content is read. -/

namespace TaskRunner.Host

structure Content where
  parts : List ByteArray := []
  size : Nat := 0

namespace Content

def ofArray (bytes : ByteArray) : Content := ⟨[bytes], bytes.size⟩

def bytes (c : Content) : ByteArray :=
  match c.parts with
  | [] => .empty
  | [only] => only
  | parts => parts.reverse.foldl (· ++ ·) .empty

def joined (c : Content) : Content := ofArray c.bytes

def push (c : Content) (bytes : ByteArray) : Content :=
  ⟨bytes :: c.parts, c.size + bytes.size⟩

/-- Puts bytes at an offset over what is there; a gap before it is filled with zeros. -/
def write (c : Content) (offset : Nat) (bytes : ByteArray) : Content :=
  if offset = c.size then c.push bytes
  else
    let old := c.bytes
    let gap : ByteArray := ⟨Array.replicate (offset - old.size) 0⟩
    ofArray (old.extract 0 offset ++ gap ++ bytes ++
      old.extract (offset + bytes.size) old.size)

end Content
end TaskRunner.Host
