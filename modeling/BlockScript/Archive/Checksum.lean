import BlockScript.Bytes

/-!
# The checksum of an archive entry

An entry is stored with the remainder of its bytes, read as a polynomial over two elements, modulo a
polynomial of degree 32. The remainder is kept with its bits in reverse and is complemented before
and after.
-/

namespace BlockScript

namespace Archive

def checksumBit (n : UInt32) : UInt32 :=
  if n &&& 1 = 1 then (n >>> 1) ^^^ 0xedb88320 else n >>> 1

def checksumByte (n : UInt32) (b : UInt8) : UInt32 :=
  Nat.repeat checksumBit 8 (n ^^^ b.toUInt32)

def checksum (b : Bytes) : UInt32 := ~~~ (b.foldl checksumByte 0xffffffff)

end Archive

end BlockScript
