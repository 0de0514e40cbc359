import SwapDesk.Lib.Hex

/-!
# SwapDesk — bytes and hexadecimal texts

`bytesToHex` and `hexToBytes` as the readers use them, on texts with and without
`0x` in front.
-/

namespace SwapDesk.Rails

/-- `text.slice(n)` -/
def sliceFrom (text : String) (n : Nat) : String := String.ofList (text.toList.drop n)

/-- `data.slice(from, to)` -/
def slice (data : List UInt8) (start stop : Nat) : List UInt8 := (data.take stop).drop start

def bytesToHex (bytes : List UInt8) : String := String.ofList (Hex.encode bytes)

def hexToBytes (text : String) : Option (List UInt8) := Hex.decode text.toList

/-- The digits after `0x` are those of the bytes. -/
theorem hexToBytes_sliceFrom (bytes : List UInt8) :
    hexToBytes (sliceFrom ("0x" ++ bytesToHex bytes) 2) = some bytes := by
  simp [hexToBytes, sliceFrom, bytesToHex]

end SwapDesk.Rails
