import LintRepair.Text.Utf8

/-!
Byte texts: strings in which each character stands for the byte of its own code. Commands work on
bytes, whatever text these stand for, and a byte text lets them be handled as characters.
-/
namespace LintRepair.ByteText

def ofBytes (bs : List UInt8) : String := String.ofList (bs.map fun b => Char.ofNat b.toNat)

def toBytes (s : String) : List UInt8 := s.toList.map fun c => UInt8.ofNat c.toNat

def encode (s : String) : String := ofBytes (utf8 s)

/-- The text whose bytes in UTF-8 a byte text holds; broken sequences are replaced. -/
def decode (s : String) : String := lossyText (toBytes s)

end LintRepair.ByteText
