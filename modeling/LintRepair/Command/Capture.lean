/-!
Keeping the start of a stream. A stream arrives in chunks; the first bytes up to a limit are kept
and the others counted, so what is kept does not depend on where the chunks are cut.
-/
namespace LintRepair

structure Capture where
  kept : List UInt8 := []
  dropped : Nat := 0
deriving DecidableEq, Repr

namespace Capture

def take (limit : Nat) (c : Capture) (chunk : List UInt8) : Capture :=
  let keep := min chunk.length (limit - c.kept.length)
  ⟨c.kept ++ chunk.take keep, c.dropped + (chunk.length - keep)⟩

def ofChunks (limit : Nat) (chunks : List (List UInt8)) : Capture :=
  chunks.foldl (take limit) {}

end Capture
end LintRepair
