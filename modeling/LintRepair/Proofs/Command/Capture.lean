import LintRepair.Command.Capture

/-!
What is kept of a stream. After every chunk the capture holds the first bytes of all that has come
so far and the number of the others, so where the chunks are cut does not matter. A stream that is
read until a read gives nothing is kept the same way.
-/
namespace LintRepair.Capture

/-- The capture holds the first bytes of some stream and counts all others. -/
structure Holds (limit : Nat) (stream : List UInt8) (c : Capture) : Prop where
  kept : c.kept = stream.take limit
  total : c.kept.length + c.dropped = stream.length

variable {limit : Nat} {stream : List UInt8} {c : Capture}

theorem Holds.take (holds : Holds limit stream c) (chunk : List UInt8) :
    Holds limit (stream ++ chunk) (take limit c chunk) := by
  have length : c.kept.length = min limit stream.length := by rw [holds.kept, List.length_take]
  have total := holds.total
  constructor
  · have room : chunk.take (min chunk.length (limit - c.kept.length)) =
        chunk.take (limit - stream.length) := by
      rw [List.take_eq_take_iff]
      omega
    simp only [Capture.take]
    rw [room, holds.kept, List.take_append]
  · simp only [Capture.take, List.length_append, List.length_take]
    omega

theorem holds_foldl (holds : Holds limit stream c) (chunks : List (List UInt8)) :
    Holds limit (stream ++ chunks.flatten) (chunks.foldl (take limit) c) := by
  induction chunks generalizing stream c with
  | nil => simpa using holds
  | cons chunk chunks ih =>
    rw [List.foldl_cons, List.flatten_cons, ← List.append_assoc]
    exact ih (holds.take chunk)

theorem holds_ofChunks (limit : Nat) (chunks : List (List UInt8)) :
    Holds limit chunks.flatten (ofChunks limit chunks) := by
  have nothing : Holds limit [] {} := ⟨by simp, rfl⟩
  exact holds_foldl nothing chunks

theorem Holds.length_kept (holds : Holds limit stream c) :
    c.kept.length = min limit stream.length := by
  rw [holds.kept, List.length_take]

/-- What a capture holds of a stream is settled by the stream alone. -/
theorem Holds.eq_mk (holds : Holds limit stream c) :
    c = ⟨stream.take limit, stream.length - limit⟩ := by
  obtain ⟨kept, dropped⟩ := c
  have total := holds.total
  rw [holds.length_kept] at total
  have rest : dropped = stream.length - limit := by
    simp only at total
    omega
  rw [rest, ← holds.kept]

/-- Taking what one read after another gives. A read that gives nothing is the end of the stream:
nothing is read behind it. -/
def ofReads (limit : Nat) (c : Capture) : List (List UInt8) → Capture
  | [] => c
  | chunk :: later => if chunk.isEmpty then c else ofReads limit (Capture.take limit c chunk) later

variable {reads : List (List UInt8)}

theorem ofReads_append_nil (filled : ∀ chunk ∈ reads, chunk ≠ []) (later : List (List UInt8)) :
    ofReads limit c (reads ++ [] :: later) = reads.foldl (Capture.take limit) c := by
  induction reads generalizing c with
  | nil => rfl
  | cons chunk reads ih =>
    have more : ¬ chunk.isEmpty = true := by
      rw [List.isEmpty_iff]
      exact filled chunk List.mem_cons_self
    rw [List.cons_append, ofReads, if_neg more, List.foldl_cons]
    exact ih fun chunk h => filled chunk (List.mem_cons_of_mem _ h)

/-- Of a stream that is read to its end the first bytes up to the limit are kept and all others
counted. The reads may cut the stream anywhere: what is kept and counted is the same as for any
other chunks that make up the stream. -/
theorem ofReads_exact (limit : Nat) (filled : ∀ chunk ∈ reads, chunk ≠ [])
    (later : List (List UInt8)) :
    let stream := reads.flatten
    let c := ofChunks limit reads
    ofReads limit {} (reads ++ [] :: later) = c ∧
      c.kept = stream.take (min limit stream.length) ∧
      c.dropped = stream.length - c.kept.length ∧
      c.kept.length + c.dropped = stream.length ∧
      ∀ chunks, chunks.flatten = stream → ofChunks limit chunks = c := by
  intro stream c
  have holds : Holds limit stream c := holds_ofChunks limit reads
  refine ⟨ofReads_append_nil filled later, ?_, ?_, holds.total, ?_⟩
  · rw [← holds.length_kept, holds.kept, List.length_take, List.take_eq_take_iff]
    omega
  · exact Nat.eq_sub_of_add_eq' holds.total
  · intro chunks same
    rw [holds.eq_mk, (holds_ofChunks limit chunks).eq_mk, same]

/-- The limit falls inside the second read, and bytes behind the end of the stream do not count. -/
theorem ofReads_exact_split :
    let reads : List (List UInt8) := [[1, 2, 3], [4, 5], [6]]
    (∀ chunk ∈ reads, chunk ≠ []) ∧
      ofReads 4 {} (reads ++ [] :: [[7]]) = ⟨[1, 2, 3, 4], 2⟩ ∧
      ofChunks 4 [[1], [], [2, 3, 4, 5, 6]] = ⟨[1, 2, 3, 4], 2⟩ := by
  intro reads
  have filled : ∀ chunk ∈ reads, chunk ≠ [] := by decide
  have value : ofChunks 4 reads = ⟨[1, 2, 3, 4], 2⟩ := by decide
  obtain ⟨read, -, -, -, alike⟩ := ofReads_exact 4 filled [[7]]
  refine ⟨filled, read.trans value, ?_⟩
  exact (alike [[1], [], [2, 3, 4, 5, 6]] (by decide)).trans value

end LintRepair.Capture
