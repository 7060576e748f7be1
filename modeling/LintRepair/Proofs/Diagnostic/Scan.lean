import LintRepair.Proofs.Diagnostic.Block

/-!
What the reading of a report finds and what it passes over, by line numbers. The same reading with
a cursor that asks for lines by number never asks for one that is not there.
-/
namespace LintRepair.Diagnostic
open Text

/-- A line number, or the end of a range, that is out of the lines. -/
structure OutOfLines where
  asked : Nat
  length : Nat
deriving DecidableEq, Repr

def lineAt (ls : List (List Char)) (i : Nat) : Except OutOfLines (List Char) :=
  match ls[i]? with
  | some l => .ok l
  | none => .error ⟨i, ls.length⟩

/-- The lines from number `i` up to before number `j`, if the range is one of the lines. -/
def linesBetween (ls : List (List Char)) (i j : Nat) : Except OutOfLines (List (List Char)) :=
  if i ≤ j ∧ j ≤ ls.length then .ok ((ls.take j).drop i) else .error ⟨j, ls.length⟩

/-- Where a body from line `i` on ends: at the first other line, or behind the last of all. -/
def bodyEnd (ls below : List (List Char)) (i : Nat) : Nat :=
  match below.findIdx? (fun l => !isBody l) with
  | some offset => i + offset
  | none => ls.length

/-- The block whose header is on line `start`, and the number of the first line below it. -/
def blockAt (ls : List (List Char)) (start : Nat) :
    Except OutOfLines (Option (Diagnostic × Nat)) := do
  let line ← lineAt ls start
  match header? line, ls[start + 1]? with
  | some h, some location =>
    if isLocation location then
      let below ← linesBetween ls (start + 2) ls.length
      let stop := bodyEnd ls below (start + 2)
      let body ← linesBetween ls (start + 2) stop
      let title := trim h.title
      let context := trim (joinLines body)
      if title.isEmpty || context.isEmpty then return none
      else return some ({
        code := String.ofList h.code
        title := String.ofList title
        location := String.ofList (trim location)
        context := String.ofList context }, stop)
    else return none
  | _, _ => return none

variable {ls : List (List Char)} {line l : List Char} {d : Diagnostic} {cursor i k n next : Nat}

theorem lineAt_of_lt (inside : i < ls.length) : lineAt ls i = .ok ls[i] := by
  rw [lineAt, List.getElem?_eq_getElem inside]

theorem linesBetween_of_le (start : i ≤ k) (inside : k ≤ ls.length) :
    linesBetween ls i k = .ok ((ls.drop i).take (k - i)) := by
  rw [linesBetween, if_pos ⟨start, inside⟩, List.drop_take]

/-- The first line that is no body line ends the run of them. -/
theorem bodyEnd_eq_blockEnd (inside : i + 2 ≤ ls.length) :
    bodyEnd ls (ls.drop (i + 2)) (i + 2) = blockEnd ls i := by
  have run : bodyAt ls i = (ls.drop (i + 2)).take ((ls.drop (i + 2)).findIdx (fun l => !isBody l)) :=
    List.takeWhile_eq_take_findIdx_not
  have bound : (ls.drop (i + 2)).findIdx (fun l => !isBody l) ≤ (ls.drop (i + 2)).length :=
    List.findIdx_le_length
  rw [bodyEnd, blockEnd, run, List.length_take_of_le bound]
  cases found : (ls.drop (i + 2)).findIdx? (fun l => !isBody l) with
  | some offset => rw [(List.findIdx?_eq_some_iff_findIdx_eq.mp found).2]
  | none =>
    rw [List.findIdx?_eq_none_iff_findIdx_eq.mp found, List.length_drop]
    exact (Nat.add_sub_of_le inside).symm

theorem blockEnd_le_length (inside : i + 2 ≤ ls.length) : blockEnd ls i ≤ ls.length := by
  have := (List.takeWhile_prefix isBody (l := ls.drop (i + 2))).length_le
  rw [List.length_drop] at this
  rw [blockEnd, bodyAt]
  omega

theorem linesBetween_blockEnd (inside : i + 2 ≤ ls.length) :
    linesBetween ls (i + 2) (blockEnd ls i) = .ok (bodyAt ls i) := by
  have start : i + 2 ≤ blockEnd ls i := Nat.le_add_right (i + 2) _
  have run : bodyAt ls i = (ls.drop (i + 2)).take (bodyAt ls i).length :=
    List.prefix_iff_eq_take.mp (List.takeWhile_prefix isBody)
  rw [linesBetween_of_le start (blockEnd_le_length inside), blockEnd, Nat.add_sub_cancel_left, ← run]

/-- A block is matched without asking for a line that is not there. -/
theorem blockAt_of_lt (inside : cursor < ls.length) :
    blockAt ls cursor =
      .ok ((block? ls[cursor] (ls.drop (cursor + 1))).map fun d => (d, blockEnd ls cursor)) := by
  simp only [blockAt, lineAt_of_lt inside, bind, Except.bind, pure, Except.pure]
  cases header : header? ls[cursor] with
  | none => simp only [block?, header, Option.map_none]
  | some h =>
    by_cases further : cursor + 1 < ls.length
    · have below : linesBetween ls (cursor + 2) ls.length = .ok (ls.drop (cursor + 2)) := by
        rw [linesBetween_of_le further (Nat.le_refl _), ← List.length_drop, List.take_length]
      simp only [List.getElem?_eq_getElem further, List.drop_eq_getElem_cons further, block?, header,
        below, bodyEnd_eq_blockEnd further, linesBetween_blockEnd further, bodyAt]
      cases isLocation ls[cursor + 1] <;> cases (trim h.title).isEmpty <;>
        cases (trim (joinLines ((ls.drop (cursor + 2)).takeWhile isBody))).isEmpty <;> rfl
    · have last : ls.drop (cursor + 1) = [] := List.drop_eq_nil_of_le (Nat.le_of_not_lt further)
      simp only [List.getElem?_eq_none (Nat.le_of_not_lt further), last, block?, header,
        Option.map_none]

/-- What a match says: a block starts at the cursor, and its number and its end are right. -/
theorem startsBlock_of_blockAt (found : blockAt ls cursor = .ok (some (d, next))) :
    StartsBlock ls cursor ∧ Carries ls cursor d ∧ next = blockEnd ls cursor := by
  by_cases inside : cursor < ls.length
  · rw [blockAt_of_lt inside, Except.ok.injEq, Option.map_eq_some_iff] at found
    obtain ⟨d', block, hd⟩ := found
    obtain ⟨rfl, rfl⟩ := Prod.mk.inj hd
    obtain ⟨starts, carries⟩ := startsBlock_of_block? block
    rw [← List.drop_eq_getElem_cons inside] at starts carries
    exact ⟨startsBlock_drop.mp starts, carries_drop.mp carries, rfl⟩
  · simp [blockAt, lineAt, List.getElem?_eq_none (Nat.le_of_not_lt inside), bind,
      Except.bind] at found

theorem not_startsBlock_of_blockAt (missed : blockAt ls cursor = .ok none) :
    ¬ StartsBlock ls cursor := by
  intro starts
  have inside := starts.lt_length
  rw [blockAt_of_lt inside, Except.ok.injEq, Option.map_eq_none_iff] at missed
  rw [← Nat.add_zero cursor, ← startsBlock_drop, List.drop_eq_getElem_cons inside] at starts
  obtain ⟨d, block⟩ := exists_block?_of_startsBlock starts
  simp [block] at missed

/-- The diagnostics of the lines from the cursor on. After a block the cursor stands below it,
otherwise one line further. -/
def scanFrom (ls : List (List Char)) (cursor : Nat) : Except OutOfLines (List Diagnostic) :=
  if cursor < ls.length then
    match found : blockAt ls cursor with
    | .ok (some (d, next)) => (scanFrom ls next).map (d :: ·)
    | .ok none => scanFrom ls (cursor + 1)
    | .error e => .error e
  else .ok []
termination_by ls.length - cursor
decreasing_by
  · have stop := (startsBlock_of_blockAt found).2.2
    rw [blockEnd] at stop
    omega
  · omega

theorem scanFrom_of_found (inside : cursor < ls.length)
    (found : blockAt ls cursor = .ok (some (d, next))) :
    scanFrom ls cursor = (scanFrom ls next).map (d :: ·) := by
  rw [scanFrom, if_pos inside]
  split
  next d' next' found' =>
    obtain ⟨rfl, rfl⟩ : d = d' ∧ next = next' := by simpa using found.symm.trans found'
    rfl
  next missed => simp [missed] at found
  next failed => simp [failed] at found

theorem scanFrom_of_missed (inside : cursor < ls.length) (missed : blockAt ls cursor = .ok none) :
    scanFrom ls cursor = scanFrom ls (cursor + 1) := by
  rw [scanFrom, if_pos inside]
  split
  next found => simp [found] at missed
  next => rfl
  next failed => simp [failed] at missed

theorem ofLines_drop_of_found (inside : cursor < ls.length)
    (found : blockAt ls cursor = .ok (some (d, next))) :
    ofLines (ls.drop cursor) = d :: ofLines (ls.drop next) := by
  rw [blockAt_of_lt inside, Except.ok.injEq, Option.map_eq_some_iff] at found
  obtain ⟨_, block, hd⟩ := found
  obtain ⟨rfl, rfl⟩ := Prod.mk.inj hd
  rw [List.drop_eq_getElem_cons inside, ofLines, block, ← dropWhile_eq_drop_blockEnd, List.drop_drop]

theorem ofLines_drop_of_missed (inside : cursor < ls.length)
    (missed : blockAt ls cursor = .ok none) :
    ofLines (ls.drop cursor) = ofLines (ls.drop (cursor + 1)) := by
  rw [blockAt_of_lt inside, Except.ok.injEq, Option.map_eq_none_iff] at missed
  rw [List.drop_eq_getElem_cons inside, ofLines, missed]

/-- The cursor asks for no line that is not there, and finds what the reading of the rest finds. -/
theorem scanFrom_eq_ofLines (ls : List (List Char)) (cursor : Nat) :
    scanFrom ls cursor = .ok (ofLines (ls.drop cursor)) := by
  induction cursor using scanFrom.induct ls with
  | case1 cursor inside d next found ih =>
    rw [scanFrom_of_found inside found, ofLines_drop_of_found inside found, ih]
    rfl
  | case2 cursor inside missed ih =>
    rw [scanFrom_of_missed inside missed, ofLines_drop_of_missed inside missed, ih]
  | case3 cursor inside e failed => simp [blockAt_of_lt inside] at failed
  | case4 cursor outside =>
    rw [scanFrom, if_neg outside, List.drop_eq_nil_of_le (Nat.le_of_not_lt outside), ofLines]

/-- The diagnostics are those of the blocks at the lines `starts`, none above line `n`, and no
block from there on is left out but one on the last line of a block that is there. -/
structure Reports (ls : List (List Char)) (n : Nat) (starts : List Nat) (ds : List Diagnostic) :
    Prop where
  carried : List.Forall₂ (Carries ls) starts ds
  starting : ∀ i ∈ starts, StartsBlock ls i
  apart : starts.Pairwise (fun i j => blockEnd ls i ≤ j)
  within : ∀ i ∈ starts, n ≤ i ∧ blockEnd ls i ≤ ls.length
  complete : ∀ k, n ≤ k → StartsBlock ls k → k ∉ starts →
    ∃ i ∈ starts, i + 2 ≤ k ∧ k + 1 = blockEnd ls i

theorem StartsBlock.blockEnd_le (starts : StartsBlock ls i) : blockEnd ls i ≤ ls.length := by
  obtain ⟨_, hbody, -⟩ := starts.body
  have inside := (List.getElem?_eq_some_iff.mp hbody).1
  exact blockEnd_le_length (Nat.le_of_lt inside)

theorem Reports.below_all (outside : ls.length ≤ n) : Reports ls n [] [] where
  carried := .nil
  starting _ hi := absurd hi List.not_mem_nil
  apart := .nil
  within _ hi := absurd hi List.not_mem_nil
  complete k hk starts _ := by
    have := starts.blockEnd_le
    rw [blockEnd] at this
    omega

theorem Reports.found {starts : List Nat} {ds : List Diagnostic} (first : StartsBlock ls n)
    (carries : Carries ls n d) (rest : Reports ls (blockEnd ls n) starts ds) :
    Reports ls n (n :: starts) (d :: ds) where
  carried := .cons carries rest.carried
  starting := List.forall_mem_cons.mpr ⟨first, rest.starting⟩
  apart := List.pairwise_cons.mpr ⟨fun i hi => (rest.within i hi).1, rest.apart⟩
  within := by
    refine List.forall_mem_cons.mpr ⟨⟨Nat.le_refl n, first.blockEnd_le⟩, fun i hi => ?_⟩
    obtain ⟨below, inside⟩ := rest.within i hi
    have : n ≤ blockEnd ls n := by
      rw [blockEnd]
      omega
    exact ⟨this.trans below, inside⟩
  complete k hk starts unlisted := by
    obtain ⟨other, unlisted⟩ := not_or.mp (mt List.mem_cons.mpr unlisted)
    by_cases below : blockEnd ls n ≤ k
    · obtain ⟨i, hi, last⟩ := rest.complete k below starts unlisted
      exact ⟨i, List.mem_cons_of_mem n hi, last⟩
    · exact ⟨n, List.mem_cons_self, first.inside starts (by omega) (by omega)⟩

/-- A line that starts no block adds nothing to what is reported below it. -/
theorem Reports.missed {starts : List Nat} {ds : List Diagnostic} (none : ¬ StartsBlock ls n)
    (rest : Reports ls (n + 1) starts ds) : Reports ls n starts ds where
  carried := rest.carried
  starting := rest.starting
  apart := rest.apart
  within i hi := ⟨Nat.le_of_succ_le (rest.within i hi).1, (rest.within i hi).2⟩
  complete k hk starts unlisted := by
    have : k ≠ n := by
      rintro rfl
      exact none starts
    exact rest.complete k (by omega) starts unlisted

theorem exists_reports (ls : List (List Char)) (cursor : Nat) :
    ∃ starts, Reports ls cursor starts (ofLines (ls.drop cursor)) := by
  induction cursor using scanFrom.induct ls with
  | case1 cursor inside d next found ih =>
    obtain ⟨first, carries, rfl⟩ := startsBlock_of_blockAt found
    obtain ⟨starts, rest⟩ := ih
    rw [ofLines_drop_of_found inside found]
    exact ⟨cursor :: starts, rest.found first carries⟩
  | case2 cursor inside missed ih =>
    obtain ⟨starts, rest⟩ := ih
    rw [ofLines_drop_of_missed inside missed]
    exact ⟨starts, rest.missed (not_startsBlock_of_blockAt missed)⟩
  | case3 cursor inside e failed => simp [blockAt_of_lt inside] at failed
  | case4 cursor outside =>
    have outside : ls.length ≤ cursor := Nat.le_of_not_lt outside
    rw [List.drop_eq_nil_of_le outside, ofLines]
    exact ⟨[], .below_all outside⟩

/-- The diagnostics of a report are those of some of its blocks, one each and in order. These
blocks do not overlap, and a block that is left out starts on the last line of one of them. No line
is asked for that is not there. -/
theorem extract_reports (report : String) :
    let ls := lines report.toList
    (∃ starts, List.Forall₂ (Carries ls) starts (extract report) ∧
        (∀ i ∈ starts, StartsBlock ls i ∧ blockEnd ls i ≤ ls.length) ∧
        starts.Pairwise (fun i j => blockEnd ls i ≤ j) ∧
        ∀ k, StartsBlock ls k → k ∉ starts → ∃ i ∈ starts, i + 2 ≤ k ∧ k + 1 = blockEnd ls i) ∧
      scanFrom ls 0 = .ok (extract report) := by
  intro ls
  obtain ⟨starts, reports⟩ := exists_reports ls 0
  exact ⟨⟨starts, reports.carried, fun i hi => ⟨reports.starting i hi, (reports.within i hi).2⟩,
    reports.apart, fun k => reports.complete k (Nat.zero_le k)⟩, scanFrom_eq_ofLines ls 0⟩

end LintRepair.Diagnostic
