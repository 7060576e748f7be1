import LintRepair.Proofs.System.Rename

/-!
What running processes does to the system as a whole. Whatever they ask for, files stay in
directories, what was printed stays printed and what has ended does not go on. The process whose
turn comes first takes the next step, and at the deadline the first of all is broken off.
-/
namespace LintRepair.System.Kernel

variable {k l m : Kernel} {t : Task} {base key : List String} {path old new : String}
variable {place : Tree.Target} {a : Access} {d : Descriptor} {bytes : List UInt8}

/-- What work does to the system. Files stay in directories, no time goes by, what was printed stays
printed, and a process that is gone does not come back. -/
structure Works (k l : Kernel) : Prop where
  closed : k.tree.Closed → l.tree.Closed
  now : l.now = k.now
  first : l.first = k.first
  fresh : k.fresh ≤ l.fresh
  printed : k.output <:+ l.output
  numbers : ∀ u ∈ l.tasks, u.number < k.fresh → ∃ v ∈ k.tasks, v.number = u.number

theorem Works.refl (k : Kernel) : k.Works k :=
  ⟨id, rfl, rfl, le_rfl, List.suffix_rfl, fun u mem _ => ⟨u, mem, rfl⟩⟩

theorem Works.trans (first : k.Works l) (second : l.Works m) : k.Works m where
  closed := second.closed ∘ first.closed
  now := second.now.trans first.now
  first := second.first.trans first.first
  fresh := first.fresh.trans second.fresh
  printed := first.printed.trans second.printed
  numbers u mem old := by
    obtain ⟨v, there, same⟩ := second.numbers u mem (old.trans_le first.fresh)
    obtain ⟨w, before, same'⟩ := first.numbers v there (same ▸ old)
    exact ⟨w, before, same'.trans same⟩

theorem isAlive_of_works (works : k.Works l) (known : k.first < k.fresh)
    (alive : l.isAlive l.first = true) : k.isAlive k.first = true := by
  simp only [isAlive, List.any_eq_true, decide_eq_true_eq] at alive ⊢
  obtain ⟨u, mem, number⟩ := alive
  rw [works.first] at number
  obtain ⟨v, there, same⟩ := works.numbers u mem (number ▸ known)
  exact ⟨v, there, same.trans number⟩

theorem works_of_tasks (tasks : l.tasks = k.tasks) (tree : k.tree.Closed → l.tree.Closed)
    (now : l.now = k.now) (first : l.first = k.first) (fresh : k.fresh ≤ l.fresh)
    (output : k.output <:+ l.output) : k.Works l :=
  ⟨tree, now, first, fresh, output, fun u mem _ => ⟨u, tasks ▸ mem, rfl⟩⟩

theorem works_of_tree {tree : Tree} (closed : k.tree.Closed → tree.Closed) :
    k.Works { k with tree := tree } := works_of_tasks rfl closed rfl rfl le_rfl List.suffix_rfl

theorem works_succ (k : Kernel) : k.Works { k with fresh := k.fresh + 1 } :=
  works_of_tasks rfl id rfl rfl (Nat.le_succ _) List.suffix_rfl

theorem works_endings (k : Kernel) (endings : List (Nat × Nat × Ending)) :
    k.Works { k with endings := endings } :=
  works_of_tasks rfl id rfl rfl le_rfl List.suffix_rfl

theorem works_withReach (k : Kernel) (opening : Nat) (r : Reach) :
    k.Works (k.withReach opening r) := works_of_tasks rfl id rfl rfl le_rfl List.suffix_rfl

theorem works_withPipe (k : Kernel) (id : Nat) (p : Pipe) : k.Works (k.withPipe id p) :=
  works_of_tasks rfl (fun closed => closed) rfl rfl le_rfl List.suffix_rfl

theorem works_put (k : Kernel) (t : Task) : k.Works (k.put t) := by
  refine ⟨id, rfl, rfl, le_rfl, List.suffix_rfl, fun u mem _ => ?_⟩
  obtain ⟨v, there, rfl⟩ := List.mem_map.mp mem
  refine ⟨v, there, ?_⟩
  split
  · assumption
  · rfl

theorem works_resume (k : Kernel) (t : Task) (p : Process) : k.Works (k.resume t p) :=
  works_put k _

theorem works_finish (k : Kernel) (t : Task) (e : Ending) : k.Works (k.finish t e) :=
  ⟨id, rfl, rfl, le_rfl, List.suffix_rfl, fun u mem _ => ⟨u, List.mem_of_mem_filter mem, rfl⟩⟩

/-- A new process has a number that stands for nothing yet. -/
theorem works_fork (k : Kernel) {u : Task} (number : u.number = k.fresh) :
    k.Works { k with fresh := k.fresh + 1, tasks := k.tasks ++ [u] } where
  closed := id
  now := rfl
  first := rfl
  fresh := Nat.le_succ _
  printed := List.suffix_rfl
  numbers v mem old := by
    rcases List.mem_append.mp mem with there | new
    · exact ⟨v, there, rfl⟩
    · rw [List.mem_singleton.mp new, number] at old
      exact absurd old (lt_irrefl _)

theorem works_deliver (k : Kernel) (sig number : Nat) : k.Works (k.deliver sig number) := by
  unfold deliver
  split
  · exact .refl k
  split
  · exact .refl k
  split
  · exact .refl k
  · split
    · exact .refl k
    · exact works_put k _
  split
  · exact .refl k
  split
  · exact works_put k _
  · exact works_finish k _ _

theorem works_deliverAll (k : Kernel) (sig : Nat) (numbers : List Nat) :
    k.Works (numbers.foldl (fun k n => k.deliver sig n) k) := by
  induction numbers generalizing k with
  | nil => exact .refl k
  | cons n numbers ih => exact (works_deliver k sig n).trans (ih _)

theorem works_withContent {before : List UInt8}
    (file : k.tree.get? key = some (.file before)) (bytes : List UInt8) :
    k.Works (k.withContent key bytes) := by
  refine works_of_tasks rfl (fun closed => ?_) rfl rfl le_rfl List.suffix_rfl
  refine closed.set ?_ (closed.dropLast (by simp [file])) (by simp [file])
  rintro rfl
  cases file

theorem works_read (k : Kernel) (t : Task) (fd most : Nat) (line : Bool) :
    k.Works (k.read t fd most line).2 := by
  unfold read
  split
  · exact .refl k
  split
  · exact .refl k
  split
  any_goals exact .refl k
  · split
    · exact works_withReach k _ _
    · exact .refl k
  · exact works_withPipe k _ _

theorem works_write (k : Kernel) (t : Task) (fd : Nat) (bytes : List UInt8) :
    k.Works (k.write t fd bytes).2 := by
  unfold write
  split
  · exact .refl k
  split
  · exact .refl k
  split
  any_goals exact .refl k
  · split
    · exact .refl k
    · exact works_of_tasks rfl id rfl rfl le_rfl (List.suffix_cons _ _)
  · split
    · rename_i file
      exact (works_withContent file _).trans (works_withReach _ _ _)
    · exact .refl k
  · split
    · exact .refl k
    · exact works_withPipe k _ _

theorem exists_of_bind {ε α β : Type} {x : Except ε α} {f : α → Except ε β} {b : β}
    (h : x.bind f = .ok b) : ∃ a, x = .ok a ∧ f a = .ok b := by
  cases x with
  | error e => cases h
  | ok a => exact ⟨a, rfl, h⟩

/-- What is resolved stands in a directory, even if it is yet to be made. -/
theorem resolve_parent (closed : k.tree.Closed) (h : k.resolve base path = .ok place) :
    k.tree.get? place.key.dropLast = some .directory := by
  unfold resolve at h
  rcases led : k.tree.target base ⟨ByteText.decode path⟩ with e | other
  · rw [led] at h
    cases h
  · rw [led] at h
    cases h
    exact Tree.target_parent closed led

theorem works_openAt (parent : k.tree.Closed → k.tree.get? place.key.dropLast = some .directory)
    (h : k.openAt place a = .ok (d, l)) : k.Works l := by
  unfold openAt at h
  split at h
  · cases h
    exact .refl k
  · split at h
    · cases h
    · cases h
      exact .refl k
  · rename_i file
    split at h
    · cases h
    split at h
    · cases h
    cases h
    split
    · exact (works_withContent file []).trans (works_succ _)
    · exact works_succ k
  · split at h
    · cases h
    split at h
    · cases h
    · rename_i put
      cases h
      exact (works_of_tree fun closed => closed.putAt (parent closed) put).trans (works_succ _)

theorem works_openPath (h : k.openPath t path a = .ok (d, l)) : k.Works l := by
  unfold openPath at h
  split at h
  · split at h
    · cases h
      exact .refl k
    · cases h
  split at h
  · cases h
  · obtain ⟨place, resolved, opened⟩ := exists_of_bind h
    exact works_openAt (fun closed => resolve_parent closed resolved) opened

theorem works_makeDirectory (h : k.makeDirectory base path = .ok l) : k.Works l := by
  obtain ⟨place, resolved, made⟩ := exists_of_bind h
  split at made
  · cases made
  · rename_i absent
    cases made
    refine works_of_tree fun closed => closed.set ?_ (resolve_parent closed resolved) fun _ => rfl
    intro root
    rw [root] at absent
    cases absent

theorem works_removeFile (h : k.removeFile base path = .ok l) : k.Works l := by
  obtain ⟨place, resolved, removed⟩ := exists_of_bind h
  split at removed
  · cases removed
  · cases removed
  · rename_i file
    split at removed
    · cases removed
    cases removed
    refine works_of_tree fun closed => closed.erase ?_ (closed.bare (by simp [file]))
    intro root
    rw [root] at file
    cases file

theorem bare_of_namesIn {tree : Tree} (empty : (tree.namesIn key).isEmpty = true) (name : String) :
    tree.get? (key ++ [name]) = none := by
  by_contra there
  rw [List.isEmpty_iff] at empty
  have mem := mem_namesIn there
  rw [empty] at mem
  cases mem

theorem works_removeDirectory (h : k.removeDirectory base path = .ok l) : k.Works l := by
  obtain ⟨place, resolved, removed⟩ := exists_of_bind h
  split at removed
  · cases removed
  · cases removed
  · split at removed
    · cases removed
    · rename_i empty
      simp only [Bool.or_eq_true, Bool.not_eq_true', not_or, Bool.not_eq_false,
        List.isEmpty_iff] at empty
      cases removed
      exact works_of_tree fun closed => closed.erase empty.2 (bare_of_namesIn (by simp [empty.1]))

theorem works_rename (h : k.rename base old new = .ok l) : k.Works l := by
  obtain ⟨source, from_old, h⟩ := exists_of_bind h
  obtain ⟨goal, to_new, h⟩ := exists_of_bind h
  simp only at h
  split at h
  · cases h
    exact .refl k
  rename_i other
  split at h
  · cases h
  rename_i apart
  rw [List.isPrefixOf_iff_prefix] at apart
  have done (there : k.tree.get? source.key ≠ none)
      (bare : k.tree.Closed → ∀ name, k.tree.get? (goal.key ++ [name]) = none)
      (h : (.ok { k with tree := moved k.tree source.key goal.key } : Except Refusal Kernel) =
        .ok l) : k.Works l := by
    cases h
    refine works_of_tree fun closed => closed_moved apart ?_ closed (resolve_parent closed to_new)
    exact not_prefix_of_bare closed (bare closed) there other
  split at h
  · cases h
  · cases h
  · rename_i file plain
    split at h
    · cases h
    · exact done (by simp [file]) (fun closed => closed.bare plain) h
  · cases h
  · rename_i there hollow
    split at h
    · rename_i empty
      exact done (by simp [there]) (fun _ => bare_of_namesIn empty) h
    · cases h
  · rename_i there absent
    exact done (by simp [there]) (fun closed => closed.bare (by simp [absent])) h

theorem works_answer {next : Except Refusal Unit → Process} {r : Except Refusal Kernel}
    (h : ∀ l, r = .ok l → k.Works l) : k.Works (k.answer t next r) := by
  cases r with
  | error e => exact works_resume k t _
  | ok l => exact (h l rfl).trans (works_resume l t _)

/-- Whatever a process asks for, the system only works. -/
theorem works_step (k : Kernel) (t : Task) : k.Works (k.step t) := by
  unfold step
  cases t.process with
  | ended status => exact works_finish k t _
  | hung => exact .refl k
  | pass time next => exact works_put k _
  | read fd most line next => exact (works_read k t fd most line).trans (works_resume _ t _)
  | unread fd count next =>
    simp only
    split
    · exact (works_withReach k _ _).trans (works_resume _ t _)
    · exact works_resume k t _
  | write fd bytes next =>
    simp only
    split
    · split
      · exact (works_write k t fd bytes).trans (works_resume _ t _)
      · split
        · exact (works_deliver k _ _).trans (works_resume _ _ _)
        · exact works_deliver k _ _
    · exact (works_write k t fd bytes).trans (works_resume _ t _)
  | openFile path a next =>
    simp only
    split
    · exact works_resume k t _
    · rename_i opened
      exact (works_openPath opened).trans (works_resume _ _ _)
  | makeDirectory path next => exact works_answer fun _ => works_makeDirectory
  | removeFile path next => exact works_answer fun _ => works_removeFile
  | removeDirectory path next => exact works_answer fun _ => works_removeDirectory
  | rename old new next => exact works_answer fun _ => works_rename
  | close => exact works_resume k _ _
  | duplicate fd goal next =>
    simp only
    split <;> exact works_resume k _ _
  | keep fd next =>
    simp only
    split <;> exact works_resume k _ _
  | pipe next =>
    exact (works_succ k).trans (works_resume _ _ _)
  | channel fd next =>
    simp only
    split <;> exact works_resume k _ _
  | look path next => exact works_resume k t _
  | names path next =>
    simp only
    split <;> exact works_resume k _ _
  | enter path next =>
    simp only
    split <;> exact works_resume k _ _
  | whereabouts next => exact works_resume k t _
  | self next => exact works_resume k t _
  | fork child next => exact (works_fork k rfl).trans (works_put _ _)
  | become next => exact works_put k _
  | await a next =>
    simp only
    split
    · exact (works_endings k _).trans (works_resume _ t _)
    · split
      · exact works_resume k t _
      · split <;> exact works_resume k t _
  | signal goal sig next =>
    simp only
    split
    · exact works_resume k t _
    · split
      · exact (works_deliverAll k sig _).trans (works_resume _ _ _)
      · exact works_deliverAll k sig _
  | dispose sig d next => exact works_resume k _ _
  | signals next => exact works_resume k _ _

/-- What a turn is: a task that can go on, and none that can goes on earlier. -/
structure IsTurn (k : Kernel) (tasks : List Task) (turn : Nat × Task) : Prop where
  mem : turn.2 ∈ tasks
  canGoOn : k.canGoOn turn.2 = true
  time : turn.1 = max turn.2.time k.now
  first : ∀ u ∈ tasks, k.canGoOn u = true → turn.1 ≤ max u.time k.now

/-- The turn among some tasks, if there is one. -/
def Settles (k : Kernel) (tasks : List Task) : Option (Nat × Task) → Prop
  | some turn => k.IsTurn tasks turn
  | none => ∀ u ∈ tasks, k.canGoOn u = false

variable {tasks : List Task}

theorem IsTurn.append {turn : Nat × Task} (h : k.IsTurn tasks turn)
    (last : k.canGoOn t = true → turn.1 ≤ max t.time k.now) : k.IsTurn (tasks ++ [t]) turn where
  mem := List.mem_append_left _ h.mem
  canGoOn := h.canGoOn
  time := h.time
  first u mem goes := by
    rcases List.mem_append.mp mem with old | new
    · exact h.first u old goes
    · obtain rfl := List.mem_singleton.mp new
      exact last goes

theorem isTurn_append {time : Nat} (goes : k.canGoOn t = true) (at_time : time = max t.time k.now)
    (before : ∀ u ∈ tasks, k.canGoOn u = true → time ≤ max u.time k.now) :
    k.IsTurn (tasks ++ [t]) (time, t) where
  mem := by simp
  canGoOn := goes
  time := at_time
  first u mem can := by
    rcases List.mem_append.mp mem with old | new
    · exact before u old can
    · rw [List.mem_singleton.mp new, at_time]

theorem settles_sooner {best : Option (Nat × Task)} (h : k.Settles tasks best) :
    k.Settles (tasks ++ [t]) (k.sooner best t) := by
  unfold sooner
  split
  · rename_i goes
    dsimp only
    split
    · rename_i time u
      split
      · rename_i earlier
        exact isTurn_append goes rfl fun v mem can => earlier.le.trans (h.first v mem can)
      · rename_i later
        exact h.append fun _ => Nat.not_lt.mp later
    · exact isTurn_append goes rfl fun v mem can => by simp [h v mem] at can
  · rename_i waits
    cases best with
    | some turn => exact h.append fun goes => absurd goes waits
    | none =>
      intro u mem
      rcases List.mem_append.mp mem with old | new
      · exact h u old
      · rw [List.mem_singleton.mp new]
        exact Bool.not_eq_true _ ▸ waits

/-- The next step is taken by a task that can take it earliest, if any can take one. -/
theorem settles_turn? (k : Kernel) : k.Settles k.tasks k.turn? := by
  unfold turn?
  induction k.tasks using List.reverseRecOn with
  | nil => exact fun u mem => absurd mem (List.not_mem_nil)
  | append_singleton tasks t ih =>
    rw [List.foldl_concat]
    exact settles_sooner ih

theorem now_le_of_turn? {time : Nat} (h : k.turn? = some (time, t)) : k.now ≤ time := by
  have turn := settles_turn? k
  rw [h] at turn
  exact (le_max_right _ _).trans turn.time.ge

/-- What a run does to the system: it works while time goes on. -/
structure Runs (k l : Kernel) : Prop where
  now : k.now ≤ l.now
  works : { k with now := l.now }.Works l

theorem Runs.closed (h : k.Runs l) (closed : k.tree.Closed) : l.tree.Closed := h.works.closed closed

theorem Runs.printed (h : k.Runs l) : k.output <:+ l.output := h.works.printed

theorem Runs.refl (k : Kernel) : k.Runs k := ⟨le_rfl, .refl k⟩

theorem Works.at_time (works : k.Works l) (now : Nat) :
    { k with now := now }.Works { l with now := now } where
  closed := works.closed
  now := rfl
  first := works.first
  fresh := works.fresh
  printed := works.printed
  numbers := works.numbers

theorem Runs.trans (first : k.Runs l) (second : l.Runs m) : k.Runs m where
  now := first.now.trans second.now
  works := (first.works.at_time m.now).trans second.works

theorem runs_step {time : Nat} (later : k.now ≤ time) (t : Task) :
    k.Runs ({ k with now := time }.step t) := by
  have works := works_step { k with now := time } t
  refine ⟨works.now.symm ▸ later, ?_⟩
  rw [works.now]
  exact works

/-- Induction on the turns of a run. A turn is taken before the deadline, or when the first process
has ended already. -/
theorem run_induction {motive : Kernel → Prop} (deadline : Option Nat) (fuel : Nat)
    (start : motive k)
    (turn : ∀ k time t, motive k → k.turn? = some (time, t) →
      (k.isAlive k.first = true → ∀ d, deadline = some d → time < d) →
      motive ({ k with now := time }.step t)) :
    motive (run deadline fuel k).2 := by
  induction fuel generalizing k with
  | zero => exact start
  | succ fuel ih =>
    rw [run]
    split
    · exact start
    · rename_i time t h
      split
      · split
        · exact start
        · rename_i open_
          refine ih (turn k time t start h fun _ d known => ?_)
          subst known
          simp only [Option.any_some, Bool.or_eq_true, decide_eq_true_eq, not_or, not_le] at open_
          exact open_.1
      · rename_i ended
        split
        · exact ih (turn k time t start h fun alive => absurd alive ended)
        · exact start

/-- Whatever the processes are, a run leaves files in directories, takes back nothing that was
printed, and never goes back in time. -/
theorem runs_run (deadline : Option Nat) (fuel : Nat) (k : Kernel) :
    k.Runs (run deadline fuel k).2 :=
  run_induction deadline fuel (.refl k) fun _ _ t so_far h _ =>
    so_far.trans (runs_step (now_le_of_turn? h) t)

/-- The answer of a run tells whether the first process is still at work. -/
theorem run_answer (deadline : Option Nat) (fuel : Nat) (k : Kernel) :
    (run deadline fuel k).1 = (run deadline fuel k).2.isAlive (run deadline fuel k).2.first := by
  induction fuel generalizing k with
  | zero => rfl
  | succ fuel ih =>
    rw [run]
    split
    · rfl
    · split
      · rename_i alive
        split
        · exact alive.symm
        · exact ih _
      · rename_i ended
        split
        · exact ih _
        · exact (Bool.not_eq_true _ ▸ ended).symm

/-- As long as the first process is at work, no step is taken at the deadline or later. -/
theorem now_lt_of_run {fuel d : Nat} (known : k.first < k.fresh) (before : k.now < d)
    (at_work : (run (some d) fuel k).1 = true) : (run (some d) fuel k).2.now < d := by
  have held := run_induction (some d) fuel
    (motive := fun l => l.first < l.fresh ∧ (l.isAlive l.first = true → l.now < d))
    ⟨known, fun _ => before⟩ fun k time t so_far _ in_time => by
      have works := works_step { k with now := time } t
      refine ⟨works.first.trans_lt (so_far.1.trans_le works.fresh), fun alive => ?_⟩
      rw [works.now]
      exact in_time (isAlive_of_works (k := { k with now := time }) works so_far.1 alive) d rfl
  exact held.2 (run_answer _ _ _ ▸ at_work)

section Turns

variable {deadline : Option Nat} {fuel time : Nat}

theorem run_broken (turn : k.turn? = some (time, t)) (alive : k.isAlive k.first = true)
    (stops : (deadline.any (· ≤ time) || decide (k.printedSize > printLimit)) = true) :
    run deadline (fuel + 1) k = (true, k) := by
  rw [run, turn]
  dsimp only
  rw [if_pos alive, if_pos stops]

theorem run_going (turn : k.turn? = some (time, t)) (alive : k.isAlive k.first = true)
    (goes : ¬ (deadline.any (· ≤ time) || decide (k.printedSize > printLimit)) = true) :
    run deadline (fuel + 1) k = run deadline fuel ({ k with now := time }.step t) := by
  rw [run, turn]
  dsimp only
  rw [if_pos alive, if_neg goes]

end Turns

/-- With a later deadline a run is the same, or it goes on from where it was broken off. -/
theorem run_of_le {d d' : Nat} (le : d ≤ d') (fuel : Nat) (k : Kernel) :
    run (some d') fuel k = run (some d) fuel k ∨
      (run (some d) fuel k).1 = true ∧
        ∃ fuel', run (some d') fuel k = run (some d') fuel' (run (some d) fuel k).2 := by
  induction fuel generalizing k with
  | zero => exact .inl rfl
  | succ fuel ih =>
    rcases turn : k.turn? with _ | ⟨time, t⟩
    · left
      rw [run, run, turn]
    by_cases alive : k.isAlive k.first = true
    · by_cases stops : (Option.any (· ≤ time) (some d) || decide (k.printedSize > printLimit)) = true
      · right
        rw [run_broken turn alive stops]
        exact ⟨rfl, fuel + 1, rfl⟩
      have goes :
          ¬ (Option.any (· ≤ time) (some d') || decide (k.printedSize > printLimit)) = true := by
        simp only [Option.any_some, Bool.or_eq_true, decide_eq_true_eq, not_or] at stops ⊢
        exact ⟨fun late => stops.1 (le.trans late), stops.2⟩
      rw [run_going turn alive stops, run_going turn alive goes]
      exact ih _
    · rw [run, run, turn]
      dsimp only
      rw [if_neg alive, if_neg alive]
      split
      · exact ih _
      · exact .inl rfl

/-- What was printed is the start of what is printed later. -/
theorem printed_of_suffix (h : k.output <:+ l.output) (s : Stream) :
    k.printed s <+: l.printed s := by
  have pieces (output : List (Stream × List UInt8)) (bytes : List UInt8) :
      output.foldl (fun bytes piece => if piece.1 = s then piece.2 ++ bytes else bytes) bytes =
        output.foldl (fun bytes piece => if piece.1 = s then piece.2 ++ bytes else bytes) [] ++
          bytes := by
    induction output generalizing bytes with
    | nil => rfl
    | cons piece output ih =>
      rw [List.foldl_cons, List.foldl_cons, ih]
      split
      · rw [ih (piece.2 ++ []), List.append_nil, List.append_assoc]
      · rfl
  obtain ⟨later, split⟩ := h
  unfold printed
  rw [← split, List.foldl_append, pieces k.output (later.foldl _ _)]
  exact List.prefix_append _ _

end LintRepair.System.Kernel
