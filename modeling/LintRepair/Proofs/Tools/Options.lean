import LintRepair.Tools.Options

/-!
Sorting the words of a command: what is left over are words of the command in their order, and each
option that is found is one that the tool knows.
-/
namespace LintRepair.Tools

variable {t : OptionTable} {next : Option String} {fuel : Nat} {ws : List String} {g : Given}

def OptionTable.Knows (t : OptionTable) (c : Char) : Prop :=
  (t.letters.lookup c).isSome = true ∨ ∃ n ∈ t.names, n.2.2 = c

theorem exists_of_map {ε α β : Type} {f : α → β} {x : Except ε α} {b : β}
    (h : x.map f = .ok b) : ∃ a, x = .ok a ∧ f a = b := by
  cases x with
  | error e => cases h
  | ok a => exact ⟨a, rfl, Except.ok.inj h⟩

theorem knows_of_letters {cs : List Char} {given : List Given} {taken : Bool}
    (h : letters t next cs = .ok (given, taken)) (mem : g ∈ given) : t.Knows g.1 := by
  induction cs generalizing given taken with
  | nil =>
    cases h
    cases mem
  | cons c cs ih =>
    have known (takes : Takes) (found : t.letters.lookup c = some takes) : t.Knows c :=
      .inl (by rw [found]; rfl)
    have plain (takes : Takes) (found : t.letters.lookup c = some takes)
        (h : (letters t next cs).map (fun r => ((c, "") :: r.1, r.2)) = .ok (given, taken)) :
        t.Knows g.1 := by
      obtain ⟨more, read, same⟩ := exists_of_map h
      obtain ⟨rfl, rfl⟩ := Prod.mk.inj same
      rcases List.mem_cons.mp mem with rfl | later
      · exact known takes found
      · exact ih read later
    unfold letters at h
    split at h
    · cases h
    · exact plain _ ‹_› h
    · exact plain _ ‹_› h
    · rename_i found
      split at h
      · cases h
        rw [List.mem_singleton.mp mem]
        exact known _ found
      · split at h
        · cases h
          rw [List.mem_singleton.mp mem]
          exact known _ found
        · cases h

theorem mem_names_of_fitting {name : String} {n : String × Takes × Char}
    (mem : n ∈ t.fitting name) : n ∈ t.names := by
  unfold OptionTable.fitting at mem
  split at mem
  · rename_i found
    rw [List.mem_singleton.mp mem]
    exact List.mem_of_find?_eq_some found
  · exact (List.mem_filter.mp mem).1

theorem knows_of_named {text : List Char} {taken : Bool} (h : named t next text = .ok (g, taken)) :
    t.Knows g.1 := by
  unfold named at h
  dsimp only at h
  split at h
  · cases h
  · rename_i full takes c more found
    have known : t.Knows c :=
      .inr ⟨_, mem_names_of_fitting (found ▸ List.mem_cons_self), rfl⟩
    split at h
    · cases h
    · split at h
      any_goals first | (cases h; exact known) | cases h
      split at h
      · cases h
        exact known
      · cases h

theorem before_sublist {sorted : List String → Sorted} (h : ∀ ws, (sorted ws).operands.Sublist ws)
    (w : String) (ws : List String) (r : Except String (List Given × Bool)) :
    (Sorted.before sorted ws r).operands.Sublist (w :: ws) := by
  cases r with
  | error what => exact List.nil_sublist _
  | ok found =>
    refine (h _).trans (List.Sublist.trans ?_ (List.sublist_cons_self w ws))
    split
    · exact List.tail_sublist ws
    · exact List.Sublist.refl ws

/-- Every option that is found is one that the tool knows. -/
theorem knows_of_mem_options (mem : g ∈ (sortWords t fuel ws).options) : t.Knows g.1 := by
  induction fuel generalizing ws with
  | zero => cases mem
  | succ fuel ih =>
    have before {ws : List String} {r : Except String (List Given × Bool)}
        (known : ∀ found taken, r = .ok (found, taken) → ∀ g ∈ found, t.Knows g.1)
        (mem : g ∈ (Sorted.before (sortWords t fuel) ws r).options) : t.Knows g.1 := by
      cases r with
      | error what => cases mem
      | ok found =>
        rcases List.mem_append.mp mem with here | later
        · exact known _ _ rfl g here
        · exact ih later
    cases ws with
    | nil => cases mem
    | cons w ws =>
      unfold sortWords at mem
      dsimp only at mem
      split at mem
      · cases mem
      split at mem
      · rename_i text _
        refine before (fun found taken h g here => ?_) mem
        obtain ⟨given, name, same⟩ := exists_of_map h
        obtain ⟨rfl, rfl⟩ := Prod.mk.inj same
        rw [List.mem_singleton.mp here]
        exact knows_of_named name
      · exact before (fun _ _ h _ here => knows_of_letters h here) mem
      · split at mem
        · cases mem
        · exact ih mem

/-- What is left over are words as they came, in their order. -/
theorem operands_sublist (t : OptionTable) (fuel : Nat) (ws : List String) :
    (sortWords t fuel ws).operands.Sublist ws := by
  induction fuel generalizing ws with
  | zero => exact List.nil_sublist _
  | succ fuel ih =>
    cases ws with
    | nil => exact .slnil
    | cons w ws =>
      unfold sortWords
      dsimp only
      split
      · exact List.sublist_cons_self w ws
      split
      · exact before_sublist ih w ws _
      · exact before_sublist ih w ws _
      · split
        · exact List.Sublist.refl _
        · exact (ih ws).cons_cons w

end LintRepair.Tools
