import LintRepair.Proofs.Tools.Number
import LintRepair.Shell.Sum
import Mathlib.Data.List.Infix

/-!
Sums are worked out in words of 64 bits: each operation is that of words, and so no value and no
variable that is set is ever too large. A part that decides nothing leaves the variables alone, and
one that must not be set is not.
-/
namespace LintRepair.Shell.Sum
open Tools

def Operation.onWords (o : Operation) (x y : Int64) : Option Int64 :=
  let flag := fun (b : Bool) => some (if b then 1 else 0)
  match o with
  | .times => some (x * y)
  | .divided => if y = 0 then none else some (x / y)
  | .remainder => if y = 0 then none else some (x % y)
  | .plus => some (x + y)
  | .minus => some (x - y)
  | .shiftLeft => some (x <<< y)
  | .shiftRight => some (x >>> y)
  | .less => flag (x < y)
  | .atMost => flag (x ≤ y)
  | .greater => flag (x > y)
  | .atLeast => flag (x ≥ y)
  | .equal => flag (x = y)
  | .notEqual => flag (x ≠ y)
  | .bitAnd => some (x &&& y)
  | .bitXor => some (x ^^^ y)
  | .bitOr => some (x ||| y)

variable {x y : Int64}

theorem toInt_eq_zero : x.toInt = 0 ↔ x = 0 := by
  rw [← Int64.toInt_zero, Int64.toInt_inj]

theorem toInt_flag (b : Bool) : (if b then (1 : Int64) else 0).toInt = ofBool b := by
  cases b <;> rfl

theorem wrapped_toNat (b : BitVec 64) : wrapped (b.toNat : Nat) = b.toInt := by
  rw [wrapped_eq, Int64.toInt_ofInt]
  exact (BitVec.toInt_eq_toNat_bmod b).symm

theorem toNat_smod (y : Int64) : (y.toBitVec.smod 64).toNat = (y.toInt.emod 64).toNat := by
  have signed : (y.toBitVec.smod 64).toInt = y.toInt % 64 := by
    rw [BitVec.toInt_smod]
    exact Int.fmod_eq_emod_of_nonneg _ (by decide)
  rw [← BitVec.ofInt_toInt (x := y.toBitVec.smod 64), signed, BitVec.toNat_ofInt]
  change _ = (y.toInt % 64).toNat
  rw [Int.emod_eq_of_lt (by omega) (by omega)]

theorem toInt_shiftLeft (x y : Int64) :
    (x <<< y).toInt = wrapped (x.toInt * (1 <<< (y.toInt.emod 64).toNat : Nat)) := by
  have bits : (x <<< y).toInt = ((x.toBitVec.toNat <<< (y.toInt.emod 64).toNat : Nat) : Int).bmod
      (2 ^ 64) := by
    rw [Int64.toInt, Int64.toBitVec_shiftLeft, BitVec.shiftLeft_eq', toNat_smod,
      BitVec.toInt_shiftLeft]
  have value : x.toInt = (x.toBitVec.toNat : Int).bmod (2 ^ 64) := BitVec.toInt_eq_toNat_bmod _
  have size : Int64.size = 2 ^ 64 := rfl
  generalize (y.toInt.emod 64).toNat = k at bits ⊢
  rw [bits, wrapped_eq, Int64.toInt_ofInt, Nat.shiftLeft_eq, Nat.shiftLeft_eq, Nat.one_mul,
    Int.natCast_mul, value, size, Int.bmod_mul_bmod]

theorem toInt_shiftRight (x y : Int64) :
    (x >>> y).toInt = x.toInt.fdiv (1 <<< (y.toInt.emod 64).toNat : Nat) := by
  rw [Int64.toInt, Int64.toBitVec_shiftRight, BitVec.sshiftRight', toNat_smod,
    BitVec.toInt_sshiftRight, Int.shiftRight_eq_div_pow,
    Int.fdiv_eq_ediv_of_nonneg _ (Int.natCast_nonneg _), Nat.shiftLeft_eq, Nat.one_mul]
  rfl

/-- Every operation is that of words. -/
theorem result?_toInt (o : Operation) (x y : Int64) :
    o.result? x.toInt y.toInt = (o.onWords x y).map (·.toInt) := by
  cases o with
  | times => simp [Operation.result?, Operation.onWords, wrapped_eq, Int64.toInt_mul]
  | divided =>
    simp only [Operation.result?, Operation.onWords, toInt_eq_zero]
    split
    · rfl
    · simp [wrapped_eq, Int64.toInt_div, Int64.size]
  | remainder =>
    simp only [Operation.result?, Operation.onWords, toInt_eq_zero]
    split
    · rfl
    · rw [Option.map_some, ← Int64.toInt_mod, wrapped_of_fits (fits_toInt _)]
  | plus => simp [Operation.result?, Operation.onWords, wrapped_eq, Int64.toInt_add]
  | minus => simp [Operation.result?, Operation.onWords, wrapped_eq, Int64.toInt_sub]
  | shiftLeft =>
    simp [Operation.result?, Operation.onWords, toInt_shiftLeft, Nat.shiftLeft_eq]
  | shiftRight =>
    simp [Operation.result?, Operation.onWords, toInt_shiftRight, Nat.shiftLeft_eq]
  | less => simp only [Operation.result?, Operation.onWords, Option.map_some, toInt_flag,
      Int64.lt_iff_toInt_lt]
  | atMost => simp only [Operation.result?, Operation.onWords, Option.map_some, toInt_flag,
      Int64.le_iff_toInt_le]
  | greater => simp only [Operation.result?, Operation.onWords, Option.map_some, toInt_flag,
      gt_iff_lt, Int64.lt_iff_toInt_lt]
  | atLeast => simp only [Operation.result?, Operation.onWords, Option.map_some, toInt_flag,
      ge_iff_le, Int64.le_iff_toInt_le]
  | equal => simp only [Operation.result?, Operation.onWords, Option.map_some, toInt_flag,
      Int64.toInt_inj]
  | notEqual => simp only [Operation.result?, Operation.onWords, Option.map_some, toInt_flag,
      ne_eq, Int64.toInt_inj]
  | bitAnd =>
    simp only [Operation.result?, Operation.onWords, unsigned_toInt, Option.map_some]
    rw [← BitVec.toNat_and, wrapped_toNat]
    rfl
  | bitXor =>
    simp only [Operation.result?, Operation.onWords, unsigned_toInt, Option.map_some]
    rw [← BitVec.toNat_xor, wrapped_toNat]
    rfl
  | bitOr =>
    simp only [Operation.result?, Operation.onWords, unsigned_toInt, Option.map_some]
    rw [← BitVec.toNat_or, wrapped_toNat]
    rfl

theorem fits_of_result? {o : Operation} {a b n : Int} (left : fits a = true) (right : fits b = true)
    (h : o.result? a b = some n) : fits n = true := by
  obtain ⟨x, rfl⟩ := exists_word_of_fits left
  obtain ⟨y, rfl⟩ := exists_word_of_fits right
  rw [result?_toInt] at h
  obtain ⟨z, -, rfl⟩ := Option.map_eq_some_iff.mp h
  exact fits_toInt z

theorem fits_ofBool (b : Bool) : fits (ofBool b) = true := by
  cases b <;> decide

theorem fits_complement {n : Int} (h : fits n = true) : fits (-n - 1) = true := by
  rw [fits_iff, Int64.toInt_minValue, Int64.toInt_maxValue] at h ⊢
  omega

/-- A variable that was set to a number holds that number. -/
theorem numberIn?_toString {n : Int} (h : fits n = true) : numberIn? (toString n) = some n := by
  unfold numberIn?
  dsimp only
  rw [scanNumber_toString, if_pos rfl]
  simp [h]

theorem fits_of_numberIn? {s : String} {n : Int} (h : numberIn? s = some n) : fits n = true := by
  unfold numberIn? at h
  dsimp only at h
  split at h
  · split at h
    · rename_i whole
      cases h
      exact (Bool.and_eq_true_iff.mp whole).2
    · cases h
  · split at h
    · cases h
      decide
    · cases h

section Evaluation

/-- What is known of the tokens that are left and of the variables that were set. -/
structure Fitting (s : List Token × Variables) : Prop where
  tokens : ∀ n, .number n ∈ s.1 → fits n = true
  set : ∀ v ∈ s.2.set, fits v.2 = true ∧ s.2.isReadOnly v.1 = false

/-- What a step does: it only takes tokens and sets variables, and none of these where its value
decides nothing. -/
structure Passes (idle : Bool) (s t : List Token × Variables) : Prop where
  tokens : t.1 <:+ s.1
  set : s.2.set <:+ t.2.set
  readOnly : t.2.isReadOnly = s.2.isReadOnly
  idle : idle = true → t.2 = s.2
  fitting : Fitting t

variable {idle : Bool} {s t u : List Token × Variables} {α β : Type} {P : α → Prop} {Q : β → Prop}

theorem Passes.refl (idle : Bool) (fitting : Fitting s) : Passes idle s s :=
  ⟨List.suffix_rfl, List.suffix_rfl, rfl, fun _ => rfl, fitting⟩

theorem Passes.trans (first : Passes idle s t) (second : Passes idle t u) : Passes idle s u where
  tokens := second.tokens.trans first.tokens
  set := first.set.trans second.set
  readOnly := second.readOnly.trans first.readOnly
  idle on := (second.idle on).trans (first.idle on)
  fitting := second.fitting

/-- Every end that a step may have is one of these, with an answer of some kind. -/
def Yields (idle : Bool) (P : α → Prop) (step : Step α) : Prop :=
  ∀ s a t, Fitting s → step s = .ok (a, t) → Passes idle s t ∧ P a

theorem yields_pure {a : α} (h : P a) : Yields idle P (pure a) := by
  intro s b t fitting done
  cases done
  exact ⟨.refl idle fitting, h⟩

theorem yields_fail (what : String) : Yields idle P (fail what) := by
  intro s a t _ done
  cases done

theorem Yields.bind {step : Step α} {next : α → Step β} (first : Yields idle P step)
    (second : ∀ a, P a → Yields idle Q (next a)) : Yields idle Q (step >>= next) := by
  intro s b u fitting done
  change (step s).bind _ = _ at done
  rcases here : step s with e | ⟨a, t⟩
  · rw [here] at done
    cases done
  · rw [here] at done
    obtain ⟨passes, kind⟩ := first s a t fitting here
    obtain ⟨goes_on, answer⟩ := second a kind t b u passes.fitting done
    exact ⟨passes.trans goes_on, answer⟩

theorem Yields.weaken {step : Step α} {more : Bool} (h : Yields (idle || more) P step) :
    Yields idle P step := by
  intro s a t fitting done
  obtain ⟨passes, answer⟩ := h s a t fitting done
  exact ⟨{ passes with idle := fun on => passes.idle (by rw [on, Bool.true_or]) }, answer⟩

theorem yields_peek : Yields idle (fun t => ∀ n, t = some (.number n) → fits n = true) peek? := by
  intro s a t fitting done
  cases done
  refine ⟨.refl idle fitting, fun n first => fitting.tokens n ?_⟩
  exact List.mem_of_head? first

theorem yields_drop : Yields idle (fun _ => True) drop := by
  intro s a t fitting done
  cases done
  refine ⟨⟨List.tail_suffix _, List.suffix_rfl, rfl, fun _ => rfl, ?_⟩, trivial⟩
  exact ⟨fun n mem => fitting.tokens n (List.mem_of_mem_tail mem), fitting.set⟩

theorem yields_look (name : String) : Yields idle (fits · = true) (look name) := by
  intro s a t fitting done
  obtain ⟨ts, v⟩ := s
  unfold look at done
  dsimp only at done
  split at done
  · rename_i n found
    cases done
    obtain ⟨before, behind, split, -⟩ := List.lookup_eq_some_iff.mp found
    exact ⟨.refl idle fitting, (fitting.set (name, a) (by simp [split])).1⟩
  · split at done
    · cases done
      exact ⟨.refl idle fitting, by decide⟩
    · split at done
      · rename_i read
        cases done
        exact ⟨.refl idle fitting, fits_of_numberIn? read⟩
      · cases done

theorem yields_put (name : String) {n : Int} (h : fits n = true) :
    Yields false (fun _ => True) (put name n) := by
  intro s a t fitting done
  obtain ⟨ts, v⟩ := s
  unfold put at done
  dsimp only at done
  split at done
  · cases done
  · rename_i free
    cases done
    refine ⟨⟨List.suffix_rfl, List.suffix_cons _ _, rfl, nofun, fitting.tokens, ?_⟩, trivial⟩
    intro w mem
    rcases List.mem_cons.mp mem with rfl | old
    · exact ⟨h, Bool.not_eq_true _ ▸ free⟩
    · exact fitting.set w old

theorem yields_calculate (o : Operation) {a b : Int} (left : fits a = true)
    (right : fits b = true) : Yields idle (fits · = true) (calculate o a b) := by
  unfold calculate
  split
  · rename_i value
    exact yields_pure (fits_of_result? left right value)
  · exact yields_fail _

/-- What is known of each part of a sum. -/
structure Sound (fuel : Nat) : Prop where
  atom : ∀ idle, Yields idle (fits · = true) (atom idle fuel)
  operations : ∀ idle bound a, fits a = true →
    Yields idle (fits · = true) (operations idle bound fuel a)
  conjunction : ∀ idle, Yields idle (fits · = true) (conjunction idle fuel)
  disjunction : ∀ idle, Yields idle (fits · = true) (disjunction idle fuel)
  choice : ∀ idle, Yields idle (fits · = true) (choice idle fuel)
  assignment : ∀ idle, Yields idle (fits · = true) (assignment idle fuel)

theorem yields_get : Yields idle (fun _ => True) (get : Step _) := by
  intro s a t fitting done
  cases done
  exact ⟨.refl idle fitting, trivial⟩

section Parts
variable {fuel : Nat} (ih : Sound fuel) (idle : Bool)
include ih

theorem yields_atom : Yields idle (fits · = true) (Sum.atom idle (fuel + 1)) := by
  unfold Sum.atom
  refine yields_peek.bind fun t number => yields_drop.bind fun _ _ => ?_
  split
  · refine (ih.assignment idle).bind fun n h => yields_peek.bind fun _ _ => ?_
    split
    · exact yields_fail _
    · exact yields_drop.bind fun _ _ => yields_pure h
  · exact yields_pure (number _ rfl)
  · split
    · exact yields_pure (by decide)
    · exact yields_look _
  · exact ih.atom idle
  · exact (ih.atom idle).bind fun n _ => yields_pure (fits_wrapped _)
  · exact (ih.atom idle).bind fun n _ => yields_pure (fits_ofBool _)
  · exact (ih.atom idle).bind fun n h => yields_pure (fits_complement h)
  · exact yields_fail _

theorem yields_operations (bound : Nat) {a : Int} (h : fits a = true) :
    Yields idle (fits · = true) (Sum.operations idle bound (fuel + 1) a) := by
  unfold Sum.operations
  refine yields_peek.bind fun t _ => ?_
  split
  · split
    · refine yields_drop.bind fun _ _ => (ih.atom idle).bind fun b hb =>
        (ih.operations idle _ b hb).bind fun c hc => ?_
      have goes_on (n : Int) (hn : fits n = true) := ih.operations idle bound n hn
      dsimp only
      split
      · exact (yields_pure (P := (fits · = true)) hc).bind goes_on
      · exact (yields_calculate _ h hc).bind goes_on
    · exact yields_pure h
  · exact yields_pure h

theorem yields_conjunction : Yields idle (fits · = true) (Sum.conjunction idle (fuel + 1)) := by
  unfold Sum.conjunction
  refine (ih.atom idle).bind fun a ha => (ih.operations idle 8 a ha).bind fun b hb =>
    yields_peek.bind fun _ _ => ?_
  split
  · exact yields_drop.bind fun _ _ => (ih.conjunction _).weaken.bind fun c _ =>
      yields_pure (fits_ofBool _)
  · exact yields_pure hb

theorem yields_disjunction : Yields idle (fits · = true) (Sum.disjunction idle (fuel + 1)) := by
  unfold Sum.disjunction
  refine (ih.conjunction idle).bind fun a ha => yields_peek.bind fun _ _ => ?_
  split
  · exact yields_drop.bind fun _ _ => (ih.disjunction _).weaken.bind fun c _ =>
      yields_pure (fits_ofBool _)
  · exact yields_pure ha

theorem yields_choice : Yields idle (fits · = true) (Sum.choice idle (fuel + 1)) := by
  unfold Sum.choice
  refine (ih.disjunction idle).bind fun a ha => yields_peek.bind fun _ _ => ?_
  split
  · refine yields_drop.bind fun _ _ => (ih.assignment _).weaken.bind fun b hb =>
      yields_peek.bind fun _ _ => ?_
    split
    · exact yields_fail _
    · refine yields_drop.bind fun _ _ => (ih.choice _).weaken.bind fun c hc => yields_pure ?_
      split
      · exact hb
      · exact hc
  · exact yields_pure ha

theorem yields_assignment : Yields idle (fits · = true) (Sum.assignment idle (fuel + 1)) := by
  unfold Sum.assignment
  refine yields_get.bind fun s _ => ?_
  split
  · refine yields_drop.bind fun _ _ => yields_drop.bind fun _ _ =>
      (ih.assignment idle).bind fun n hn => ?_
    cases idle with
    | true => exact yields_pure hn
    | false =>
      rw [if_neg Bool.false_ne_true]
      dsimp only
      have store (name : String) (m : Int) (hm : fits m = true) :
          Yields false (fits · = true) (do put name m; return m) :=
        (yields_put name hm).bind fun _ _ => yields_pure hm
      split
      · exact (yields_pure (P := (fits · = true)) hn).bind (store _)
      · exact (yields_look _).bind fun m hm => (yields_calculate _ hm hn).bind (store _)
  · exact ih.choice idle

end Parts

theorem sound (fuel : Nat) : Sound fuel := by
  induction fuel with
  | zero =>
    exact {
      atom := fun _ => yields_fail _
      operations := fun _ _ _ h => yields_pure h
      conjunction := fun _ => yields_fail _
      disjunction := fun _ => yields_fail _
      choice := fun _ => yields_fail _
      assignment := fun _ => yields_fail _ }
  | succ fuel ih =>
    exact {
      atom := yields_atom ih
      operations := fun idle bound _ h => yields_operations ih idle bound h
      conjunction := yields_conjunction ih
      disjunction := yields_disjunction ih
      choice := yields_choice ih
      assignment := yields_assignment ih }

theorem fits_of_mem_tokens {fuel : Nat} {cs : List Char} {n : Int}
    (mem : .number n ∈ tokens fuel cs) : fits n = true := by
  have sign : ∀ t ∈ signs, ∀ n, t.2 ≠ .number n := by simp [signs]
  induction fuel generalizing cs with
  | zero => cases mem
  | succ fuel ih =>
    cases cs with
    | nil => cases mem
    | cons c cs =>
      unfold tokens at mem
      split at mem
      · exact ih mem
      split at mem
      · rcases List.mem_cons.mp mem with same | later
        · cases same
          exact fits_clamped _
        · exact ih later
      split at mem
      · exact ih ((List.mem_cons.mp mem).resolve_left nofun)
      split at mem
      · rename_i s t found
        refine ih ((List.mem_cons.mp mem).resolve_left fun same => ?_)
        exact sign _ (List.mem_of_find?_eq_some found) n same.symm
      · exact absurd (List.mem_singleton.mp mem) nofun

theorem assignment_idle {fuel : Nat} {n : Int} (fitting : Fitting s)
    (h : assignment true fuel s = .ok (n, t)) : t.2 = s.2 :=
  ((sound fuel).assignment true s n t fitting h).1.idle rfl

/-- The value of a sum and those of the variables that it sets are words, whatever the sum is and
whatever the variables hold, and no variable is set that must not be. -/
theorem fits_of_value {text : String} {v : Variables} {n : Int} {set : List (String × Int)}
    (unset : v.set = []) (h : value text v = .ok (n, set)) :
    fits n = true ∧ ∀ w ∈ set, fits w.2 = true ∧ v.isReadOnly w.1 = false := by
  unfold value at h
  dsimp only at h
  split at h
  · cases h
  · rename_i m rest after done
    split at h
    · cases h
      obtain ⟨passes, answer⟩ := (sound _).assignment false _ _ _
        ⟨fun n mem => fits_of_mem_tokens mem, by simp [unset]⟩ done
      refine ⟨answer, fun w mem => ?_⟩
      rw [← passes.readOnly]
      exact passes.fitting.set w (List.mem_reverse.mp mem)
    · cases h

end Evaluation

end LintRepair.Shell.Sum
