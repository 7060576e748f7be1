import LintRepair.Tools.Translate
import Mathlib.Data.List.Basic

/-!
What a change makes of the input: it does not depend on how the input is cut into pieces, what is
dropped is missing, everything else becomes what it is to become, and what is squeezed does not come
twice in a row.
-/
namespace LintRepair.Tools

namespace ChangeTables
variable (t : ChangeTables) {last : Option UInt8} {done bs : List UInt8}

/-- What is printed for an input that arrives in pieces. -/
def printed (last : Option UInt8) : List (List UInt8) → List UInt8
  | [] => []
  | bs :: more => (t.apply last [] bs).1.reverse ++ printed (t.apply last [] bs).2 more

theorem apply_cons (last : Option UInt8) (done bs : List UInt8) (b : UInt8) :
    t.apply last done (b :: bs) =
      if t.dropped.getD b.toNat false then t.apply last done bs
      else if t.squeezed.getD (t.become.getD b.toNat b).toNat false &&
          last = some (t.become.getD b.toNat b) then t.apply last done bs
      else t.apply (some (t.become.getD b.toNat b)) (t.become.getD b.toNat b :: done) bs := rfl

theorem apply_eq (last : Option UInt8) (done bs : List UInt8) :
    t.apply last done bs = ((t.apply last [] bs).1 ++ done, (t.apply last [] bs).2) := by
  induction bs generalizing last done with
  | nil => rfl
  | cons b bs ih =>
    rw [apply_cons, apply_cons]
    split
    · exact ih last done
    split
    · exact ih last done
    · rw [ih _ (_ :: done), ih _ [_], List.append_assoc]
      rfl

theorem apply_append (last : Option UInt8) (done xs ys : List UInt8) :
    t.apply last done (xs ++ ys) = t.apply (t.apply last done xs).2 (t.apply last done xs).1 ys := by
  induction xs generalizing last done with
  | nil => rfl
  | cons b xs ih =>
    rw [List.cons_append, apply_cons, apply_cons]
    split
    · exact ih last done
    split
    · exact ih last done
    · exact ih _ _

theorem printed_eq (last : Option UInt8) (pieces : List (List UInt8)) :
    t.printed last pieces = (t.apply last [] pieces.flatten).1.reverse := by
  induction pieces generalizing last with
  | nil => rfl
  | cons bs more ih =>
    rw [printed, ih, List.flatten_cons, apply_append, t.apply_eq _ (t.apply last [] bs).1,
      List.reverse_append]

theorem apply_of_unsqueezed (free : ∀ n, t.squeezed.getD n false = false) (last : Option UInt8)
    (bs : List UInt8) : (t.apply last [] bs).1.reverse =
      (bs.filter fun b => !t.dropped.getD b.toNat false).map fun b => t.become.getD b.toNat b := by
  induction bs generalizing last with
  | nil => rfl
  | cons b bs ih =>
    rw [apply_cons]
    split
    · rename_i dropped
      rw [List.filter_cons_of_neg (by simp [dropped])]
      exact ih last
    · rename_i stays
      rw [free, Bool.false_and, if_neg Bool.false_ne_true, apply_eq, List.reverse_append, ih,
        List.filter_cons_of_pos (by simpa using stays)]
      rfl

/-- Of two bytes that follow each other, the second is not a repetition that is squeezed. -/
theorem isChain_apply (chain : done.IsChain fun b a => a = b → t.squeezed.getD b.toNat false = false)
    (begun : ∀ a, done.head? = some a → last = some a) (bs : List UInt8) :
    (t.apply last done bs).1.IsChain fun b a => a = b → t.squeezed.getD b.toNat false = false := by
  induction bs generalizing last done with
  | nil => exact chain
  | cons b bs ih =>
    rw [apply_cons]
    split
    · exact ih chain begun
    split
    · exact ih chain begun
    · rename_i free
      refine ih ?_ fun a first => ?_
      · cases done with
        | nil => exact .singleton _
        | cons a done =>
          refine .cons_cons (fun same => ?_) chain
          rw [begun a rfl, same] at free
          simpa using free
      · cases first
        rfl

end ChangeTables

theorem getD_set (marks : Array Bool) {n : Nat} (within : n < marks.size) (m : Nat) :
    (marks.setIfInBounds m true).getD n false = (n == m || marks.getD n false) := by
  rw [Array.getD_eq_getD_getElem?, Array.getD_eq_getD_getElem?, Array.getElem?_setIfInBounds]
  by_cases same : m = n
  · simp [same, within]
  · simp [same, Ne.symm same]

theorem getD_foldl_set (ns : List Nat) (marks : Array Bool) {n : Nat} (within : n < marks.size) :
    (ns.foldl (fun t n => t.setIfInBounds n true) marks).getD n false =
      (ns.contains n || marks.getD n false) := by
  induction ns generalizing marks with
  | nil => simp
  | cons m ns ih =>
    rw [List.foldl_cons, ih _ (by simpa using within), List.contains_cons, getD_set marks within]
    cases ns.contains n <;> simp

theorem getD_replicate (n : Nat) : (Array.replicate 256 false).getD n false = false := by
  rw [Array.getD_eq_getD_getElem?, Array.getElem?_replicate]
  split <;> rfl

theorem getD_ofNat (b : UInt8) : ((Array.range 256).map UInt8.ofNat).getD b.toNat b = b := by
  simp [Array.getD_eq_getD_getElem?, UInt8.toNat_lt b]

/-- Dropping some bytes drops these and nothing else. -/
theorem apply_dropped (ns : List Nat) (bs : List UInt8) :
    ((Change.mk [] ns []).tables.apply none [] bs).1.reverse =
      bs.filter fun b => !ns.contains b.toNat := by
  have drops (b : UInt8) :
      (Change.mk [] ns []).tables.dropped.getD b.toNat false = ns.contains b.toNat := by
    have within : b.toNat < (Array.replicate 256 false).size := by
      simpa using UInt8.toNat_lt b
    rw [Change.tables, getD_foldl_set ns _ within, getD_replicate, Bool.or_false]
  have free (n : Nat) : (Change.mk [] ns []).tables.squeezed.getD n false = false := by
    dsimp only [Change.tables]
    rw [List.foldl_nil, getD_replicate]
  have stays (b : UInt8) : (Change.mk [] ns []).tables.become.getD b.toNat b = b := by
    dsimp only [Change.tables]
    rw [List.foldl_nil, getD_ofNat]
  simp only [ChangeTables.apply_of_unsqueezed _ free, drops, stays, List.map_id']

end LintRepair.Tools
