import LintRepair.Text.Utf8

/-!
The reader takes the bytes of a character as that character, whatever follows: the ranges of second
bytes leave out just what no character has. So reading gives back every text that was written.
-/
namespace LintRepair.Text.Utf8

variable {value missing n : Nat} {lo hi : UInt8}

theorem lead_ofNat (small : n < 256) :
    lead (UInt8.ofNat n) =
      if n < 0x80 then .char (Char.ofNat n)
      else if n < 0xC2 then .broken
      else if n < 0xE0 then .longer ⟨n - 0xC0, 1, 0x80, 0xBF⟩
      else if n = 0xE0 then .longer ⟨0, 2, 0xA0, 0xBF⟩
      else if n = 0xED then .longer ⟨0xD, 2, 0x80, 0x9F⟩
      else if n < 0xF0 then .longer ⟨n - 0xE0, 2, 0x80, 0xBF⟩
      else if n = 0xF0 then .longer ⟨0, 3, 0x90, 0xBF⟩
      else if n < 0xF4 then .longer ⟨n - 0xF0, 3, 0x80, 0xBF⟩
      else if n = 0xF4 then .longer ⟨4, 3, 0x80, 0x8F⟩
      else .broken := by
  have number : (UInt8.ofNat n).toNat = n := UInt8.toNat_ofNat_of_lt' small
  simp only [lead, UInt8.lt_iff_toNat_lt, ← UInt8.toNat_inj, number]
  rfl

theorem ofNat_within (from_lo : lo.toNat ≤ n) (to_hi : n ≤ hi.toNat) :
    (UInt8.ofNat n).toNat = n ∧ lo ≤ UInt8.ofNat n ∧ UInt8.ofNat n ≤ hi := by
  have number : (UInt8.ofNat n).toNat = n :=
    UInt8.toNat_ofNat_of_lt' (Nat.lt_of_le_of_lt to_hi hi.toNat_lt)
  rw [UInt8.le_iff_toNat_le, UInt8.le_iff_toNat_le, number]
  exact ⟨rfl, from_lo, to_hi⟩

theorem scan_next (from_lo : lo.toNat ≤ n) (to_hi : n ≤ hi.toNat) (bs : List UInt8) :
    scan (some ⟨value, missing + 2, lo, hi⟩) (UInt8.ofNat n :: bs) =
      scan (some ⟨value * 64 + (n - 0x80), missing + 1, 0x80, 0xBF⟩) bs := by
  obtain ⟨number, within⟩ := ofNat_within from_lo to_hi
  rw [scan, feed, if_pos within, number]
  rfl

theorem scan_last (from_lo : lo.toNat ≤ n) (to_hi : n ≤ hi.toNat) (bs : List UInt8) :
    scan (some ⟨value, 1, lo, hi⟩) (UInt8.ofNat n :: bs) =
      some (Char.ofNat (value * 64 + (n - 0x80))) :: scan none bs := by
  obtain ⟨number, within⟩ := ofNat_within from_lo to_hi
  rw [scan, feed, if_pos within, number]
  rfl

theorem scan_longer {p : Pending} (opens : lead (UInt8.ofNat n) = .longer p) (bs : List UInt8) :
    scan none (UInt8.ofNat n :: bs) = scan (some p) bs := by
  rw [scan, feed, start, opens]
  rfl

theorem scan_two {v : Nat} (from_lo : 128 ≤ v) (to_hi : v ≤ 2047) (bs : List UInt8) :
    scan none (UInt8.ofNat (v / 64 % 32 + 192) :: UInt8.ofNat (v % 64 + 128) :: bs) =
      some (Char.ofNat v) :: scan none bs := by
  have opens : lead (UInt8.ofNat (v / 64 % 32 + 192)) =
      .longer ⟨v / 64 % 32 + 192 - 0xC0, 1, 0x80, 0xBF⟩ := by
    rw [lead_ofNat (by omega), if_neg (by omega), if_neg (by omega), if_pos (by omega)]
  have whole : (v / 64 % 32 + 192 - 0xC0) * 64 + (v % 64 + 128 - 0x80) = v := by omega
  rw [scan_longer opens, scan_last (by simp) (by simp; omega), whole]

/-- Three bytes hold the values from 2048 on. Their first two leave out the surrogates. -/
theorem scan_three {v : Nat} (from_lo : 2048 ≤ v) (to_hi : v ≤ 65535)
    (valid : v < 0xD800 ∨ 0xDFFF < v) (bs : List UInt8) :
    scan none (UInt8.ofNat (v / 4096 % 16 + 224) :: UInt8.ofNat (v / 64 % 64 + 128) ::
        UInt8.ofNat (v % 64 + 128) :: bs) = some (Char.ofNat v) :: scan none bs := by
  have opened : ∃ lo hi, lead (UInt8.ofNat (v / 4096 % 16 + 224)) =
        .longer ⟨v / 4096 % 16, 2, lo, hi⟩ ∧
      lo.toNat ≤ v / 64 % 64 + 128 ∧ v / 64 % 64 + 128 ≤ hi.toNat := by
    rw [lead_ofNat (by omega), if_neg (by omega), if_neg (by omega), if_neg (by omega)]
    by_cases first : v < 0x1000
    · have value : v / 4096 % 16 = 0 := by omega
      rw [if_pos (by omega), value]
      exact ⟨0xA0, 0xBF, rfl, by simp; omega, by simp; omega⟩
    rw [if_neg (by omega)]
    by_cases surrogates : 0xD000 ≤ v ∧ v < 0xE000
    · have value : v / 4096 % 16 = 0xD := by omega
      rw [if_pos (by omega), value]
      exact ⟨0x80, 0x9F, rfl, by simp, by simp; omega⟩
    · rw [if_neg (by omega), if_pos (by omega), Nat.add_sub_cancel]
      exact ⟨0x80, 0xBF, rfl, by simp, by simp; omega⟩
  obtain ⟨lo, hi, opens, from_lo, to_hi⟩ := opened
  have whole :
      (v / 4096 % 16 * 64 + (v / 64 % 64 + 128 - 0x80)) * 64 + (v % 64 + 128 - 0x80) = v := by
    omega
  rw [scan_longer opens, scan_next from_lo to_hi, scan_last (by simp) (by simp; omega), whole]

/-- Four bytes hold the values from 65536 on, up to the last character. -/
theorem scan_four {v : Nat} (from_lo : 65536 ≤ v) (to_hi : v < 0x110000) (bs : List UInt8) :
    scan none (UInt8.ofNat (v / 262144 % 8 + 240) :: UInt8.ofNat (v / 4096 % 64 + 128) ::
        UInt8.ofNat (v / 64 % 64 + 128) :: UInt8.ofNat (v % 64 + 128) :: bs) =
      some (Char.ofNat v) :: scan none bs := by
  have opened : ∃ lo hi, lead (UInt8.ofNat (v / 262144 % 8 + 240)) =
        .longer ⟨v / 262144 % 8, 3, lo, hi⟩ ∧
      lo.toNat ≤ v / 4096 % 64 + 128 ∧ v / 4096 % 64 + 128 ≤ hi.toNat := by
    rw [lead_ofNat (by omega), if_neg (by omega), if_neg (by omega), if_neg (by omega),
      if_neg (by omega), if_neg (by omega), if_neg (by omega)]
    by_cases first : v < 0x40000
    · have value : v / 262144 % 8 = 0 := by omega
      rw [if_pos (by omega), value]
      exact ⟨0x90, 0xBF, rfl, by simp; omega, by simp; omega⟩
    rw [if_neg (by omega)]
    by_cases last : 0x100000 ≤ v
    · have value : v / 262144 % 8 = 4 := by omega
      rw [if_neg (by omega), if_pos (by omega), value]
      exact ⟨0x80, 0x8F, rfl, by simp, by simp; omega⟩
    · rw [if_pos (by omega), Nat.add_sub_cancel]
      exact ⟨0x80, 0xBF, rfl, by simp, by simp; omega⟩
  obtain ⟨lo, hi, opens, from_lo, to_hi⟩ := opened
  have whole : ((v / 262144 % 8 * 64 + (v / 4096 % 64 + 128 - 0x80)) * 64 +
      (v / 64 % 64 + 128 - 0x80)) * 64 + (v % 64 + 128 - 0x80) = v := by omega
  rw [scan_longer opens, scan_next from_lo to_hi, scan_next (by simp) (by simp; omega),
    scan_last (by simp) (by simp; omega), whole]

theorem scan_utf8EncodeChar (c : Char) (bs : List UInt8) :
    scan none (String.utf8EncodeChar c ++ bs) = some c :: scan none bs := by
  have valid : c.val.toNat < 0xD800 ∨ 0xDFFF < c.val.toNat ∧ c.val.toNat < 0x110000 := c.valid
  have back : Char.ofNat c.val.toNat = c := Char.ofNat_toNat c
  unfold String.utf8EncodeChar
  generalize c.val.toNat = v at valid back
  rw [← back]
  simp only
  split
  · rename_i one
    have opens : lead (UInt8.ofNat v) = .char (Char.ofNat v) := by
      rw [lead_ofNat (by omega), if_pos (by omega)]
    rw [List.singleton_append, scan, feed, start, opens]
    rfl
  split
  · exact scan_two (by omega) (by omega) bs
  split
  · exact scan_three (by omega) (by omega) (by omega) bs
  · exact scan_four (by omega) (by omega) bs

theorem scan_encode (cs : List Char) : scan none (encode cs) = cs.map some := by
  induction cs with
  | nil => rfl
  | cons c cs ih =>
    rw [encode, List.flatMap_cons, scan_utf8EncodeChar, List.map_cons, ← ih]
    rfl

theorem decode?_encode (cs : List Char) : decode? (encode cs) = some cs := by
  rw [decode?, scan_encode]
  induction cs with
  | nil => rfl
  | cons c cs ih => simp [ih]

end LintRepair.Text.Utf8

namespace LintRepair

theorem strictText?_utf8 (s : String) : strictText? (utf8 s) = some s := by
  rw [strictText?, utf8, Text.Utf8.decode?_encode]
  exact congrArg some String.ofList_toList

end LintRepair
