import Mathlib.Algebra.Group.Nat.Defs
import Mathlib.Data.Char
import Mathlib.Data.List.Lex
import Mathlib.Order.Lattice

/-! The order of lists by their first difference: fields of one width, decimals, and the bytes of plain texts. -/
namespace Proactive.Library.Lexicographic

section fields
variable {α : Type} [LinearOrder α] {first second rest other : List α}

/-- Fields of one width are compared one after the other. -/
theorem field_lt (width : first.length = second.length)
    (order : first < second ∨ first = second ∧ rest < other) : first ++ rest < second ++ other := by
  rcases order with less | ⟨rfl,later⟩
  · induction first generalizing second with
    | nil =>
      rw [List.eq_nil_of_length_eq_zero width.symm] at less
      exact absurd less (List.not_lt_nil _)
    | cons head first ih =>
      cases second with
      | nil => cases width
      | cons head' second =>
        rw [List.cons_append,List.cons_append,List.cons_lt_cons_iff]
        rcases List.cons_lt_cons_iff.mp less with smaller | ⟨same,less⟩
        · exact Or.inl smaller
        · exact Or.inr ⟨same,ih (Nat.succ.inj width) less⟩
  · exact List.append_left_lt later

theorem mark_lt (mark : α) (less : rest < other) : mark::rest < mark::other :=
  List.cons_lt_cons_iff.mpr (Or.inr ⟨rfl,less⟩)

end fields

section decimals
variable {first second : List Char}

private def digit (c : Char) : Nat := c.toNat - '0'.toNat

private theorem digit_bounds {c : Char} (numeral : c.isDigit = true) : 48 ≤ c.toNat ∧ c.toNat ≤ 57 := by
  obtain ⟨low,high⟩ := Char.isDigit_iff_toNat.mp numeral
  exact ⟨low,high⟩

theorem decimal_lt_power (numerals : ∀ c ∈ first, c.isDigit = true) :
    Nat.ofDigitChars 10 first 0 < 10 ^ first.length := by
  induction first with
  | nil => exact Nat.one_pos
  | cons c first ih =>
    have rest := ih (fun other member => numerals other (List.mem_cons_of_mem _ member))
    have bounds := digit_bounds (numerals c List.mem_cons_self)
    rw [Nat.ofDigitChars_cons,Nat.ofDigitChars_eq_ofDigitChars_zero,List.length_cons,Nat.pow_succ]
    have head : 10 ^ first.length * (10 * 0 + (c.toNat - '0'.toNat)) ≤ 10 ^ first.length * 9 :=
      Nat.mul_le_mul_left _ (by change 10 * 0 + (c.toNat - 48) ≤ 9; omega)
    omega

/-- Decimals of one width stand in the order of their values. -/
theorem decimal_lt (width : first.length = second.length) (one : ∀ c ∈ first, c.isDigit = true)
    (two : ∀ c ∈ second, c.isDigit = true) (less : first < second) :
    Nat.ofDigitChars 10 first 0 < Nat.ofDigitChars 10 second 0 := by
  induction first generalizing second with
  | nil =>
    rw [List.eq_nil_of_length_eq_zero width.symm] at less
    exact absurd less (List.not_lt_nil _)
  | cons c first ih =>
    cases second with
    | nil => cases width
    | cons c' second =>
      have one' (other : Char) (member : other ∈ first) := one other (List.mem_cons_of_mem _ member)
      have two' (other : Char) (member : other ∈ second) := two other (List.mem_cons_of_mem _ member)
      rw [Nat.ofDigitChars_cons,Nat.ofDigitChars_cons,Nat.ofDigitChars_eq_ofDigitChars_zero,
        Nat.ofDigitChars_eq_ofDigitChars_zero (l := second),Nat.succ.inj width]
      rcases List.cons_lt_cons_iff.mp less with smaller | ⟨rfl,later⟩
      · have low := digit_bounds (one c List.mem_cons_self)
        have rest := decimal_lt_power one'
        rw [Nat.succ.inj width] at rest
        have step : 10 ^ second.length * (10 * 0 + (c.toNat - '0'.toNat)) + 10 ^ second.length ≤
            10 ^ second.length * (10 * 0 + (c'.toNat - '0'.toNat)) := by
          rw [← Nat.mul_succ]
          refine Nat.mul_le_mul_left _ ?_
          have order : c.toNat < c'.toNat := smaller
          change 10 * 0 + (c.toNat - 48) + 1 ≤ 10 * 0 + (c'.toNat - 48)
          omega
        omega
      · exact Nat.add_lt_add_left (ih (Nat.succ.inj width) one' two' later) _

theorem decimal_lt_iff (width : first.length = second.length) (one : ∀ c ∈ first, c.isDigit = true)
    (two : ∀ c ∈ second, c.isDigit = true) :
    first < second ↔ Nat.ofDigitChars 10 first 0 < Nat.ofDigitChars 10 second 0 := by
  refine ⟨decimal_lt width one two,fun less => ?_⟩
  rcases lt_trichotomy first second with before | same | after
  · exact before
  · rw [same] at less
    exact absurd less (Nat.lt_irrefl _)
  · exact absurd (decimal_lt width.symm two one after) (Nat.lt_asymm less)

end decimals

section bytes
variable {first second : List Char}

/-- The bytes of a text in UTF-8. -/
def bytes (text : List Char) : List UInt8 := text.flatMap String.utf8EncodeChar

theorem bytes_cons {c : Char} (plain : c.toNat < 128) : bytes (c::first) = c.val.toUInt8::bytes first := by
  have single : c.utf8Size = 1 := Char.utf8Size_eq_one_iff.mpr (Nat.le_of_lt_succ plain)
  unfold bytes
  rw [List.flatMap_cons,String.utf8EncodeChar_eq_singleton single,List.singleton_append]

theorem byte_lt {c other : Char} (one : c.toNat < 128) (two : other.toNat < 128) (less : c < other) :
    c.val.toUInt8 < other.val.toUInt8 := by
  have order : c.toNat < other.toNat := less
  rw [UInt8.lt_iff_toNat_lt,UInt32.toNat_toUInt8,UInt32.toNat_toUInt8]
  change c.toNat % 256 < other.toNat % 256
  omega

/-- Texts of single-byte characters stand in the order of their bytes. -/
theorem bytes_lt (one : ∀ c ∈ first, c.toNat < 128) (two : ∀ c ∈ second, c.toNat < 128)
    (less : first < second) : bytes first < bytes second := by
  induction first generalizing second with
  | nil =>
    cases second with
    | nil => exact absurd less (List.not_lt_nil _)
    | cons c second =>
      rw [bytes_cons (two c List.mem_cons_self)]
      exact List.nil_lt_cons _ _
  | cons c first ih =>
    cases second with
    | nil => exact absurd less (List.not_lt_nil _)
    | cons c' second =>
      rw [bytes_cons (one c List.mem_cons_self),bytes_cons (two c' List.mem_cons_self),List.cons_lt_cons_iff]
      rcases List.cons_lt_cons_iff.mp less with smaller | ⟨rfl,later⟩
      · exact Or.inl (byte_lt (one c List.mem_cons_self) (two c' List.mem_cons_self) smaller)
      · refine Or.inr ⟨rfl,ih ?_ ?_ later⟩
        · exact fun other member => one other (List.mem_cons_of_mem _ member)
        · exact fun other member => two other (List.mem_cons_of_mem _ member)

theorem ne_of_bytes_lt {first second : List UInt8} (less : first < second) : first ≠ second := by
  rintro rfl
  exact List.lt_irrefl _ less

end bytes
end Proactive.Library.Lexicographic
