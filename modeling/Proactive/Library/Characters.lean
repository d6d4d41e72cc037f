import Mathlib.Data.Nat.Notation

/-! The character classes of a Unicode version: known on ASCII, and arbitrary beyond it. -/
namespace Proactive.Library

/-- What a walk over a text finds of each character holds of each. -/
theorem each_of_all {holds : Char → Prop} [DecidablePred holds] {text : List Char}
    (checked : text.all (fun c => decide (holds c)) = true) : ∀ c ∈ text, holds c :=
  fun c member => of_decide_eq_true (List.all_eq_true.mp checked c member)

structure Characters where
  /-- The value of a decimal digit of any script. -/
  decimal : Char → Option Nat
  alphanumeric : Char → Bool
  space : Char → Bool
  decimal_ascii : ∀ c, c.toNat < 128 → decimal c = if c.isDigit then some (c.toNat - 48) else none
  alphanumeric_ascii : ∀ c, c.toNat < 128 → alphanumeric c = c.isAlphanum
  space_ascii : ∀ c, c.toNat < 128 →
    space c = (c == ' ' || 9 ≤ c.toNat && c.toNat ≤ 13 || 28 ≤ c.toNat && c.toNat ≤ 31)
  decimal_alphanumeric : ∀ c value, decimal c = some value → alphanumeric c = true

namespace Characters

/-- `int` of a text of digits; `none` stands for a `ValueError`. -/
def int (characters : Characters) : List Char → Option Nat
  | [] => none
  | first::rest => ((first::rest).mapM characters.decimal).map
      (fun digits => digits.foldl (fun value digit => value * 10 + digit) 0)

/-- The classes of a version that knows no character beyond ASCII. -/
def ascii : Characters where
  decimal c := if c.isDigit then some (c.toNat - 48) else none
  alphanumeric c := c.isAlphanum
  space c := c == ' ' || 9 ≤ c.toNat && c.toNat ≤ 13 || 28 ≤ c.toNat && c.toNat ≤ 31
  decimal_ascii _ _ := rfl
  alphanumeric_ascii _ _ := rfl
  space_ascii _ _ := rfl
  decimal_alphanumeric c value digit := by
    by_cases numeric : c.isDigit = true
    · rw [Char.isAlphanum,numeric,Bool.or_true]
    · rw [if_neg numeric] at digit
      cases digit

variable (characters : Characters)

theorem decimal_digit {c : Char} (digit : c.isDigit = true) : characters.decimal c = some (c.toNat - 48) := by
  have small : c.toNat < 128 := by
    simp only [Char.isDigit,Bool.and_eq_true,decide_eq_true_eq] at digit
    have upper : c.val.toNat ≤ 57 := digit.2
    exact Nat.lt_of_le_of_lt upper (by omega)
  rw [characters.decimal_ascii c small,if_pos digit]

theorem mapM_decimal {digits : List Char} (all : digits.all Char.isDigit = true) :
    digits.mapM characters.decimal = some (digits.map (fun c => c.toNat - 48)) := by
  induction digits with
  | nil => rfl
  | cons first rest ih =>
    rw [List.all_cons,Bool.and_eq_true] at all
    rw [List.mapM_cons,characters.decimal_digit all.1,ih all.2]
    rfl

theorem int_digits {first : Char} {rest : List Char} (all : (first::rest).all Char.isDigit = true) :
    characters.int (first::rest) =
      some ((first::rest).foldl (fun value digit => value * 10 + (digit.toNat - 48)) 0) := by
  rw [int,characters.mapM_decimal all,Option.map_some,List.foldl_map]

theorem int_some {digits : List Char} (filled : digits ≠ [])
    (all : ∀ c ∈ digits, (characters.decimal c).isSome = true) : ∃ value, characters.int digits = some value := by
  have read : ∀ digits : List Char, (∀ c ∈ digits, (characters.decimal c).isSome = true) →
      ∃ values, digits.mapM characters.decimal = some values := by
    intro digits
    induction digits with
    | nil => exact fun _ => ⟨[],rfl⟩
    | cons first rest ih =>
      intro all
      obtain ⟨value,named⟩ := Option.isSome_iff_exists.mp (all first List.mem_cons_self)
      obtain ⟨values,named'⟩ := ih (fun c member => all c (List.mem_cons_of_mem first member))
      exact ⟨value::values,by rw [List.mapM_cons,named,named']; rfl⟩
  cases digits with
  | nil => exact absurd rfl filled
  | cons first rest =>
    obtain ⟨values,named⟩ := read _ all
    exact ⟨_,by rw [int,named,Option.map_some]⟩

end Characters
end Proactive.Library
