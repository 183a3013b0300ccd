import HotReload.Decimal.Digits
import Mathlib.Algebra.Group.Nat.Defs

set_option autoImplicit false

namespace HotReload.Decimal

theorem digits_eq_toDigits (n : Nat) : digits n = Nat.toDigits 10 n := by
  have char : ∀ d < 10, digitChar d = Nat.digitChar d := by decide
  induction n using Nat.strongRecOn with
  | ind n ih =>
    by_cases single : n < 10
    next => rw [digits_of_lt single, Nat.toDigits_of_lt_base single, char n single]
    next =>
      rw [digits_of_le (by omega), Nat.toDigits_of_base_le (by decide) (by omega),
        ih (n / 10) (by omega), char (n % 10) (by omega)]

section base

variable {b : Nat} (large : 1 < b)

include large

theorem toDigits_induction {P : Nat → List Char → Prop} (short : ∀ d, d < b → P d [Nat.digitChar d])
    (long : ∀ n d, 0 < n → d < b → P n (Nat.toDigits b n) →
      P (n * b + d) (Nat.toDigits b n ++ [Nat.digitChar d])) (n : Nat) :
    P n (Nat.toDigits b n) := by
  induction n using Nat.strongRecOn with
  | ind n ih =>
    by_cases single : n < b
    next =>
      rw [Nat.toDigits_of_lt_base single]
      exact short n single
    next =>
      have whole : b ≤ n := Nat.le_of_not_lt single
      have fewer : n / b < n := Nat.div_lt_self (by omega) large
      have last : n % b < b := Nat.mod_lt _ (by omega)
      have step := long (n / b) (n % b) (Nat.div_pos whole (by omega)) last (ih (n / b) fewer)
      rw [Nat.div_add_mod'] at step
      rwa [Nat.toDigits_of_base_le large whole]

theorem mem_toDigits {n : Nat} {c : Char} (member : c ∈ Nat.toDigits b n) :
    ∃ d < b, c = Nat.digitChar d := by
  revert c
  refine toDigits_induction large
    (P := fun _ cs => ∀ {c}, c ∈ cs → ∃ d < b, c = Nat.digitChar d) ?_ ?_ n
  · intro d small c member
    exact ⟨d, small, List.mem_singleton.mp member⟩
  · intro n d _ small ih c member
    rcases List.mem_append.mp member with earlier | last
    · exact ih earlier
    · exact ⟨d, small, List.mem_singleton.mp last⟩

theorem toDigits_eq_cons (n : Nat) : ∃ d rest, Nat.toDigits b n = Nat.digitChar d :: rest ∧ d < b ∧
    (d = 0 → rest = [] ∧ n = 0) := by
  refine toDigits_induction large (P := fun n cs => ∃ d rest, cs = Nat.digitChar d :: rest ∧ d < b ∧
    (d = 0 → rest = [] ∧ n = 0)) ?_ ?_ n
  · intro d small
    exact ⟨d, [], rfl, small, fun zero => ⟨rfl, zero⟩⟩
  · rintro n last positive _ ⟨d, rest, same, small, zero⟩
    refine ⟨d, rest ++ [Nat.digitChar last], by simp [same], small, fun none => ?_⟩
    have := (zero none).2
    omega

end base

theorem mem_digits {n : Nat} {c : Char} (member : c ∈ digits n) : ∃ d < 10, c = Nat.digitChar d :=
  mem_toDigits (by decide) (digits_eq_toDigits n ▸ member)

theorem digit?_toDigit {d : Nat} (small : d < 10) : digit? (Nat.digitChar d) = some d := by
  have all : ∀ d < 10, digit? (Nat.digitChar d) = some d := by decide
  exact all d small

theorem hexDigit?_toDigit {d : Nat} (small : d < 16) : hexDigit? (Nat.digitChar d) = some d := by
  have all : ∀ d < 16, hexDigit? (Nat.digitChar d) = some d := by decide
  exact all d small

end HotReload.Decimal
