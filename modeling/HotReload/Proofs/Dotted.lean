import HotReload.Proofs.Numerals
import HotReload.Url.Ipv4
import Mathlib.Data.List.Forall2

set_option autoImplicit false

namespace HotReload

namespace Text

theorem splitOn_of_free {separator : Char} {part : List Char} (free : separator ∉ part) :
    splitOn separator part = [part] := by
  induction part with
  | nil => rfl
  | cons c part ih =>
    have apart : c ≠ separator := fun same => free (same ▸ List.mem_cons_self)
    simp [splitOn, ih fun inside => free (List.mem_cons_of_mem c inside), apart]

theorem splitOn_append {separator : Char} {part : List Char} (free : separator ∉ part)
    (rest : List Char) :
    splitOn separator (part ++ separator :: rest) = part :: splitOn separator rest := by
  induction part with
  | nil =>
    obtain ⟨next, more, split⟩ := List.exists_cons_of_ne_nil (splitOn_ne_nil separator rest)
    simp [splitOn, split]
  | cons c part ih =>
    have apart : c ≠ separator := fun same => free (same ▸ List.mem_cons_self)
    simp [splitOn, ih fun inside => free (List.mem_cons_of_mem c inside), apart]

theorem splitOn_intercalate {separator : Char} {parts : List (List Char)} (some : parts ≠ [])
    (free : ∀ part ∈ parts, separator ∉ part) :
    splitOn separator ([separator].intercalate parts) = parts := by
  induction parts with
  | nil => exact absurd rfl some
  | cons part rest ih =>
    have first := free part List.mem_cons_self
    cases rest with
    | nil => simpa using splitOn_of_free first
    | cons next more =>
      have later := ih (List.cons_ne_nil _ _) fun part member =>
        free part (List.mem_cons_of_mem _ member)
      rw [List.intercalate_cons_cons, List.append_assoc, List.singleton_append,
        splitOn_append first, later]

theorem splitOn_cons (separator c : Char) (cs : List Char) : ∃ part parts,
    splitOn separator cs = part :: parts ∧ splitOn separator (c :: cs) =
      if c = separator then [] :: part :: parts else (c :: part) :: parts := by
  obtain ⟨part, parts, split⟩ := List.exists_cons_of_ne_nil (splitOn_ne_nil separator cs)
  exact ⟨part, parts, split, by simp only [splitOn, split]⟩

theorem mem_intercalate {separator c : Char} {parts : List (List Char)}
    (inside : c ∈ [separator].intercalate parts) :
    c = separator ∨ ∃ part ∈ parts, c ∈ part := by
  induction parts with
  | nil => cases inside
  | cons part rest ih =>
    cases rest with
    | nil => exact .inr ⟨part, List.mem_cons_self, by simpa using inside⟩
    | cons next more =>
      rw [List.intercalate_cons_cons] at inside
      simp only [List.mem_append, List.mem_singleton] at inside
      rcases inside with (here | same) | later
      · exact .inr ⟨part, List.mem_cons_self, here⟩
      · exact .inl same
      · rcases ih later with same | ⟨other, found, member⟩
        · exact .inl same
        · exact .inr ⟨other, List.mem_cons_of_mem part found, member⟩

theorem intercalate_splitOn (separator : Char) (cs : List Char) :
    [separator].intercalate (splitOn separator cs) = cs := by
  induction cs with
  | nil => rfl
  | cons c rest ih =>
    obtain ⟨part, parts, split, whole⟩ := splitOn_cons separator c rest
    rw [split] at ih
    rw [whole]
    split
    next same =>
      rw [List.intercalate_cons_cons, ih, same]
      rfl
    next =>
      cases parts with
      | nil => simpa using ih
      | cons next more => simpa [List.intercalate_cons_cons] using ih

theorem mem_of_mem_splitOn {separator c : Char} {cs part : List Char}
    (inside : part ∈ splitOn separator cs) (member : c ∈ part) : c ∈ cs := by
  induction cs generalizing part with
  | nil =>
    cases List.mem_singleton.mp inside
    cases member
  | cons d rest ih =>
    obtain ⟨first, parts, split, whole⟩ := splitOn_cons separator d rest
    rw [whole] at inside
    have later (found : part ∈ first :: parts) : c ∈ d :: rest :=
      List.mem_cons_of_mem d (ih (split ▸ found) member)
    split at inside
    next =>
      rcases List.mem_cons.mp inside with rfl | found
      · cases member
      · exact later found
    next =>
      rcases List.mem_cons.mp inside with rfl | found
      · rcases List.mem_cons.mp member with rfl | old
        · exact List.mem_cons_self
        · exact List.mem_cons_of_mem d (ih (split ▸ List.mem_cons_self) old)
      · exact later (List.mem_cons_of_mem first found)

end Text

theorem forall₂_of_mapM {α β : Type} {f : α → Option β} {xs : List α} {ys : List β}
    (mapped : xs.mapM f = some ys) : List.Forall₂ (fun x y => f x = some y) xs ys := by
  induction xs generalizing ys with
  | nil =>
    cases mapped
    exact .nil
  | cons x xs ih =>
    rw [List.mapM_cons] at mapped
    obtain ⟨y, first, later⟩ := Option.bind_eq_some_iff.mp mapped
    obtain ⟨more, rest, same⟩ := Option.bind_eq_some_iff.mp later
    cases same
    exact .cons first (ih rest)

namespace Url.Ipv4

open Decimal Text

theorem readDigits_digits (n : Nat) : readDigits 10 (digits n) = some n := by
  have read d (small : d < 10) : hexDigit? (Nat.digitChar d) = some d :=
    hexDigit?_toDigit (Nat.lt_trans small (by decide))
  rw [digits_eq_toDigits]
  refine toDigits_induction (by decide) (P := fun n cs => readDigits 10 cs = some n) ?_ ?_ n
  · intro d small
    simp [readDigits, read d small, small]
  · intro n d _ small ih
    rw [readDigits, List.foldlM_append]
    rw [readDigits] at ih
    simp [ih, read d small, small]

theorem readNumber_digits (n : Nat) : readNumber (digits n) = some n := by
  have radix : base (digits n) = (10, digits n) := by
    obtain ⟨d, rest, same, small, zero⟩ := toDigits_eq_cons (b := 10) (by decide) n
    rw [digits_eq_toDigits, same]
    by_cases none : d = 0
    next => simp [none, (zero none).1, base]
    next =>
      have other : ∀ d < 10, d ≠ 0 → Nat.digitChar d ≠ '0' := by decide
      unfold base
      split <;> simp_all
  have some : (digits n).isEmpty = false := by simp [digits_ne_nil]
  rw [readNumber, some, radix]
  exact readDigits_digits n

theorem dot_not_mem_digits (n : Nat) : '.' ∉ digits n := fun member => by
  obtain ⟨d, small, dot⟩ := mem_digits member
  have apart : ∀ d < 10, '.' ≠ Nat.digitChar d := by decide
  exact apart d small dot

def bytesOf (address : Nat) : List Nat :=
  [address / 16777216, address / 65536 % 256, address / 256 % 256, address % 256]

theorem print_eq (address : Nat) :
    print address = ['.'].intercalate ((bytesOf address).map digits) := rfl

theorem parts_print (address : Nat) :
    dropLastEmpty (splitOn '.' (print address)) = (bytesOf address).map digits := by
  have split : splitOn '.' (print address) = (bytesOf address).map digits := by
    rw [print_eq]
    refine splitOn_intercalate (List.cons_ne_nil _ _) fun part member => ?_
    obtain ⟨n, _, rfl⟩ := List.mem_map.mp member
    exact dot_not_mem_digits n
  rw [split, dropLastEmpty]
  simp [bytesOf, digits_ne_nil]

theorem combine_bytesOf {address : Nat} (bounded : address < 4294967296) :
    combine 4 (bytesOf address) = some address := by
  have first : address / 16777216 < 256 := by omega
  have second : address / 65536 % 256 < 256 := by omega
  have third : address / 256 % 256 < 256 := by omega
  have last : address % 256 < 256 := by omega
  simp only [bytesOf, combine, first, second, third, Nat.reduceSub, Nat.pow_eq, Nat.reducePow, last,
    if_true, Option.map_some, Option.some.injEq]
  omega

theorem parse_print {address : Nat} (bounded : address < 4294967296) :
    parse (print address) = some address := by
  have numbers : ((bytesOf address).map digits).mapM readNumber = some (bytesOf address) := by
    simp [bytesOf, readNumber_digits]
  have short : ¬((bytesOf address).map digits).length > 4 := by simp [bytesOf]
  simp only [parse, parts_print, numbers, short, if_false]
  exact combine_bytesOf bounded

theorem endsInNumber_print (address : Nat) : endsInNumber (print address) = true := by
  have last : ((bytesOf address).map digits).getLast? = some (digits (address % 256)) := rfl
  simp [endsInNumber, parts_print, last, readNumber_digits]

theorem combine_lt {bytes : Nat} {numbers : List Nat} {address : Nat}
    (room : numbers.length ≤ bytes) (combined : combine bytes numbers = some address) :
    address < 256 ^ bytes := by
  induction numbers generalizing bytes address with
  | nil => simp [combine] at combined
  | cons n rest ih =>
    cases rest with
    | nil =>
      simp only [combine] at combined
      split at combined
      next small =>
        cases combined
        exact small
      next => cases combined
    | cons next more =>
      obtain ⟨bytes, rfl⟩ : ∃ fewer, bytes = fewer + 1 := by
        simp only [List.length_cons] at room
        exact ⟨bytes - 1, by omega⟩
      simp only [combine, Nat.add_sub_cancel] at combined
      split at combined
      next small =>
        obtain ⟨lower, below, rfl⟩ := Option.map_eq_some_iff.mp combined
        have bound := ih (by simpa using room) below
        have front : n * 256 ^ bytes ≤ 255 * 256 ^ bytes := Nat.mul_le_mul_right _ (by omega)
        have power : Nat.pow 256 bytes = 256 ^ bytes := rfl
        rw [power, Nat.pow_succ]
        omega
      next => cases combined

theorem parse_lt {domain : List Char} {address : Nat} (parsed : parse domain = some address) :
    address < 4294967296 := by
  simp only [parse] at parsed
  split at parsed
  next => cases parsed
  next short =>
    obtain ⟨numbers, read, combined⟩ := Option.bind_eq_some_iff.mp parsed
    have count := (forall₂_of_mapM read).length_eq
    exact combine_lt (by omega) combined

end Url.Ipv4

end HotReload
