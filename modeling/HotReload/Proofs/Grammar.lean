import HotReload.Json.Printer
import HotReload.Json.Reader
import HotReload.Proofs.Numerals
import Mathlib.Data.List.DropRight

set_option autoImplicit false

namespace HotReload.Json

structure Gap where
  chars : List Char
  blank : ∀ c ∈ chars, isBlank c = true

def Gap.none : Gap := ⟨[], by simp⟩

def listed : Bool → List (List Char) → List Char
  | _, [] => []
  | true, text :: more => text ++ listed false more
  | false, text :: more => ',' :: text ++ listed false more

structure Piece where
  before : Gap
  core : List Char
  behind : Gap

def Piece.text (piece : Piece) : List Char := piece.before.chars ++ (piece.core ++ piece.behind.chars)

structure Member where
  label : Piece
  value : Piece

def Member.text (member : Member) : List Char := member.label.text ++ ':' :: member.value.text

def Member.compact (key : String) (value : List Char) : Member :=
  ⟨⟨.none, printText key, .none⟩, ⟨.none, value, .none⟩⟩

def listCore (gap : Gap) (items : List Piece) : List Char :=
  '[' :: (gap.chars ++ (listed true (items.map Piece.text) ++ [']']))

def objectCore (gap : Gap) (members : List Member) : List Char :=
  '\x7b' :: (gap.chars ++ (listed true (members.map Member.text) ++ ['\x7d']))

def isPlain (c : Char) : Bool := c ≠ '"' ∧ c ≠ '\\' ∧ ¬ c < ' '

def codeUnit? (a b c d : Char) : Option Nat := do
  let a ← Decimal.hexDigit? a
  let b ← Decimal.hexDigit? b
  let c ← Decimal.hexDigit? c
  let d ← Decimal.hexDigit? d
  some (((a * 16 + b) * 16 + c) * 16 + d)

-- What may stand between quotes. Halves of surrogate pairs may stand alone.
inductive IsBody : List Char → Prop
  | nil : IsBody []
  | plain {c : Char} {body : List Char} (plain : isPlain c = true) (more : IsBody body) :
    IsBody (c :: body)
  | escape {c : Char} {body : List Char} (known : (escaped? c).isSome = true) (more : IsBody body) :
    IsBody ('\\' :: c :: body)
  | code {a b c d : Char} {body : List Char} (digits : (codeUnit? a b c d).isSome = true)
    (more : IsBody body) : IsBody ('\\' :: 'u' :: a :: b :: c :: d :: body)

inductive Spells : List Char → List Char → Prop
  | nil : Spells [] []
  | plain {c : Char} {body text : List Char} (plain : isPlain c = true) (more : Spells body text) :
    Spells (c :: body) (c :: text)
  | escape {c d : Char} {body text : List Char} (known : escaped? c = some d)
    (more : Spells body text) : Spells ('\\' :: c :: body) (d :: text)
  | code {a b c d : Char} {unit : Nat} {body text : List Char} (digits : codeUnit? a b c d = some unit)
    (notHigh : isHighSurrogate unit = false) (notLow : isLowSurrogate unit = false)
    (more : Spells body text) :
    Spells ('\\' :: 'u' :: a :: b :: c :: d :: body) (Char.ofNat unit :: text)
  | pair {a b c d e f g h : Char} {high low : Nat} {body text : List Char}
    (digits : codeUnit? a b c d = some high) (isHigh : isHighSurrogate high = true)
    (others : codeUnit? e f g h = some low) (isLow : isLowSurrogate low = true)
    (more : Spells body text) :
    Spells ('\\' :: 'u' :: a :: b :: c :: d :: '\\' :: 'u' :: e :: f :: g :: h :: body)
      (joinSurrogates high low :: text)

inductive IsString : List Char → Prop
  | quoted {body : List Char} (inner : IsBody body) : IsString ('"' :: (body ++ ['"']))

inductive IsText (s : String) : List Char → Prop
  | quoted {body : List Char} (inner : Spells body s.toList) : IsText s ('"' :: (body ++ ['"']))

def Member.Names (member : Member) (key : String) : Prop := IsText key member.label.core

def IsDigits (cs : List Char) : Prop := ∀ c ∈ cs, (Decimal.digit? c).isSome = true

inductive IsWhole : List Char → Prop
  | zero : IsWhole ['0']
  | positive {c : Char} {more : List Char} (nonzero : c ≠ '0')
    (digit : (Decimal.digit? c).isSome = true) (digits : IsDigits more) : IsWhole (c :: more)

inductive IsFraction : List Char → Prop
  | none : IsFraction []
  | some {cs : List Char} (nonempty : cs ≠ []) (digits : IsDigits cs) : IsFraction ('.' :: cs)

inductive IsExponent : List Char → Prop
  | none : IsExponent []
  | some {letter : Char} {sign cs : List Char} (marks : letter = 'e' ∨ letter = 'E')
    (signs : sign = [] ∨ sign = ['+'] ∨ sign = ['-']) (nonempty : cs ≠ []) (digits : IsDigits cs) :
    IsExponent (letter :: (sign ++ cs))

inductive IsMagnitude : List Char → Prop
  | parts {whole fraction exponent : List Char} (isWhole : IsWhole whole)
    (isFraction : IsFraction fraction) (isExponent : IsExponent exponent) :
    IsMagnitude (whole ++ (fraction ++ exponent))

inductive IsScalar : List Char → Prop
  | null : IsScalar ['n', 'u', 'l', 'l']
  | true : IsScalar ['t', 'r', 'u', 'e']
  | false : IsScalar ['f', 'a', 'l', 's', 'e']
  | unsigned {cs : List Char} (magnitude : IsMagnitude cs) : IsScalar cs
  | signed {cs : List Char} (magnitude : IsMagnitude cs) : IsScalar ('-' :: cs)
  | string {cs : List Char} (string : IsString cs) : IsScalar cs

inductive IsValue : List Char → Prop
  | scalar {cs : List Char} (scalar : IsScalar cs) : IsValue cs
  | list (gap : Gap) (items : List Piece) (inner : ∀ item ∈ items, IsValue item.core) :
    IsValue (listCore gap items)
  | object (gap : Gap) (members : List Member)
    (labels : ∀ member ∈ members, IsString member.label.core)
    (inner : ∀ member ∈ members, IsValue member.value.core) :
    IsValue (objectCore gap members)

def endsToken : Input → Bool
  | [] => true
  | c :: _ => isBlank c ∨ c = ',' ∨ c = ']' ∨ c = '\x7d'

theorem head_of_endsToken {rest : Input} (ends : endsToken rest = true) :
    rest = [] ∨ ∃ c more, rest = c :: more ∧
      (c = ' ' ∨ c = '\n' ∨ c = '\t' ∨ c = '\r' ∨ c = ',' ∨ c = ']' ∨ c = '\x7d') := by
  cases rest with
  | nil => exact .inl rfl
  | cons c more =>
    refine .inr ⟨c, more, rfl, ?_⟩
    simpa [endsToken, isBlank, or_assoc] using ends

theorem endsToken_gap (gap : Gap) {rest : Input} (ends : endsToken rest = true) :
    endsToken (gap.chars ++ rest) = true := by
  cases same : gap.chars with
  | nil => exact ends
  | cons c more =>
    have blank : isBlank c = true := gap.blank c (by simp [same])
    simp [endsToken, blank]

theorem startsWithDigit_of_endsToken {rest : Input} (ends : endsToken rest = true) :
    startsWithDigit rest = false := by
  rcases head_of_endsToken ends with
    rfl | ⟨_, _, rfl, rfl | rfl | rfl | rfl | rfl | rfl | rfl⟩ <;> rfl

theorem skipBlank_gap (gap : Gap) (rest : Input) : skipBlank (gap.chars ++ rest) = skipBlank rest :=
  List.dropWhile_append_of_pos gap.blank

theorem skipBlank_of_visible {c : Char} (visible : isBlank c = false) (rest : Input) :
    skipBlank (c :: rest) = c :: rest := by
  simp [skipBlank, visible]

theorem skipBlank_skipBlank (cs : Input) : skipBlank (skipBlank cs) = skipBlank cs :=
  List.dropWhile_idempotent isBlank cs

theorem listed_cons (first : Bool) (text : List Char) (more : List (List Char)) :
    listed first (text :: more) = listed first [text] ++ listed false more := by
  cases first <;> simp [listed]

theorem Piece.text_append (piece : Piece) (rest : Input) :
    piece.text ++ rest = piece.before.chars ++ (piece.core ++ (piece.behind.chars ++ rest)) := by
  simp [Piece.text]

theorem Member.text_append (member : Member) (rest : Input) :
    member.text ++ rest = member.label.text ++ ':' :: (member.value.text ++ rest) := by
  simp [Member.text]

theorem Spells.isBody {body text : List Char} (spells : Spells body text) : IsBody body := by
  induction spells with
  | nil => exact .nil
  | plain plain _ ih => exact .plain plain ih
  | escape known _ ih => exact .escape (by simp [known]) ih
  | code digits _ _ _ ih => exact .code (by simp [digits]) ih
  | pair digits _ others _ _ ih => exact .code (by simp [digits]) (.code (by simp [others]) ih)

theorem IsText.isString {s : String} {cs : List Char} (text : IsText s cs) : IsString cs := by
  cases text with
  | quoted inner => exact .quoted inner.isBody

theorem spells_escaped (text : List Char) : Spells (text.flatMap escapeChar) text := by
  induction text with
  | nil => exact .nil
  | cons c text ih =>
    rw [List.flatMap_cons]
    unfold escapeChar
    split
    case h_8 _ quote backslash _ _ _ _ _ =>
      split
      next control =>
        have small : c.toNat < 32 := control
        have first : Decimal.hexDigit? (Nat.digitChar (c.toNat / 16)) = some (c.toNat / 16) :=
          Decimal.hexDigit?_toDigit (by omega)
        have second : Decimal.hexDigit? (Nat.digitChar (c.toNat % 16)) = some (c.toNat % 16) :=
          Decimal.hexDigit?_toDigit (by omega)
        have zero : Decimal.hexDigit? '0' = some 0 := rfl
        have whole : c.toNat / 16 * 16 + c.toNat % 16 = c.toNat := by omega
        have digits : codeUnit? '0' '0' (Nat.digitChar (c.toNat / 16)) (Nat.digitChar (c.toNat % 16)) =
            some c.toNat := by simp [codeUnit?, zero, first, second, whole]
        have spelled := Spells.code digits (decide_eq_false (by omega)) (decide_eq_false (by omega)) ih
        rwa [Char.ofNat_toNat] at spelled
      next visible =>
        exact .plain (decide_eq_true ⟨quote, backslash, visible⟩) ih
    all_goals exact .escape rfl ih

theorem isText_print (s : String) : IsText s (printText s) := .quoted (spells_escaped s.toList)

theorem Member.compact_names (key : String) (value : List Char) : (compact key value).Names key :=
  isText_print key

theorem Member.compact_text (key : String) (value : List Char) :
    (compact key value).text = printText key ++ ':' :: value := by
  simp [compact, Member.text, Piece.text, Gap.none]

theorem isMagnitude_digits (n : Nat) : IsMagnitude (Decimal.digits n) := by
  obtain ⟨d, more, same, digit, zero⟩ := Decimal.toDigits_eq_cons (b := 10) (by decide) n
  have whole : IsWhole (Nat.digitChar d :: more) := by
    by_cases none : d = 0
    next =>
      obtain ⟨rfl, _⟩ := zero none
      rw [none]
      exact .zero
    next =>
      have nonzero : ∀ d < 10, d ≠ 0 → Nat.digitChar d ≠ '0' := by decide
      refine .positive (nonzero d digit none) (by simp [Decimal.digit?_toDigit digit]) ?_
      intro c member
      obtain ⟨e, small, rfl⟩ := Decimal.mem_toDigits (b := 10) (n := n) (by decide)
        (same ▸ List.mem_cons_of_mem _ member)
      simp [Decimal.digit?_toDigit small]
  rw [Decimal.digits_eq_toDigits, same]
  simpa using IsMagnitude.parts whole .none .none

end HotReload.Json
