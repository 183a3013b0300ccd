import HotReload.Proofs.Grammar

set_option autoImplicit false

namespace HotReload.Json

theorem scanIdent_append (letters : List Char) (rest : Input) :
    scanIdent letters (letters ++ rest) = .ok rest := by
  induction letters with
  | nil => rfl
  | cons c letters ih => simpa [scanIdent] using ih

theorem scanString_code {a b c d : Char} {unit : Nat} (digits : codeUnit? a b c d = some unit)
    (high : Option Nat) (read : List Char) (rest : Input) :
    scanString (.digits high 0 0) read (a :: b :: c :: d :: rest) =
      match high with
      | none =>
        if isLowSurrogate unit then failAt .loneSurrogate rest
        else if isHighSurrogate unit then scanString (.pair unit) read rest
        else scanString .plain (Char.ofNat unit :: read) rest
      | some high =>
        if isLowSurrogate unit then scanString .plain (joinSurrogates high unit :: read) rest
        else failAt .loneSurrogate rest := by
  simp only [codeUnit?, bind, Option.bind_eq_some_iff, Option.some.injEq] at digits
  obtain ⟨first, isFirst, second, isSecond, third, isThird, fourth, isFourth, rfl⟩ := digits
  cases high <;> simp [scanString, isFirst, isSecond, isThird, isFourth]

theorem scanString_lone {a b c d : Char} {unit : Nat} (digits : codeUnit? a b c d = some unit)
    (read : List Char) (rest : Input) :
    scanString .plain read ('\\' :: 'u' :: a :: b :: c :: d :: rest) =
      if isLowSurrogate unit then failAt .loneSurrogate rest
      else if isHighSurrogate unit then scanString (.pair unit) read rest
      else scanString .plain (Char.ofNat unit :: read) rest :=
  scanString_code digits none read rest

theorem scanString_second {a b c d : Char} {unit : Nat} (digits : codeUnit? a b c d = some unit)
    (high : Nat) (read : List Char) (rest : Input) :
    scanString (.pair high) read ('\\' :: 'u' :: a :: b :: c :: d :: rest) =
      if isLowSurrogate unit then scanString .plain (joinSurrogates high unit :: read) rest
      else failAt .loneSurrogate rest :=
  scanString_code digits (some high) read rest

theorem scanString_spells {body text : List Char} (spells : Spells body text) (read : List Char)
    (rest : Input) :
    scanString .plain read (body ++ '"' :: rest) = .ok (read.reverse ++ text, rest) := by
  induction spells generalizing read with
  | nil => simp [scanString]
  | plain plain _ ih =>
    obtain ⟨quote, backslash, visible⟩ := of_decide_eq_true plain
    simp [scanString, quote, backslash, visible, ih]
  | @escape c d body text known _ ih =>
    have other : c ≠ 'u' := fun same => by
      subst same
      cases known
    simp [scanString, other, known, ih]
  | code digits notHigh notLow _ ih =>
    simp [scanString_lone digits, notHigh, notLow, ih]
  | @pair a b c d e f g h high low body text digits isHigh others isLow _ ih =>
    have notLow : isLowSurrogate high = false := by
      simp only [isHighSurrogate, isLowSurrogate, decide_eq_true_eq, decide_eq_false_iff_not]
        at isHigh ⊢
      omega
    simp [scanString_lone digits, scanString_second others, isHigh, notLow, isLow, ih]

theorem scanText_spells {body : List Char} {s : String} (spells : Spells body s.toList)
    (rest : Input) : scanText (body ++ '"' :: rest) = .ok (s, rest) := by
  simp [scanText, scanString_spells spells, bind, Except.bind]

theorem scanText_escaped (s : String) (rest : Input) :
    scanText (s.toList.flatMap escapeChar ++ '"' :: rest) = .ok (s, rest) :=
  scanText_spells (spells_escaped s.toList) rest

theorem scanKey_text {key : String} {cs : List Char} (text : IsText key cs) (rest : Input) :
    scanKey (cs ++ rest) = .ok (some (key, rest)) := by
  cases text with
  | quoted inner => simp [scanKey, scanText_spells inner, Except.map]

theorem nextKey_gap (gap : Gap) (first : Bool) (cs : Input) :
    nextKey first (gap.chars ++ cs) = nextKey first cs := by
  simp only [nextKey, skipBlank_gap]

theorem nextKey_member {member : Member} (string : IsString member.label.core) (first : Bool)
    (rest : Input) :
    nextKey first (listed first [member.text] ++ rest) =
      scanKey (member.label.core ++
        (member.label.behind.chars ++ ':' :: (member.value.text ++ rest))) := by
  obtain ⟨⟨before, core, behind⟩, value⟩ := member
  cases string with
  | @quoted body inner =>
    have shown : skipBlank (Member.text ⟨⟨before, '"' :: (body ++ ['"']), behind⟩, value⟩ ++ rest) =
        '"' :: (body ++ ['"'] ++ (behind.chars ++ ':' :: (value.text ++ rest))) := by
      rw [Member.text_append, Piece.text_append, skipBlank_gap]
      exact skipBlank_of_visible rfl _
    have comma : isBlank ',' = false := rfl
    cases first <;> simp [nextKey, listed, skipBlank_of_visible comma, shown]

theorem printText_append (s : String) (rest : Input) :
    printText s ++ rest = '"' :: (s.toList.flatMap escapeChar ++ '"' :: rest) := by
  simp [printText]

def endsValue : Input → Bool
  | [] => true
  | c :: _ => c = ',' ∨ c = ']' ∨ c = '\x7d'

theorem head_of_endsValue {rest : Input} (ends : endsValue rest = true) :
    rest = [] ∨ ∃ c more, rest = c :: more ∧ (c = ',' ∨ c = ']' ∨ c = '\x7d') := by
  cases rest with
  | nil => exact .inl rfl
  | cons c more => exact .inr ⟨c, more, rfl, of_decide_eq_true ends⟩

theorem endsToken_of_endsValue {rest : Input} (ends : endsValue rest = true) :
    endsToken rest = true := by
  rcases head_of_endsValue ends with rfl | ⟨c, more, rfl, rfl | rfl | rfl⟩ <;> rfl

theorem scanSignificandEnd_of_endsToken {rest : Input} (ends : endsToken rest = true)
    (negative : Bool) (n : Nat) :
    scanSignificandEnd negative n rest = .ok (wholeNumber negative n, rest) := by
  rcases head_of_endsToken ends with
    rfl | ⟨_, _, rfl, rfl | rfl | rfl | rfl | rfl | rfl | rfl⟩ <;> rfl

theorem collectDigits_digits {limit n : Nat} (small : n < limit) {rest : Input}
    (done : startsWithDigit rest = false) :
    collectDigits limit 0 0 (Nat.toDigits 10 n ++ rest) = (n, (Nat.toDigits 10 n).length, rest) := by
  have step (value taken d : Nat) (digit : d < 10) (fits : value * 10 + d < limit)
      (rest : Input) : collectDigits limit value taken (Nat.digitChar d :: rest) =
        collectDigits limit (value * 10 + d) (taken + 1) rest := by
    simp [collectDigits, Decimal.digit?_toDigit digit, fits]
  have all : ∀ rest, n < limit → collectDigits limit 0 0 (Nat.toDigits 10 n ++ rest) =
      collectDigits limit n (Nat.toDigits 10 n).length rest := by
    refine Decimal.toDigits_induction (by decide)
      (P := fun n cs => ∀ rest, n < limit → collectDigits limit 0 0 (cs ++ rest) =
        collectDigits limit n cs.length rest) ?_ ?_ n
    · intro d digit rest small
      have fits : 0 * 10 + d < limit := by omega
      simpa using step 0 0 d digit fits rest
    · intro n d _ digit ih rest small
      rw [List.append_assoc, ih _ (by omega), List.singleton_append, step _ _ _ digit small]
      simp
  rw [all rest small]
  cases rest with
  | nil => rfl
  | cons c more =>
    have other : Decimal.digit? c = none := by simpa [startsWithDigit] using done
    simp [collectDigits, other]

theorem scanNumber_digits {n : Nat} (small : n < maxSignificand) {rest : Input}
    (ends : endsToken rest = true) (negative : Bool) :
    scanNumber negative (Decimal.digits n ++ rest) = .ok (wholeNumber negative n, rest) := by
  have done := startsWithDigit_of_endsToken ends
  have last := scanSignificandEnd_of_endsToken ends negative n
  obtain ⟨d, more, same, digit, zero⟩ := Decimal.toDigits_eq_cons (b := 10) (by decide) n
  have collected := collectDigits_digits small done
  rw [Decimal.digits_eq_toDigits]
  by_cases none : d = 0
  next =>
    obtain ⟨rfl, rfl⟩ := zero none
    rw [same, none]
    have read : scanNumber negative ('0' :: rest) = scanSignificandEnd negative 0 rest := by
      simp [scanNumber, done]
    exact read.trans last
  next =>
    have positive : Nat.digitChar d ≠ '0' := by
      have all : ∀ d < 10, d ≠ 0 → Nat.digitChar d ≠ '0' := by decide
      exact all d digit none
    have starts : startsWithDigit (Nat.digitChar d :: (more ++ rest)) = true := by
      simp [startsWithDigit, Decimal.digit?_toDigit digit]
    rw [same, List.cons_append] at collected ⊢
    unfold scanNumber
    split
    next none => cases none
    next zero => exact absurd (List.cons.inj zero).1 positive
    next =>
      simp only [starts, collected, done]
      exact last

theorem wholeNumber_integer {n : Nat} {value : Int} {negative : Bool}
    (same : (if negative then -n else n : Int) = value) (signed : negative = false ∨ n ≠ 0)
    (lower : minInteger ≤ value) (upper : value ≤ maxInteger) :
    wholeNumber negative n = .integer value lower upper := by
  have proper : !(negative ∧ n = 0) := by simpa using signed
  subst same
  simp only [wholeNumber]
  rw [dif_pos ⟨lower, upper, proper⟩]

end HotReload.Json
