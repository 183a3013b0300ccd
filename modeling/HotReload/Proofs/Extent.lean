import HotReload.Json.Typed
import HotReload.Proofs.Compact

set_option autoImplicit false

namespace HotReload.Json

-- If anything is read, just this is left.
def EndsAt {α : Type} (rest : Input) (outcome : Except Failure (Scanned α)) : Prop :=
  ∀ a left, outcome = .ok (a, left) → left = rest

section outcome

variable {α β : Type} {rest : Input}

theorem endsAt_ok (a : α) : EndsAt rest (.ok (a, rest)) := by
  rintro _ _ ⟨⟩
  rfl

theorem endsAt_error (failure : Failure) : EndsAt rest (.error failure : Except Failure (Scanned α)) := by
  rintro _ _ ⟨⟩

-- Whatever ends the token, the same is read from it; or nothing is.
def Decided (scan : Input → Except Failure (Scanned α)) (cs : List Char) : Prop :=
  (∃ a, ∀ rest, endsToken rest = true → scan (cs ++ rest) = .ok (a, rest)) ∨
    ∀ rest, endsToken rest = true → ∃ failure, scan (cs ++ rest) = .error failure

section decided

variable {scan : Input → Except Failure (Scanned α)} {cs : List Char}

theorem Decided.endsAt (decided : Decided scan cs) (ends : endsToken rest = true) :
    EndsAt rest (scan (cs ++ rest)) := by
  rcases decided with ⟨a, accepted⟩ | refused
  · rw [accepted rest ends]
    exact endsAt_ok a
  · obtain ⟨failure, failed⟩ := refused rest ends
    rw [failed]
    exact endsAt_error failure

theorem Decided.congr {other : Input → Except Failure (Scanned α)} {ds : List Char}
    (decided : Decided other ds)
    (same : ∀ rest, endsToken rest = true → scan (cs ++ rest) = other (ds ++ rest)) :
    Decided scan cs := by
  refine decided.imp ?_ ?_
  · rintro ⟨a, accepted⟩
    exact ⟨a, fun rest ends => (same rest ends).trans (accepted rest ends)⟩
  · intro refused rest ends
    rw [same rest ends]
    exact refused rest ends

theorem Decided.map (decided : Decided scan cs) (f : α → β) :
    Decided (fun cs => (scan cs).map fun found => (f found.1, found.2)) cs := by
  refine decided.imp ?_ ?_
  · rintro ⟨a, accepted⟩
    exact ⟨f a, fun rest ends => by simp only [accepted rest ends, Except.map]⟩
  · intro refused rest ends
    obtain ⟨failure, failed⟩ := refused rest ends
    exact ⟨failure, by simp only [failed, Except.map]⟩

end decided

end outcome

section string

theorem not_u_of_escaped {c : Char} (known : (escaped? c).isSome = true) : c ≠ 'u' := fun same => by
  subst same
  cases known

theorem scanString_sound {body : List Char} (isBody : IsBody body) (rest : Input) :
    (∀ read found left, scanString .plain read (body ++ '"' :: rest) = .ok (found, left) →
      left = rest ∧ ∃ text, found = read.reverse ++ text ∧ Spells body text) ∧
    ∀ high read found left, scanString (.pair high) read (body ++ '"' :: rest) = .ok (found, left) →
      left = rest ∧ ∃ a b c d low more text, body = '\\' :: 'u' :: a :: b :: c :: d :: more ∧
        codeUnit? a b c d = some low ∧ isLowSurrogate low = true ∧
        found = read.reverse ++ joinSurrogates high low :: text ∧ Spells more text := by
  -- Both at once: the escape of a high half leads from the first to the second, that of a low half back.
  induction isBody with
  | nil =>
    refine ⟨?_, fun high read found left scanned => by cases scanned⟩
    rintro read _ _ ⟨⟩
    exact ⟨rfl, [], by simp, .nil⟩
  | @plain c body plain _ ih =>
    obtain ⟨quote, backslash, visible⟩ := of_decide_eq_true plain
    refine ⟨fun read found left scanned => ?_, fun high read found left scanned => ?_⟩
    · obtain ⟨same, text, made, spells⟩ := ih.1 (c :: read) found left
        (by simpa [scanString, quote, backslash, visible] using scanned)
      exact ⟨same, c :: text, by simp [made], .plain plain spells⟩
    · simp [scanString, backslash, failOn] at scanned
  | @escape c body known _ ih =>
    have other := not_u_of_escaped known
    obtain ⟨d, known⟩ := Option.isSome_iff_exists.mp known
    refine ⟨fun read found left scanned => ?_, fun high read found left scanned => ?_⟩
    · obtain ⟨same, text, made, spells⟩ := ih.1 (d :: read) found left
        (by simpa [scanString, other, known] using scanned)
      exact ⟨same, d :: text, by simp [made], .escape known spells⟩
    · simp [scanString, other, failOn] at scanned
  | @code a b c d body digits _ ih =>
    obtain ⟨unit, digits⟩ := Option.isSome_iff_exists.mp digits
    refine ⟨fun read found left scanned => ?_, fun high read found left scanned => ?_⟩
    · simp only [List.cons_append, scanString_lone digits] at scanned
      split at scanned
      next => cases scanned
      next notLow =>
        have notLow : isLowSurrogate unit = false := by simpa using notLow
        split at scanned
        next isHigh =>
          obtain ⟨same, e, f, g, h, low, more, text, rfl, others, isLow, made, spells⟩ :=
            ih.2 unit read found left scanned
          exact ⟨same, _, made, .pair digits isHigh others isLow spells⟩
        next notHigh =>
          obtain ⟨same, text, made, spells⟩ := ih.1 (Char.ofNat unit :: read) found left scanned
          exact ⟨same, Char.ofNat unit :: text, by simp [made],
            .code digits (by simpa using notHigh) notLow spells⟩
    · simp only [List.cons_append, scanString_second digits] at scanned
      split at scanned
      next isLow =>
        obtain ⟨same, text, made, spells⟩ := ih.1 (joinSurrogates high unit :: read) found left scanned
        exact ⟨same, a, b, c, d, unit, body, text, rfl, digits, isLow, by simp [made], spells⟩
      next => cases scanned

theorem scanText_sound {body : List Char} (isBody : IsBody body) {rest left : Input} {s : String}
    (scanned : scanText (body ++ '"' :: rest) = .ok (s, left)) :
    left = rest ∧ Spells body s.toList := by
  obtain ⟨⟨found, left⟩, taken, made⟩ := bind_eq_ok.mp scanned
  cases made
  obtain ⟨same, text, rfl, spells⟩ := (scanString_sound isBody rest).1 [] found left taken
  exact ⟨same, by simpa using spells⟩

theorem scanKey_sound {cs : List Char} (string : IsString cs) {rest : Input}
    {found : Option (Scanned String)} (scanned : scanKey (cs ++ rest) = .ok found) :
    ∃ key, found = some (key, rest) ∧ IsText key cs := by
  cases string with
  | @quoted body inner =>
    obtain ⟨⟨key, left⟩, taken, rfl⟩ := map_eq_ok.mp scanned
    obtain ⟨rfl, spells⟩ := scanText_sound inner (by simpa using taken)
    exact ⟨key, rfl, .quoted spells⟩

theorem walkObject_end {σ : Type} (step : σ → String → Input → Except Failure (Scanned σ))
    (fuel : Nat) (first : Bool) (state : σ) (gap : Gap) (rest : Input) :
    walkObject step (fuel + 1) first state (gap.chars ++ '\x7d' :: rest) =
      .ok (state, gap.chars ++ '\x7d' :: rest) := by
  rw [walkObject, nextKey_gap]
  rfl

theorem walkObject_sound {σ : Type} {step : σ → String → Input → Except Failure (Scanned σ)}
    {member : Member} (string : IsString member.label.core) {fuel : Nat} {first : Bool}
    {state after : σ} {gap : Gap} {rest left : Input}
    (walked : walkObject step fuel first state (gap.chars ++ (listed first [member.text] ++ rest)) =
      .ok (after, left)) :
    ∃ fewer key found, member.Names key ∧
      step state key (member.label.behind.chars ++ ':' :: (member.value.text ++ rest)) = .ok found ∧
      walkObject step fewer false found.1 found.2 = .ok (after, left) := by
  cases fuel with
  | zero => cases walked
  | succ fuel =>
    rw [walkObject, nextKey_gap, nextKey_member string] at walked
    split at walked
    next => cases walked
    next scanned =>
      obtain ⟨key, none, _⟩ := scanKey_sound string scanned
      cases none
    next scanned =>
      obtain ⟨key, same, names⟩ := scanKey_sound string scanned
      cases same
      split at walked
      next => cases walked
      next stepped => exact ⟨fuel, _, _, names, stepped, walked⟩

theorem IsText.unique {one other : String} {cs : List Char} (text : IsText one cs)
    (same : IsText other cs) : one = other := by
  have read := (scanKey_text text []).symm.trans (scanKey_text same [])
  simpa using read

theorem Member.Names.iff {member : Member} {key : String} (names : member.Names key) (other : String) :
    member.Names other ↔ key = other :=
  ⟨names.unique, fun same => same ▸ names⟩

end string

section number

variable {rest : Input}

theorem dropDigits_digits {cs : List Char} (digits : IsDigits cs) (done : startsWithDigit rest = false) :
    dropDigits (cs ++ rest) = rest := by
  rw [dropDigits, List.dropWhile_append_of_pos digits]
  cases rest with
  | nil => rfl
  | cons c more => exact List.dropWhile_cons_of_neg (by simpa [startsWithDigit] using done)

theorem startsWithDigit_digits {cs : List Char} (nonempty : cs ≠ []) (digits : IsDigits cs)
    (rest : Input) : startsWithDigit (cs ++ rest) = true := by
  cases cs with
  | nil => exact absurd rfl nonempty
  | cons c more => exact digits c List.mem_cons_self

theorem collectDigits_append {cs : List Char} (digits : IsDigits cs) (limit value taken : Nat) :
    ∃ total count left, IsDigits left ∧ ∀ rest, startsWithDigit rest = false →
      collectDigits limit value taken (cs ++ rest) = (total, count, left ++ rest) := by
  induction cs generalizing value taken with
  | nil =>
    refine ⟨value, taken, [], List.forall_mem_nil _, fun rest done => ?_⟩
    cases rest with
    | nil => rfl
    | cons c more =>
      have other : Decimal.digit? c = none := by simpa [startsWithDigit] using done
      simp [collectDigits, other]
  | cons c more ih =>
    obtain ⟨first, later⟩ := List.forall_mem_cons.mp digits
    obtain ⟨d, digit⟩ := Option.isSome_iff_exists.mp first
    by_cases fits : value * 10 + d < limit
    next =>
      obtain ⟨total, count, left, leftover, collected⟩ := ih later (value * 10 + d) (taken + 1)
      refine ⟨total, count, left, leftover, fun rest done => ?_⟩
      simp [collectDigits, digit, fits, collected rest done]
    next =>
      refine ⟨value, taken, c :: more, digits, fun rest _ => ?_⟩
      simp [collectDigits, digit, fits]

theorem startsWithDigit_append {cs : List Char} (digits : IsDigits cs)
    (done : startsWithDigit rest = false) : startsWithDigit (cs ++ rest) = !cs.isEmpty := by
  cases cs with
  | nil => exact done
  | cons c more => exact digits c List.mem_cons_self

theorem startsWithDigit_exponent {exponent : List Char} (isExponent : IsExponent exponent)
    (ends : endsToken rest = true) : startsWithDigit (exponent ++ rest) = false := by
  cases isExponent with
  | none => exact startsWithDigit_of_endsToken ends
  | some marks _ _ _ => rcases marks with rfl | rfl <;> rfl

theorem startsWithDigit_fraction {fraction exponent : List Char} (isFraction : IsFraction fraction)
    (isExponent : IsExponent exponent) (ends : endsToken rest = true) :
    startsWithDigit (fraction ++ (exponent ++ rest)) = false := by
  cases isFraction with
  | none =>
    rw [List.nil_append]
    exact startsWithDigit_exponent isExponent ends
  | some _ _ => rfl

theorem head_of_digits {cs : List Char} (nonempty : cs ≠ []) (digits : IsDigits cs) :
    ∃ c more, cs = c :: more ∧ c ≠ '+' ∧ c ≠ '-' := by
  obtain ⟨c, more, rfl⟩ := List.exists_cons_of_ne_nil nonempty
  have digit : (Decimal.digit? c).isSome = true := digits c List.mem_cons_self
  refine ⟨c, more, rfl, ?_, ?_⟩ <;>
    · rintro rfl
      cases digit

theorem exponent_ne_point {exponent : List Char} (isExponent : IsExponent exponent)
    (ends : endsToken rest = true) (more : List Char) : exponent ++ rest ≠ '.' :: more := by
  cases isExponent with
  | none =>
    rcases head_of_endsToken ends with
      rfl | ⟨_, _, rfl, rfl | rfl | rfl | rfl | rfl | rfl | rfl⟩ <;> simp
  | some marks _ _ _ => rcases marks with rfl | rfl <;> simp

theorem decided_scanScaled (negative : Bool) (significand : Nat) (exponent : Int) :
    Decided (scanScaled negative significand exponent) [] := by
  unfold scanScaled
  cases scaled significand exponent with
  | some x => exact .inl ⟨_, fun _ _ => rfl⟩
  | none => exact .inr fun _ _ => ⟨_, rfl⟩

theorem scanExponent_sign {sign cs : List Char} (signs : sign = [] ∨ sign = ['+'] ∨ sign = ['-'])
    (nonempty : cs ≠ []) (digits : IsDigits cs) (negative : Bool) (significand : Nat) (start : Int)
    (rest : Input) :
    scanExponent negative significand start (sign ++ (cs ++ rest)) =
      let collected := collectDigits maxExponent 0 0 (cs ++ rest)
      if startsWithDigit collected.2.2 then
        if significand ≠ 0 ∧ sign ≠ ['-'] then failOn .numberOutOfRange collected.2.2
        else .ok (floatNumber negative 0, dropDigits collected.2.2)
      else scanScaled negative significand
        (if sign = ['-'] then start - collected.1 else start + collected.1) collected.2.2 := by
  have starts := startsWithDigit_digits nonempty digits rest
  obtain ⟨c, more, rfl, plus, minus⟩ := head_of_digits nonempty digits
  rw [List.cons_append] at starts ⊢
  rcases signs with rfl | rfl | rfl <;> simp [scanExponent, plus, minus, starts]

theorem decided_scanExponent {sign cs : List Char} (signs : sign = [] ∨ sign = ['+'] ∨ sign = ['-'])
    (nonempty : cs ≠ []) (digits : IsDigits cs) (negative : Bool) (significand : Nat) (start : Int) :
    Decided (scanExponent negative significand start) (sign ++ cs) := by
  obtain ⟨total, count, left, leftover, collected⟩ := collectDigits_append digits maxExponent 0 0
  have scanned rest (ends : endsToken rest = true) :=
    scanExponent_sign signs nonempty digits negative significand start rest
  simp only [← List.append_assoc] at scanned
  cases left with
  | nil =>
    apply (decided_scanScaled negative significand _).congr
    intro rest ends
    have done := startsWithDigit_of_endsToken ends
    rw [scanned rest ends, collected rest done]
    simp only [List.nil_append, done]
    rfl
  | cons c more =>
    have remains rest (ends : endsToken rest = true) :
        startsWithDigit (c :: more ++ rest) = true ∧ dropDigits (c :: more ++ rest) = rest :=
      ⟨leftover c List.mem_cons_self, dropDigits_digits leftover (startsWithDigit_of_endsToken ends)⟩
    by_cases large : significand ≠ 0 ∧ sign ≠ ['-']
    next =>
      refine .inr fun rest ends => ?_
      rw [scanned rest ends, collected rest (startsWithDigit_of_endsToken ends)]
      simp only [(remains rest ends).1, if_true, if_pos large]
      exact ⟨_, rfl⟩
    next =>
      refine .inl ⟨floatNumber negative 0, fun rest ends => ?_⟩
      rw [scanned rest ends, collected rest (startsWithDigit_of_endsToken ends)]
      simp only [(remains rest ends).1, (remains rest ends).2, if_true, if_neg large]

theorem decided_scanFractionEnd {exponent : List Char} (isExponent : IsExponent exponent)
    (negative : Bool) (significand : Nat) (start : Int) :
    Decided (scanFractionEnd negative significand start) exponent := by
  cases isExponent with
  | none =>
    apply (decided_scanScaled negative significand start).congr
    intro rest ends
    rcases head_of_endsToken ends with
      rfl | ⟨_, _, rfl, rfl | rfl | rfl | rfl | rfl | rfl | rfl⟩ <;> rfl
  | some marks signs nonempty digits =>
    apply (decided_scanExponent signs nonempty digits negative significand start).congr
    intro rest _
    rcases marks with rfl | rfl <;> rfl

theorem decided_scanFraction {cs exponent : List Char} (digits : IsDigits cs)
    (isExponent : IsExponent exponent) (negative : Bool) (significand : Nat) (start : Int) :
    Decided (scanFraction negative significand start) (cs ++ exponent) := by
  obtain ⟨total, count, left, leftover, collected⟩ :=
    collectDigits_append digits maxSignificand significand 0
  have scanned rest (ends : endsToken rest = true) :
      scanFraction negative significand start (cs ++ exponent ++ rest) =
        if count = 0 ∧ left.isEmpty then
          failOn (if (left ++ (exponent ++ rest)).isEmpty then .unfinishedValue else .invalidNumber)
            (left ++ (exponent ++ rest))
        else scanFractionEnd negative total (start - count) (exponent ++ rest) := by
    have done := startsWithDigit_exponent isExponent ends
    rw [List.append_assoc, scanFraction, collected _ done]
    simp [startsWithDigit_append leftover done, dropDigits_digits leftover done]
  by_cases empty : count = 0 ∧ left.isEmpty = true
  next =>
    refine .inr fun rest ends => ?_
    rw [scanned rest ends, if_pos empty]
    exact ⟨_, rfl⟩
  next =>
    apply (decided_scanFractionEnd isExponent negative total (start - count)).congr
    intro rest ends
    rw [scanned rest ends, if_neg empty]

theorem decided_scanSignificandEnd {fraction exponent : List Char} (isFraction : IsFraction fraction)
    (isExponent : IsExponent exponent) (negative : Bool) (significand : Nat) :
    Decided (scanSignificandEnd negative significand) (fraction ++ exponent) := by
  cases isFraction with
  | none =>
    cases isExponent with
    | none =>
      exact .inl ⟨_, fun rest ends => scanSignificandEnd_of_endsToken ends negative significand⟩
    | some marks signs nonempty digits =>
      apply (decided_scanExponent signs nonempty digits negative significand 0).congr
      intro rest _
      rcases marks with rfl | rfl <;> rfl
  | some nonempty digits =>
    exact (decided_scanFraction digits isExponent negative significand 0).congr fun _ _ => rfl

theorem decided_scanLongNumber {cs fraction exponent : List Char} (digits : IsDigits cs)
    (isFraction : IsFraction fraction) (isExponent : IsExponent exponent) (negative : Bool)
    (significand : Nat) :
    Decided (scanLongNumber negative significand) (cs ++ (fraction ++ exponent)) := by
  have dropped rest (ends : endsToken rest = true) :=
    dropDigits_digits digits (startsWithDigit_fraction isFraction isExponent ends)
  have length rest : ((cs ++ (fraction ++ (exponent ++ rest))).length : Int) -
      (fraction ++ (exponent ++ rest)).length = cs.length := by
    simp only [List.length_append]
    omega
  cases isFraction with
  | none =>
    apply (decided_scanFractionEnd isExponent negative significand cs.length).congr
    intro rest ends
    simp only [List.nil_append, List.append_assoc, scanLongNumber] at dropped length ⊢
    rw [dropped rest ends, length rest]
    split
    next same => exact absurd same (exponent_ne_point isExponent ends _)
    next => rfl
  | some nonempty others =>
    apply (decided_scanFraction others isExponent negative significand cs.length).congr
    intro rest ends
    simp only [List.append_assoc, scanLongNumber]
    rw [dropped rest ends, length rest]
    rfl

theorem scanNumber_digit {c : Char} (nonzero : c ≠ '0') (digit : (Decimal.digit? c).isSome = true)
    (negative : Bool) (rest : Input) :
    scanNumber negative (c :: rest) =
      let collected := collectDigits maxSignificand 0 0 (c :: rest)
      if startsWithDigit collected.2.2 then scanLongNumber negative collected.1 collected.2.2
      else scanSignificandEnd negative collected.1 collected.2.2 := by
  have starts : startsWithDigit (c :: rest) = true := digit
  simp [scanNumber, nonzero, starts]

theorem decided_scanNumber {cs : List Char} (magnitude : IsMagnitude cs) (negative : Bool) :
    Decided (scanNumber negative) cs := by
  cases magnitude with
  | @parts whole fraction exponent isWhole isFraction isExponent =>
    have done rest (ends : endsToken rest = true) :=
      startsWithDigit_fraction isFraction isExponent ends
    cases isWhole with
    | zero =>
      apply (decided_scanSignificandEnd isFraction isExponent negative 0).congr
      intro rest ends
      simp [scanNumber, done rest ends]
    | @positive c more nonzero digit digits =>
      have all : IsDigits (c :: more) := List.forall_mem_cons.mpr ⟨digit, digits⟩
      obtain ⟨total, count, left, leftover, collected⟩ :=
        collectDigits_append all maxSignificand 0 0
      have scanned rest (ends : endsToken rest = true) :
          scanNumber negative (c :: more ++ (fraction ++ exponent) ++ rest) =
            if left.isEmpty then
              scanSignificandEnd negative total (left ++ (fraction ++ (exponent ++ rest)))
            else scanLongNumber negative total (left ++ (fraction ++ (exponent ++ rest))) := by
        have taken := collected _ (done rest ends)
        have remains := startsWithDigit_append leftover (done rest ends)
        rw [List.cons_append] at taken
        rw [List.append_assoc, List.append_assoc, List.cons_append,
          scanNumber_digit nonzero digit, taken]
        simp only [remains]
        cases left <;> rfl
      cases left with
      | nil =>
        apply (decided_scanSignificandEnd isFraction isExponent negative total).congr
        intro rest ends
        rw [scanned rest ends, List.append_assoc]
        rfl
      | cons d others =>
        apply (decided_scanLongNumber leftover isFraction isExponent negative total).congr
        intro rest ends
        rw [scanned rest ends]
        simp

end number

section scalar

variable {rest : Input}

theorem head_of_magnitude {cs : List Char} (magnitude : IsMagnitude cs) :
    ∃ c more, cs = c :: more ∧ (Decimal.digit? c).isSome = true := by
  cases magnitude with
  | parts isWhole _ _ =>
    cases isWhole with
    | zero => exact ⟨_, _, rfl, rfl⟩
    | positive _ digit _ => exact ⟨_, _, rfl, digit⟩

theorem visible_of_digit {c : Char} (digit : (Decimal.digit? c).isSome = true) :
    isBlank c = false ∧ c ≠ ']' ∧ c ≠ '\x7d' := by
  refine ⟨?_, ?_, ?_⟩
  · refine Bool.eq_false_iff.mpr fun blank => ?_
    rcases of_decide_eq_true blank with rfl | rfl | rfl | rfl <;> cases digit
  all_goals
    rintro rfl
    cases digit

theorem head_of_value {cs : List Char} (value : IsValue cs) :
    ∃ c more, cs = c :: more ∧ isBlank c = false ∧ c ≠ ']' ∧ c ≠ '\x7d' := by
  cases value with
  | list gap items inner => exact ⟨_, _, rfl, by decide⟩
  | object gap members labels inner => exact ⟨_, _, rfl, by decide⟩
  | scalar scalar =>
    cases scalar with
    | unsigned magnitude =>
      obtain ⟨c, more, same, digit⟩ := head_of_magnitude magnitude
      exact ⟨c, more, same, visible_of_digit digit⟩
    | string quoted =>
      cases quoted
      exact ⟨_, _, rfl, by decide⟩
    | _ => exact ⟨_, _, rfl, by decide⟩

theorem skipBlank_value {cs : List Char} (value : IsValue cs) (rest : Input) :
    skipBlank (cs ++ rest) = cs ++ rest := by
  obtain ⟨c, more, rfl, visible, _⟩ := head_of_value value
  exact skipBlank_of_visible visible (more ++ rest)

def scanScalar (cs : Input) : Except Failure (Scanned Value) :=
  (scanScalar? cs).getD (failOn .expectedValue cs)

theorem scanScalar_of {cs : Input} {found : Except Failure (Scanned Value)}
    (scanned : scanScalar? cs = some found) : scanScalar cs = found := by
  rw [scanScalar, scanned, Option.getD_some]

theorem scanScalar?_text {s : String} {cs : List Char} (text : IsText s cs) (rest : Input) :
    scanScalar? (cs ++ rest) = some (.ok (.string s, rest)) := by
  cases text with
  | quoted inner => simp [scanScalar?, scanText_spells inner, Except.map]

theorem scanScalar?_quoted (body : List Char) (rest : Input) :
    scanScalar? ('"' :: (body ++ ['"']) ++ rest) =
      some ((scanText (body ++ '"' :: rest)).map fun found => (.string found.1, found.2)) := by
  simp [scanScalar?]

theorem scanScalar?_isSome {cs : List Char} (scalar : IsScalar cs) (rest : Input) :
    (scanScalar? (cs ++ rest)).isSome = true := by
  cases scalar with
  | unsigned magnitude =>
    obtain ⟨c, more, rfl, digit⟩ := head_of_magnitude magnitude
    rw [List.cons_append, scanScalar?_digit digit]
    rfl
  | string quoted =>
    cases quoted
    rw [scanScalar?_quoted]
    rfl
  | _ => rfl

theorem isText_of_scanned {cs : List Char} (scalar : IsScalar cs) {s : String} {left : Input}
    (scanned : scanScalar? (cs ++ rest) = some (.ok (.string s, left))) : IsText s cs := by
  have made {α : Type} {x : Except Failure α} {f : α → Scanned Value}
      (other : ∀ a, (f a).1 ≠ .string s) (mapped : some (x.map f) = some (.ok (.string s, left))) :
      IsText s cs := by
    obtain ⟨a, _, same⟩ := map_eq_ok.mp (Option.some.inj mapped)
    exact absurd (congrArg Prod.fst same) (other a)
  cases scalar with
  | null => exact made (by simp) scanned
  | true => exact made (by simp) scanned
  | false => exact made (by simp) scanned
  | signed magnitude => exact made (by simp) scanned
  | unsigned magnitude =>
    obtain ⟨c, more, rfl, digit⟩ := head_of_magnitude magnitude
    rw [List.cons_append, scanScalar?_digit digit] at scanned
    exact made (by simp) scanned
  | string quoted =>
    cases quoted with
    | @quoted body inner =>
      rw [scanScalar?_quoted] at scanned
      obtain ⟨⟨found, left⟩, read, same⟩ := map_eq_ok.mp (Option.some.inj scanned)
      cases same
      exact .quoted (scanText_sound inner read).2

theorem decided_scalar {cs : List Char} (scalar : IsScalar cs) : Decided scanScalar cs := by
  cases scalar with
  | null => exact .inl ⟨.null, fun _ ends => scanScalar_of (scanScalar?_print (v := .null) rfl rfl ends)⟩
  | true =>
    refine .inl ⟨.bool Bool.true, fun _ ends => scanScalar_of ?_⟩
    exact scanScalar?_print (v := .bool Bool.true) rfl rfl ends
  | false =>
    refine .inl ⟨.bool Bool.false, fun _ ends => scanScalar_of ?_⟩
    exact scanScalar?_print (v := .bool Bool.false) rfl rfl ends
  | unsigned magnitude =>
    apply ((decided_scanNumber magnitude Bool.false).map Value.number).congr
    obtain ⟨c, more, rfl, digit⟩ := head_of_magnitude magnitude
    exact fun rest _ => scanScalar_of (scanScalar?_digit digit (more ++ rest))
  | signed magnitude =>
    exact ((decided_scanNumber magnitude Bool.true).map Value.number).congr fun _ _ => rfl
  | @string cs quoted =>
    by_cases spelled : ∃ s, IsText s cs
    next =>
      obtain ⟨s, text⟩ := spelled
      exact .inl ⟨.string s, fun rest _ => scanScalar_of (scanScalar?_text text rest)⟩
    next =>
      -- Whatever was read would be spelled there, behind one end as well as behind another.
      cases quoted with
      | @quoted body inner =>
        refine .inr fun rest _ => ?_
        rw [scanScalar_of (scanScalar?_quoted body rest)]
        cases scanned : scanText (body ++ '"' :: rest) with
        | error failure => exact ⟨failure, rfl⟩
        | ok found => exact absurd ⟨found.1, .quoted (scanText_sound inner scanned).2⟩ spelled

theorem endsAt_scanScalar? {cs : List Char} (scalar : IsScalar cs) (ends : endsToken rest = true) :
    ∃ found, scanScalar? (cs ++ rest) = some found ∧ EndsAt rest found := by
  obtain ⟨found, scanned⟩ := Option.isSome_iff_exists.mp (scanScalar?_isSome scalar rest)
  have ended := (decided_scalar scalar).endsAt ends
  rw [scanScalar_of scanned] at ended
  exact ⟨found, scanned, ended⟩

theorem readScalarAs_of_scanned {α : Type} (shape : Shape α) {cs : Input}
    {found : Except Failure (Scanned Value)} (scanned : scanScalar? cs = some found) :
    readScalarAs shape cs = found.bind fun taken =>
      match shape.accept taken.1 with
      | .ok x => .ok (x, taken.2)
      | .error cause => failAt cause taken.2 := by
  unfold readScalarAs
  split
  next => cases scanned
  next => cases scanned
  next => cases scanned
  next =>
    rw [scanned]
    rcases found with e | ⟨value, rest⟩ <;> rfl

theorem endsAt_readScalarAs {α : Type} (shape : Shape α) {cs : List Char} (value : IsValue cs)
    (ends : endsToken rest = true) : EndsAt rest (readScalarAs shape (cs ++ rest)) := by
  cases value with
  | list gap items inner => exact endsAt_error _
  | object gap members labels inner => exact endsAt_error _
  | scalar scalar =>
    obtain ⟨found, scanned, ended⟩ := endsAt_scanScalar? scalar ends
    rw [readScalarAs_of_scanned shape scanned]
    rcases found with e | ⟨value, left⟩
    · exact endsAt_error e
    · obtain rfl := ended value left rfl
      dsimp only [Except.bind]
      split
      · exact endsAt_ok _
      · exact endsAt_error _

theorem readAs_piece {α : Type} (shape : Shape α) {piece : Piece} (value : IsValue piece.core)
    (rest : Input) : readAs shape (piece.text ++ rest) =
      readScalarAs shape (piece.core ++ (piece.behind.chars ++ rest)) := by
  rw [readAs, Piece.text_append, skipBlank_gap, skipBlank_value value]

theorem readAs_scanned {α : Type} {shape : Shape α} {piece : Piece} (valid : IsValue piece.core)
    {value : Value} {x : α}
    (scanned : scanScalar? (piece.core ++ (piece.behind.chars ++ rest)) =
      some (.ok (value, piece.behind.chars ++ rest)))
    (accepted : shape.accept value = .ok x) :
    readAs shape (piece.text ++ rest) = .ok (x, piece.behind.chars ++ rest) := by
  rw [readAs_piece shape valid, readScalarAs_of_scanned shape scanned]
  simp only [Except.bind, accepted]

theorem readAs_text {piece : Piece} {s : String} (text : IsText s piece.core) :
    readAs textShape (piece.text ++ rest) = .ok (s, piece.behind.chars ++ rest) :=
  readAs_scanned (.scalar (.string text.isString)) (scanScalar?_text text _) rfl

end scalar

section container

theorem scanColon_gap (gap : Gap) (rest : Input) : scanColon (gap.chars ++ ':' :: rest) = .ok rest := by
  rw [scanColon, skipBlank_gap, skipBlank_of_visible rfl]
  rfl

theorem closeObject_gap (gap : Gap) (rest : Input) :
    closeObject (gap.chars ++ '\x7d' :: rest) = .ok rest := by
  rw [closeObject, skipBlank_gap, skipBlank_of_visible rfl]
  rfl

theorem nextItem_gap (gap : Gap) (first : Bool) (cs : Input) :
    nextItem first (gap.chars ++ cs) = nextItem first cs := by
  simp only [nextItem, skipBlank_gap]

theorem nextItem_piece {item : Piece} (value : IsValue item.core) (first : Bool) (rest : Input) :
    nextItem first (listed first [item.text] ++ rest) =
      .ok (some (item.core ++ (item.behind.chars ++ rest))) := by
  have shown : skipBlank (item.text ++ rest) = item.core ++ (item.behind.chars ++ rest) := by
    rw [Piece.text_append, skipBlank_gap, skipBlank_value value]
  obtain ⟨c, more, same, _, other, _⟩ := head_of_value value
  rw [same, List.cons_append] at shown ⊢
  have comma : isBlank ',' = false := rfl
  cases first <;> simp [nextItem, listed, skipBlank_of_visible comma, shown, other]

theorem closeList_gap (gap : Gap) (rest : Input) :
    closeList (gap.chars ++ ']' :: rest) = .ok rest := by
  rw [closeList, skipBlank_gap, skipBlank_of_visible rfl]
  rfl

theorem length_core_le (piece : Piece) : piece.core.length ≤ piece.text.length := by
  simp only [Piece.text, List.length_append]
  omega

theorem room_listCore {gap : Gap} {items : List Piece} {bound : Nat}
    (nonempty : ∀ item ∈ items, item.core ≠ []) (room : (listCore gap items).length ≤ bound) :
    items.length < bound ∧ ∀ item ∈ items, item.core.length ≤ bound := by
  have texts : ∀ text ∈ items.map Piece.text, text ≠ [] :=
    List.forall_mem_map.mpr fun item inside => by simp [Piece.text, nonempty item inside]
  obtain ⟨count, within⟩ := room_listed gap texts room
  constructor
  · simpa using count
  · intro item inside
    exact (length_core_le item).trans (within _ (List.mem_map_of_mem inside))

theorem room_objectCore {gap : Gap} {members : List Member} {bound : Nat}
    (room : (objectCore gap members).length ≤ bound) :
    members.length < bound ∧ ∀ member ∈ members, member.value.core.length ≤ bound := by
  have texts : ∀ text ∈ members.map Member.text, text ≠ [] :=
    List.forall_mem_map.mpr fun member _ => by simp [Member.text]
  obtain ⟨count, within⟩ := room_listed gap texts room
  constructor
  · simpa using count
  · intro member inside
    have whole := within _ (List.mem_map_of_mem inside)
    have core := length_core_le member.value
    simp only [Member.text, List.length_append, List.length_cons] at whole
    omega

theorem listCore_append (gap : Gap) (items : List Piece) (rest : Input) :
    listCore gap items ++ rest =
      '[' :: (gap.chars ++ (listed true (items.map Piece.text) ++ ']' :: rest)) := by
  simp [listCore]

theorem objectCore_append (gap : Gap) (members : List Member) (rest : Input) :
    objectCore gap members ++ rest =
      '\x7b' :: (gap.chars ++ (listed true (members.map Member.text) ++ '\x7d' :: rest)) := by
  simp [objectCore]

theorem skipBlank_listCore (before gap behind : Gap) (items : List Piece) :
    skipBlank (Piece.text ⟨before, listCore gap items, behind⟩) =
      '[' :: (gap.chars ++ (listed true (items.map Piece.text) ++ ']' :: behind.chars)) := by
  rw [Piece.text, skipBlank_gap, listCore_append]
  exact skipBlank_of_visible rfl _

theorem skipBlank_objectCore (before gap behind : Gap) (members : List Member) :
    skipBlank (Piece.text ⟨before, objectCore gap members, behind⟩) =
      '\x7b' :: (gap.chars ++ (listed true (members.map Member.text) ++ '\x7d' :: behind.chars)) := by
  rw [Piece.text, skipBlank_gap, objectCore_append]
  exact skipBlank_of_visible rfl _

end container

end HotReload.Json
