import HotReload.Json.Skip
import HotReload.Proofs.Extent

set_option autoImplicit false

namespace HotReload.Json

theorem skipString_body {body : List Char} (isBody : IsBody body) (rest : Input) :
    skipString .plain (body ++ '"' :: rest) = .ok rest := by
  induction isBody with
  | nil => rfl
  | plain plain _ ih =>
    obtain ⟨quote, backslash, visible⟩ := of_decide_eq_true plain
    simpa [skipString, quote, backslash, visible] using ih
  | escape known _ ih => simpa [skipString, not_u_of_escaped known, known] using ih
  | code digits _ ih =>
    obtain ⟨unit, digits⟩ := Option.isSome_iff_exists.mp digits
    simp only [codeUnit?, bind, Option.bind_eq_some_iff, Option.some.injEq] at digits
    obtain ⟨first, isFirst, second, isSecond, third, isThird, fourth, isFourth, _⟩ := digits
    simpa [skipString, isFirst, isSecond, isThird, isFourth] using ih

section token

variable {rest : Input}

theorem skipExponent_digits {sign cs : List Char} (signs : sign = [] ∨ sign = ['+'] ∨ sign = ['-'])
    (nonempty : cs ≠ []) (digits : IsDigits cs) (ends : endsToken rest = true) :
    skipExponent (sign ++ (cs ++ rest)) = .ok rest := by
  have starts := startsWithDigit_digits nonempty digits rest
  have dropped := dropDigits_digits digits (startsWithDigit_of_endsToken ends)
  obtain ⟨c, more, rfl, plus, minus⟩ := head_of_digits nonempty digits
  rw [List.cons_append] at starts dropped
  rcases signs with rfl | rfl | rfl <;> simp [skipExponent, plus, minus, starts, dropped]

theorem skipFractionEnd_exponent {exponent : List Char} (isExponent : IsExponent exponent)
    (ends : endsToken rest = true) : skipFractionEnd (exponent ++ rest) = .ok rest := by
  cases isExponent with
  | none =>
    rcases head_of_endsToken ends with
      rfl | ⟨_, _, rfl, rfl | rfl | rfl | rfl | rfl | rfl | rfl⟩ <;> rfl
  | some marks signs nonempty digits =>
    have skipped := skipExponent_digits signs nonempty digits ends
    rcases marks with rfl | rfl <;> simpa [skipFractionEnd] using skipped

theorem skipSignificandEnd_fraction {fraction exponent : List Char} (isFraction : IsFraction fraction)
    (isExponent : IsExponent exponent) (ends : endsToken rest = true) :
    skipSignificandEnd (fraction ++ (exponent ++ rest)) = .ok rest := by
  have after := skipFractionEnd_exponent isExponent ends
  cases isFraction with
  | none =>
    rw [List.nil_append]
    unfold skipSignificandEnd
    split
    next same => exact absurd same (exponent_ne_point isExponent ends _)
    next => exact after
  | some nonempty digits =>
    have starts := startsWithDigit_digits nonempty digits (exponent ++ rest)
    have dropped := dropDigits_digits digits (startsWithDigit_exponent isExponent ends)
    simpa [skipSignificandEnd, starts, dropped] using after

theorem skipNumber_magnitude {cs : List Char} (magnitude : IsMagnitude cs)
    (ends : endsToken rest = true) : skipNumber (cs ++ rest) = .ok rest := by
  cases magnitude with
  | @parts whole fraction exponent isWhole isFraction isExponent =>
    have after := skipSignificandEnd_fraction isFraction isExponent ends
    have done := startsWithDigit_fraction isFraction isExponent ends
    rw [List.append_assoc, List.append_assoc]
    cases isWhole with
    | zero => simpa [skipNumber, done] using after
    | @positive c more nonzero digit digits =>
      have dropped : dropDigits (c :: (more ++ (fraction ++ (exponent ++ rest)))) =
          fraction ++ (exponent ++ rest) := by
        have all : IsDigits (c :: more) := List.forall_mem_cons.mpr ⟨digit, digits⟩
        simpa using dropDigits_digits all done
      have starts : startsWithDigit (c :: (more ++ (fraction ++ (exponent ++ rest)))) = true := digit
      simpa [skipNumber, nonzero, starts, dropped] using after

theorem skipScalar_digit {c : Char} (digit : (Decimal.digit? c).isSome = true) (rest : Input) :
    skipScalar (c :: rest) = skipNumber (c :: rest) := by
  unfold skipScalar
  split
  case h_6 => simp [startsWithDigit, digit]
  all_goals
    next same =>
      rw [(List.cons.inj same).1] at digit
      cases digit

theorem skipScalar_scalar {cs : List Char} (scalar : IsScalar cs) (ends : endsToken rest = true) :
    skipScalar (cs ++ rest) = .ok rest := by
  cases scalar with
  | null => exact scanIdent_append ['u', 'l', 'l'] rest
  | true => exact scanIdent_append ['r', 'u', 'e'] rest
  | false => exact scanIdent_append ['a', 'l', 's', 'e'] rest
  | unsigned magnitude =>
    have skipped := skipNumber_magnitude magnitude ends
    obtain ⟨c, more, rfl, digit⟩ := head_of_magnitude magnitude
    exact (skipScalar_digit digit (more ++ rest)).trans skipped
  | signed magnitude => exact skipNumber_magnitude magnitude ends
  | string quoted =>
    cases quoted with
    | quoted inner => simpa [skipScalar] using skipString_body inner rest

end token

theorem endsToken_listed (bracket : Bracket) (texts : List (List Char)) (rest : Input) :
    endsToken (listed false texts ++ bracket.closing :: rest) = true := by
  cases texts with
  | nil => cases bracket <;> rfl
  | cons text more => rfl

theorem skipFrom_gap (fuel : Nat) (brackets : List Bracket) (gap : Gap) (rest : Input) :
    skipFrom (fuel + 1) .value brackets (gap.chars ++ rest) =
      skipFrom (fuel + 1) .value brackets rest := by
  simp only [skipFrom, skipBlank_gap]

theorem skipFrom_gap_inside {point : SkipPoint} (inside : point ≠ .value) (fuel : Nat)
    (bracket : Bracket) (outer : List Bracket) (gap : Gap) (rest : Input) :
    skipFrom (fuel + 1) point (bracket :: outer) (gap.chars ++ rest) =
      skipFrom (fuel + 1) point (bracket :: outer) rest := by
  cases point with
  | value => exact absurd rfl inside
  | _ => simp only [skipFrom, skipBlank_gap]

theorem skipFrom_close {point : SkipPoint} (inside : point ≠ .value) (fuel : Nat) (bracket : Bracket)
    (outer : List Bracket) (rest : Input) :
    skipFrom (fuel + 1) point (bracket :: outer) (bracket.closing :: rest) =
      skipFrom fuel .afterValue outer rest := by
  have visible : isBlank bracket.closing = false := by cases bracket <;> rfl
  cases point with
  | value => exact absurd rfl inside
  | _ => simp [skipFrom, skipBlank_of_visible visible]

theorem beginEntry_skipBlank (bracket : Bracket) (fuel : Nat) (brackets : List Bracket) (cs : Input) :
    (beginEntry bracket (skipBlank cs)).bind (skipFrom (fuel + 1) .value brackets) =
      (beginEntry bracket cs).bind (skipFrom (fuel + 1) .value brackets) := by
  cases bracket with
  | square => simp only [beginEntry, Except.bind, skipFrom, skipBlank_skipBlank]
  | brace => simp only [beginEntry, skipKey, skipBlank_skipBlank]

-- The text is passed over as a value, in at most two steps for each of its characters.
def Skips (cs : List Char) : Prop :=
  ∃ steps, steps + 2 ≤ 2 * cs.length ∧ ∀ fuel brackets rest, endsToken rest = true →
    skipFrom (fuel + (steps + 1)) .value brackets (cs ++ rest) =
      skipFrom fuel .afterValue brackets rest

structure Passes (bracket : Bracket) (text : List Char) : Prop where
  shown : ∀ rest, ∃ c more, skipBlank (text ++ rest) = c :: more ∧ c ≠ bracket.closing
  passed : ∃ steps, steps + 2 ≤ 2 * text.length ∧ ∀ fuel outer rest, endsToken rest = true →
    (beginEntry bracket (text ++ rest)).bind
        (skipFrom (fuel + 1 + (steps + 1)) .value (bracket :: outer)) =
      skipFrom (fuel + 1) .afterValue (bracket :: outer) rest

theorem skipFrom_first {bracket : Bracket} {cs more : Input} {c : Char}
    (shown : skipBlank cs = c :: more) (other : c ≠ bracket.closing) (fuel : Nat)
    (outer : List Bracket) :
    skipFrom (fuel + 2) .firstEntry (bracket :: outer) cs =
      (beginEntry bracket cs).bind (skipFrom (fuel + 1) .value (bracket :: outer)) := by
  rw [← beginEntry_skipBlank, shown]
  simp only [skipFrom, shown, other, if_false, if_true]
  rfl

theorem skipFrom_next (bracket : Bracket) (cs : Input) (fuel : Nat) (outer : List Bracket) :
    skipFrom (fuel + 2) .afterValue (bracket :: outer) (',' :: cs) =
      (beginEntry bracket cs).bind (skipFrom (fuel + 1) .value (bracket :: outer)) := by
  have visible : isBlank ',' = false := rfl
  have other : ',' ≠ bracket.closing := by cases bracket <;> decide
  have later : SkipPoint.afterValue ≠ .firstEntry := by decide
  simp only [skipFrom, skipBlank_of_visible visible, other, later, if_false, if_true]
  rfl

def entryPoint (first : Bool) : SkipPoint := if first then .firstEntry else .afterValue

theorem skipFrom_entry {bracket : Bracket} {text : List Char} (passes : Passes bracket text)
    (first : Bool) (fuel : Nat) (outer : List Bracket) (rest : Input) :
    skipFrom (fuel + 2) (entryPoint first) (bracket :: outer) (listed first [text] ++ rest) =
      (beginEntry bracket (text ++ rest)).bind (skipFrom (fuel + 1) .value (bracket :: outer)) := by
  cases first with
  | true =>
    obtain ⟨c, more, shown, other⟩ := passes.shown rest
    simpa [entryPoint, listed] using skipFrom_first shown other fuel outer
  | false => simpa [entryPoint, listed] using skipFrom_next bracket (text ++ rest) fuel outer

theorem skipFrom_listed {bracket : Bracket} {texts : List (List Char)}
    (passes : ∀ text ∈ texts, Passes bracket text) (first : Bool) :
    ∃ steps, steps ≤ 2 * (listed first texts).length ∧ ∀ fuel outer rest,
      skipFrom (fuel + (steps + 1)) (entryPoint first) (bracket :: outer)
          (listed first texts ++ bracket.closing :: rest) =
        skipFrom fuel .afterValue outer rest := by
  induction texts generalizing first with
  | nil =>
    refine ⟨0, Nat.zero_le _, fun fuel outer rest => ?_⟩
    exact skipFrom_close (by cases first <;> decide) fuel bracket outer rest
  | cons text more ih =>
    have here := passes text List.mem_cons_self
    obtain ⟨steps, few, passed⟩ := here.passed
    obtain ⟨others, fewer, walked⟩ :=
      ih (fun text inside => passes text (List.mem_cons_of_mem _ inside)) false
    -- A step for what introduces the entry, those for its value, and those for the entries after it.
    refine ⟨others + 1 + (steps + 1), ?_, fun fuel outer rest => ?_⟩
    · rw [listed_cons]
      have here : text.length ≤ (listed first [text]).length := by cases first <;> simp [listed]
      rw [List.length_append]
      omega
    · have ends := endsToken_listed bracket more rest
      rw [listed_cons, List.append_assoc,
        show fuel + (others + 1 + (steps + 1) + 1) = fuel + others + 1 + steps + 2 by omega,
        skipFrom_entry here]
      exact (passed (fuel + others) outer _ ends).trans (walked fuel outer rest)

theorem skipKey_label {label : Piece} (string : IsString label.core) (rest : Input) :
    skipKey (label.text ++ ':' :: rest) = .ok rest := by
  have colon := scanColon_gap label.behind rest
  rw [skipKey, Piece.text_append, skipBlank_gap]
  obtain ⟨before, core, behind⟩ := label
  cases string with
  | @quoted body inner =>
    have read := skipString_body inner (behind.chars ++ ':' :: rest)
    simp [skipBlank_of_visible (show isBlank '"' = false from rfl), read, colon, bind, Except.bind]

theorem passes_item {item : Piece} (value : IsValue item.core) (skips : Skips item.core) :
    Passes .square item.text where
  shown rest := by
    obtain ⟨c, more, same, visible, other, _⟩ := head_of_value value
    refine ⟨c, more ++ (item.behind.chars ++ rest), ?_, other⟩
    rw [Piece.text_append, skipBlank_gap, skipBlank_value value, same]
    rfl
  passed := by
    obtain ⟨steps, few, skipped⟩ := skips
    refine ⟨steps, ?_, fun fuel outer rest ends => ?_⟩
    · simp only [Piece.text, List.length_append]
      omega
    · have after := skipped (fuel + 1) (.square :: outer) _ (endsToken_gap item.behind ends)
      rw [skipFrom_gap_inside (by decide)] at after
      rw [Piece.text_append]
      exact (skipFrom_gap _ _ item.before _).trans after

theorem passes_member {member : Member} (string : IsString member.label.core)
    (skips : Skips member.value.core) : Passes .brace member.text where
  shown rest := by
    have quoted : IsValue member.label.core := .scalar (.string string)
    obtain ⟨c, more, same, visible, _, other⟩ := head_of_value quoted
    refine ⟨c, more ++ (member.label.behind.chars ++ ':' :: (member.value.text ++ rest)), ?_, other⟩
    rw [Member.text_append, Piece.text_append, skipBlank_gap, skipBlank_value quoted, same]
    rfl
  passed := by
    obtain ⟨steps, few, skipped⟩ := skips
    refine ⟨steps, ?_, fun fuel outer rest ends => ?_⟩
    · simp only [Member.text, Piece.text, List.length_append, List.length_cons]
      omega
    · have after := skipped (fuel + 1) (.brace :: outer) _ (endsToken_gap member.value.behind ends)
      rw [skipFrom_gap_inside (by decide)] at after
      rw [Member.text_append, beginEntry, skipKey_label string, Piece.text_append]
      exact (skipFrom_gap _ _ member.value.before _).trans after

theorem skips_scalar {cs : List Char} (scalar : IsScalar cs) : Skips cs := by
  obtain ⟨c, more, rfl, visible, _⟩ := head_of_value (.scalar scalar)
  refine ⟨0, by simp only [List.length_cons]; omega, fun fuel brackets rest ends => ?_⟩
  have skipped := skipScalar_scalar scalar ends
  rw [List.cons_append] at skipped ⊢
  simp only [skipFrom, skipBlank_of_visible visible]
  split
  next none => cases none
  next list =>
    obtain ⟨rfl, rfl⟩ := List.cons.inj list
    cases skipped
  next object =>
    obtain ⟨rfl, rfl⟩ := List.cons.inj object
    cases skipped
  next => simp only [skipped, bind, Except.bind]

theorem skips_container {bracket : Bracket} {texts : List (List Char)}
    (passes : ∀ text ∈ texts, Passes bracket text) {opening : Char}
    (opens : ∀ fuel brackets rest, skipFrom (fuel + 1) .value brackets (opening :: rest) =
      skipFrom fuel .firstEntry (bracket :: brackets) rest) (gap : Gap) :
    Skips (opening :: (gap.chars ++ (listed true texts ++ [bracket.closing]))) := by
  obtain ⟨steps, few, walked⟩ := skipFrom_listed passes true
  refine ⟨steps + 1, ?_, fun fuel brackets rest _ => ?_⟩
  · simp only [List.length_cons, List.length_append]
    omega
  · have inside : entryPoint true ≠ .value := by decide
    have entered := skipFrom_gap_inside inside (fuel + steps) bracket brackets gap
      (listed true texts ++ bracket.closing :: rest)
    have text : opening :: (gap.chars ++ (listed true texts ++ [bracket.closing])) ++ rest =
        opening :: (gap.chars ++ (listed true texts ++ bracket.closing :: rest)) := by simp
    rw [text]
    exact (opens _ _ _).trans (entered.trans (walked fuel brackets rest))

theorem IsValue.skips {cs : List Char} (value : IsValue cs) : Skips cs := by
  induction value with
  | scalar scalar => exact skips_scalar scalar
  | list gap items inner ih =>
    have passes : ∀ text ∈ items.map Piece.text, Passes .square text :=
      List.forall_mem_map.mpr fun item inside => passes_item (inner item inside) (ih item inside)
    exact skips_container passes (fun _ _ _ => rfl) gap
  | object gap members labels inner ih =>
    have passes : ∀ text ∈ members.map Member.text, Passes .brace text :=
      List.forall_mem_map.mpr fun member inside =>
        passes_member (labels member inside) (ih member inside)
    exact skips_container passes (fun _ _ _ => rfl) gap

theorem skipValue_piece {bound : Nat} {piece : Piece} (value : IsValue piece.core)
    (room : piece.core.length ≤ bound) {rest : Input} (ends : endsToken rest = true) :
    skipValue bound (piece.text ++ rest) = .ok (piece.behind.chars ++ rest) := by
  obtain ⟨steps, few, skipped⟩ := value.skips
  have after := skipped (2 * bound - steps + 1) [] _ (endsToken_gap piece.behind ends)
  have fuel : 2 * bound - steps + 1 + (steps + 1) = 2 * bound + 1 + 1 := by omega
  rw [fuel] at after
  rw [skipValue, Piece.text_append, skipFrom_gap, after, skipFrom]
  · decide

end HotReload.Json
