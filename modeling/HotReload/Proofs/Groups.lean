import HotReload.Proofs.Dotted
import HotReload.Url.Ipv6
import Mathlib.Data.List.TakeWhile

set_option autoImplicit false

namespace HotReload

theorem Decimal.hexDigit?_lt {c : Char} {d : Nat} (read : hexDigit? c = some d) : d < 16 := by
  unfold hexDigit? at read
  split at read
  next range =>
    cases read
    have upper : c.toNat ≤ 57 := range.2
    omega
  next =>
    split at read
    next range =>
      cases read
      have upper : c.toNat ≤ 102 := range.2
      omega
    next =>
      split at read
      next range =>
        cases read
        have upper : c.toNat ≤ 70 := range.2
        omega
      next => cases read

namespace Url.Ipv6

open Decimal Text

theorem readGroup_hexDigits (n : Nat) {count : Nat} (room : (hexDigits n).length ≤ count)
    (rest : List Char) :
    readGroup count 0 0 (hexDigits n ++ rest) =
      readGroup (count - (hexDigits n).length) (hexDigits n).length n rest := by
  revert count rest
  refine toDigits_induction (by decide) (P := fun n cs => ∀ {count}, cs.length ≤ count → ∀ rest,
    readGroup count 0 0 (cs ++ rest) = readGroup (count - cs.length) cs.length n rest) ?_ ?_ n
  · intro d small count room rest
    obtain ⟨count, rfl⟩ : ∃ fewer, count = fewer + 1 := ⟨count - 1, by simp at room; omega⟩
    simp [readGroup, hexDigit?_toDigit small]
  · intro n d _ small ih count room rest
    simp only [List.length_append, List.length_singleton] at room
    have left : count - (Nat.toDigits 16 n).length =
        count - ((Nat.toDigits 16 n).length + 1) + 1 := by omega
    rw [List.append_assoc, ih (by omega), left]
    simp [readGroup, hexDigit?_toDigit small]

theorem readGroup_group {group : Nat} (small : group < 65536) {rest : List Char}
    (ends : ∀ c, rest.head? = some c → c = ':') :
    readGroup 4 0 0 (hexDigits group ++ rest) = ((hexDigits group).length, group, rest) := by
  have bounded : group < 16 ^ 4 := small
  have room : (hexDigits group).length ≤ 4 :=
    (Nat.length_toDigits_le_iff (by decide) (by decide)).mpr bounded
  rw [readGroup_hexDigits group room]
  cases rest with
  | nil => cases 4 - (hexDigits group).length <;> rfl
  | cons c more =>
    rw [ends c rfl]
    cases 4 - (hexDigits group).length <;> rfl

theorem hexDigits_eq_cons (n : Nat) : ∃ c rest, hexDigits n = c :: rest ∧ c ≠ ':' := by
  obtain ⟨d, rest, same, small, _⟩ := toDigits_eq_cons (b := 16) (by decide) n
  have apart : ∀ d < 16, Nat.digitChar d ≠ ':' := by decide
  exact ⟨_, rest, same, apart d small⟩

theorem readGroups_last {group : Nat} (small : group < 65536) (space : Nat) (hasGap : Bool) :
    readGroups (space + 1) hasGap (hexDigits group) = some [some group] := by
  have read : readGroup 4 0 0 (hexDigits group ++ []) = ((hexDigits group).length, group, []) :=
    readGroup_group small nofun
  obtain ⟨c, rest, same, other⟩ := hexDigits_eq_cons group
  rw [List.append_nil, same] at read
  rw [same, readGroups, if_neg other, read]

theorem readGroups_next {group : Nat} (small : group < 65536) (space : Nat) (hasGap : Bool)
    {more : List Char} (nonempty : more ≠ []) :
    readGroups (space + 1) hasGap (hexDigits group ++ ':' :: more) =
      (readGroups space hasGap more).map (some group :: ·) := by
  have read : readGroup 4 0 0 (hexDigits group ++ ':' :: more) =
      ((hexDigits group).length, group, ':' :: more) := readGroup_group small (by simp)
  obtain ⟨c, rest, same, other⟩ := hexDigits_eq_cons group
  rw [same, List.cons_append] at read
  rw [same, List.cons_append, readGroups, if_neg other, read]
  simp [nonempty]

theorem readGroups_gap (space : Nat) (rest : List Char) :
    readGroups (space + 1) false (':' :: rest) = (readGroups space true rest).map (none :: ·) := by
  simp [readGroups]

theorem printGroups_singleton (group : Nat) : printGroups [group] = hexDigits group := by
  simp [printGroups]

theorem printGroups_cons (group next : Nat) (more : List Nat) :
    printGroups (group :: next :: more) = hexDigits group ++ ':' :: printGroups (next :: more) := by
  simp [printGroups]

theorem printGroups_ne_nil {groups : List Nat} (nonempty : groups ≠ []) :
    printGroups groups ≠ [] := by
  match groups, nonempty with
  | [group], _ =>
    obtain ⟨c, rest, same, _⟩ := hexDigits_eq_cons group
    simp [printGroups_singleton, same]
  | group :: next :: more, _ => simp [printGroups_cons]

theorem readGroups_printGroups {groups : List Nat} (small : ∀ group ∈ groups, group < 65536)
    {space : Nat} (room : groups.length ≤ space) (hasGap : Bool) :
    readGroups space hasGap (printGroups groups) = some (groups.map some) := by
  induction groups generalizing space with
  | nil => cases space <;> rfl
  | cons group rest ih =>
    have first := small group List.mem_cons_self
    simp only [List.length_cons] at room
    obtain ⟨space, rfl⟩ : ∃ fewer, space = fewer + 1 := ⟨space - 1, by omega⟩
    cases rest with
    | nil => simpa [printGroups_singleton] using readGroups_last first space hasGap
    | cons next more =>
      have later := ih (fun group member => small group (List.mem_cons_of_mem _ member))
        (Nat.le_of_succ_le_succ room)
      rw [printGroups_cons, readGroups_next first space hasGap (printGroups_ne_nil (by simp)),
        later]
      rfl

theorem readGroups_printGroups_gap {groups : List Nat} (small : ∀ group ∈ groups, group < 65536)
    (nonempty : groups ≠ []) {space : Nat} (room : groups.length < space) (tail : List Char) :
    readGroups space false (printGroups groups ++ ':' :: ':' :: tail) =
      (readGroups (space - groups.length - 1) true tail).map (groups.map some ++ none :: ·) := by
  induction groups generalizing space with
  | nil => exact absurd rfl nonempty
  | cons group rest ih =>
    have first := small group List.mem_cons_self
    simp only [List.length_cons] at room
    obtain ⟨space, rfl⟩ : ∃ fewer, space = fewer + 2 := ⟨space - 2, by omega⟩
    cases rest with
    | nil =>
      rw [printGroups_singleton, readGroups_next first (space + 1) false (List.cons_ne_nil _ _),
        readGroups_gap]
      simp [Function.comp_def]
    | cons next more =>
      have fewer : (next :: more).length < space + 1 := by simpa using room
      have later := ih (fun group member => small group (List.mem_cons_of_mem _ member))
        (by simp) fewer
      rw [printGroups_cons, List.append_assoc, List.cons_append,
        readGroups_next first (space + 1) false (by simp), later]
      simp [Function.comp_def]

theorem expand_whole {groups : List Nat} (count : groups.length = 8) :
    expand (groups.map some) = some groups := by
  have whole : (groups.map some).any Option.isNone = false := by simp
  simp [expand, whole, count]

theorem expand_gap (before after : List Nat) (fewer : before.length + after.length < 8) :
    expand (before.map some ++ none :: after.map some) =
      some (before ++ List.replicate (8 - before.length - after.length) 0 ++ after) := by
  have gap : (before.map some ++ none :: after.map some).any Option.isNone = true := by simp
  have front : (before.map some ++ none :: after.map some).takeWhile Option.isSome =
      before.map some := by
    rw [List.takeWhile_append_of_pos (by simp)]
    simp
  have back : (before.map some ++ none :: after.map some).dropWhile Option.isSome =
      none :: after.map some := by
    rw [List.dropWhile_append_of_pos (by simp)]
    simp
  simp [expand, gap, front, back, fewer]

theorem longestRun_eq (start : Nat) (groups : List Nat) :
    (longestRun start groups).2 = 0 ∨
    ∃ before after,
      groups = before ++ List.replicate (longestRun start groups).2 0 ++ after ∧
      start + before.length = (longestRun start groups).1 := by
  induction groups generalizing start with
  | nil => exact .inl rfl
  | cons group rest ih =>
    rw [longestRun]
    split
    next here =>
      refine .inr ⟨[], (group :: rest).dropWhile (· = 0), ?_, rfl⟩
      have zeros : (group :: rest).takeWhile (· = 0) =
          List.replicate (zeroRun (group :: rest)) 0 :=
        List.eq_replicate_of_mem fun n member => by
          simpa using List.mem_takeWhile_imp member
      rw [← zeros, List.nil_append, List.takeWhile_append_dropWhile]
    next later =>
      rcases ih (start + 1) with none | ⟨before, after, split, place⟩
      · exact .inl none
      · refine .inr ⟨group :: before, after, ?_, ?_⟩
        · rw [List.cons_append, List.cons_append, ← split]
        · simp only [List.length_cons]
          omega

theorem parse_of_ne_colon {c d : Char} (other : c ≠ ':') (rest : List Char) :
    parse (c :: d :: rest) = (readGroups 8 false (c :: d :: rest)).bind expand := by
  unfold parse
  split <;> simp_all

theorem parse_printGroups {groups : List Nat} (count : groups.length = 8)
    (small : ∀ group ∈ groups, group < 65536) : parse (printGroups groups) = some groups := by
  obtain ⟨group, next, more, rfl⟩ : ∃ group next more, groups = group :: next :: more := by
    match groups, count with
    | group :: next :: more, _ => exact ⟨group, next, more, rfl⟩
  have read := readGroups_printGroups small (Nat.le_of_eq count) false
  obtain ⟨c, rest, same, other⟩ := hexDigits_eq_cons group
  obtain ⟨d, tail, later⟩ : ∃ d tail, rest ++ ':' :: printGroups (next :: more) = d :: tail := by
    cases rest with
    | nil => exact ⟨_, _, rfl⟩
    | cons d rest => exact ⟨d, _, rfl⟩
  rw [printGroups_cons, same, List.cons_append, later] at read ⊢
  rw [parse_of_ne_colon other, read]
  exact expand_whole count

theorem parse_gap {before after : List Nat} (small : ∀ group ∈ before ++ after, group < 65536)
    (fewer : before.length + after.length < 7) :
    parse (printGroups before ++ ':' :: ':' :: printGroups after) =
      some (before ++ List.replicate (8 - before.length - after.length) 0 ++ after) := by
  obtain ⟨smallBefore, smallAfter⟩ := List.forall_mem_append.mp small
  cases before with
  | nil =>
    simp only [List.length_nil, Nat.zero_add] at fewer
    have room : after.length ≤ 7 := by omega
    have read := readGroups_printGroups smallAfter room true
    have begun : printGroups [] ++ ':' :: ':' :: printGroups after =
        ':' :: ':' :: printGroups after := rfl
    rw [begun, parse, read]
    exact expand_gap [] after (by simp; omega)
  | cons group more =>
    have room : (group :: more).length < 8 := by omega
    have read := readGroups_printGroups_gap smallBefore (List.cons_ne_nil _ _) room
      (printGroups after)
    rw [readGroups_printGroups smallAfter (by omega) true] at read
    obtain ⟨c, d, rest, same, other⟩ : ∃ c d rest, printGroups (group :: more) ++
        ':' :: ':' :: printGroups after = c :: d :: rest ∧ c ≠ ':' := by
      obtain ⟨c, digits, same, other⟩ := hexDigits_eq_cons group
      cases more with
      | nil =>
        rw [printGroups_singleton, same]
        cases digits with
        | nil => exact ⟨c, _, _, rfl, other⟩
        | cons d digits => exact ⟨c, d, _, rfl, other⟩
      | cons next more =>
        rw [printGroups_cons, same]
        cases digits with
        | nil => exact ⟨c, _, _, rfl, other⟩
        | cons d digits => exact ⟨c, d, _, rfl, other⟩
    rw [same] at read ⊢
    rw [parse_of_ne_colon other, read]
    exact expand_gap (group :: more) after (by omega)

theorem parse_print {groups : List Nat} (count : groups.length = 8)
    (small : ∀ group ∈ groups, group < 65536) : parse (print groups) = some groups := by
  unfold print
  split
  next start length run =>
    split
    next short => exact parse_printGroups count small
    next long =>
      rcases longestRun_eq 0 groups with none | ⟨before, after, split, place⟩
      · simp [run] at none
        omega
      · rw [run] at split place
        simp only [Nat.zero_add] at place
        have lengths := congrArg List.length split
        simp only [List.length_append, List.length_replicate] at lengths
        have front : groups.take start = before := by
          rw [split, List.append_assoc, ← place]
          simp
        have back : groups.drop (start + length) = after := by
          rw [split, ← place]
          simp
        have rest : ∀ group ∈ before ++ after, group < 65536 := fun group member =>
          small group (by
            rw [split]
            rcases List.mem_append.mp member with member | member <;> simp [member])
        have zeros : 8 - before.length - after.length = length := by omega
        rw [front, back, parse_gap rest (by omega), zeros, ← split]

theorem readGroup_lt (count taken value : Nat) (cs : List Char) :
    (readGroup count taken value cs).2.1 < (value + 1) * 16 ^ count := by
  fun_induction readGroup count taken value cs with
  | case1 count taken value c rest d read ih =>
    have step : value * 16 + d + 1 ≤ (value + 1) * 16 := by
      have := hexDigit?_lt read
      omega
    calc
      _ < (value * 16 + d + 1) * 16 ^ count := ih
      _ ≤ (value + 1) * 16 * 16 ^ count := Nat.mul_le_mul_right _ step
      _ = (value + 1) * 16 ^ (count + 1) := by rw [Nat.pow_succ, Nat.mul_assoc, Nat.mul_comm 16]
  | case2 count taken value c rest =>
    exact Nat.lt_of_lt_of_le (Nat.lt_succ_self value)
      (Nat.le_mul_of_pos_right _ (Nat.pow_pos (by decide)))
  | case3 count taken value cs =>
    exact Nat.lt_of_lt_of_le (Nat.lt_succ_self value)
      (Nat.le_mul_of_pos_right _ (Nat.pow_pos (by decide)))

theorem readByte_lt {part : List Char} {byte : Nat} (read : readByte part = some byte) :
    byte < 256 := by
  obtain ⟨digits, _, judged⟩ := Option.bind_eq_some_iff.mp read
  dsimp only at judged
  split at judged
  next => cases judged
  next fits =>
    split at judged
    next => cases judged
    next =>
      cases judged
      omega

theorem readDotted_lt {cs : List Char} {groups : List (Option Nat)}
    (read : readDotted cs = some groups) : ∀ group, some group ∈ groups → group < 65536 := by
  obtain ⟨bytes, mapped, read⟩ := Option.bind_eq_some_iff.mp read
  have small := forall₂_of_mapM mapped
  generalize splitOn '.' cs = parts at small
  split at read
  next a b c d =>
    cases read
    cases small with
    | cons first small =>
      cases small with
      | cons second small =>
        cases small with
        | cons third small =>
          cases small with
          | cons fourth _ =>
            have := readByte_lt first
            have := readByte_lt second
            have := readByte_lt third
            have := readByte_lt fourth
            intro group member
            simp only [List.mem_cons, Option.some.injEq, List.not_mem_nil, or_false] at member
            omega
  next => cases read

theorem readGroups_lt {space : Nat} {hasGap : Bool} {cs : List Char} {groups : List (Option Nat)}
    (read : readGroups space hasGap cs = some groups) :
    ∀ group, some group ∈ groups → group < 65536 := by
  have group_lt (cs : List Char) : (readGroup 4 0 0 cs).2.1 < 65536 := readGroup_lt 4 0 0 cs
  fun_induction readGroups space hasGap cs generalizing groups with
  | case1 =>
    cases read
    simp
  | case2 | case3 | case6 | case8 | case10 => cases read
  | case4 space hasGap rest _ ih =>
    obtain ⟨later, inner, rfl⟩ := Option.map_eq_some_iff.mp read
    simpa using ih inner
  | case5 space hasGap c rest _ _ value last =>
    cases read
    have small := group_lt (c :: rest)
    simpa [last] using small
  | case7 space hasGap c rest => exact readDotted_lt read
  | case9 space hasGap c rest _ taken value more next _ ih =>
    obtain ⟨later, inner, rfl⟩ := Option.map_eq_some_iff.mp read
    have small := group_lt (c :: rest)
    simp only [next] at small
    simpa [small] using ih inner

theorem expand_lt {read : List (Option Nat)} {groups : List Nat}
    (small : ∀ group, some group ∈ read → group < 65536) (expanded : expand read = some groups) :
    groups.length = 8 ∧ ∀ group ∈ groups, group < 65536 := by
  have kept (part : List (Option Nat)) (inside : ∀ x ∈ part, x ∈ read) :
      ∀ group ∈ part.filterMap id, group < 65536 := fun group member => by
    obtain ⟨x, member, rfl⟩ := List.mem_filterMap.mp member
    exact small group (inside _ member)
  unfold expand at expanded
  split at expanded
  next =>
    dsimp only at expanded
    split at expanded
    next fewer =>
      cases expanded
      constructor
      · simp only [List.length_append, List.length_replicate]
        omega
      · intro group member
        rcases List.mem_append.mp member with member | after
        · rcases List.mem_append.mp member with before | zero
          · exact kept _ (fun x => (List.takeWhile_sublist _).mem) group before
          · rw [List.eq_of_mem_replicate zero]
            decide
        · exact kept _ (fun x inside => (List.dropWhile_sublist _).mem (List.mem_of_mem_drop inside))
            group after
    next => cases expanded
  next whole =>
    split at expanded
    next count =>
      cases expanded
      refine ⟨?_, kept read fun _ => id⟩
      have gapless : none ∉ read := by simpa using whole
      rw [← count]
      refine List.filterMap_length_eq_length.mpr fun x member => ?_
      exact Option.isSome_iff_ne_none.mpr fun gap => gapless (gap ▸ member)
    next => cases expanded

theorem parse_lt {cs : List Char} {groups : List Nat} (parsed : parse cs = some groups) :
    groups.length = 8 ∧ ∀ group ∈ groups, group < 65536 := by
  unfold parse at parsed
  split at parsed
  · cases parsed
  · cases parsed
  · obtain ⟨read, mapped, expanded⟩ := Option.bind_eq_some_iff.mp parsed
    obtain ⟨later, read, rfl⟩ := Option.map_eq_some_iff.mp mapped
    exact expand_lt (by simpa using readGroups_lt read) expanded
  · cases parsed
  · obtain ⟨read, mapped, expanded⟩ := Option.bind_eq_some_iff.mp parsed
    exact expand_lt (readGroups_lt mapped) expanded

end Url.Ipv6

end HotReload
