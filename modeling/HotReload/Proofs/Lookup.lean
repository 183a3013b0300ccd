import HotReload.Unicode.Table
import Mathlib.Algebra.GroupWithZero.Nat

set_option autoImplicit false

namespace HotReload.Unicode

-- The rows of `r` stand in front of those of `s`, and the unfinished row has only grown.
def Reading.Extends (r s : Reading) : Prop :=
  ∃ row more, s.rows.toList ++ [s.row] = r.rows.toList ++ row :: more ∧
    r.row.toList <+: row.toList

namespace Reading.Extends

variable {r s : Reading}

theorem refl (r : Reading) : r.Extends r := ⟨r.row, [], rfl, List.prefix_rfl⟩

theorem endNumber (kept : r.Extends s) : r.Extends s.endNumber := by
  obtain ⟨row, more, same, front⟩ := kept
  unfold Reading.endNumber
  split
  next n _ =>
    rcases List.eq_nil_or_concat more with rfl | ⟨begun, last, rfl⟩
    · obtain ⟨rows, last⟩ := List.append_inj' same rfl
      cases last
      exact ⟨s.row.push n, [], by simp [rows], front.trans (by simp)⟩
    · rw [List.concat_eq_append, ← List.cons_append, ← List.append_assoc] at same
      obtain ⟨rows, _⟩ := List.append_inj' same rfl
      exact ⟨row, begun ++ [s.row.push n], by simp [rows], front⟩
  next => exact ⟨row, more, same, front⟩

theorem endRow (kept : r.Extends s) : r.Extends s.endRow := by
  obtain ⟨row, more, same, front⟩ := kept
  exact ⟨row, more ++ [#[]], by simp [Reading.endRow, same], front⟩

theorem feed (kept : r.Extends s) (c : Char) : r.Extends (s.feed c) := by
  unfold Reading.feed
  split
  next => exact kept
  next =>
    split
    next => exact kept.endNumber.endRow
    next => exact kept.endNumber

theorem feedLine (kept : r.Extends s) (line : String) : r.Extends (s.feedLine line) := by
  refine Extends.endNumber ?_
  generalize line.toList = cs
  induction cs generalizing s with
  | nil => exact kept
  | cons c rest ih => exact ih (kept.feed c)

theorem feedLines (kept : r.Extends s) (lines : List String) :
    r.Extends (lines.foldl Reading.feedLine s) := by
  induction lines generalizing s with
  | nil => exact kept
  | cons line rest ih => exact ih (kept.feedLine line)

end Reading.Extends

def begun (line : List Char) : Reading := (line.foldl Reading.feed {}).endNumber

theorem feedLine_eq (line : List Char) : ({} : Reading).feedLine (String.ofList line) = begun line := by
  simp [Reading.feedLine, begun]

def firstRow (line : List Char) : List Nat :=
  match (begun line).rows.toList with
  | [] => (begun line).row.toList
  | row :: _ => row.toList

theorem rowsOf_begins (line : List Char) (rest : List String) :
    (begun line).rows.toList <+: (rowsOf (String.ofList line :: rest)).toList := by
  obtain ⟨row, more, same, _⟩ := (Reading.Extends.refl (begun line)).feedLines rest
  refine ⟨(row :: more).dropLast, ?_⟩
  rw [rowsOf, List.foldl_cons, feedLine_eq,
    ← List.dropLast_append_of_ne_nil (List.cons_ne_nil row more), ← same, List.dropLast_concat]

theorem firstRow_begins (line : List Char) (rest : List String) :
    (rowsOf (String.ofList line :: rest)).getD 0 #[] = #[] ∨
      firstRow line <+: ((rowsOf (String.ofList line :: rest)).getD 0 #[]).toList := by
  obtain ⟨row, more, same, kept⟩ := (Reading.Extends.refl (begun line)).feedLines rest
  rw [rowsOf, List.foldl_cons, feedLine_eq, firstRow]
  generalize rest.foldl Reading.feedLine (begun line) = last at same
  obtain ⟨⟨finished⟩, _, _⟩ := last
  cases finished with
  | nil => exact .inl rfl
  | cons first later =>
    cases begun : (begun line).rows.toList with
    | nil =>
      rw [begun] at same
      cases (List.cons.inj same).1
      exact .inr kept
    | cons head tail =>
      rw [begun] at same
      cases (List.cons.inj same).1
      exact .inr List.prefix_rfl

def sums : Nat → List Nat → List Nat
  | _, [] => []
  | total, d :: rest => (total + d) :: sums (total + d) rest

theorem runningSums_eq (distances : Array Nat) :
    (runningSums distances).toList = sums 0 distances.toList := by
  have all (ds : List Nat) (done : Array Nat) (last : Nat) :
      (ds.foldl (fun s d => (s.1.push (s.2 + d), s.2 + d)) (done, last)).1.toList =
        done.toList ++ sums last ds := by
    induction ds generalizing done last with
    | nil => simp [sums]
    | cons d rest ih => simp [sums, ih]
  rw [runningSums, ← Array.foldl_toList]
  exact all distances.toList #[] 0

theorem sums_append (total : Nat) (front rest : List Nat) :
    sums total (front ++ rest) = sums total front ++ sums (total + front.sum) rest := by
  induction front generalizing total with
  | nil => rfl
  | cons d front ih => simp [sums, ih, Nat.add_assoc]

theorem le_of_mem_sums {total b : Nat} {distances : List Nat} (inside : b ∈ sums total distances) :
    total ≤ b := by
  induction distances generalizing total with
  | nil => cases inside
  | cons d rest ih =>
    rcases List.mem_cons.mp inside with rfl | later
    · omega
    · have := ih later
      omega

theorem countUpTo_spec (bounds : Array Nat) (x : Nat) {low high : Nat} (ordered : low ≤ high) :
    low ≤ countUpTo bounds x low high ∧ countUpTo bounds x low high ≤ high ∧
    (low < countUpTo bounds x low high → bounds.getD (countUpTo bounds x low high - 1) 0 ≤ x) := by
  fun_induction countUpTo bounds x low high with
  | case1 low high nonempty middle left ih =>
    obtain ⟨start, stop, last⟩ := ih (by omega)
    refine ⟨by omega, stop, fun _ => ?_⟩
    rcases Nat.lt_or_eq_of_le start with later | same
    · exact last later
    · rw [← same]
      exact left
  | case2 low high nonempty middle right ih =>
    obtain ⟨start, stop, last⟩ := ih (by omega)
    exact ⟨start, by omega, last⟩
  | case3 low high empty => exact ⟨Nat.le_refl low, ordered, fun less => by omega⟩

theorem countUpTo_front {distances : Array Nat} {front : List Nat} {x : Nat}
    (begins : front <+: distances.toList) (beyond : x < front.sum) :
    countUpTo (runningSums distances) x 0 (runningSums distances).size = 0 ∨
    ∃ i b, countUpTo (runningSums distances) x 0 (runningSums distances).size = i + 1 ∧
      (runningSums distances).getD i 0 = b ∧ (sums 0 front)[i]? = some b ∧ b ≤ x := by
  -- What comes after the front is at least its sum.
  obtain ⟨_, stop, last⟩ := countUpTo_spec (runningSums distances) x (Nat.zero_le _)
  generalize countUpTo (runningSums distances) x 0 (runningSums distances).size = count at stop last
  cases count with
  | zero => exact .inl rfl
  | succ i =>
    have low := last (Nat.succ_pos i)
    refine .inr ⟨i, _, rfl, rfl, ?_, low⟩
    obtain ⟨rest, whole⟩ := begins
    have split : (runningSums distances).toList = sums 0 front ++ sums front.sum rest := by
      rw [runningSums_eq, ← whole, sums_append, Nat.zero_add]
    have found : (runningSums distances).toList[i]? = some ((runningSums distances).getD i 0) := by
      simp [Nat.lt_of_succ_le stop]
    rw [split] at found
    by_cases early : i < (sums 0 front).length
    next => rwa [List.getElem?_append_left early] at found
    next =>
      rw [List.getElem?_append_right (Nat.le_of_not_lt early)] at found
      have least := le_of_mem_sums (List.mem_of_getElem? found)
      rw [Nat.add_sub_cancel] at low
      omega

theorem length_sums (total : Nat) (distances : List Nat) :
    (sums total distances).length = distances.length := by
  induction distances generalizing total with
  | nil => rfl
  | cons d rest ih => simp [sums, ih]

theorem countUpTo_of_lt {distances : Array Nat} {first x : Nat} (begins : [first] <+: distances.toList)
    (lower : x < first) : countUpTo (runningSums distances) x 0 (runningSums distances).size = 0 := by
  have beyond : x < [first].sum := by simpa using lower
  rcases countUpTo_front begins beyond with none | ⟨i, b, _, _, found, low⟩
  · exact none
  · cases i with
    | zero =>
      cases found
      omega
    | succ i => cases found

theorem contains_of_lt {line : List Char} {first : Nat} {c : Char} (begins : [first] <+: firstRow line)
    (lower : c.toNat < first) (rest : List String) :
    (CharSet.ofLines (String.ofList line :: rest)).contains c = false := by
  have none : countUpTo (CharSet.ofLines (String.ofList line :: rest)).bounds c.toNat 0
      (CharSet.ofLines (String.ofList line :: rest)).bounds.size = 0 := by
    rcases firstRow_begins line rest with empty | kept
    · simp [CharSet.ofLines, empty, runningSums, countUpTo]
    · exact countUpTo_of_lt (begins.trans kept) lower
  simp [CharSet.contains, none]

def firsts (line : List Char) : List Nat := (begun line).rows.toList.map fun row => row.getD 0 0

theorem firsts_begin (line : List Char) (rest : List String) :
    firsts line <+: ((rowsOf (String.ofList line :: rest)).map fun row => row.getD 0 0).toList := by
  rw [Array.toList_map]
  exact (rowsOf_begins line rest).map fun row => row.getD 0 0

theorem get_of_lt {line : List Char} {first : Nat} {c : Char} (begins : [first] <+: firsts line)
    (lower : c.toNat < first) (rest : List String) :
    (CharMap.ofLines (String.ofList line :: rest)).get c = 0 := by
  have none := countUpTo_of_lt (begins.trans (firsts_begin line rest)) lower
  exact if_pos none

theorem below?_of_lt {line : List Char} {first x : Nat} (begins : [first] <+: firsts line)
    (lower : x < first) (rest : List String) :
    (RowTable.ofLines (String.ofList line :: rest)).below? x = none :=
  if_pos (countUpTo_of_lt (begins.trans (firsts_begin line rest)) lower)

theorem find?_of_below? {table : RowTable} {x : Nat} (below : table.below? x = none) :
    table.find? x = none := by
  simp [RowTable.find?, below]

theorem row_of_first {line : List Char} {i b : Nat} (found : (sums 0 (firsts line))[i]? = some b)
    (rest : List String) : ∃ row, (begun line).rows.toList[i]? = some row ∧
      (rowsOf (String.ofList line :: rest))[i]? = some row := by
  have less : i < (begun line).rows.toList.length := by
    have := (List.getElem?_eq_some_iff.mp found).1
    simpa [length_sums, firsts] using this
  obtain ⟨more, whole⟩ := rowsOf_begins line rest
  refine ⟨(begun line).rows.toList[i], List.getElem?_eq_getElem less, ?_⟩
  rw [← Array.getElem?_toList, ← whole, List.getElem?_append_left less,
    List.getElem?_eq_getElem less]

theorem get_front (P : Nat → Prop) {line : List Char} {c : Char} (zero : P 0)
    (values : ∀ row ∈ (begun line).rows.toList, P (row.getD 1 0))
    (within : c.toNat < (firsts line).sum) (rest : List String) :
    P ((CharMap.ofLines (String.ofList line :: rest)).get c) := by
  have bounds : (CharMap.ofLines (String.ofList line :: rest)).bounds =
      runningSums ((rowsOf (String.ofList line :: rest)).map fun row => row.getD 0 0) := rfl
  rw [CharMap.get, bounds]
  rcases countUpTo_front (firsts_begin line rest) within with none | ⟨i, b, count, _, found, _⟩
  · rw [none]
    exact zero
  · obtain ⟨row, inside, same⟩ := row_of_first found rest
    have value : ((CharMap.ofLines (String.ofList line :: rest)).values.getD i 0) = row.getD 1 0 := by
      simp [CharMap.ofLines, same]
    rw [count]
    exact value ▸ values row (List.mem_of_getElem? inside)

end HotReload.Unicode
