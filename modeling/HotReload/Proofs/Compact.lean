import HotReload.Proofs.Tokens
import HotReload.Proofs.Trees

set_option autoImplicit false

namespace HotReload.Json

theorem digits_eq_cons (n : Nat) : ∃ c rest, Decimal.digits n = c :: rest ∧
    (Decimal.digit? c).isSome = true ∧ isBlank c = false ∧ c ≠ ']' := by
  obtain ⟨d, rest, same, digit, _⟩ := Decimal.toDigits_eq_cons (b := 10) (by decide) n
  have all : ∀ d < 10, (Decimal.digit? (Nat.digitChar d)).isSome = true ∧
      isBlank (Nat.digitChar d) = false ∧ Nat.digitChar d ≠ ']' := by decide
  exact ⟨_, rest, (Decimal.digits_eq_toDigits n).trans same, all d digit⟩

theorem print_eq_cons {v : Value} (exact : v.isExact = true) :
    ∃ c rest, v.print = c :: rest ∧ isBlank c = false ∧ c ≠ ']' := by
  cases v with
  | null => exact ⟨_, _, rfl, by decide⟩
  | bool b => cases b <;> exact ⟨_, _, rfl, by decide⟩
  | string s => exact ⟨_, _, rfl, by decide⟩
  | array items => exact ⟨_, _, rfl, by decide⟩
  | object members => exact ⟨_, _, rfl, by decide⟩
  | number n =>
    cases n with
    | float x => cases exact
    | integer n lower upper =>
      cases n with
      | negSucc n =>
        exact ⟨'-', Decimal.digits (n + 1), by simp [Value.print, Number.print, Decimal.ofInt],
          by decide⟩
      | ofNat n =>
        obtain ⟨c, rest, same, _, visible⟩ := digits_eq_cons n
        exact ⟨c, rest, by simp [Value.print, Number.print, Decimal.ofInt, Decimal.ofNat, same],
          visible⟩

theorem scanScalar?_digit {c : Char} (digit : (Decimal.digit? c).isSome = true) (rest : Input) :
    scanScalar? (c :: rest) = some (scanNumberValue false (c :: rest)) := by
  unfold scanScalar?
  split
  case h_6 => simp [startsWithDigit, digit]
  all_goals
    next same =>
      rw [(List.cons.inj same).1] at digit
      cases digit

theorem scanScalar?_integer {n : Int} (lower : minInteger ≤ n) (upper : n ≤ maxInteger)
    {rest : Input} (ends : endsToken rest = true) :
    scanScalar? ((Decimal.ofInt n).toList ++ rest) =
      some (.ok (.number (.integer n lower upper), rest)) := by
  cases n with
  | negSucc n =>
    have small : n + 1 < maxSignificand := by
      have least : minInteger = -9223372036854775808 := by simp [minInteger]
      have limit : maxSignificand = 18446744073709551616 := by decide
      omega
    have read := scanNumber_digits small ends true
    have whole : wholeNumber true (n + 1) = .integer (Int.negSucc n) lower upper := by
      refine wholeNumber_integer ?_ (.inr (Nat.succ_ne_zero n)) lower upper
      rfl
    simp [Decimal.ofInt, scanScalar?, scanNumberValue, read, whole, Except.map]
  | ofNat n =>
    have small : n < maxSignificand := by
      have greatest : maxInteger = 18446744073709551615 := rfl
      have limit : maxSignificand = 18446744073709551616 := by decide
      have bounded : (n : Int) ≤ maxInteger := upper
      omega
    have read := scanNumber_digits small ends false
    have whole : wholeNumber false n = .integer (Int.ofNat n) lower upper :=
      wholeNumber_integer rfl (.inl rfl) lower upper
    obtain ⟨c, more, same, digit, _⟩ := digits_eq_cons n
    have text : (Decimal.ofInt (Int.ofNat n)).toList = Decimal.digits n := by
      simp [Decimal.ofInt, Decimal.ofNat]
    rw [text, same, List.cons_append, scanScalar?_digit digit, ← List.cons_append, ← same,
      scanNumberValue, read, whole]
    rfl

theorem integer_ofNat {n : Nat} (small : n < UInt64.size) :
    ∃ lower upper, Value.ofNat n = .number (.integer n lower upper) := by
  have fits : (n : Int) ≤ maxInteger := by
    simp only [maxInteger]
    omega
  refine ⟨?_, fits, ?_⟩
  · simp only [minInteger]
    omega
  · simp [Value.ofNat, fits]

def printMember (member : String × Value) : List Char := printText member.1 ++ ':' :: member.2.print

theorem printItems_eq (items : List Value) : printItems items = listed true (items.map Value.print) := by
  induction items with
  | nil => rfl
  | cons item rest ih =>
    cases rest with
    | nil => simp [printItems, listed]
    | cons next more => simp [printItems, ih, listed]

theorem printMembers_eq (members : List (String × Value)) :
    printMembers members = listed true (members.map printMember) := by
  induction members with
  | nil => rfl
  | cons member rest ih =>
    cases rest with
    | nil => simp [printMembers, printMember, listed]
    | cons next more => simp [printMembers, printMember, ih, listed]

theorem length_le_listed {texts : List (List Char)} (nonempty : ∀ text ∈ texts, text ≠ [])
    (first : Bool) : texts.length ≤ (listed first texts).length := by
  induction texts generalizing first with
  | nil => exact Nat.zero_le _
  | cons text more ih =>
    have here := List.length_pos_iff.mpr (nonempty text List.mem_cons_self)
    have later := ih (fun text inside => nonempty text (List.mem_cons_of_mem _ inside)) false
    cases first <;> simp only [listed, List.length_cons, List.length_append] <;> omega

theorem length_le_listed_of_mem {texts : List (List Char)} {text : List Char}
    (inside : text ∈ texts) (first : Bool) : text.length ≤ (listed first texts).length := by
  induction texts generalizing first with
  | nil => cases inside
  | cons other more ih =>
    rcases List.mem_cons.mp inside with rfl | later
    · cases first <;> simp only [listed, List.length_cons, List.length_append] <;> omega
    · have := ih later false
      cases first <;> simp only [listed, List.length_cons, List.length_append] <;> omega

theorem room_listed {opening closing : Char} (gap : Gap) {texts : List (List Char)} {bound : Nat}
    (nonempty : ∀ text ∈ texts, text ≠ [])
    (room : (opening :: (gap.chars ++ (listed true texts ++ [closing]))).length ≤ bound) :
    texts.length < bound ∧ ∀ text ∈ texts, text.length ≤ bound := by
  have count := length_le_listed nonempty true
  simp only [List.length_cons, List.length_append] at room
  constructor
  · omega
  · intro text inside
    have within := length_le_listed_of_mem inside true
    omega

-- The value is read from its own text, whatever ends it.
def Reads (bound levels : Nat) (v : Value) : Prop :=
  ∀ rest, endsValue rest = true → readValue bound levels (v.print ++ rest) = .ok (v, rest)

def Refuses (bound levels : Nat) (v : Value) : Prop :=
  ∀ rest, endsValue rest = true →
    ∃ unread, readValue bound levels (v.print ++ rest) = .error ⟨.tooDeep, unread⟩

section walk

variable {α σ : Type} {bound levels : Nat} {walk : Nat → Bool → σ → Input → Except Failure (Scanned σ)}
  {text : α → List Char} {value : α → Value} {add : σ → α → Value → σ} {bracket : Char}

-- A walk that takes one entry after the other: lists and objects are read by such walks.
structure Walks (bound levels : Nat) (walk : Nat → Bool → σ → Input → Except Failure (Scanned σ))
    (text : α → List Char) (value : α → Value) (add : σ → α → Value → σ) (bracket : Char) : Prop where
  entry : ∀ fuel first state entry rest, (value entry).isExact = true →
    walk (fuel + 1) first state (listed first [text entry] ++ rest) =
      (readValue bound levels ((value entry).print ++ rest)).bind fun found =>
        walk fuel false (add state entry found.1) found.2
  stop : ∀ fuel first state rest, walk (fuel + 1) first state (bracket :: rest) =
    .ok (state, bracket :: rest)
  ends : ∀ rest, endsValue (bracket :: rest) = true

theorem endsValue_listed (ends : ∀ rest, endsValue (bracket :: rest) = true) (texts : List (List Char))
    (rest : Input) : endsValue (listed false texts ++ bracket :: rest) = true := by
  cases texts with
  | nil => exact ends rest
  | cons text more => rfl

theorem Walks.reads (walks : Walks bound levels walk text value add bracket) {entries : List α}
    (exact : ∀ entry ∈ entries, (value entry).isExact = true)
    (reads : ∀ entry ∈ entries, Reads bound levels (value entry))
    {fuel : Nat} (room : entries.length < fuel) (first : Bool) (state : σ) (rest : Input) :
    walk fuel first state (listed first (entries.map text) ++ bracket :: rest) =
      .ok (entries.foldl (fun state entry => add state entry (value entry)) state,
        bracket :: rest) := by
  induction entries generalizing fuel first state with
  | nil =>
    obtain ⟨fuel, rfl⟩ : ∃ fewer, fuel = fewer + 1 := ⟨fuel - 1, by simp at room; omega⟩
    exact walks.stop fuel first state rest
  | cons entry more ih =>
    obtain ⟨fuel, rfl⟩ : ∃ fewer, fuel = fewer + 1 := ⟨fuel - 1, by simp at room; omega⟩
    have read := reads entry List.mem_cons_self _ (endsValue_listed walks.ends (more.map text) rest)
    rw [List.map_cons, listed_cons, List.append_assoc,
      walks.entry _ _ _ _ _ (exact entry List.mem_cons_self), read]
    exact ih (fun entry inside => exact entry (List.mem_cons_of_mem _ inside))
      (fun entry inside => reads entry (List.mem_cons_of_mem _ inside))
      (by simpa using room) false _

theorem Walks.refuses (walks : Walks bound levels walk text value add bracket) {entries : List α}
    (exact : ∀ entry ∈ entries, (value entry).isExact = true)
    (judged : ∀ entry ∈ entries, Reads bound levels (value entry) ∨ Refuses bound levels (value entry))
    (refused : ∃ entry ∈ entries, Refuses bound levels (value entry))
    {fuel : Nat} (room : entries.length < fuel) (first : Bool) (state : σ) (rest : Input) :
    ∃ unread, walk fuel first state (listed first (entries.map text) ++ bracket :: rest) =
      .error ⟨.tooDeep, unread⟩ := by
  induction entries generalizing fuel first state with
  | nil => simp at refused
  | cons entry more ih =>
    obtain ⟨fuel, rfl⟩ : ∃ fewer, fuel = fewer + 1 := ⟨fuel - 1, by simp at room; omega⟩
    have ends := endsValue_listed walks.ends (more.map text) rest
    rw [List.map_cons, listed_cons, List.append_assoc,
      walks.entry _ _ _ _ _ (exact entry List.mem_cons_self)]
    rcases judged entry List.mem_cons_self with reads | refuses
    · rw [reads _ ends]
      have later : ∃ entry ∈ more, Refuses bound levels (value entry) := by
        obtain ⟨other, inside, refuses⟩ := refused
        rcases List.mem_cons.mp inside with rfl | later
        · obtain ⟨unread, failed⟩ := refuses _ ends
          cases failed.symm.trans (reads _ ends)
        · exact ⟨other, later, refuses⟩
      exact ih (fun entry inside => exact entry (List.mem_cons_of_mem _ inside))
        (fun entry inside => judged entry (List.mem_cons_of_mem _ inside)) later
        (by simpa using room) false _
    · obtain ⟨unread, failed⟩ := refuses _ ends
      rw [failed]
      exact ⟨unread, rfl⟩

end walk

theorem nextItem_listed {v : Value} (exact : v.isExact = true) (first : Bool) (rest : Input) :
    nextItem first (listed first [v.print] ++ rest) = .ok (some (v.print ++ rest)) := by
  obtain ⟨c, more, same, visible, other⟩ := print_eq_cons exact
  have comma : isBlank ',' = false := rfl
  cases first <;> simp [listed, nextItem, skipBlank, same, visible, other, comma]

theorem walks_list (bound levels : Nat) :
    Walks bound levels (walkList (pushItem bound levels)) Value.print id
      (fun items _ v => v :: items) ']' where
  entry fuel first items v rest exact := by
    rw [id_eq] at exact ⊢
    rw [walkList, nextItem_listed exact]
    simp only [pushItem]
    cases readValue bound levels (v.print ++ rest) <;> rfl
  stop fuel first items rest := rfl
  ends rest := rfl

theorem walkObject_member {σ : Type} (step : σ → String → Input → Except Failure (Scanned σ))
    {member : Member} {key : String} (names : member.Names key) (fuel : Nat) (first : Bool) (state : σ)
    (gap : Gap) (rest : Input) :
    walkObject step (fuel + 1) first state (gap.chars ++ (listed first [member.text] ++ rest)) =
      (step state key (member.label.behind.chars ++ ':' :: (member.value.text ++ rest))).bind
        fun found => walkObject step fuel false found.1 found.2 := by
  rw [walkObject, nextKey_gap, nextKey_member names.isString, scanKey_text names]
  dsimp only
  cases step state key (member.label.behind.chars ++ ':' :: (member.value.text ++ rest)) <;> rfl

theorem walkObject_listed {σ : Type} (step : σ → String → Input → Except Failure (Scanned σ))
    (fuel : Nat) (first : Bool) (state : σ) (key : String) (text : List Char) (rest : Input) :
    walkObject step (fuel + 1) first state (listed first [printText key ++ ':' :: text] ++ rest) =
      (step state key (':' :: (text ++ rest))).bind fun found =>
        walkObject step fuel false found.1 found.2 := by
  have walked := walkObject_member step (Member.compact_names key text) fuel first state .none rest
  rw [Member.compact_text] at walked
  simpa [Member.compact, Piece.text, Gap.none] using walked

theorem walks_object (bound levels : Nat) :
    Walks bound levels (walkObject (putMember bound levels)) printMember Prod.snd
      (fun members member v => insertMember member.1 v members) '\x7d' where
  entry fuel first members member rest exact := by
    have colon : scanColon (':' :: (member.2.print ++ rest)) = .ok (member.2.print ++ rest) := rfl
    rw [printMember, walkObject_listed]
    simp only [putMember, colon, bind, Except.bind]
    cases readValue bound levels (member.2.print ++ rest) <;> rfl
  stop fuel first members rest := rfl
  ends rest := rfl

theorem scanScalar?_print {v : Value} (flat : v.depth = 0) (exact : v.isExact = true) {rest : Input}
    (ends : endsToken rest = true) : scanScalar? (v.print ++ rest) = some (.ok (v, rest)) := by
  cases v with
  | null =>
    have read := scanIdent_append ['u', 'l', 'l'] rest
    exact congrArg (some ∘ Except.map fun rest => (Value.null, rest)) read
  | bool b =>
    cases b with
    | true =>
      have read := scanIdent_append ['r', 'u', 'e'] rest
      exact congrArg (some ∘ Except.map fun rest => (Value.bool true, rest)) read
    | false =>
      have read := scanIdent_append ['a', 'l', 's', 'e'] rest
      exact congrArg (some ∘ Except.map fun rest => (Value.bool false, rest)) read
  | number n =>
    cases n with
    | float x => cases exact
    | integer n lower upper => exact scanScalar?_integer lower upper ends
  | string s =>
    rw [Value.print, printText_append]
    simp [scanScalar?, scanText_escaped, Except.map]
  | array items => simp [Value.depth] at flat
  | object members => simp [Value.depth] at flat

theorem readValue_of_scalar {c : Char} (visible : isBlank c = false) {more : Input}
    {found : Except Failure (Scanned Value)} (scanned : scanScalar? (c :: more) = some found)
    (bound levels : Nat) : readValue bound levels (c :: more) = found := by
  have noList : c ≠ '[' := fun list => by
    subst list
    cases scanned
  have noObject : c ≠ '\x7b' := fun object => by
    subst object
    cases scanned
  unfold readValue
  simp [skipBlank, visible, noList, noObject, scanned]

theorem reads_scalar {v : Value} (flat : v.depth = 0) (exact : v.isExact = true)
    (bound levels : Nat) : Reads bound levels v := by
  intro rest ends
  have scanned := scanScalar?_print flat exact (endsToken_of_endsValue ends)
  obtain ⟨c, more, same, visible, _⟩ := print_eq_cons exact
  rw [same, List.cons_append] at scanned ⊢
  exact readValue_of_scalar visible scanned bound levels

theorem readValue_list (bound levels : Nat) (rest : Input) :
    readValue bound (levels + 1) ('[' :: rest) =
      (walkList (pushItem bound levels) bound true [] rest).bind fun found =>
        (closeList found.2).bind fun rest => .ok (.array found.1.reverse, rest) := by
  have visible : isBlank '[' = false := rfl
  rw [readValue]
  simp only [skipBlank, List.dropWhile_cons, visible]
  rfl

theorem readValue_object (bound levels : Nat) (rest : Input) :
    readValue bound (levels + 1) ('\x7b' :: rest) =
      (walkObject (putMember bound levels) bound true [] rest).bind fun found =>
        (closeObject found.2).bind fun rest => .ok (.object found.1, rest) := by
  have visible : isBlank '\x7b' = false := rfl
  rw [readValue]
  simp only [skipBlank, List.dropWhile_cons, visible]
  rfl

theorem refuses_container {v : Value} (deep : 0 < v.depth) (bound : Nat) : Refuses bound 0 v := by
  intro rest _
  cases v with
  | array items => exact ⟨_, rfl⟩
  | object members => exact ⟨_, rfl⟩
  | _ => cases deep

def Judged (bound levels : Nat) (v : Value) : Prop :=
  (v.depth ≤ levels → Reads bound levels v) ∧ (levels < v.depth → Refuses bound levels v)

theorem Judged.either {bound levels : Nat} {v : Value} (judged : Judged bound levels v) :
    Reads bound levels v ∨ Refuses bound levels v := by
  by_cases fits : v.depth ≤ levels
  next => exact .inl (judged.1 fits)
  next => exact .inr (judged.2 (Nat.lt_of_not_le fits))

theorem judged_array {bound levels : Nat} {items : List Value}
    (exact : ∀ item ∈ items, item.isExact = true) (room : items.length < bound)
    (judged : ∀ item ∈ items, Judged bound levels item) :
    Judged bound (levels + 1) (.array items) := by
  have walks := walks_list bound levels
  have text (rest : Input) : (Value.array items).print ++ rest =
      '[' :: (listed true (items.map Value.print) ++ ']' :: rest) := by
    simp [Value.print, printItems_eq]
  refine ⟨fun fits rest _ => ?_, fun deep rest _ => ?_⟩
  · have shallow := (depth_array_le items levels).mp fits
    have walked := walks.reads exact (fun item inside => (judged item inside).1 (shallow item inside))
      room true [] rest
    rw [text, readValue_list, walked]
    simp [Except.bind, closeList, skipBlank, isBlank]
  · obtain ⟨item, inside, deeper⟩ := (lt_depth_array items levels).mp deep
    have refused : ∃ item ∈ items, Refuses bound levels item :=
      ⟨item, inside, (judged item inside).2 deeper⟩
    obtain ⟨unread, failed⟩ := walks.refuses exact (fun item inside => (judged item inside).either)
      refused room true [] rest
    rw [text, readValue_list, failed]
    exact ⟨unread, rfl⟩

theorem print_object_append (members : List (String × Value)) (rest : Input) :
    (Value.object members).print ++ rest =
      '\x7b' :: (listed true (members.map printMember) ++ '\x7d' :: rest) := by
  simp [Value.print, printMembers_eq]

theorem readValue_members {bound levels : Nat} {members : List (String × Value)}
    (exact : ∀ member ∈ members, member.2.isExact = true) (room : members.length < bound)
    (reads : ∀ member ∈ members, Reads bound levels member.2) (rest : Input) :
    readValue bound (levels + 1) ((Value.object members).print ++ rest) =
      .ok (Value.ofMembers members, rest) := by
  have walked := (walks_object bound levels).reads exact reads room true [] rest
  rw [print_object_append, readValue_object, walked]
  simp [Except.bind, closeObject, skipBlank, isBlank, Value.ofMembers]

theorem judged_object {bound levels : Nat} {members : List (String × Value)}
    (keys : members.Pairwise fun one other => one.1 < other.1)
    (exact : ∀ member ∈ members, member.2.isExact = true) (room : members.length < bound)
    (judged : ∀ member ∈ members, Judged bound levels member.2) :
    Judged bound (levels + 1) (.object members) := by
  refine ⟨fun fits rest _ => ?_, fun deep rest _ => ?_⟩
  · have shallow := (depth_object_le members levels).mp fits
    have same : Value.ofMembers members = .object members :=
      congrArg Value.object (foldl_insertMember (List.nil_append members ▸ keys))
    rw [readValue_members exact room
      (fun member inside => (judged member inside).1 (shallow member inside)), same]
  · obtain ⟨member, inside, deeper⟩ := (lt_depth_object members levels).mp deep
    have refused : ∃ member ∈ members, Refuses bound levels member.2 :=
      ⟨member, inside, (judged member inside).2 deeper⟩
    obtain ⟨unread, failed⟩ := (walks_object bound levels).refuses exact
      (fun member inside => (judged member inside).either) refused room true [] rest
    rw [print_object_append, readValue_object, failed]
    exact ⟨unread, rfl⟩

theorem room_object {bound : Nat} {members : List (String × Value)}
    (room : (Value.object members).print.length ≤ bound) :
    members.length < bound ∧ ∀ member ∈ members, member.2.print.length ≤ bound := by
  have nonempty : ∀ text ∈ members.map printMember, text ≠ [] :=
    List.forall_mem_map.mpr fun member _ => by simp [printMember]
  rw [Value.print, printMembers_eq] at room
  obtain ⟨count, within⟩ := room_listed .none nonempty room
  constructor
  · simpa using count
  · intro member inside
    have whole := within _ (List.mem_map_of_mem inside)
    simp only [printMember, List.length_append, List.length_cons] at whole
    omega

theorem print_ne_nil {v : Value} (exact : v.isExact = true) : v.print ≠ [] := by
  obtain ⟨c, rest, same, _⟩ := print_eq_cons exact
  simp [same]

theorem judged_print {bound levels : Nat} {v : Value} (sorted : v.Sorted) (exact : v.isExact = true)
    (room : v.print.length ≤ bound) : Judged bound levels v := by
  induction levels generalizing v with
  | zero =>
    exact ⟨fun flat => reads_scalar (Nat.le_zero.mp flat) exact bound 0,
      fun deep => refuses_container deep bound⟩
  | succ levels ih =>
    cases sorted with
    | array inner =>
      rename_i items
      have exact := (isExact_array items).mp exact
      have nonempty : ∀ text ∈ items.map Value.print, text ≠ [] := by
        simpa using fun item inside => print_ne_nil (exact item inside)
      rw [Value.print, printItems_eq] at room
      obtain ⟨count, within⟩ := room_listed .none nonempty room
      exact judged_array exact (by simpa using count) fun item inside => ih (inner item inside)
        (exact item inside) (within _ (List.mem_map_of_mem inside))
    | object keys inner =>
      rename_i members
      have exact := (isExact_object members).mp exact
      obtain ⟨count, within⟩ := room_object room
      exact judged_object keys exact count fun member inside => ih (inner member inside)
        (exact member inside) (within member inside)
    | _ => exact ⟨fun _ => reads_scalar rfl exact bound _, fun deep => by cases deep⟩

end HotReload.Json
