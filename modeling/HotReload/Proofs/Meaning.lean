import HotReload.Proofs.Passage

set_option autoImplicit false

namespace HotReload.Json

-- A value whose text has at most so many brackets inside one another.
inductive Nested : Nat → List Char → Prop
  | scalar {levels : Nat} {cs : List Char} (scalar : IsScalar cs) : Nested levels cs
  | list {levels : Nat} (gap : Gap) (items : List Piece)
    (inner : ∀ item ∈ items, Nested levels item.core) : Nested (levels + 1) (listCore gap items)
  | object {levels : Nat} (gap : Gap) (members : List Member)
    (labels : ∀ member ∈ members, IsString member.label.core)
    (inner : ∀ member ∈ members, Nested levels member.value.core) :
    Nested (levels + 1) (objectCore gap members)

theorem Nested.isValue {levels : Nat} {cs : List Char} (nested : Nested levels cs) : IsValue cs := by
  induction nested with
  | scalar scalar => exact .scalar scalar
  | list gap items _ ih => exact .list gap items ih
  | object gap members labels _ ih => exact .object gap members labels ih

theorem IsValue.ne_nil {cs : List Char} (value : IsValue cs) : cs ≠ [] := by
  obtain ⟨c, more, rfl, _⟩ := head_of_value value
  exact List.cons_ne_nil c more

theorem Nested.mono {levels more : Nat} {cs : List Char} (nested : Nested levels cs)
    (within : levels ≤ more) : Nested more cs := by
  induction nested generalizing more with
  | scalar scalar => exact .scalar scalar
  | list gap items _ ih =>
    obtain ⟨more, rfl⟩ : ∃ fewer, more = fewer + 1 := ⟨more - 1, by omega⟩
    exact .list gap items fun item inside => ih item inside (Nat.le_of_succ_le_succ within)
  | object gap members labels _ ih =>
    obtain ⟨more, rfl⟩ : ∃ fewer, more = fewer + 1 := ⟨more - 1, by omega⟩
    exact .object gap members labels fun member inside =>
      ih member inside (Nat.le_of_succ_le_succ within)

theorem exists_nested {α : Type} {entries : List α} {core : α → List Char}
    (each : ∀ entry ∈ entries, ∃ levels, Nested levels (core entry)) :
    ∃ levels, ∀ entry ∈ entries, Nested levels (core entry) := by
  induction entries with
  | nil => exact ⟨0, List.forall_mem_nil _⟩
  | cons entry more ih =>
    obtain ⟨first, nested⟩ := each entry List.mem_cons_self
    obtain ⟨others, all⟩ := ih fun other inside => each other (List.mem_cons_of_mem entry inside)
    refine ⟨max first others, List.forall_mem_cons.mpr ⟨?_, fun other inside => ?_⟩⟩
    · exact nested.mono (Nat.le_max_left first others)
    · exact (all other inside).mono (Nat.le_max_right first others)

theorem IsValue.exists_nested {cs : List Char} (value : IsValue cs) : ∃ levels, Nested levels cs := by
  induction value with
  | scalar scalar => exact ⟨0, .scalar scalar⟩
  | list gap items _ ih =>
    obtain ⟨levels, all⟩ := Json.exists_nested ih
    exact ⟨levels + 1, .list gap items all⟩
  | object gap members labels _ ih =>
    obtain ⟨levels, all⟩ := Json.exists_nested ih
    exact ⟨levels + 1, .object gap members labels all⟩

inductive Runs {α σ : Type} (step : σ → α → σ → Prop) : σ → List α → σ → Prop
  | nil (state : σ) : Runs step state [] state
  | cons {state middle after : σ} {entry : α} {more : List α} (first : step state entry middle)
    (others : Runs step middle more after) : Runs step state (entry :: more) after

theorem Runs.append {α σ : Type} {step : σ → α → σ → Prop} {state middle after : σ}
    {front back : List α} (first : Runs step state front middle) (second : Runs step middle back after) :
    Runs step state (front ++ back) after := by
  induction first with
  | nil state => exact second
  | cons stepped _ ih => exact .cons stepped (ih second)

section walk

variable {α σ : Type} {walk : Nat → Bool → σ → Input → Except Failure (Scanned σ)}
  {text : α → List Char} {step : σ → α → σ → Prop} {bracket : Bracket}

structure Stops (walk : Nat → Bool → σ → Input → Except Failure (Scanned σ)) (bracket : Bracket) :
    Prop where
  -- Blanks before the closing bracket are left to whoever closes the container.
  close : ∀ fuel first state gap rest,
    walk (fuel + 1) first state (Gap.chars gap ++ bracket.closing :: rest) =
      .ok (state, gap.chars ++ bracket.closing :: rest)
  spent : ∀ first state cs, ∃ failure, walk 0 first state cs = .error failure

theorem walk_of_runs (stops : Stops walk bracket) {entries : List α}
    (next : ∀ entry ∈ entries, ∀ fuel first state after gap rest, step state entry after →
      endsToken rest = true → ∃ last : Gap,
        walk (fuel + 1) first state (Gap.chars gap ++ (listed first [text entry] ++ rest)) =
          walk fuel false after (last.chars ++ rest))
    {state after : σ} (runs : Runs step state entries after) {fuel : Nat}
    (enough : entries.length < fuel) (first : Bool) (gap : Gap) (rest : Input) :
    ∃ last : Gap, walk fuel first state
        (gap.chars ++ (listed first (entries.map text) ++ bracket.closing :: rest)) =
      .ok (after, last.chars ++ bracket.closing :: rest) := by
  induction runs generalizing fuel first gap with
  | nil state =>
    obtain ⟨fuel, rfl⟩ : ∃ fewer, fuel = fewer + 1 := ⟨fuel - 1, by simp at enough; omega⟩
    exact ⟨gap, stops.close fuel first state gap rest⟩
  | @cons state middle after entry more stepped _ ih =>
    obtain ⟨fuel, rfl⟩ : ∃ fewer, fuel = fewer + 1 := ⟨fuel - 1, by simp at enough; omega⟩
    have ends := endsToken_listed bracket (more.map text) rest
    obtain ⟨last, walked⟩ := next entry List.mem_cons_self fuel first state middle gap _ stepped ends
    rw [List.map_cons, listed_cons, List.append_assoc, walked]
    apply ih (fun other inside => next other (List.mem_cons_of_mem entry inside))
    simpa using enough

theorem runs_of_walk (step : σ → α → σ → Prop) (stops : Stops walk bracket) {entries : List α}
    (next : ∀ entry ∈ entries, ∀ fuel first state gap rest found, endsToken rest = true →
      walk fuel first state (Gap.chars gap ++ (listed first [text entry] ++ rest)) = .ok found →
        ∃ fewer middle last, step state entry middle ∧
          walk fewer false middle (Gap.chars last ++ rest) = .ok found)
    {fuel : Nat} {first : Bool} {state : σ} {gap : Gap} {rest : Input} {found : Scanned σ}
    (walked : walk fuel first state
      (gap.chars ++ (listed first (entries.map text) ++ bracket.closing :: rest)) = .ok found) :
    Runs step state entries found.1 ∧
      ∃ last : Gap, found.2 = last.chars ++ bracket.closing :: rest := by
  induction entries generalizing fuel first state gap with
  | nil =>
    -- A walk that has used up its bound has failed, and this one has not.
    cases fuel with
    | zero =>
      obtain ⟨failure, failed⟩ := stops.spent first state
        (gap.chars ++ (listed first ([].map text) ++ bracket.closing :: rest))
      cases failed.symm.trans walked
    | succ fuel =>
      cases (stops.close fuel first state gap rest).symm.trans walked
      exact ⟨.nil state, gap, rfl⟩
  | cons entry more ih =>
    have ends := endsToken_listed bracket (more.map text) rest
    rw [List.map_cons, listed_cons, List.append_assoc] at walked
    obtain ⟨fewer, middle, last, stepped, walked⟩ :=
      next entry List.mem_cons_self fuel first state gap _ found ends walked
    obtain ⟨others, left⟩ := ih (fun other inside => next other (List.mem_cons_of_mem entry inside)) walked
    exact ⟨.cons stepped others, left⟩

end walk

theorem stops_list {σ : Type} (step : σ → Input → Except Failure (Scanned σ)) :
    Stops (walkList step) .square where
  close fuel first state gap rest := by
    rw [walkList, nextItem_gap]
    rfl
  spent _ _ _ := ⟨_, rfl⟩

theorem stops_object {σ : Type} (step : σ → String → Input → Except Failure (Scanned σ)) :
    Stops (walkObject step) .brace where
  close := walkObject_end step
  spent _ _ _ := ⟨_, rfl⟩

theorem walkList_item {σ : Type} (step : σ → Input → Except Failure (Scanned σ)) {item : Piece}
    (value : IsValue item.core) (fuel : Nat) (first : Bool) (state : σ) (gap : Gap) (rest : Input) :
    walkList step (fuel + 1) first state (gap.chars ++ (listed first [item.text] ++ rest)) =
      (step state (item.core ++ (item.behind.chars ++ rest))).bind fun found =>
        walkList step fuel false found.1 found.2 := by
  rw [walkList, nextItem_gap, nextItem_piece value]
  dsimp only
  cases step state (item.core ++ (item.behind.chars ++ rest)) <;> rfl

-- The text is read as the value, whatever stands behind it.
def ReadsAs (levels : Nat) (cs : List Char) (v : Value) : Prop :=
  ∀ bound allowed rest, cs.length ≤ bound → levels ≤ allowed → endsToken rest = true →
    readValue bound allowed (cs ++ rest) = .ok (v, rest)

theorem readValue_piece (bound levels : Nat) {piece : Piece} (value : IsValue piece.core)
    (rest : Input) : readValue bound levels (piece.text ++ rest) =
      readValue bound levels (piece.core ++ (piece.behind.chars ++ rest)) := by
  rw [Piece.text_append]
  unfold readValue
  rw [skipBlank_gap, skipBlank_value value]

theorem putMember_value (bound levels : Nat) (members : List (String × Value)) (key : String)
    {member : Member} (value : IsValue member.value.core) (rest : Input) :
    putMember bound levels members key
        (member.label.behind.chars ++ ':' :: (member.value.text ++ rest)) =
      (readValue bound levels (member.value.core ++ (member.value.behind.chars ++ rest))).map
        fun found => (insertMember key found.1 members, found.2) := by
  rw [← readValue_piece bound levels value]
  simp only [putMember, scanColon_gap, bind, Except.bind]
  cases readValue bound levels (member.value.text ++ rest) <;> rfl

-- The last item comes first.
def Pushes (levels : Nat) (items : List Value) (item : Piece) (after : List Value) : Prop :=
  ∃ v, ReadsAs levels item.core v ∧ after = v :: items

def Puts (levels : Nat) (members : List (String × Value)) (member : Member)
    (after : List (String × Value)) : Prop :=
  ∃ key v, member.Names key ∧ ReadsAs levels member.value.core v ∧
    after = insertMember key v members

-- Whatever is read from the text is read from it everywhere.
def Settles (levels : Nat) (cs : List Char) : Prop :=
  ∀ bound allowed rest v left, endsToken rest = true →
    readValue bound allowed (cs ++ rest) = .ok (v, left) → left = rest ∧ ReadsAs levels cs v

section container

variable {bound allowed levels fuel : Nat} {first : Bool} {gap : Gap} {rest : Input}

theorem walkList_pushes {item : Piece} (value : IsValue item.core) (room : item.core.length ≤ bound)
    (deep : levels ≤ allowed) {items after : List Value} (pushes : Pushes levels items item after)
    (ends : endsToken rest = true) :
    walkList (pushItem bound allowed) (fuel + 1) first items
        (gap.chars ++ (listed first [item.text] ++ rest)) =
      walkList (pushItem bound allowed) fuel false after (item.behind.chars ++ rest) := by
  obtain ⟨v, reads, rfl⟩ := pushes
  have read := reads bound allowed _ room deep (endsToken_gap item.behind ends)
  rw [walkList_item _ value, pushItem, read]
  rfl

theorem pushes_of_walkList {item : Piece} (value : IsValue item.core)
    (settles : Settles levels item.core) {items : List Value} {found : Scanned (List Value)}
    (ends : endsToken rest = true)
    (walked : walkList (pushItem bound allowed) fuel first items
      (gap.chars ++ (listed first [item.text] ++ rest)) = .ok found) :
    ∃ fewer after last, Pushes levels items item after ∧
      walkList (pushItem bound allowed) fewer false after (Gap.chars last ++ rest) = .ok found := by
  cases fuel with
  | zero => cases walked
  | succ fuel =>
    rw [walkList_item _ value] at walked
    obtain ⟨⟨after, left⟩, pushed, walked⟩ := bind_eq_ok.mp walked
    obtain ⟨⟨v, left⟩, read, same⟩ := map_eq_ok.mp pushed
    obtain ⟨rfl, reads⟩ := settles _ _ _ _ _ (endsToken_gap item.behind ends) read
    cases same
    exact ⟨fuel, v :: items, item.behind, ⟨v, reads, rfl⟩, walked⟩

theorem walkObject_puts {member : Member} (value : IsValue member.value.core)
    (room : member.value.core.length ≤ bound) (deep : levels ≤ allowed)
    {members after : List (String × Value)} (puts : Puts levels members member after)
    (ends : endsToken rest = true) :
    walkObject (putMember bound allowed) (fuel + 1) first members
        (gap.chars ++ (listed first [member.text] ++ rest)) =
      walkObject (putMember bound allowed) fuel false after (member.value.behind.chars ++ rest) := by
  obtain ⟨key, v, names, reads, rfl⟩ := puts
  have read := reads bound allowed _ room deep (endsToken_gap member.value.behind ends)
  rw [walkObject_member _ names, putMember_value _ _ _ _ value, read]
  rfl

theorem puts_of_walkObject {member : Member} (label : IsString member.label.core)
    (value : IsValue member.value.core) (settles : Settles levels member.value.core)
    {members : List (String × Value)} {found : Scanned (List (String × Value))}
    (ends : endsToken rest = true)
    (walked : walkObject (putMember bound allowed) fuel first members
      (gap.chars ++ (listed first [member.text] ++ rest)) = .ok found) :
    ∃ fewer after last, Puts levels members member after ∧
      walkObject (putMember bound allowed) fewer false after (Gap.chars last ++ rest) = .ok found := by
  obtain ⟨after, left⟩ := found
  obtain ⟨fewer, key, ⟨middle, left⟩, names, put, walked⟩ := walkObject_sound label walked
  rw [putMember_value _ _ _ _ value] at put
  obtain ⟨⟨v, left⟩, read, same⟩ := map_eq_ok.mp put
  obtain ⟨rfl, reads⟩ := settles _ _ _ _ _ (endsToken_gap member.value.behind ends) read
  cases same
  exact ⟨fewer, _, member.value.behind, ⟨key, v, names, reads, rfl⟩, walked⟩

theorem settles_list {items : List Piece} (inner : ∀ item ∈ items, Nested levels item.core)
    (settles : ∀ item ∈ items, Settles levels item.core) :
    Settles (levels + 1) (listCore gap items) := by
  intro bound allowed rest v left ends read
  rw [listCore_append] at read
  cases allowed with
  | zero => cases read
  | succ allowed =>
    rw [readValue_list] at read
    obtain ⟨⟨values, behind⟩, walked, read⟩ := bind_eq_ok.mp read
    obtain ⟨runs, last, rfl⟩ := runs_of_walk (Pushes levels) (stops_list _)
      (fun item inside _ _ _ _ _ _ ends walked =>
        pushes_of_walkList (inner item inside).isValue (settles item inside) ends walked) walked
    obtain ⟨left, closed, same⟩ := bind_eq_ok.mp read
    cases (closeList_gap last rest).symm.trans closed
    cases same
    refine ⟨rfl, fun bound allowed rest room deep ends => ?_⟩
    -- The same steps are taken by every other walk that has room for them.
    obtain ⟨allowed, rfl⟩ : ∃ fewer, allowed = fewer + 1 := ⟨allowed - 1, by omega⟩
    obtain ⟨count, within⟩ := room_listCore
      (fun item inside => (inner item inside).isValue.ne_nil) room
    obtain ⟨last, walked⟩ := walk_of_runs (stops_list (pushItem bound allowed))
      (fun item inside _ _ _ _ gap _ pushes ends => ⟨item.behind, walkList_pushes
        (inner item inside).isValue (within item inside) (Nat.le_of_succ_le_succ deep) pushes ends⟩)
      runs count true gap rest
    have closed := closeList_gap last rest
    simp only [Bracket.closing] at walked
    rw [listCore_append, readValue_list, walked]
    simp only [Except.bind, closed]

theorem settles_object {members : List Member}
    (labels : ∀ member ∈ members, IsString member.label.core)
    (inner : ∀ member ∈ members, Nested levels member.value.core)
    (settles : ∀ member ∈ members, Settles levels member.value.core) :
    Settles (levels + 1) (objectCore gap members) := by
  intro bound allowed rest v left ends read
  rw [objectCore_append] at read
  cases allowed with
  | zero => cases read
  | succ allowed =>
    rw [readValue_object] at read
    obtain ⟨⟨entries, behind⟩, walked, read⟩ := bind_eq_ok.mp read
    obtain ⟨runs, last, rfl⟩ := runs_of_walk (Puts levels) (stops_object _)
      (fun member inside _ _ _ _ _ _ ends walked => puts_of_walkObject (labels member inside)
        (inner member inside).isValue (settles member inside) ends walked) walked
    obtain ⟨left, closed, same⟩ := bind_eq_ok.mp read
    cases (closeObject_gap last rest).symm.trans closed
    cases same
    refine ⟨rfl, fun bound allowed rest room deep ends => ?_⟩
    obtain ⟨allowed, rfl⟩ : ∃ fewer, allowed = fewer + 1 := ⟨allowed - 1, by omega⟩
    obtain ⟨count, within⟩ := room_objectCore room
    obtain ⟨last, walked⟩ := walk_of_runs (stops_object (putMember bound allowed))
      (fun member inside _ _ _ _ gap _ puts ends => ⟨member.value.behind, walkObject_puts
        (inner member inside).isValue (within member inside) (Nat.le_of_succ_le_succ deep) puts ends⟩)
      runs count true gap rest
    have closed := closeObject_gap last rest
    simp only [Bracket.closing] at walked
    rw [objectCore_append, readValue_object, walked]
    simp only [Except.bind, closed]

theorem readValue_scalar {cs : List Char} (scalar : IsScalar cs) (bound allowed : Nat)
    (rest : Input) : readValue bound allowed (cs ++ rest) = scanScalar (cs ++ rest) := by
  obtain ⟨found, scanned⟩ := Option.isSome_iff_exists.mp (scanScalar?_isSome scalar rest)
  rw [scanScalar_of scanned]
  obtain ⟨c, more, rfl, visible, _⟩ := head_of_value (.scalar scalar)
  exact readValue_of_scalar visible scanned bound allowed

theorem settles_scalar {cs : List Char} (scalar : IsScalar cs) : Settles levels cs := by
  intro bound allowed rest v left ends read
  rw [readValue_scalar scalar] at read
  -- Only a scalar depends on how it ends; a container ends with its bracket.
  rcases decided_scalar scalar with ⟨known, accepted⟩ | refused
  · cases (accepted rest ends).symm.trans read
    refine ⟨rfl, fun bound allowed rest _ _ ends => ?_⟩
    rw [readValue_scalar scalar, accepted rest ends]
  · obtain ⟨failure, failed⟩ := refused rest ends
    cases failed.symm.trans read

end container

theorem Nested.settles {levels : Nat} {cs : List Char} (nested : Nested levels cs) :
    Settles levels cs := by
  induction nested with
  | scalar scalar => exact settles_scalar scalar
  | list gap items inner ih => exact settles_list inner ih
  | object gap members labels inner ih => exact settles_object labels inner ih

theorem isScalar_print {v : Value} (flat : v.depth = 0) (exact : v.isExact = true) :
    IsScalar v.print := by
  cases v with
  | null => exact .null
  | bool b =>
    cases b
    · exact .false
    · exact .true
  | string s => exact .string (isText_print s).isString
  | array items => simp [Value.depth] at flat
  | object members => simp [Value.depth] at flat
  | number n =>
    cases n with
    | float x => cases exact
    | integer n lower upper =>
      cases n with
      | ofNat n =>
        simp only [Value.print, Number.print, Decimal.ofInt, Decimal.ofNat, String.toList_ofList]
        exact .unsigned (isMagnitude_digits n)
      | negSucc n =>
        simp only [Value.print, Number.print, Decimal.ofInt, String.toList_ofList]
        exact .signed (isMagnitude_digits (n + 1))

theorem print_array (items : List Value) : (Value.array items).print =
    listCore .none (items.map fun item => ⟨.none, item.print, .none⟩) := by
  simp [Value.print, printItems_eq, listCore, Gap.none, Piece.text, Function.comp_def]

theorem print_object (members : List (String × Value)) : (Value.object members).print =
    objectCore .none (members.map fun member => .compact member.1 member.2.print) := by
  have texts : members.map printMember =
      (members.map fun member => Member.compact member.1 member.2.print).map Member.text := by
    simp [printMember, Member.compact_text]
  rw [Value.print, printMembers_eq, texts]
  rfl

theorem nested_print {levels : Nat} {v : Value} (exact : v.isExact = true) (fits : v.depth ≤ levels) :
    Nested levels v.print := by
  induction levels generalizing v with
  | zero => exact .scalar (isScalar_print (Nat.le_zero.mp fits) exact)
  | succ levels ih =>
    cases v with
    | array items =>
      have exact := (isExact_array items).mp exact
      have fits := (depth_array_le items levels).mp fits
      rw [print_array]
      apply Nested.list
      exact List.forall_mem_map.mpr fun item inside => ih (exact item inside) (fits item inside)
    | object members =>
      have exact := (isExact_object members).mp exact
      have fits := (depth_object_le members levels).mp fits
      rw [print_object]
      apply Nested.object
      · exact List.forall_mem_map.mpr fun member _ => (isText_print member.1).isString
      · exact List.forall_mem_map.mpr fun member inside =>
          ih (exact member inside) (fits member inside)
    | _ => exact .scalar (isScalar_print rfl exact)

end HotReload.Json
