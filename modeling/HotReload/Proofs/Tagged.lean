import HotReload.Proofs.Meaning
import HotReload.Proofs.Roundtrip

set_option autoImplicit false

namespace HotReload.Envelope

open Json

def Tag.name : Tag → String
  | .connected => "connected"
  | .message => "message"

theorem Tag.ofName_eq_ok {name : String} {tag : Tag} : ofName name = .ok tag ↔ name = tag.name := by
  unfold ofName
  by_cases first : name = "connected"
  next => cases tag <;> simp [first, Tag.name]
  next =>
    by_cases second : name = "message"
    next => cases tag <;> simp [second, Tag.name]
    next => cases tag <;> simp [first, second, Tag.name]

theorem tagShape_eq_ok {v : Value} {tag : Tag} :
    tagShape.accept v = .ok tag ↔ v = .string tag.name := by
  cases v with
  | string s => simpa [tagShape] using Tag.ofName_eq_ok
  | _ => simp [tagShape, refuse]

inductive Gathers (levels : Nat) : Option Tag × List (String × Value) → Member →
    Option Tag × List (String × Value) → Prop
  | tag {member : Member} {tag : Tag} {contents : List (String × Value)}
    (names : member.Names "type") (spells : IsText tag.name member.value.core) :
    Gathers levels (none, contents) member (some tag, contents)
  | other {member : Member} {seen : Option Tag} {contents : List (String × Value)} {key : String}
    {v : Value} (names : member.Names key) (other : key ≠ "type")
    (reads : ReadsAs levels member.value.core v) :
    Gathers levels (seen, contents) member (seen, (key, v) :: contents)

section member

variable {bound levels fuel : Nat} {first : Bool} {gap : Gap} {rest : Input} {member : Member}

theorem readMember_tag (bound : Nat) (contents : List (String × Value)) (member : Member)
    (rest : Input) :
    readMember bound (none, contents) "type"
        (member.label.behind.chars ++ ':' :: (member.value.text ++ rest)) =
      (readAs tagShape (member.value.text ++ rest)).map fun found =>
        ((some found.1, contents), found.2) := by
  simp only [readMember, scanColon_gap, bind, Except.bind]
  cases readAs tagShape (member.value.text ++ rest) <;> rfl

theorem readMember_again (bound : Nat) (tag : Tag) (contents : List (String × Value)) (cs : Input) :
    ∃ failure, readMember bound (some tag, contents) "type" cs = .error failure := ⟨_, rfl⟩

theorem readMember_other {key : String} (other : key ≠ "type") (value : IsValue member.value.core)
    (bound : Nat) (seen : Option Tag) (contents : List (String × Value)) (rest : Input) :
    readMember bound (seen, contents) key
        (member.label.behind.chars ++ ':' :: (member.value.text ++ rest)) =
      (readValue bound (maxDepth - 1)
          (member.value.core ++ (member.value.behind.chars ++ rest))).map
        fun found => ((seen, (key, found.1) :: contents), found.2) := by
  rw [← readValue_piece bound (maxDepth - 1) value]
  simp only [readMember, other, if_false, scanColon_gap, bind, Except.bind]
  cases readValue bound (maxDepth - 1) (member.value.text ++ rest) <;> rfl

theorem walkObject_gathers (value : IsValue member.value.core)
    (room : member.value.core.length ≤ bound) (deep : levels ≤ maxDepth - 1)
    {state after : Option Tag × List (String × Value)} (gathers : Gathers levels state member after)
    (ends : endsToken rest = true) :
    walkObject (readMember bound) (fuel + 1) first state
        (gap.chars ++ (listed first [member.text] ++ rest)) =
      walkObject (readMember bound) fuel false after (member.value.behind.chars ++ rest) := by
  cases gathers with
  | @tag _ tag contents names spells =>
    have scanned := scanScalar?_text spells (member.value.behind.chars ++ rest)
    have read := readAs_scanned value scanned (tagShape_eq_ok.mpr rfl)
    rw [walkObject_member _ names, readMember_tag, read]
    rfl
  | other names other reads =>
    have read := reads bound _ _ room deep (endsToken_gap member.value.behind ends)
    rw [walkObject_member _ names, readMember_other other value, read]
    rfl

theorem isText_of_readAs {piece : Piece} (value : IsValue piece.core) {tag : Tag} {left : Input}
    (read : readAs tagShape (piece.text ++ rest) = .ok (tag, left)) : IsText tag.name piece.core := by
  rw [readAs_piece _ value] at read
  obtain ⟨before, core, behind⟩ := piece
  dsimp only at value read ⊢
  cases value with
  | list gap items inner => cases read
  | object gap members labels inner => cases read
  | scalar scalar =>
    have present := scanScalar?_isSome scalar (behind.chars ++ rest)
    obtain ⟨found, scanned⟩ := Option.isSome_iff_exists.mp present
    rw [readScalarAs_of_scanned _ scanned] at read
    obtain ⟨⟨v, left⟩, rfl, accepted⟩ := bind_eq_ok.mp read
    split at accepted
    next x known =>
      cases accepted
      obtain rfl := tagShape_eq_ok.mp known
      exact isText_of_scanned scalar scanned
    next => cases accepted

theorem gathers_of_walkObject (label : IsString member.label.core)
    (value : IsValue member.value.core) (settles : Settles levels member.value.core)
    {state : Option Tag × List (String × Value)}
    {found : Scanned (Option Tag × List (String × Value))} (ends : endsToken rest = true)
    (walked : walkObject (readMember bound) fuel first state
      (gap.chars ++ (listed first [member.text] ++ rest)) = .ok found) :
    ∃ fewer after last, Gathers levels state member after ∧
      walkObject (readMember bound) fewer false after (Gap.chars last ++ rest) = .ok found := by
  obtain ⟨seen, contents⟩ := state
  obtain ⟨final, left⟩ := found
  obtain ⟨fewer, key, ⟨after, behind⟩, names, taken, walked⟩ := walkObject_sound label walked
  have ends := endsToken_gap member.value.behind ends
  by_cases tagged : key = "type"
  next =>
    subst tagged
    cases seen with
    | some tag =>
      obtain ⟨failure, failed⟩ := readMember_again bound tag contents
        (member.label.behind.chars ++ ':' :: (member.value.text ++ rest))
      cases failed.symm.trans taken
    | none =>
      rw [readMember_tag] at taken
      obtain ⟨⟨tag, behind⟩, read, same⟩ := map_eq_ok.mp taken
      cases same
      have spells := isText_of_readAs value read
      rw [readAs_piece _ value] at read
      obtain rfl := endsAt_readScalarAs _ value ends tag behind read
      exact ⟨fewer, _, member.value.behind, .tag names spells, walked⟩
  next =>
    rw [readMember_other tagged value] at taken
    obtain ⟨⟨v, behind⟩, read, same⟩ := map_eq_ok.mp taken
    cases same
    obtain ⟨rfl, reads⟩ := settles _ _ _ _ _ ends read
    exact ⟨fewer, _, member.value.behind, .other names tagged reads, walked⟩

end member

-- The text stands for the value: it brings it as a frame of its own, and no more containers are
-- around one another in it than are left inside an envelope.
structure Stands (cs : List Char) (v : Value) : Prop where
  nested : Nested (maxDepth - 1) cs
  framed : ofFrame (String.ofList cs) = .ok (.message v)

theorem Stands.readsAs {cs : List Char} {v : Value} (stands : Stands cs v) :
    ReadsAs (maxDepth - 1) cs v := by
  obtain ⟨found, parsed, same⟩ := ofFrame_eq_ok.mp stands.framed
  cases same
  obtain ⟨rest, read⟩ := readDocument_eq_ok parsed
  rw [String.toList_ofList, ← List.append_nil cs] at read
  exact (stands.nested.settles _ _ _ _ _ rfl read).2

theorem stands_print {v : Value} (sorted : v.Sorted) (exact : v.isExact = true)
    (fits : v.depth < maxDepth) : Stands v.print v where
  nested := nested_print exact (Nat.le_sub_one_of_lt fits)
  framed := ofFrame_eq_ok.mpr ⟨v, parse_compact sorted exact (Nat.le_of_lt fits), rfl⟩

def Brings (member : Member) (content : String × Value) : Prop :=
  member.Names content.1 ∧ content.1 ≠ "type" ∧ Stands member.value.core content.2

inductive Tells (tag : Tag) : List Member → List (String × Value) → Prop
  | among {front back : List Member} {one : Member} {contents later : List (String × Value)}
    (names : one.Names "type") (spells : IsText tag.name one.value.core)
    (before : List.Forall₂ Brings front contents) (after : List.Forall₂ Brings back later) :
    Tells tag (front ++ one :: back) (contents ++ later)

section members

variable {levels : Nat} {members : List Member}

theorem runs_of_brings {contents : List (String × Value)}
    (brings : List.Forall₂ Brings members contents) (seen : Option Tag)
    (known : List (String × Value)) :
    Runs (Gathers (maxDepth - 1)) (seen, known) members (seen, contents.reverse ++ known) := by
  induction brings generalizing known with
  | nil => exact .nil _
  | @cons member content members contents first _ ih =>
    obtain ⟨names, other, stands⟩ := first
    have others := ih (content :: known)
    rw [List.reverse_cons, List.append_assoc]
    exact .cons (.other names other stands.readsAs) others

theorem Tells.runs {tag : Tag} {contents : List (String × Value)} (tells : Tells tag members contents) :
    Runs (Gathers (maxDepth - 1)) (none, []) members (some tag, contents.reverse) := by
  cases tells with
  | among names spells before after =>
    have first := runs_of_brings before none []
    have last := runs_of_brings after (some tag)
    rw [List.append_nil] at first
    rw [List.reverse_append]
    exact Runs.append first (.cons (.tag names spells) (last _))

theorem Tells.stands {tag : Tag} {contents : List (String × Value)} (tells : Tells tag members contents) :
    ∀ content ∈ contents, ∃ core, Stands core content.2 := by
  have brought {members : List Member} {contents : List (String × Value)}
      (brings : List.Forall₂ Brings members contents) :
      ∀ content ∈ contents, ∃ core, Stands core content.2 := by
    induction brings with
    | nil => exact List.forall_mem_nil _
    | cons first _ ih => exact List.forall_mem_cons.mpr ⟨⟨_, first.2.2⟩, ih⟩
  cases tells with
  | among names spells before after =>
    exact List.forall_mem_append.mpr ⟨brought before, brought after⟩

theorem Tells.valid {tag : Tag} {contents : List (String × Value)} (tells : Tells tag members contents) :
    ∀ member ∈ members, IsValue member.value.core := by
  have brought {members : List Member} {contents : List (String × Value)}
      (brings : List.Forall₂ Brings members contents) : ∀ member ∈ members, IsValue member.value.core := by
    induction brings with
    | nil => exact List.forall_mem_nil _
    | cons first _ ih => exact List.forall_mem_cons.mpr ⟨first.2.2.nested.isValue, ih⟩
  cases tells with
  | among names spells before after =>
    intro member inside
    rcases List.mem_append.mp inside with early | late
    · exact brought before member early
    · rcases List.mem_cons.mp late with rfl | late
      · exact .scalar (.string spells.isString)
      · exact brought after member late

theorem others_of_runs {state after : Option Tag × List (String × Value)}
    (runs : Runs (Gathers levels) state members after) {tag : Tag} (seen : state.1 = some tag) :
    after.1 = some tag ∧ (∀ member ∈ members, ¬ member.Names "type") ∧
      ∀ content ∈ after.2, content ∈ state.2 ∨ ∃ member ∈ members, member.Names content.1 := by
  induction runs with
  | nil state => exact ⟨seen, List.forall_mem_nil _, fun _ inside => .inl inside⟩
  | cons stepped _ ih =>
    cases stepped with
    | tag names spells =>
      -- A second tag would have been refused.
      cases seen
    | other names other reads =>
      obtain ⟨kept, apart, origin⟩ := ih seen
      refine ⟨kept, List.forall_mem_cons.mpr ⟨fun again => other ((names.iff _).mp again), apart⟩, ?_⟩
      intro content inside
      rcases origin content inside with known | ⟨member, later, named⟩
      · rcases List.mem_cons.mp known with rfl | known
        · exact .inr ⟨_, List.mem_cons_self, names⟩
        · exact .inl known
      · exact .inr ⟨member, List.mem_cons_of_mem _ later, named⟩

theorem tag_of_runs {state after : Option Tag × List (String × Value)}
    (runs : Runs (Gathers levels) state members after) (unseen : state.1 = none) {tag : Tag}
    (found : after.1 = some tag) :
    ∃ front one back, members = front ++ one :: back ∧ one.Names "type" ∧
      IsText tag.name one.value.core ∧ (∀ member ∈ front ++ back, ¬ member.Names "type") ∧
      ∀ content ∈ after.2, content ∈ state.2 ∨ ∃ member ∈ members, member.Names content.1 := by
  induction runs with
  | nil state => cases unseen.symm.trans found
  | @cons state middle after entry more stepped others ih =>
    cases stepped with
    | @tag _ met contents names spells =>
      -- From here on nothing changes the tag.
      obtain ⟨kept, apart, origin⟩ := others_of_runs others rfl
      cases kept.symm.trans found
      refine ⟨[], entry, more, rfl, names, spells, apart, fun content inside => ?_⟩
      exact (origin content inside).imp_right fun ⟨member, later, named⟩ =>
        ⟨member, List.mem_cons_of_mem _ later, named⟩
    | other names other reads =>
      obtain ⟨front, one, back, rfl, tagged, spells, apart, origin⟩ := ih unseen found
      refine ⟨entry :: front, one, back, rfl, tagged, spells,
        List.forall_mem_cons.mpr ⟨fun again => other ((names.iff _).mp again), apart⟩, ?_⟩
      intro content inside
      rcases origin content inside with known | ⟨member, later, named⟩
      · rcases List.mem_cons.mp known with rfl | known
        · exact .inr ⟨_, List.mem_cons_self, names⟩
        · exact .inl known
      · exact .inr ⟨member, List.mem_cons_of_mem _ later, named⟩

end members

section document

variable {members : List Member} {before gap behind : Gap}

theorem readTagged_objectCore (bound : Nat) :
    readTagged bound (Piece.text ⟨before, objectCore gap members, behind⟩) =
      readObject bound
        (gap.chars ++ (listed true (members.map Member.text) ++ '\x7d' :: behind.chars)) := by
  simp only [readTagged, skipBlank_objectCore]

theorem parse_tells {tag : Tag} {contents : List (String × Value)}
    (tells : Tells tag members contents) {envelope : Envelope}
    (made : Tagged.toEnvelope ⟨tag, .members contents⟩ = .ok envelope) :
    parse (String.ofList (Piece.text ⟨before, objectCore gap members, behind⟩)) = .ok envelope := by
  have read : readDocument readTagged
      (String.ofList (Piece.text ⟨before, objectCore gap members, behind⟩)) =
        .ok ⟨tag, .members contents⟩ := by
    obtain ⟨count, within⟩ := room_objectCore
      (Nat.le_succ_of_le (length_core_le ⟨before, objectCore gap members, behind⟩))
    refine readDocument_ok behind ?_
    rw [String.toList_ofList, readTagged_objectCore]
    obtain ⟨last, walked⟩ := walk_of_runs
      (stops_object (readMember (Piece.text ⟨before, objectCore gap members, behind⟩).length.succ))
      (fun member inside _ _ _ _ gap _ gathers ends => ⟨member.value.behind, walkObject_gathers
        (tells.valid member inside) (within member inside) (Nat.le_refl _) gathers ends⟩)
      tells.runs count true gap behind.chars
    have closed := closeObject_gap last behind.chars
    simp only [Bracket.closing] at walked
    simp only [readObject, walked, bind, Except.bind, closed, List.reverse_reverse]
  rw [parse, read]
  simp only [made]

theorem runs_of_parse (labels : ∀ member ∈ members, IsString member.label.core)
    (values : ∀ member ∈ members, IsValue member.value.core) {envelope : Envelope}
    (accepted : parse (String.ofList (Piece.text ⟨before, objectCore gap members, behind⟩)) =
      .ok envelope) :
    ∃ levels tag contents, Runs (Gathers levels) (none, []) members (some tag, contents) ∧
      Tagged.toEnvelope ⟨tag, .members contents.reverse⟩ = .ok envelope := by
  obtain ⟨levels, nested⟩ := exists_nested fun member inside => (values member inside).exists_nested
  unfold parse at accepted
  split at accepted
  next => cases accepted
  next tagged read =>
    obtain ⟨rest, taken⟩ := readDocument_eq_ok read
    rw [String.toList_ofList, readTagged_objectCore] at taken
    obtain ⟨⟨⟨seen, contents⟩, left⟩, walked, taken⟩ := bind_eq_ok.mp taken
    obtain ⟨runs, _⟩ := runs_of_walk (Gathers levels) (stops_object _)
      (fun member inside _ _ _ _ _ _ ends walked => gathers_of_walkObject (labels member inside)
        (values member inside) (nested member inside).settles ends walked) walked
    obtain ⟨left, _, taken⟩ := bind_eq_ok.mp taken
    cases seen with
    | none => cases taken
    | some tag =>
      cases taken
      refine ⟨levels, tag, contents, runs, ?_⟩
      split at accepted
      next made =>
        cases accepted
        exact made
      next => cases accepted

theorem dataMember_eq_ok {contents : List (String × Value)} {d : Value} :
    dataMember contents = .ok d ↔
      ∃ key, contents.filter (fun content => content.1 = "data") = [(key, d)] := by
  unfold dataMember
  split
  next none => simp [none]
  next key value alone => simp [alone]
  next others several =>
    constructor
    · intro accepted
      cases accepted
    · rintro ⟨key, alone⟩
      exact absurd alone (several key d)

inductive Lacks (members : List Member) : Prop
  | tag (untagged : ∀ member ∈ members, ¬ member.Names "type")
  | singleTag {one other : Member} (both : List.Sublist [one, other] members)
    (first : one.Names "type") (second : other.Names "type")
  | data {tag : Member} (inside : tag ∈ members) (names : tag.Names "type")
    (spells : IsText "message" tag.value.core) (missing : ∀ member ∈ members, ¬ member.Names "data")

theorem not_lacks_of_parse (labels : ∀ member ∈ members, IsString member.label.core)
    (values : ∀ member ∈ members, IsValue member.value.core) {envelope : Envelope}
    (accepted : parse (String.ofList (Piece.text ⟨before, objectCore gap members, behind⟩)) =
      .ok envelope) : ¬ Lacks members := by
  obtain ⟨levels, tag, contents, runs, made⟩ := runs_of_parse labels values accepted
  obtain ⟨front, one, back, rfl, names, spells, apart, origin⟩ := tag_of_runs runs rfl rfl
  obtain ⟨early, late⟩ := List.forall_mem_append.mp apart
  intro lacks
  cases lacks with
  | tag untagged => exact untagged one (by simp) names
  | @singleTag first second both isFirst isSecond =>
    have alone : (front ++ one :: back).Pairwise
        fun first second => ¬ (first.Names "type" ∧ second.Names "type") := by
      refine List.pairwise_append.mpr ⟨?_, List.pairwise_cons.mpr ⟨?_, ?_⟩, ?_⟩
      · exact List.pairwise_of_forall_mem_list fun member inside _ _ both => early member inside both.1
      · exact fun member inside both => late member inside both.2
      · exact List.pairwise_of_forall_mem_list fun member inside _ _ both => late member inside both.1
      · exact fun member inside _ _ both => early member inside both.1
    have pair := List.pairwise_cons.mp (alone.sublist both)
    exact pair.1 second List.mem_cons_self ⟨isFirst, isSecond⟩
  | @data other inside isTag message missing =>
    -- There is no other tag, so the one that was read says `message` and the data must be there.
    have same : other = one := by
      rcases List.mem_append.mp inside with before | behind
      · exact absurd isTag (early other before)
      · exact (List.mem_cons.mp behind).resolve_right fun behind => late other behind isTag
    subst same
    obtain rfl : tag = .message := by
      cases tag with
      | message => rfl
      | connected => exact absurd (spells.unique message) (by decide)
    cases found : dataMember contents.reverse with
    | error cause => simp [Tagged.toEnvelope, found, Except.map] at made
    | ok d =>
      obtain ⟨key, alone⟩ := dataMember_eq_ok.mp found
      have single : (key, d) ∈ contents.reverse.filter fun content => content.1 = "data" := by
        simp [alone]
      obtain ⟨kept, named⟩ := List.mem_filter.mp single
      rcases origin (key, d) (List.mem_reverse.mp kept) with none | ⟨member, inside, names⟩
      · cases none
      · obtain rfl : key = "data" := of_decide_eq_true named
        exact missing member inside names

theorem parse_in_any_order (members : List Member) (before gap behind : Gap) :
    let text := String.ofList (Piece.text ⟨before, objectCore gap members, behind⟩)
    (∀ contents d, Tells .message members contents →
      contents.filter (fun content => content.1 = "data") = [("data", d)] →
        parse text = .ok (.message d) ∧
          (d.isExact = true → ofFrame d.compact = .ok (.message d))) ∧
    (∀ contents, Tells .connected members contents → parse text = .ok .connected) ∧
    ((∀ member ∈ members, IsString member.label.core) →
      (∀ member ∈ members, IsValue member.value.core) → Lacks members →
        ∃ e, parse text = .error e) := by
  intro text
  refine ⟨fun contents d tells alone => ⟨?_, fun exact => ?_⟩, fun contents tells => ?_, ?_⟩
  · apply parse_tells tells
    simp [Tagged.toEnvelope, dataMember_eq_ok.mpr ⟨"data", alone⟩, Except.map]
  · have inside : ("data", d) ∈ contents := by
      have kept : ("data", d) ∈ contents.filter fun content => content.1 = "data" := by simp [alone]
      exact (List.mem_filter.mp kept).1
    obtain ⟨core, stands⟩ := tells.stands ("data", d) inside
    obtain ⟨found, parsed, same⟩ := ofFrame_eq_ok.mp stands.framed
    cases same
    obtain ⟨sorted, fits⟩ := parse_sound parsed
    exact ofFrame_eq_ok.mpr ⟨d, parse_compact sorted exact fits, rfl⟩
  · exact parse_tells tells rfl
  · intro labels values lacks
    cases parsed : parse text with
    | error e => exact ⟨e, rfl⟩
    | ok envelope => exact absurd lacks (not_lacks_of_parse labels values parsed)

theorem parse_with_tag_last :
    let d := Value.array [.string "\x07", .null]
    parse " \x7b\"x\":[\x7b\x7d],\"d\\u0061ta\":[\"\\u0007\",null],\"type\":\"message\"\x7d\n" =
        .ok (.message d) ∧
      ofFrame "[\"\\u0007\",null]" = .ok (.message d) ∧
      parse " \x7b\"x\":[\x7b\x7d],\"type\":\"connected\"\x7d\n" = .ok .connected ∧
      ∃ e, parse " \x7b\"type\":\"message\",\"type\":\"message\"\x7d\n" = .error e := by
  intro d
  let label := ['d', '\\', 'u', '0', '0', '6', '1', 't', 'a']
  let other : Member := .compact "x" (Value.array [.object []]).print
  let data : Member := ⟨⟨.none, '"' :: (label ++ ['"']), .none⟩, ⟨.none, d.print, .none⟩⟩
  let tag (tag : Tag) : Member := .compact "type" (printText tag.name)
  have spelled : Spells label ['d', 'a', 't', 'a'] :=
    .plain rfl (.code rfl rfl rfl (.plain rfl (.plain rfl .nil)))
  have sorted : d.Sorted := by
    apply Value.Sorted.array
    simp [Value.Sorted.string, Value.Sorted.null]
  have inner : (Value.array [.object []]).Sorted := by
    apply Value.Sorted.array
    simpa using Value.Sorted.object .nil (List.forall_mem_nil _)
  have first : Brings other ("x", .array [.object []]) :=
    ⟨Member.compact_names _ _, by decide, stands_print inner rfl (by decide)⟩
  have escaped : data.Names "data" := .quoted spelled
  have second : Brings data ("data", d) :=
    ⟨escaped, by decide, stands_print sorted rfl (by decide)⟩
  have named (one : Tag) : (tag one).Names "type" := Member.compact_names _ _
  have spells (one : Tag) : IsText one.name (tag one).value.core := isText_print _
  have message : Tells .message [other, data, tag .message] [("x", .array [.object []]), ("data", d)] :=
    .among (named .message) (spells .message) (.cons first (.cons second .nil)) .nil
  have connected : Tells .connected [other, tag .connected] [("x", .array [.object []])] :=
    .among (named .connected) (spells .connected) (.cons first .nil) .nil
  have results (members : List Member) := parse_in_any_order members
    ⟨[' '], List.forall_mem_singleton.mpr rfl⟩ .none ⟨['\n'], List.forall_mem_singleton.mpr rfl⟩
  obtain ⟨given, own⟩ := (results _).1 _ d message (by simp)
  have alone := (results _).2.1 _ connected
  have refused := (results [tag .message, tag .message]).2.2
    (by simp [tag, Member.compact, (isText_print _).isString])
    (by simp [tag, Member.compact, IsValue.scalar (.string (isText_print _).isString)])
    (.singleTag (List.Sublist.refl _) (named .message) (named .message))
  refine ⟨(congrArg parse (by decide +kernel)).trans given,
    (congrArg ofFrame (by decide +kernel)).trans (own rfl),
    (congrArg parse (by decide +kernel)).trans alone, ?_⟩
  obtain ⟨e, failed⟩ := refused
  exact ⟨e, (congrArg parse (by decide +kernel)).trans failed⟩

end document

end HotReload.Envelope
