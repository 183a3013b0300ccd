import HotReload.Proofs.Fields
import HotReload.Proofs.Roundtrip

set_option autoImplicit false

namespace HotReload

theorem Duration.milliseconds_ofMilliseconds (n : Nat) :
    (Duration.ofMilliseconds n).milliseconds = n := by
  simp [Duration.ofMilliseconds, Duration.milliseconds]

namespace Options

open Json

def Storable (o : Options) : Prop := ∃ n < UInt64.size, o.timeout = .ofMilliseconds n

section storable

variable {o : Options} (storable : o.Storable)

include storable

theorem Storable.fits : o.timeout.milliseconds < UInt64.size := by
  obtain ⟨n, small, same⟩ := storable
  rwa [same, Duration.milliseconds_ofMilliseconds]

theorem Storable.whole : .ofMilliseconds o.timeout.milliseconds = o.timeout := by
  obtain ⟨n, small, same⟩ := storable
  rw [same, Duration.milliseconds_ofMilliseconds]

theorem complete_eq {d : Draft} (assetPrefix : d.assetPrefix = some o.assetPrefix ∨
      d.assetPrefix = none ∧ o.IsDefault .assetPrefix)
    (timeout : d.timeout = some o.timeout.milliseconds ∨ d.timeout = none ∧ o.IsDefault .timeout)
    (log : d.log = some o.log ∨ d.log = none ∧ o.IsDefault .log) : d.complete o.path = o := by
  have texts : d.assetPrefix.getD "" = o.assetPrefix := by
    rcases assetPrefix with met | ⟨unmet, same⟩
    · rw [met, Option.getD_some]
    · rw [unmet, Option.getD_none]
      exact same.symm
  have delay : (d.timeout.map Duration.ofMilliseconds).getD defaultTimeout = o.timeout := by
    rcases timeout with met | ⟨unmet, same⟩
    · rw [met, Option.map_some, Option.getD_some, storable.whole]
    · rw [unmet, Option.map_none, Option.getD_none]
      exact same.symm
  have flag : d.log.getD false = o.log := by
    rcases log with met | ⟨unmet, same⟩
    · rw [met, Option.getD_some]
    · rw [unmet, Option.getD_none]
      exact same.symm
  rw [Draft.complete, texts, delay, flag]

end storable

-- The members give the options; those fields that do not occur have their defaults.
structure Describes (o : Options) (members : List Member) : Prop where
  each : ∀ member ∈ members, o.Fits member
  once : EachOnce members
  whole : ∀ field, Occurs field members ∨ o.IsDefault field

theorem describes_of_names {o : Options} {members : List Member} {keys : List String}
    (each : ∀ member ∈ members, o.Fits member) (names : List.Forall₂ Member.Names members keys)
    (apart : keys.Nodup) (whole : ∀ field : Field, field.name ∈ keys ∨ o.IsDefault field) :
    o.Describes members where
  each := each
  once := eachOnce_of_nodup names apart
  whole field := (whole field).imp_left (occurs_iff names field).mpr

-- The items give the fields in their order; those beyond the last item have their defaults.
inductive Lists (o : Options) : List Field → List Piece → Prop
  | rest {fields : List Field} (defaults : ∀ field ∈ fields, o.IsDefault field) : Lists o fields []
  | item {field : Field} {fields : List Field} {item : Piece} {items : List Piece}
    (gives : o.Gives field item.core) (more : Lists o fields items) :
    Lists o (field :: fields) (item :: items)

section object

variable {o : Options} {members : List Member} {bound : Nat} {gap : Gap} {rest : Input}

theorem readObject_describes (storable : o.Storable) (describes : o.Describes members)
    (room : ∀ member ∈ members, member.value.core.length ≤ bound) (enough : members.length < bound) :
    readObject bound (gap.chars ++ (listed true (members.map Member.text) ++ '\x7d' :: rest)) =
      .ok (o, rest) := by
  have fresh : ∀ field, (fun _ => false : Field → Bool) field = true → ¬ Occurs field members :=
    fun _ none => by cases none
  obtain ⟨met, last, walked, has⟩ := walk_known describes.each describes.once room storable.fits enough
    true fresh gap rest
  have all (field : Field) : met field = true ∨ met field = false ∧ o.IsDefault field := by
    cases seen : met field with
    | true => exact .inl rfl
    | false => exact .inr ⟨rfl, (describes.whole field).resolve_left fun occurs => by
        simp [(has field).mpr (.inr occurs)] at seen⟩
  have path : met .path = true := (all .path).resolve_right fun missing => missing.2
  have complete : (o.known met).complete o.path = o := by
    refine complete_eq storable ?_ ?_ ?_
    · exact (all .assetPrefix).imp (by simp +contextual [known]) (by simp +contextual [known])
    · exact (all .timeout).imp (by simp +contextual [known]) (by simp +contextual [known])
    · exact (all .log).imp (by simp +contextual [known]) (by simp +contextual [known])
  have begun : o.known (fun _ => false) = {} := rfl
  have named : (o.known met).path = some o.path := by simp [known, path]
  rw [begun] at walked
  simp only [readObject, walked, bind, Except.bind, closeObject_gap, named, complete]

theorem readObject_sound (labels : ∀ member ∈ members, IsString member.label.core)
    (values : ∀ member ∈ members, IsValue member.value.core)
    (room : ∀ member ∈ members, member.value.core.length ≤ bound) {left : Input}
    (read : readObject bound
      (gap.chars ++ (listed true (members.map Member.text) ++ '\x7d' :: rest)) = .ok (o, left)) :
    EachOnce members ∧ Occurs .path members := by
  obtain ⟨⟨draft, left⟩, walked, read⟩ := bind_eq_ok.mp read
  obtain ⟨_, _, read⟩ := bind_eq_ok.mp read
  obtain ⟨once, met⟩ := walk_sound labels values room walked
  refine ⟨once, ?_⟩
  split at read
  next path named =>
    refine ((met .path).2 ?_).resolve_left Bool.false_ne_true
    simp [Draft.has, named]
  next => cases read

end object

section list

variable {o : Options} {gap : Gap} {rest : Input}

theorem readItem?_lists {α : Type} {shape : Shape α} {x : α} {field : Field} {fields : List Field}
    {items : List Piece} (lists : o.Lists (field :: fields) items)
    (reads : ∀ {item : Piece} {rest : Input}, o.Gives field item.core → endsToken rest = true →
      readAs shape (item.text ++ rest) = .ok (x, item.behind.chars ++ rest))
    (first : Bool) (gap : Gap) (rest : Input) :
    ∃ (found : Option α) (more : List Piece) (last : Gap),
      readItem? first (readAs shape)
          (gap.chars ++ (listed first (items.map Piece.text) ++ ']' :: rest)) =
        .ok (found, last.chars ++ (listed false (more.map Piece.text) ++ ']' :: rest)) ∧
      (found = some x ∨ found = none ∧ o.IsDefault field) ∧ o.Lists fields more := by
  cases lists with
  | rest defaults =>
    obtain ⟨default, later⟩ := List.forall_mem_cons.mp defaults
    refine ⟨none, [], gap, ?_, .inr ⟨rfl, default⟩, .rest later⟩
    rw [readItem?, nextItem_gap]
    rfl
  | @item _ _ item more gives lists =>
    have ends := endsToken_listed .square (more.map Piece.text) rest
    have read := reads gives ends
    rw [readAs_piece shape gives.isValue] at read
    have shown := skipBlank_value gives.isValue
      (item.behind.chars ++ (listed false (more.map Piece.text) ++ ']' :: rest))
    refine ⟨some x, more, item.behind, ?_, .inl rfl, lists⟩
    rw [List.map_cons, listed_cons, List.append_assoc, readItem?, nextItem_gap,
      nextItem_piece gives.isValue]
    simp only [readAs, shown, Bracket.closing] at read ⊢
    rw [read]
    rfl

theorem readList_lists (storable : o.Storable) {items : List Piece}
    (lists : o.Lists Field.all items) :
    readList (gap.chars ++ (listed true (items.map Piece.text) ++ ']' :: rest)) = .ok (o, rest) := by
  obtain ⟨path, items, gap, readPath, isPath, lists⟩ := readItem?_lists lists
    (fun gives _ => readAs_text gives) true gap rest
  obtain ⟨assetPrefix, items, gap, readPrefix, isPrefix, lists⟩ := readItem?_lists lists
    (fun gives _ => readAs_text gives) false gap rest
  obtain ⟨timeout, items, gap, readTimeout, isTimeout, lists⟩ := readItem?_lists lists
    (fun gives ends => readAs_digits storable.fits gives ends) false gap rest
  obtain ⟨log, items, gap, readLog, isLog, lists⟩ := readItem?_lists lists
    (fun gives ends => readAs_bool gives ends) false gap rest
  obtain rfl := isPath.resolve_right fun missing => missing.2
  have complete := complete_eq storable (d := ⟨none, assetPrefix, timeout, log⟩) isPrefix isTimeout
    isLog
  cases lists with
  | rest _ =>
    have closed := closeList_gap gap rest
    simp only [readList, bind, Except.bind, readPath, readPrefix, readTimeout, readLog, closed,
      complete, List.map_nil, listed, List.nil_append]

end list

section document

variable {o : Options} {members : List Member} {before gap behind : Gap}

theorem read_object (bound : Nat) : read bound (Piece.text ⟨before, objectCore gap members, behind⟩) =
    readObject bound
      (gap.chars ++ (listed true (members.map Member.text) ++ '\x7d' :: behind.chars)) := by
  simp only [read, skipBlank_objectCore]

theorem read_list (bound : Nat) (items : List Piece) :
    read bound (Piece.text ⟨before, listCore gap items, behind⟩) =
      readList (gap.chars ++ (listed true (items.map Piece.text) ++ ']' :: behind.chars)) := by
  simp only [read, skipBlank_listCore]

theorem parse_describes (storable : o.Storable) (describes : o.Describes members) :
    parse (String.ofList (Piece.text ⟨before, objectCore gap members, behind⟩)) = .ok o := by
  obtain ⟨count, within⟩ := room_objectCore
    (Nat.le_succ_of_le (length_core_le ⟨before, objectCore gap members, behind⟩))
  refine readDocument_ok behind ?_
  rw [String.toList_ofList, read_object]
  exact readObject_describes storable describes within count

theorem parse_lists (storable : o.Storable) {items : List Piece} (lists : o.Lists Field.all items) :
    parse (String.ofList (Piece.text ⟨before, listCore gap items, behind⟩)) = .ok o := by
  refine readDocument_ok behind ?_
  rw [String.toList_ofList, read_list]
  exact readList_lists storable lists

theorem parse_object_sound (labels : ∀ member ∈ members, IsString member.label.core)
    (values : ∀ member ∈ members, IsValue member.value.core)
    (accepted : parse (String.ofList (Piece.text ⟨before, objectCore gap members, behind⟩)) = .ok o) :
    EachOnce members ∧ Occurs .path members := by
  obtain ⟨_, within⟩ := room_objectCore
    (Nat.le_succ_of_le (length_core_le ⟨before, objectCore gap members, behind⟩))
  obtain ⟨left, read⟩ := readDocument_eq_ok accepted
  rw [String.toList_ofList, read_object] at read
  exact readObject_sound labels values within read

-- Options are read from every object that describes them and from every list of their first fields,
-- with any blanks and, in an object, any other members of any depth. An object that names a field
-- twice or has no path is refused, whatever its values are. A label must spell a text: one with
-- half a surrogate pair is no key at all.
theorem read_from_every_spelling (o : Options) (storable : o.Storable) (before gap behind : Gap) :
    (∀ members, o.Describes members →
      parse (String.ofList (Piece.text ⟨before, objectCore gap members, behind⟩)) = .ok o) ∧
    (∀ items, o.Lists Field.all items →
      parse (String.ofList (Piece.text ⟨before, listCore gap items, behind⟩)) = .ok o) ∧
    ∀ members : List Member, (∀ member ∈ members, IsString member.label.core) →
      (∀ member ∈ members, IsValue member.value.core) →
      ¬ (EachOnce members ∧ Occurs .path members) →
      ∃ e, parse (String.ofList (Piece.text ⟨before, objectCore gap members, behind⟩)) = .error e := by
  refine ⟨fun members describes => parse_describes storable describes,
    fun items lists => parse_lists storable lists, fun members labels values unfit => ?_⟩
  cases parsed : parse (String.ofList (Piece.text ⟨before, objectCore gap members, behind⟩)) with
  | error e => exact ⟨e, rfl⟩
  | ok found => exact absurd (parse_object_sound labels values parsed) unfit

theorem read_from_every_spelling_among_others :
    let o : Options := ⟨"/hmr", "", .ofMilliseconds 250, false⟩
    parse " \x7b\"x\":null,\"timeout\":250,\"p\\u0061th\":\"/hmr\"\x7d\n" = .ok o ∧
    parse " [\"/hmr\",\"\",250]\n" = .ok o ∧
    ∃ e, parse " \x7b\"log\":null,\"path\":null,\"log\":null\x7d\n" = .error e := by
  intro o
  have storable : o.Storable := ⟨250, by decide, rfl⟩
  have null : IsValue ['n', 'u', 'l', 'l'] := .scalar .null
  have spelled : Spells ['p', '\\', 'u', '0', '0', '6', '1', 't', 'h'] ['p', 'a', 't', 'h'] :=
    .plain rfl (.code rfl rfl rfl (.plain rfl (.plain rfl .nil)))
  have path : Member.Names
      ⟨⟨.none, '"' :: (['p', '\\', 'u', '0', '0', '6', '1', 't', 'h'] ++ ['"']), .none⟩,
        ⟨.none, printText "/hmr", .none⟩⟩ (Field.name .path) := .quoted spelled
  have timeout : (Member.compact "timeout" (Decimal.digits 250)).Names (Field.name .timeout) :=
    Member.compact_names _ _
  have delay : o.Gives .timeout (Decimal.digits 250) := congrArg Decimal.digits (by decide)
  have other : ∀ field : Field, "x" ≠ field.name := fun field => by cases field <;> decide
  have describes := describes_of_names (o := o)
    (List.forall_mem_cons.mpr ⟨fits_of_other (Member.compact_names "x" _) other null,
      List.forall_mem_cons.mpr ⟨fits_of_field timeout delay,
        List.forall_mem_singleton.mpr (fits_of_field path (isText_print _))⟩⟩)
    (.cons (Member.compact_names "x" _) (.cons timeout (.cons path .nil))) (by decide)
    fun field => by cases field <;> simp [IsDefault, Field.name, o]
  have lists : o.Lists Field.all [⟨.none, printText "/hmr", .none⟩, ⟨.none, printText "", .none⟩,
      ⟨.none, Decimal.digits 250, .none⟩] :=
    .item (isText_print _) (.item (isText_print _) (.item delay (.rest (by simp [IsDefault, o]))))
  obtain ⟨object, list, refused⟩ := read_from_every_spelling o storable
    ⟨[' '], List.forall_mem_singleton.mpr rfl⟩ .none ⟨['\n'], List.forall_mem_singleton.mpr rfl⟩
  refine ⟨(congrArg parse (by decide +kernel)).trans (object _ describes),
    (congrArg parse (by decide +kernel)).trans (list _ lists), ?_⟩
  refine refused (["log", "path", "log"].map fun key => .compact key ['n', 'u', 'l', 'l']) ?_ ?_ ?_
  · exact List.forall_mem_map.mpr fun key _ => (isText_print key).isString
  · exact List.forall_mem_map.mpr fun key _ => null
  · rintro ⟨once, _⟩
    have named := Member.compact_names "log" ['n', 'u', 'l', 'l']
    exact (eachOnce_cons.mp once).1 .log named ⟨_, List.mem_cons_of_mem _ List.mem_cons_self, named⟩

end document

end Options

end HotReload
