import HotReload.Proofs.Spelling
import Mathlib.Data.List.Forall2

set_option autoImplicit false

namespace HotReload.Options

open Json

def stored (o : Options) : Options := { o with timeout := .ofMilliseconds o.writtenTimeout }

theorem writtenTimeout_lt (o : Options) : o.writtenTimeout < UInt64.size :=
  Nat.lt_of_le_of_lt (Nat.min_le_right _ _) (by decide)

theorem storable_stored (o : Options) : o.stored.Storable := ⟨o.writtenTimeout, o.writtenTimeout_lt, rfl⟩

theorem Storable.writtenTimeout {o : Options} (storable : o.Storable) :
    o.writtenTimeout = o.timeout.milliseconds :=
  Nat.min_eq_left (Nat.le_sub_one_of_lt storable.fits)

theorem Storable.stored {o : Options} (storable : o.Storable) : o.stored = o := by
  rw [Options.stored, storable.writtenTimeout, storable.whole]

theorem toJson_stored (o : Options) : o.stored.toJson = o.toJson := by
  have same : o.stored.writtenTimeout = o.writtenTimeout := by
    rw [o.storable_stored.writtenTimeout, Options.stored, Duration.milliseconds_ofMilliseconds]
  rw [toJson, same]
  rfl

def value (o : Options) : Field → Value
  | .path => .string o.path
  | .assetPrefix => .string o.assetPrefix
  | .timeout => .ofNat o.writtenTimeout
  | .log => .bool o.log

def written (o : Options) (field : Field) : Member := .compact field.name (o.value field).print

theorem print_ofNat {n : Nat} (small : n < UInt64.size) : (Value.ofNat n).print = Decimal.digits n := by
  obtain ⟨_, _, written⟩ := integer_ofNat small
  simp [written, Value.print, Number.print, Decimal.ofInt, Decimal.ofNat]

theorem toJson_eq (o : Options) : o.toJson =
    String.ofList (Piece.text ⟨.none, objectCore .none (Field.all.map o.written), .none⟩) := by
  have texts : (Field.all.map fun field => (field.name, o.value field)).map printMember =
      (Field.all.map o.written).map Member.text := by
    simp only [List.map_map]
    refine List.map_congr_left fun field _ => ?_
    simp [written, Member.compact_text, printMember]
  have printed : o.toJson =
      (Value.object (Field.all.map fun field => (field.name, o.value field))).compact := rfl
  rw [printed, Value.compact, Value.print, printMembers_eq, texts]
  simp [Piece.text, objectCore, Gap.none]

theorem gives_value (o : Options) (field : Field) : o.stored.Gives field (o.value field).print := by
  cases field with
  | path => exact isText_print o.path
  | assetPrefix => exact isText_print o.assetPrefix
  | timeout =>
    have same : o.stored.timeout.milliseconds = o.writtenTimeout :=
      Duration.milliseconds_ofMilliseconds o.writtenTimeout
    exact (print_ofNat o.writtenTimeout_lt).trans (congrArg Decimal.digits same.symm)
  | log => rfl

theorem describes_written (o : Options) : o.stored.Describes (Field.all.map o.written) := by
  have names : List.Forall₂ Member.Names (Field.all.map o.written) (Field.all.map Field.name) := by
    rw [List.forall₂_map_left_iff, List.forall₂_map_right_iff, List.forall₂_same]
    exact fun field _ => Member.compact_names field.name (o.value field).print
  refine describes_of_names (List.forall_mem_map.mpr fun field _ => ?_) names (by decide) fun field => ?_
  · exact fits_of_field (Member.compact_names field.name _) (o.gives_value field)
  · refine .inl (List.mem_map_of_mem ?_)
    cases field <;> decide

theorem parse_toJson (o : Options) : parse o.toJson = .ok o.stored := by
  rw [toJson_eq]
  exact parse_describes o.storable_stored o.describes_written

section accepted

variable {rest : Input}

theorem readScalarAs_eq_ok {α : Type} {shape : Shape α} {x : α} {cs : Input}
    (read : readScalarAs shape cs = .ok (x, rest)) : ∃ value, shape.accept value = .ok x := by
  unfold readScalarAs at read
  split at read
  next => cases read
  next => cases read
  next => cases read
  next =>
    split at read
    next => cases read
    next => cases read
    next value _ _ =>
      split at read
      next accepted =>
        cases read
        exact ⟨value, accepted⟩
      next => cases read

theorem lt_of_readAs {n : Nat} {cs : Input} (read : readAs unsigned64Shape cs = .ok (n, rest)) :
    n < UInt64.size := by
  obtain ⟨value, accepted⟩ := readScalarAs_eq_ok read
  simp only [unsigned64Shape, unsignedShape] at accepted
  split at accepted
  next =>
    split at accepted
    next fits =>
      cases accepted
      exact (Int.toNat_lt fits.1).mpr fits.2
    next => cases accepted
  next => cases accepted

def Draft.Bounded (d : Draft) : Prop := ∀ n ∈ d.timeout, n < UInt64.size

theorem Draft.Bounded.complete {d : Draft} (bounded : d.Bounded) (path : String) :
    (d.complete path).Storable := by
  cases timeout : d.timeout with
  | none => exact ⟨5000, by decide, by simp [Draft.complete, timeout, defaultTimeout]⟩
  | some n => exact ⟨n, bounded n timeout, by simp [Draft.complete, timeout]⟩

theorem Field.read_bounded {d after : Draft} {field : Field} {cs : Input} (bounded : d.Bounded)
    (read : field.read d cs = .ok (after, rest)) : after.Bounded := by
  cases field <;> obtain ⟨⟨x, left⟩, taken, made⟩ := map_eq_ok.mp read <;> cases made
  case timeout =>
    rintro _ ⟨⟩
    exact lt_of_readAs taken
  all_goals exact bounded

theorem readMember_bounded {bound : Nat} {d after : Draft} {key : String} {cs : Input}
    (bounded : d.Bounded) (read : readMember bound d key cs = .ok (after, rest)) : after.Bounded := by
  by_cases known : ∃ field : Field, key = field.name
  next =>
    obtain ⟨field, rfl⟩ := known
    rw [readMember_name] at read
    split at read
    next => cases read
    next =>
      obtain ⟨_, _, read⟩ := bind_eq_ok.mp read
      exact Field.read_bounded bounded read
  next =>
    rw [readMember_other _ _ fun field named => known ⟨field, named⟩] at read
    obtain ⟨_, _, read⟩ := bind_eq_ok.mp read
    obtain ⟨_, _, same⟩ := map_eq_ok.mp read
    cases same
    exact bounded

theorem storable_of_readObject {bound : Nat} {o : Options} {cs : Input}
    (read : readObject bound cs = .ok (o, rest)) : o.Storable := by
  obtain ⟨⟨draft, _⟩, walked, read⟩ := bind_eq_ok.mp read
  obtain ⟨_, _, read⟩ := bind_eq_ok.mp read
  have bounded : draft.Bounded := walkObject_keeps (fun _ _ _ _ _ => readMember_bounded)
    (fun _ none => by cases none) walked
  split at read
  next path _ =>
    cases read
    exact bounded.complete path
  next => cases read

theorem readItem?_eq_ok {α : Type} {first : Bool} {read : Input → Except Failure (Scanned α)} {x : α}
    {cs : Input} (item : readItem? first read cs = .ok (some x, rest)) :
    ∃ cs, read cs = .ok (x, rest) := by
  unfold readItem? at item
  split at item
  next => cases item
  next => cases item
  next =>
    obtain ⟨⟨x, left⟩, taken, made⟩ := map_eq_ok.mp item
    cases made
    exact ⟨_, taken⟩

theorem storable_of_readList {o : Options} {cs : Input} (read : readList cs = .ok (o, rest)) :
    o.Storable := by
  obtain ⟨⟨path, _⟩, _, read⟩ := bind_eq_ok.mp read
  cases path with
  | none => cases read
  | some path =>
    obtain ⟨⟨assetPrefix, _⟩, _, read⟩ := bind_eq_ok.mp read
    obtain ⟨⟨timeout, _⟩, taken, read⟩ := bind_eq_ok.mp read
    obtain ⟨⟨log, _⟩, _, read⟩ := bind_eq_ok.mp read
    obtain ⟨_, _, read⟩ := bind_eq_ok.mp read
    cases read
    refine Draft.Bounded.complete (fun n met => ?_) path
    obtain rfl : timeout = some n := met
    obtain ⟨_, read⟩ := readItem?_eq_ok taken
    exact lt_of_readAs read

theorem storable_of_parse {o : Options} {text : String} (accepted : parse text = .ok o) :
    o.Storable := by
  obtain ⟨left, read⟩ := readDocument_eq_ok accepted
  unfold Options.read at read
  split at read
  next => exact storable_of_readList read
  next => exact storable_of_readObject read
  next =>
    rw [refuseText] at read
    obtain ⟨_, refused⟩ := readScalarAs_eq_ok read
    cases refused

end accepted

theorem stored_round_trip (o : Options) :
    parse o.toJson = .ok { o with
      timeout := .ofMilliseconds (min (o.timeout.nanoseconds / 1000000) (UInt64.size - 1)) } ∧
    (∀ n < UInt64.size, o.timeout = .ofMilliseconds n → parse o.toJson = .ok o) ∧
    (∀ text, parse text = .ok o → parse o.toJson = .ok o) ∧
    ∀ again, parse o.toJson = .ok again → again.toJson = o.toJson := by
  have parsed := o.parse_toJson
  have kept (storable : o.Storable) : parse o.toJson = .ok o := by rw [parsed, storable.stored]
  refine ⟨parsed, fun n small same => kept ⟨n, small, same⟩, fun text accepted => ?_, fun again read => ?_⟩
  · exact kept (storable_of_parse accepted)
  · cases parsed.symm.trans read
    exact o.toJson_stored

theorem stored_round_trip_from_list :
    let o : Options := new "/hmr" ""
    parse "[\"/hmr\"]" = .ok o ∧ o.timeout = .ofMilliseconds 5000 ∧ parse o.toJson = .ok o ∧
      ∃ again, parse o.toJson = .ok again ∧ again.toJson = o.toJson := by
  intro o
  have accepted : parse "[\"/hmr\"]" = .ok o := by rfl
  obtain ⟨_, whole, read, same⟩ := stored_round_trip o
  have stored := whole 5000 (by decide) rfl
  exact ⟨accepted, rfl, read _ accepted, o, stored, same o stored⟩

section delay

variable (o : Options)

theorem writtenTimeout_le : o.writtenTimeout * 1000000 ≤ o.timeout.nanoseconds :=
  (Nat.mul_le_mul_right _ (Nat.min_le_left _ _)).trans (Nat.div_mul_le_self _ _)

theorem lt_writtenTimeout (small : o.timeout.nanoseconds ≤ (UInt64.size - 1) * 1000000) :
    o.timeout.nanoseconds < o.writtenTimeout * 1000000 + 1000000 := by
  have whole : o.writtenTimeout = o.timeout.nanoseconds / 1000000 :=
    Nat.min_eq_left (Nat.div_le_of_le_mul (by omega))
  omega

theorem writtenTimeout_eq_zero : o.writtenTimeout = 0 ↔ o.timeout.nanoseconds < 1000000 := by
  have positive : UInt64.size - 1 ≠ 0 := by decide
  simp only [writtenTimeout, Duration.milliseconds]
  omega

-- The delay of stored options is no longer than it was unless their timeout was less than a
-- millisecond but not zero. It is less than a millisecond shorter unless 64 bits are too few for
-- the milliseconds.
theorem stored_delay : ∃ found, parse o.toJson = .ok found ∧
    (found.reconnectDelay.nanoseconds ≤ o.reconnectDelay.nanoseconds ↔
      ¬ (0 < o.timeout.nanoseconds ∧ o.timeout.nanoseconds < 1000000)) ∧
    (o.timeout.nanoseconds ≤ (UInt64.size - 1) * 1000000 →
      o.reconnectDelay.nanoseconds < found.reconnectDelay.nanoseconds + 1000000) := by
  refine ⟨o.stored, o.parse_toJson, ?_⟩
  have least := o.writtenTimeout_le
  have most := o.lt_writtenTimeout
  have zero := o.writtenTimeout_eq_zero
  have default : defaultTimeout.nanoseconds = 5000000000 := rfl
  have timeout : o.stored.timeout.nanoseconds = o.writtenTimeout * 1000000 := rfl
  simp only [reconnectDelay, timeout]
  split <;> split <;> simp only [default, timeout] <;> omega

theorem delay_grows_in_store :
    let o : Options := ⟨"/hmr", "", ⟨500000⟩, false⟩
    ∃ found, parse o.toJson = .ok found ∧ o.reconnectDelay = ⟨500000⟩ ∧
      found.reconnectDelay = .ofMilliseconds 5000 := by
  intro o
  exact ⟨o.stored, o.parse_toJson, by decide, by decide⟩

end delay

end HotReload.Options
