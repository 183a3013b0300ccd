import HotReload.Payload
import HotReload.Proofs.Roundtrip

set_option autoImplicit false

namespace HotReload

open Json

namespace Payload

section restores

variable {α β : Type} [Payload α] [Payload β]

-- What brings a value back from its text: the tree that it is written as is read again just so, and
-- accepted as this value.
structure Restores (height : Nat) (x : α) : Prop where
  sorted : (toValue x).Sorted
  exact : (toValue x).isExact = true
  fits : (toValue x).depth ≤ height
  accepted : accept (toValue x) = .ok x

theorem restores_bool (b : Bool) : Restores 0 b := ⟨.bool b, rfl, Nat.le_refl 0, rfl⟩

theorem restores_text (s : String) : Restores 0 s := ⟨.string s, rfl, Nat.le_refl 0, rfl⟩

theorem restores_unit (u : Unit) : Restores 0 u := ⟨.null, rfl, Nat.le_refl 0, rfl⟩

theorem restores_none : Restores 0 (none : Option α) := ⟨.null, rfl, Nat.le_refl 0, rfl⟩

theorem Restores.some {height : Nat} {x : α} (restores : Restores height x)
    (present : toValue x ≠ .null) : Restores height (some x) where
  sorted := restores.sorted
  exact := restores.exact
  fits := restores.fits
  accepted := by
    -- Only `null` is taken for no value.
    have found := restores.accepted
    simp only [toValue, accept, found, Except.map]

theorem mapM_map_ok {ε γ δ : Type} {f : δ → Except ε γ} {g : γ → δ} {xs : List γ}
    (each : ∀ x ∈ xs, f (g x) = .ok x) : (xs.map g).mapM f = .ok xs := by
  induction xs with
  | nil => rfl
  | cons x rest ih =>
    have first := each x List.mem_cons_self
    have later := ih fun other inside => each other (List.mem_cons_of_mem x inside)
    simp only [List.map_cons, List.mapM_cons, first, later, bind, Except.bind]
    rfl

theorem restores_list {height : Nat} {xs : List α} (each : ∀ x ∈ xs, Restores height x) :
    Restores (height + 1) xs where
  sorted := .array (List.forall_mem_map.mpr fun x inside => (each x inside).sorted)
  exact := by
    apply (isExact_array _).mpr
    exact List.forall_mem_map.mpr fun x inside => (each x inside).exact
  fits := by
    apply (depth_array_le _ _).mpr
    exact List.forall_mem_map.mpr fun x inside => (each x inside).fits
  accepted := mapM_map_ok fun x inside => (each x inside).accepted

theorem Restores.pair {height : Nat} {x : α} {y : β} (first : Restores height x)
    (second : Restores height y) : Restores (height + 1) (x, y) where
  sorted := .array (by simp [first.sorted, second.sorted])
  exact := by simp [toValue, isExact_array, first.exact, second.exact]
  fits := by simp [toValue, depth_array_le, first.fits, second.fits]
  accepted := by simp [toValue, accept, first.accepted, second.accepted, bind, Except.bind]

theorem restores_table {height : Nat} {table : Table α}
    (each : ∀ entry ∈ table.entries, Restores height entry.2) : Restores (height + 1) table where
  sorted := by
    apply Value.Sorted.object
    · exact List.pairwise_map.mpr table.ascending
    · exact List.forall_mem_map.mpr fun entry inside => (each entry inside).sorted
  exact := by
    apply (isExact_object _).mpr
    exact List.forall_mem_map.mpr fun entry inside => (each entry inside).exact
  fits := by
    apply (depth_object_le _ _).mpr
    exact List.forall_mem_map.mpr fun entry inside => (each entry inside).fits
  accepted := by
    have members : (table.entries.map fun entry => (entry.1, toValue entry.2)).mapM acceptMember =
        .ok table.entries := by
      apply mapM_map_ok
      intro entry inside
      rw [acceptMember, (each entry inside).accepted]
      rfl
    simp only [toValue, accept, members, Except.map, Table.ofEntries_entries]

end restores

-- A type of the integers from `least` up to, but without, `limit`. All others are refused.
structure Ranged (α : Type) [Payload α] (number : α → Int) (least limit : Int)
    (expected : Expected) : Prop where
  injective : ∀ x y : α, number x = number y → x = y
  writes : ∀ x : α, ∃ lower upper, toValue x = .number (.integer (number x) lower upper)
  inRange : ∀ x : α, least ≤ number x ∧ number x < limit
  accepts : ∀ n lower upper, least ≤ n ∧ n < limit →
    ∃ x : α, number x = n ∧ accept (.number (.integer n lower upper)) = .ok x
  refuses : ∀ n lower upper, ¬(least ≤ n ∧ n < limit) →
    (accept (.number (.integer n lower upper)) : Except Cause α) = .error (.wrongValue n expected)

section ranged

variable {α : Type} [Payload α] {number : α → Int} {least limit : Int} {expected : Expected}

theorem Ranged.restores (ranged : Ranged α number least limit expected) (x : α) : Restores 0 x := by
  obtain ⟨lower, upper, written⟩ := ranged.writes x
  obtain ⟨y, same, accepted⟩ := ranged.accepts (number x) lower upper (ranged.inRange x)
  obtain rfl := ranged.injective y x same
  constructor
  case sorted =>
    rw [written]
    exact .number _
  case exact => rw [written]; rfl
  case fits => rw [written]; exact Nat.le_refl 0
  case accepted => rw [written, accepted]

end ranged

theorem ranged_unsigned {α : Type} [Payload α] {toNat : α → Nat} {ofNat : Nat → α} {limit : Nat}
    {expected : Expected} (written : ∀ x : α, toValue x = .ofNat (toNat x))
    (read : ∀ v, (accept v : Except Cause α) = ((unsignedShape expected limit).accept v).map ofNat)
    (bounded : ∀ x, toNat x < limit) (narrow : limit ≤ UInt64.size)
    (inverse : ∀ n < limit, toNat (ofNat n) = n) (injective : ∀ x y, toNat x = toNat y → x = y) :
    Ranged α (fun x => toNat x) 0 limit expected where
  injective x y same := injective x y (Int.ofNat_inj.mp same)
  writes x := by
    rw [written]
    exact integer_ofNat (Nat.lt_of_lt_of_le (bounded x) narrow)
  inRange x := ⟨Int.natCast_nonneg _, Int.ofNat_lt.mpr (bounded x)⟩
  accepts n lower upper within := by
    refine ⟨ofNat n.toNat, ?_, ?_⟩
    · have small : n.toNat < limit := by omega
      rw [inverse _ small]
      omega
    · rw [read]
      simp [unsignedShape, within, Except.map]
  refuses n lower upper beyond := by
    rw [read]
    simp [unsignedShape, beyond, Except.map]

theorem ranged_unsigned8 : Ranged UInt8 (fun n => n.toNat) 0 UInt8.size .unsigned8 :=
  ranged_unsigned (fun _ => rfl) (fun _ => rfl) UInt8.toNat_lt (by decide)
    (fun _ small => UInt8.toNat_ofNat_of_lt small) fun _ _ => UInt8.toNat_inj.mp

theorem ranged_unsigned64 : Ranged UInt64 (fun n => n.toNat) 0 UInt64.size .unsigned64 :=
  ranged_unsigned (fun _ => rfl) (fun _ => rfl) UInt64.toNat_lt (by decide)
    (fun _ small => UInt64.toNat_ofNat_of_lt small) fun _ _ => UInt64.toNat_inj.mp

theorem ranged_signed64 : Ranged Int64 Int64.toInt minInteger (Nat.pow 2 63) .signed64 where
  injective x y := Int64.toInt_inj.mp
  writes x := ⟨_, _, rfl⟩
  inRange x := ⟨Int64.minValue_le_toInt x, Int64.toInt_lt x⟩
  accepts n lower upper within := by
    refine ⟨Int64.ofInt n, Int64.toInt_ofInt_of_le within.1 within.2, ?_⟩
    have small : n < Nat.pow 2 63 := within.2
    simp only [accept, signed64Shape, small, if_true]
    rfl
  refuses n lower upper beyond := by
    -- No integer that can be read at all is below the range.
    have large : ¬n < Nat.pow 2 63 := fun small => beyond ⟨lower, small⟩
    simp only [accept, signed64Shape, large, if_false]
    rfl

end Payload

namespace Envelope

open Payload

def Restored {α : Type} [Payload α] (x : α) : Prop :=
  ∃ envelope, ofFrame (toValue x).compact = .ok envelope ∧ envelope.dataAs α = .ok (some x)

theorem restored_of_parse {α : Type} [Payload α] {x : α} {data : Value}
    (parsed : Value.parse (toValue x).compact = .ok data) (accepted : accept data = .ok x) :
    Restored x := by
  refine ⟨.message data, ofFrame_eq_ok.mpr ⟨data, parsed, rfl⟩, ?_⟩
  simp [dataAs, accepted]

theorem restored_of_restores {α : Type} [Payload α] {x : α} {height : Nat}
    (restores : Restores height x) (low : height ≤ maxDepth) : Restored x := by
  apply restored_of_parse _ restores.accepted
  exact parse_compact restores.sorted restores.exact (Nat.le_trans restores.fits low)

theorem restored_built (built : Built) : Restored built := by
  obtain ⟨action, hash, errors⟩ := built
  have inner : Restores 1 errors := restores_list fun s _ => restores_text s
  -- The fields are written in the order of the record and read in the order of their names.
  have ordered : Value.ofMembers [("action", .string action), ("hash", .string hash),
      ("errors", toValue errors)] = .object [("action", .string action),
        ("errors", toValue errors), ("hash", .string hash)] := by
    have first : ¬("hash" : String) < "action" := by decide
    have second : ¬("errors" : String) < "action" := by decide
    have third : ("errors" : String) < "hash" := by decide
    simp [Value.ofMembers, insertMember, first, second, third]
  have parsed : Value.parse (toValue (⟨action, hash, errors⟩ : Built)).compact =
      .ok (.object [("action", .string action), ("errors", toValue errors),
        ("hash", .string hash)]) := by
    rw [← ordered]
    apply parse_compact_members
    · simp [inner.sorted, Value.Sorted.string]
    · simp [inner.exact, Value.isExact]
    · have low : (toValue errors).depth < maxDepth := Nat.lt_of_le_of_lt inner.fits (by decide)
      have flat : 0 < maxDepth := by decide
      simp [low, Value.depth, flat]
  apply restored_of_parse parsed
  have fields : [("action", Value.string action), ("errors", toValue errors),
      ("hash", .string hash)].foldlM Built.acceptField {} =
        .ok ⟨some action, some hash, some errors⟩ := by
    have text (s : String) : accept (Value.string s) = .ok s := rfl
    simp [Built.acceptField, text, inner.accepted, Except.map, bind, Except.bind, pure, Except.pure]
  simp only [accept, fields, bind, Except.bind]
  rfl

-- How a number is read as a type of integers: it is given if the type has it, and refused if not.
def GivesNumber (α : Type) [Payload α] (number : α → Int) (least limit n : Int) (expected : Expected)
    (envelope : Envelope) : Prop :=
  (least ≤ n ∧ n < limit → ∃ x : α, number x = n ∧ envelope.dataAs α = .ok (some x)) ∧
    (¬(least ≤ n ∧ n < limit) → envelope.dataAs α = .error ⟨.wrongValue n expected, none⟩)

theorem givesNumber_of_ranged {α : Type} [Payload α] {number : α → Int} {least limit n : Int}
    {expected : Expected} (ranged : Ranged α number least limit expected) (lower : minInteger ≤ n)
    (upper : n ≤ maxInteger) :
    GivesNumber α number least limit n expected (.message (.number (.integer n lower upper))) := by
  constructor
  · intro within
    obtain ⟨x, same, accepted⟩ := ranged.accepts n lower upper within
    exact ⟨x, same, by simp [dataAs, accepted]⟩
  · intro beyond
    simp [dataAs, ranged.refuses n lower upper beyond]

theorem typed_round_trip :
    ((∀ b : Bool, Restored b) ∧ (∀ n : UInt8, Restored n) ∧ (∀ n : UInt64, Restored n) ∧
      (∀ n : Int64, Restored n) ∧ (∀ s : String, Restored s) ∧ (∀ u : Unit, Restored u) ∧
      (∀ n : Option UInt64, Restored n) ∧ (∀ texts : List String, Restored texts) ∧
      (∀ pair : UInt64 × String, Restored pair) ∧
      (∀ table : Table UInt64, Restored table) ∧ ∀ built : Built, Restored built) ∧
    (∃ null, ofFrame "null" = .ok null ∧ null.dataAs (Option UInt64) = .ok (some none)) ∧
    (∀ (α : Type) [Payload α], connected.dataAs α = .ok none) ∧
    ∀ n : Int, minInteger ≤ n → n ≤ maxInteger → ∃ envelope, ofFrame (Decimal.ofInt n) = .ok envelope ∧
      envelope.GivesNumber UInt8 (fun k => k.toNat) 0 UInt8.size n .unsigned8 ∧
      envelope.GivesNumber UInt64 (fun k => k.toNat) 0 UInt64.size n .unsigned64 ∧
      envelope.GivesNumber Int64 Int64.toInt minInteger (Nat.pow 2 63) n .signed64 := by
  have present (n : UInt64) : toValue n ≠ .null := by
    obtain ⟨lower, upper, written⟩ := ranged_unsigned64.writes n
    simp [written]
  have absent : Restored (none : Option UInt64) := restored_of_restores restores_none (by decide)
  refine ⟨⟨?_, ?_, ?_, ?_, ?_, ?_, ?_, ?_, ?_, ?_, restored_built⟩, absent, fun _ _ => rfl, ?_⟩
  · exact fun b => restored_of_restores (restores_bool b) (by decide)
  · exact fun n => restored_of_restores (ranged_unsigned8.restores n) (by decide)
  · exact fun n => restored_of_restores (ranged_unsigned64.restores n) (by decide)
  · exact fun n => restored_of_restores (ranged_signed64.restores n) (by decide)
  · exact fun s => restored_of_restores (restores_text s) (by decide)
  · exact fun u => restored_of_restores (restores_unit u) (by decide)
  · intro n
    cases n with
    | none => exact absent
    | some n =>
      have restores := (ranged_unsigned64.restores n).some (present n)
      exact restored_of_restores restores (by decide)
  · intro texts
    have restores : Restores 1 texts := restores_list fun s _ => restores_text s
    exact restored_of_restores restores (by decide)
  · intro pair
    have restores := (ranged_unsigned64.restores pair.1).pair (restores_text pair.2)
    exact restored_of_restores restores (by decide)
  · intro table
    have restores : Restores 1 table :=
      restores_table fun entry _ => ranged_unsigned64.restores entry.2
    exact restored_of_restores restores (by decide)
  · -- A number in decimal is the compact text of that number.
    intro n lower upper
    refine ⟨_, ofFrame_eq_ok.mpr ⟨_, parse_integer lower upper, rfl⟩, ?_, ?_, ?_⟩
    · exact givesNumber_of_ranged ranged_unsigned8 lower upper
    · exact givesNumber_of_ranged ranged_unsigned64 lower upper
    · exact givesNumber_of_ranged ranged_signed64 lower upper

theorem typed_round_trip_at_the_edges :
    let table : Table UInt64 :=
      ⟨[("", 0), ("\"\x07", 18446744073709551615), ("\\", 1)], by decide⟩
    Restored table ∧
      Restored (⟨"", "\x00", []⟩ : Built) ∧
      ∃ envelope, ofFrame "18446744073709551615" = .ok envelope ∧
        envelope.dataAs UInt64 = .ok (some 18446744073709551615) ∧
        envelope.dataAs Int64 = .error ⟨.wrongValue 18446744073709551615 .signed64, none⟩ := by
  intro table
  obtain ⟨⟨_, _, _, _, _, _, _, _, _, tables, built⟩, _, _, numbers⟩ := typed_round_trip
  obtain ⟨envelope, framed, _, ⟨given, _⟩, ⟨_, refused⟩⟩ :=
    numbers 18446744073709551615 (by decide) (by decide)
  obtain ⟨greatest, same, given⟩ := given (by decide)
  obtain rfl : greatest = 18446744073709551615 := UInt64.toNat_inj.mp (Int.ofNat_inj.mp same)
  have spelled : Decimal.ofInt 18446744073709551615 = "18446744073709551615" := by decide +kernel
  rw [spelled] at framed
  exact ⟨tables table, built _, envelope, framed, given, refused (by decide)⟩

end Envelope

end HotReload
