import HotReload.Envelope
import HotReload.Proofs.Compact

set_option autoImplicit false

namespace HotReload

namespace Json

theorem readDocument_ok {α : Type} {read : Nat → Input → Except Failure (Scanned α)} {text : String}
    {a : α} (gap : Gap) (whole : read (text.toList.length + 1) text.toList = .ok (a, gap.chars)) :
    readDocument read text = .ok a := by
  have ended : skipBlank gap.chars = [] := List.dropWhile_eq_nil_iff.mpr gap.blank
  simp only [readDocument, whole, bind, Except.bind, ended]
  rfl

theorem readDocument_error {α : Type} {read : Nat → Input → Except Failure (Scanned α)}
    {text : String} {failure : Failure}
    (failed : read (text.toList.length + 1) text.toList = .error failure) :
    ∃ place, readDocument read text = .error ⟨failure.cause, some place⟩ := by
  simp only [readDocument, failed]
  exact ⟨_, rfl⟩

theorem readDocument_eq_ok {α : Type} {read : Nat → Input → Except Failure (Scanned α)}
    {text : String} {a : α} (accepted : readDocument read text = .ok a) :
    ∃ rest, read (text.toList.length + 1) text.toList = .ok (a, rest) := by
  simp only [readDocument] at accepted
  split at accepted
  next outcome =>
    obtain ⟨⟨found, rest⟩, taken, ended⟩ := bind_eq_ok.mp outcome
    split at ended
    next =>
      cases ended
      cases accepted
      exact ⟨rest, taken⟩
    next => cases ended
  next => cases accepted

theorem parse_sound {text : String} {v : Value} (accepted : Value.parse text = .ok v) :
    v.Sorted ∧ v.depth ≤ maxDepth := by
  obtain ⟨_, read⟩ := readDocument_eq_ok accepted
  exact readValue_sound read

theorem parse_compact {v : Value} (sorted : v.Sorted) (exact : v.isExact = true)
    (fits : v.depth ≤ maxDepth) : Value.parse v.compact = .ok v := by
  refine readDocument_ok .none ?_
  have read := (judged_print sorted exact (Nat.le_succ _)).1 fits [] rfl
  simpa [Value.compact, Gap.none] using read

theorem parse_integer {n : Int} (lower : minInteger ≤ n) (upper : n ≤ maxInteger) :
    Value.parse (Decimal.ofInt n) = .ok (.number (.integer n lower upper)) := by
  have read := parse_compact (.number (.integer n lower upper)) rfl (Nat.zero_le maxDepth)
  simpa [Value.compact, Value.print, Number.print] using read

theorem parse_compact_members {members : List (String × Value)}
    (sorted : ∀ member ∈ members, member.2.Sorted)
    (exact : ∀ member ∈ members, member.2.isExact = true)
    (fits : ∀ member ∈ members, member.2.depth < maxDepth) :
    Value.parse (Value.object members).compact = .ok (Value.ofMembers members) := by
  refine readDocument_ok .none ?_
  obtain ⟨count, within⟩ := room_object (Nat.le_succ (Value.object members).print.length)
  have reads : ∀ member ∈ members,
      Reads ((Value.object members).print.length + 1) 126 member.2 := fun member inside =>
    (judged_print (sorted member inside) (exact member inside) (within member inside)).1
      (Nat.le_of_lt_succ (fits member inside))
  have read := readValue_members exact count reads []
  have levels : maxDepth = 126 + 1 := rfl
  simpa [Value.compact, Gap.none, levels] using read

def nested : Nat → Value
  | 0 => .null
  | n + 1 => .array [nested n]

theorem depth_nested (n : Nat) : (nested n).depth = n := by
  induction n with
  | zero => rfl
  | succ n ih =>
    simp only [nested, Value.depth, depthOfItems, ih]
    omega

theorem isExact_nested (n : Nat) : (nested n).isExact = true := by
  induction n with
  | zero => rfl
  | succ n ih => simpa [nested, Value.isExact, exactItems] using ih

theorem sorted_nested (n : Nat) : (nested n).Sorted := by
  induction n with
  | zero => exact .null
  | succ n ih => exact .array (by simpa using ih)

end Json

namespace Envelope

open Json

theorem readMember_type {name : String} {tag : Tag} (named : Tag.ofName name = .ok tag)
    (bound : Nat) (members : List (String × Value)) (rest : Input) :
    readMember bound (none, members) "type" (':' :: (printText name ++ rest)) =
      .ok ((some tag, members), rest) := by
  have blank : isBlank '"' = false := rfl
  have colon : scanColon (':' :: (printText name ++ rest)) = .ok (printText name ++ rest) := rfl
  have read : readAs tagShape (printText name ++ rest) = .ok (tag, rest) := by
    rw [printText_append]
    simp only [readAs, skipBlank, List.dropWhile_cons, blank]
    simp [readScalarAs, scanScalar?, scanText_escaped, Except.map, tagShape, named]
  simp [readMember, colon, read, bind, Except.bind]

theorem readMember_data (bound : Nat) (tag : Option Tag) (members : List (String × Value))
    (text : Input) :
    readMember bound (tag, members) "data" (':' :: text) =
      (readValue bound 126 text).map fun found => ((tag, ("data", found.1) :: members), found.2) := by
  have colon : scanColon (':' :: text) = .ok text := rfl
  have other : ("data" : String) ≠ "type" := by decide
  have left : maxDepth - 1 = 126 := rfl
  simp only [readMember, other, if_false, colon, bind, Except.bind, left]
  cases readValue bound 126 text <;> rfl

theorem readTagged_object (bound : Nat) (rest : Input) :
    readTagged bound ('\x7b' :: rest) = readObject bound rest := by
  have visible : isBlank '\x7b' = false := rfl
  simp [readTagged, skipBlank, visible]

theorem readObject_ok {bound : Nat} {tag : Tag} {members : List (String × Value)} {cs rest : Input}
    (walked : walkObject (readMember bound) bound true (none, []) cs =
      .ok ((some tag, members), '\x7d' :: rest)) :
    readObject bound cs = .ok (⟨tag, .members members.reverse⟩, rest) := by
  have visible : isBlank '\x7d' = false := rfl
  simp [readObject, walked, bind, Except.bind, closeObject, skipBlank, visible]

theorem readObject_error {bound : Nat} {cs : Input} {failure : Failure}
    (failed : walkObject (readMember bound) bound true (none, []) cs = .error failure) :
    readObject bound cs = .error failure := by
  simp [readObject, failed, bind, Except.bind]

theorem toJson_message (data : Value) : (message data).toJson.toList =
    '\x7b' :: (listed true [printText "type" ++ ':' :: printText "message"] ++
      (listed false [printText "data" ++ ':' :: data.print] ++ ['\x7d'])) := by
  simp [toJson, Value.compact, Value.print, printMembers, listed]

theorem length_toJson (data : Value) :
    ∃ fuel, (message data).toJson.toList.length + 1 = fuel + 3 ∧ data.print.length ≤ fuel + 3 := by
  refine ⟨(message data).toJson.toList.length - 2, ?_⟩
  simp only [toJson_message, listed, printText, List.length_append, List.length_cons]
  omega

theorem walk_message (bound fuel : Nat) (data : Value) :
    walkObject (readMember bound) (fuel + 3) true (none, [])
      (listed true [printText "type" ++ ':' :: printText "message"] ++
        (listed false [printText "data" ++ ':' :: data.print] ++ ['\x7d'])) =
      (readValue bound 126 (data.print ++ ['\x7d'])).bind fun found =>
        walkObject (readMember bound) (fuel + 1) false (some .message, [("data", found.1)])
          found.2 := by
  rw [walkObject_listed, readMember_type rfl, Except.bind, walkObject_listed, readMember_data]
  cases readValue bound 126 (data.print ++ ['\x7d']) <;> rfl

theorem parse_toJson {data : Value} (sorted : data.Sorted) (exact : data.isExact = true)
    (fits : data.depth ≤ 126) : parse (message data).toJson = .ok (message data) := by
  have read : readDocument readTagged (message data).toJson =
      .ok ⟨.message, .members [("data", data)]⟩ := by
    refine readDocument_ok .none ?_
    obtain ⟨fuel, length, room⟩ := length_toJson data
    have whole := (judged_print sorted exact room).1 fits ['\x7d'] rfl
    have walked := walk_message (fuel + 3) fuel data
    rw [whole] at walked
    rw [length, toJson_message, readTagged_object]
    exact readObject_ok walked
  rw [parse, read]
  rfl

theorem parse_toJson_deep {data : Value} (sorted : data.Sorted) (exact : data.isExact = true)
    (deep : 126 < data.depth) :
    ∃ place, parse (message data).toJson = .error ⟨.tooDeep, some place⟩ := by
  obtain ⟨fuel, length, room⟩ := length_toJson data
  obtain ⟨unread, refused⟩ := (judged_print sorted exact room).2 deep ['\x7d'] rfl
  have failed : readTagged ((message data).toJson.toList.length + 1) (message data).toJson.toList =
      .error ⟨.tooDeep, unread⟩ := by
    have walked := walk_message (fuel + 3) fuel data
    rw [refused] at walked
    rw [length, toJson_message, readTagged_object]
    exact readObject_error walked
  obtain ⟨place, read⟩ := readDocument_error failed
  rw [parse, read]
  exact ⟨place, rfl⟩

theorem parse_toJson_connected : parse connected.toJson = .ok connected := by
  rfl

theorem ofFrame_eq_ok {text : String} {envelope : Envelope} :
    ofFrame text = .ok envelope ↔ ∃ data, Value.parse text = .ok data ∧ envelope = .message data := by
  rw [ofFrame]
  cases Value.parse text with
  | error e => simp [Except.map]
  | ok data => simp [Except.map, eq_comm]

theorem json_round_trip (text : String) (envelope : Envelope) (accepted : ofFrame text = .ok envelope)
    (exact : ∀ data ∈ envelope.data?, data.isExact = true) :
    (∃ data, envelope = .message data ∧ data.depth ≤ 127 ∧
      ofFrame data.compact = .ok envelope ∧
      (data.depth ≤ 126 → parse envelope.toJson = .ok envelope) ∧
      (data.depth = 127 → ∃ place, parse envelope.toJson = .error ⟨.tooDeep, some place⟩)) ∧
    (∃ deepest data, ofFrame deepest = .ok (.message data) ∧ data.depth = 127) ∧
    parse connected.toJson = .ok connected := by
  obtain ⟨data, parsed, rfl⟩ := ofFrame_eq_ok.mp accepted
  obtain ⟨sorted, fits⟩ := parse_sound parsed
  have whole : data.isExact = true := exact data rfl
  have deepest : Value.parse (nested 127).compact = .ok (nested 127) :=
    parse_compact (sorted_nested 127) (isExact_nested 127) (Nat.le_of_eq (depth_nested 127))
  refine ⟨⟨data, rfl, fits, ?_, ?_, ?_⟩, ⟨(nested 127).compact, nested 127, ?_, depth_nested 127⟩, ?_⟩
  · exact ofFrame_eq_ok.mpr ⟨data, parse_compact sorted whole fits, rfl⟩
  · exact parse_toJson sorted whole
  · exact fun deep => parse_toJson_deep sorted whole (by omega)
  · exact ofFrame_eq_ok.mpr ⟨_, deepest, rfl⟩
  · exact parse_toJson_connected

theorem json_round_trip_unsorted :
    let text := " \x7b\"b\": 1, \"a\": -7, \"b\": [\"\\u0022\\u0007\", 18446744073709551615]\x7d\n"
    ∃ data, ofFrame text = .ok (.message data) ∧
      data.compact = "\x7b\"a\":-7,\"b\":[\"\\\"\\u0007\",18446744073709551615]\x7d" ∧
      ofFrame data.compact = .ok (.message data) ∧
      parse (message data).toJson = .ok (.message data) := by
  intro text
  have read : ((ofFrame text).toOption.bind data?).map
      (fun data => (data.compact, data.isExact, data.depth)) =
        some ("\x7b\"a\":-7,\"b\":[\"\\\"\\u0007\",18446744073709551615]\x7d", true, 2) := by
    decide +kernel
  cases accepted : ofFrame text with
  | error e => simp [accepted, Except.toOption] at read
  | ok envelope =>
    cases envelope with
    | connected => simp [accepted, Except.toOption, data?] at read
    | message data =>
      simp only [accepted, Except.toOption, Option.bind_some, data?, Option.map_some,
        Option.some.injEq, Prod.mk.injEq] at read
      obtain ⟨compact, exact, depth⟩ := read
      have all : ∀ found ∈ (message data).data?, found.isExact = true := by simpa [data?] using exact
      obtain ⟨⟨_, same, _, own, form, _⟩, _⟩ := json_round_trip text (.message data) accepted all
      cases same
      exact ⟨data, rfl, compact, own, form (by omega)⟩

end Envelope

end HotReload
