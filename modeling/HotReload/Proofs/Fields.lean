import HotReload.Options
import HotReload.Proofs.Passage

set_option autoImplicit false

namespace HotReload.Options

open Json

inductive Field where
  | path
  | assetPrefix
  | timeout
  | log
  deriving DecidableEq

namespace Field

def all : List Field := [.path, .assetPrefix, .timeout, .log]

def name : Field → String
  | .path => "path"
  | .assetPrefix => "assetPrefix"
  | .timeout => "timeout"
  | .log => "log"

theorem name_injective : Function.Injective name := by
  intro one other same
  cases one <;> cases other <;> first | rfl | simp [name] at same

def read (d : Draft) : Field → Input → Except Failure (Scanned Draft)
  | .path, cs => (readAs textShape cs).map fun (x, cs) => ({ d with path := some x }, cs)
  | .assetPrefix, cs => (readAs textShape cs).map fun (x, cs) => ({ d with assetPrefix := some x }, cs)
  | .timeout, cs => (readAs unsigned64Shape cs).map fun (x, cs) => ({ d with timeout := some x }, cs)
  | .log, cs => (readAs boolShape cs).map fun (x, cs) => ({ d with log := some x }, cs)

end Field

def Draft.has (d : Draft) : Field → Bool
  | .path => d.path.isSome
  | .assetPrefix => d.assetPrefix.isSome
  | .timeout => d.timeout.isSome
  | .log => d.log.isSome

theorem map_readOnce {α β : Type} (key : String) (seen : Option α)
    (read : Input → Except Failure (Scanned α)) (f : Scanned α → β) (cs : Input) :
    (readOnce key seen read cs).map f =
      if seen.isSome then failAt (.duplicateField key) (pastBracket '\x7d' cs)
      else (scanColon cs).bind fun cs => (read cs).map f := by
  unfold readOnce
  split
  · rfl
  · cases scanColon cs <;> rfl

theorem readMember_name (bound : Nat) (d : Draft) (field : Field) (cs : Input) :
    readMember bound d field.name cs =
      if d.has field then failAt (.duplicateField field.name) (pastBracket '\x7d' cs)
      else (scanColon cs).bind (field.read d) := by
  cases field <;>
    · simp only [readMember, Field.name, map_readOnce, String.reduceEq, if_true, if_false]
      rfl

theorem readMember_other (bound : Nat) (d : Draft) {key : String}
    (other : ∀ field : Field, key ≠ field.name) (cs : Input) :
    readMember bound d key cs =
      (scanColon cs).bind fun cs => (skipValue bound cs).map fun cs => (d, cs) := by
  have path := other .path
  have assetPrefix := other .assetPrefix
  have timeout := other .timeout
  have log := other .log
  simp only [Field.name] at path assetPrefix timeout log
  simp only [readMember, path, assetPrefix, timeout, log, if_false]
  cases scanColon cs with
  | error e => rfl
  | ok cs => cases skipValue bound cs <;> rfl

section sound

variable {rest : Input} {bound : Nat}

theorem Field.read_sound {d after : Draft} {field : Field} {value : Piece} {left : Input}
    (valid : IsValue value.core) (ends : endsToken rest = true)
    (read : field.read d (value.text ++ rest) = .ok (after, left)) :
    left = value.behind.chars ++ rest ∧ ∀ other, after.has other = (d.has other || other = field) := by
  cases field <;>
    · obtain ⟨⟨x, left⟩, taken, made⟩ := map_eq_ok.mp read
      cases made
      rw [readAs_piece _ valid] at taken
      refine ⟨endsAt_readScalarAs _ valid (endsToken_gap value.behind ends) x _ taken, fun other => ?_⟩
      cases other <;> simp [Draft.has]

theorem readMember_sound {member : Member} (valid : IsValue member.value.core)
    (room : member.value.core.length ≤ bound) (ends : endsToken rest = true) {key : String}
    {d after : Draft} {left : Input}
    (read : readMember bound d key
      (member.label.behind.chars ++ ':' :: (member.value.text ++ rest)) = .ok (after, left)) :
    left = member.value.behind.chars ++ rest ∧ ∀ field : Field,
      after.has field = (d.has field || key = field.name) ∧
        (key = field.name → d.has field = false) := by
  by_cases known : ∃ field : Field, key = field.name
  next =>
    obtain ⟨field, rfl⟩ := known
    rw [readMember_name] at read
    split at read
    next => cases read
    next fresh =>
      rw [scanColon_gap] at read
      obtain ⟨same, has⟩ := Field.read_sound valid ends read
      refine ⟨same, fun other => ⟨?_, fun named => ?_⟩⟩
      · simp [has, Field.name_injective.eq_iff, eq_comm]
      · rw [← Field.name_injective named]
        simpa using fresh
  next =>
    have other : ∀ field : Field, key ≠ field.name := fun field named => known ⟨field, named⟩
    rw [readMember_other _ _ other, scanColon_gap, Except.bind, skipValue_piece valid room ends] at read
    cases read
    exact ⟨rfl, fun field => ⟨by simp [other field], fun named => absurd named (other field)⟩⟩

def EachOnce (members : List Member) : Prop :=
  members.Pairwise fun one other => ∀ field : Field, one.Names field.name → ¬ other.Names field.name

def Occurs (field : Field) (members : List Member) : Prop := ∃ member ∈ members, member.Names field.name

theorem occurs_cons {field : Field} {member : Member} {more : List Member} :
    Occurs field (member :: more) ↔ member.Names field.name ∨ Occurs field more := by
  simp [Occurs]

theorem eachOnce_cons {member : Member} {more : List Member} :
    EachOnce (member :: more) ↔
      (∀ field : Field, member.Names field.name → ¬ Occurs field more) ∧ EachOnce more := by
  have swap : (∀ other ∈ more, ∀ field : Field, member.Names field.name → ¬ other.Names field.name) ↔
      ∀ field : Field, member.Names field.name → ¬ Occurs field more := by
    constructor
    · rintro apart field named ⟨other, inside, again⟩
      exact apart other inside field named again
    · intro apart other inside field named again
      exact apart field named ⟨other, inside, again⟩
  rw [EachOnce, List.pairwise_cons, swap]
  rfl

section keys

variable {members : List Member} {keys : List String}

theorem occurs_iff (names : List.Forall₂ Member.Names members keys) (field : Field) :
    Occurs field members ↔ field.name ∈ keys := by
  induction names with
  | nil => simp [Occurs]
  | cons names _ ih => rw [occurs_cons, names.iff, ih, List.mem_cons, eq_comm]

theorem eachOnce_of_nodup (names : List.Forall₂ Member.Names members keys) (apart : keys.Nodup) :
    EachOnce members := by
  induction names with
  | nil => exact List.Pairwise.nil
  | cons names others ih =>
    obtain ⟨new, apart⟩ := List.nodup_cons.mp apart
    refine eachOnce_cons.mpr ⟨fun field here again => new ?_, ih apart⟩
    rw [(names.iff _).mp here]
    exact (occurs_iff others field).mp again

end keys

theorem walk_sound {members : List Member} (labels : ∀ member ∈ members, IsString member.label.core)
    (values : ∀ member ∈ members, IsValue member.value.core)
    (room : ∀ member ∈ members, member.value.core.length ≤ bound) {fuel : Nat} {first : Bool}
    {d after : Draft} {gap : Gap} {left : Input}
    (walked : walkObject (readMember bound) fuel first d
      (gap.chars ++ (listed first (members.map Member.text) ++ '\x7d' :: rest)) = .ok (after, left)) :
    EachOnce members ∧ ∀ field,
      (d.has field = true → ¬ Occurs field members) ∧
        (after.has field = true → d.has field = true ∨ Occurs field members) := by
  induction members generalizing fuel first d gap with
  | nil =>
    refine ⟨List.Pairwise.nil, fun field => ⟨fun _ => by simp [Occurs], fun met => .inl ?_⟩⟩
    cases fuel with
    | zero => cases walked
    | succ fuel =>
      cases (walkObject_end _ fuel first d gap rest).symm.trans walked
      exact met
  | cons member more ih =>
    obtain ⟨label, labels⟩ := List.forall_mem_cons.mp labels
    obtain ⟨valid, values⟩ := List.forall_mem_cons.mp values
    obtain ⟨small, room⟩ := List.forall_mem_cons.mp room
    have ends := endsToken_listed .brace (more.map Member.text) rest
    rw [List.map_cons, listed_cons, List.append_assoc] at walked
    obtain ⟨fewer, key, ⟨middle, left⟩, names, stepped, walked⟩ := walkObject_sound label walked
    obtain ⟨rfl, grows⟩ := readMember_sound valid small ends stepped
    -- What this member named counts as met for the others, so none of them names it again.
    obtain ⟨once, kept⟩ := ih labels values room walked
    have named (field : Field) := Member.Names.iff names field.name
    refine ⟨eachOnce_cons.mpr ⟨fun field here => (kept field).1 ?_, once⟩, fun field => ⟨?_, ?_⟩⟩
    · simp [(grows field).1, (named field).mp here]
    · intro met
      rw [occurs_cons, named]
      rintro (here | later)
      · simp [(grows field).2 here] at met
      · exact (kept field).1 (by simp [(grows field).1, met]) later
    · intro met
      rw [occurs_cons, named, ← or_assoc]
      refine ((kept field).2 met).imp_left fun met => ?_
      simpa [(grows field).1] using met

end sound

section given

variable {o : Options}

-- The text is what the options have for the field; a timeout is a whole number of milliseconds.
def Gives (o : Options) : Field → List Char → Prop
  | .path, text => IsText o.path text
  | .assetPrefix, text => IsText o.assetPrefix text
  | .timeout, text => text = Decimal.digits o.timeout.milliseconds
  | .log, text => text = (Value.bool o.log).print

def IsDefault (o : Options) : Field → Prop
  | .path => False
  | .assetPrefix => o.assetPrefix = ""
  | .timeout => o.timeout = defaultTimeout
  | .log => o.log = false

def known (o : Options) (met : Field → Bool) : Draft where
  path := if met .path then some o.path else none
  assetPrefix := if met .assetPrefix then some o.assetPrefix else none
  timeout := if met .timeout then some o.timeout.milliseconds else none
  log := if met .log then some o.log else none

theorem known_has (met : Field → Bool) (field : Field) : (o.known met).has field = met field := by
  cases field <;>
    · simp only [known, Draft.has]
      split <;> simp [*]

theorem Gives.isValue {field : Field} {text : List Char} (gives : o.Gives field text) :
    IsValue text := by
  cases field with
  | path => exact .scalar (.string gives.isString)
  | assetPrefix => exact .scalar (.string gives.isString)
  | timeout =>
    obtain rfl := gives
    exact .scalar (.unsigned (isMagnitude_digits _))
  | log =>
    obtain rfl := gives
    cases o.log
    · exact .scalar .false
    · exact .scalar .true

variable {piece : Piece} {rest : Input}

theorem readAs_digits {n : Nat} (small : n < UInt64.size) (digits : piece.core = Decimal.digits n)
    (ends : endsToken rest = true) :
    readAs unsigned64Shape (piece.text ++ rest) = .ok (n, piece.behind.chars ++ rest) := by
  have lower : minInteger ≤ (n : Int) := by simp only [minInteger]; omega
  have upper : (n : Int) ≤ maxInteger := by simp only [maxInteger]; omega
  have scanned := scanScalar?_integer lower upper (endsToken_gap piece.behind ends)
  have text : (Decimal.ofInt n).toList = piece.core := by
    simp [Decimal.ofInt, Decimal.ofNat, digits]
  rw [text] at scanned
  refine readAs_scanned (.scalar (.unsigned (digits ▸ isMagnitude_digits n))) scanned ?_
  have fits : 0 ≤ (n : Int) ∧ (n : Int) < UInt64.size := ⟨Int.natCast_nonneg n, Int.ofNat_lt.mpr small⟩
  simp only [unsigned64Shape, unsignedShape, if_pos fits, Int.toNat_natCast]

theorem readAs_bool {b : Bool} (same : piece.core = (Value.bool b).print)
    (ends : endsToken rest = true) :
    readAs boolShape (piece.text ++ rest) = .ok (b, piece.behind.chars ++ rest) := by
  have scanned := scanScalar?_print (v := .bool b) rfl rfl (endsToken_gap piece.behind ends)
  rw [← same] at scanned
  refine readAs_scanned ?_ scanned rfl
  cases b
  · exact same ▸ .scalar .false
  · exact same ▸ .scalar .true

theorem Field.read_known {field : Field} (fits : o.timeout.milliseconds < UInt64.size)
    (gives : o.Gives field piece.core) (ends : endsToken rest = true) (met : Field → Bool) :
    field.read (o.known met) (piece.text ++ rest) =
      .ok (o.known (Function.update met field true), piece.behind.chars ++ rest) := by
  cases field with
  | path => simp [Field.read, readAs_text gives, Except.map, known]
  | assetPrefix => simp [Field.read, readAs_text gives, Except.map, known]
  | timeout => simp [Field.read, readAs_digits fits gives ends, Except.map, known]
  | log => simp [Field.read, readAs_bool gives ends, Except.map, known]

theorem readMember_known {member : Member} (valid : IsValue member.value.core) {bound : Nat}
    (room : member.value.core.length ≤ bound) (fits : o.timeout.milliseconds < UInt64.size)
    (ends : endsToken rest = true) {key : String} {met : Field → Bool}
    (gives : ∀ field : Field, key = field.name →
      met field = false ∧ o.Gives field member.value.core) :
    ∃ more, readMember bound (o.known met) key
        (member.label.behind.chars ++ ':' :: (member.value.text ++ rest)) =
          .ok (o.known more, member.value.behind.chars ++ rest) ∧
      ∀ field : Field, more field = true ↔ met field = true ∨ key = field.name := by
  by_cases named : ∃ field : Field, key = field.name
  next =>
    obtain ⟨field, rfl⟩ := named
    obtain ⟨fresh, gives⟩ := gives field rfl
    have taken := Field.read_known fits gives ends met
    refine ⟨Function.update met field true, ?_, fun other => ?_⟩
    · rw [readMember_name, known_has, fresh, if_neg Bool.false_ne_true, scanColon_gap]
      exact taken
    · by_cases same : other = field
      · simp [same]
      · simp [Function.update_of_ne same, Field.name_injective.eq_iff, Ne.symm same]
  next =>
    have other : ∀ field : Field, key ≠ field.name := fun field same => named ⟨field, same⟩
    refine ⟨met, ?_, fun field => by simp [other field]⟩
    rw [readMember_other _ _ other, scanColon_gap, Except.bind, skipValue_piece valid room ends]
    rfl

structure Fits (o : Options) (member : Member) : Prop where
  keyed : ∃ key, member.Names key
  valid : IsValue member.value.core
  gives : ∀ field : Field, member.Names field.name → o.Gives field member.value.core

theorem fits_of_field {member : Member} {field : Field} (names : member.Names field.name)
    (gives : o.Gives field member.value.core) : o.Fits member where
  keyed := ⟨field.name, names⟩
  valid := gives.isValue
  gives other again := Field.name_injective ((names.iff other.name).mp again) ▸ gives

theorem fits_of_other {member : Member} {key : String} (names : member.Names key)
    (other : ∀ field : Field, key ≠ field.name) (valid : IsValue member.value.core) :
    o.Fits member where
  keyed := ⟨key, names⟩
  valid := valid
  gives field again := absurd ((names.iff field.name).mp again) (other field)

theorem walk_known {members : List Member} (each : ∀ member ∈ members, o.Fits member)
    (once : EachOnce members) {bound : Nat}
    (room : ∀ member ∈ members, member.value.core.length ≤ bound)
    (fits : o.timeout.milliseconds < UInt64.size) {fuel : Nat} (enough : members.length < fuel)
    (first : Bool) {met : Field → Bool} (fresh : ∀ field, met field = true → ¬ Occurs field members)
    (gap : Gap) (rest : Input) :
    ∃ (all : Field → Bool) (last : Gap), walkObject (readMember bound) fuel first (o.known met)
        (gap.chars ++ (listed first (members.map Member.text) ++ '\x7d' :: rest)) =
          .ok (o.known all, last.chars ++ '\x7d' :: rest) ∧
      ∀ field, all field = true ↔ met field = true ∨ Occurs field members := by
  induction members generalizing fuel first met gap with
  | nil =>
    obtain ⟨fuel, rfl⟩ : ∃ fewer, fuel = fewer + 1 := ⟨fuel - 1, by simp at enough; omega⟩
    exact ⟨met, gap, walkObject_end _ fuel first _ gap rest, fun field => by simp [Occurs]⟩
  | cons member more ih =>
    obtain ⟨fuel, rfl⟩ : ∃ fewer, fuel = fewer + 1 := ⟨fuel - 1, by simp at enough; omega⟩
    obtain ⟨⟨⟨key, names⟩, valid, gives⟩, later⟩ := List.forall_mem_cons.mp each
    obtain ⟨apart, once⟩ := eachOnce_cons.mp once
    obtain ⟨small, room⟩ := List.forall_mem_cons.mp room
    have ends := endsToken_listed .brace (more.map Member.text) rest
    have named (field : Field) := Member.Names.iff names field.name
    have new : ∀ field : Field, key = field.name →
        met field = false ∧ o.Gives field member.value.core := fun field same => by
      have here := (named field).mpr same
      refine ⟨Bool.eq_false_iff.mpr fun before => ?_, gives field here⟩
      exact fresh field before (occurs_cons.mpr (.inl here))
    obtain ⟨next, stepped, grows⟩ := readMember_known valid small fits ends new
    have unseen : ∀ field, next field = true → ¬ Occurs field more := fun field seen => by
      rcases (grows field).mp seen with before | same
      · exact fun again => fresh field before (occurs_cons.mpr (.inr again))
      · exact apart field ((named field).mpr same)
    obtain ⟨all, last, walked, has⟩ := ih later once room (by simpa using enough) false unseen
      member.value.behind
    refine ⟨all, last, ?_, fun field => ?_⟩
    · rw [List.map_cons, listed_cons, List.append_assoc, walkObject_member _ names]
      exact (congrArg (Except.bind · _) stepped).trans walked
    · rw [has, grows, occurs_cons, named, or_assoc]

end given

end HotReload.Options
