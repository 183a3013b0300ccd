import HotReload.Idna.Domain
import HotReload.Proofs.Dotted
import HotReload.Proofs.Lookup

set_option autoImplicit false

namespace HotReload

namespace Unicode

theorem mark_of_lt {c : Char} (lower : c.toNat < 0x300) : mark.contains c = false :=
  contains_of_lt (by decide) lower _

theorem combiningClass_of_lt {c : Char} (lower : c.toNat < 0x300) : combiningClass c = 0 :=
  get_of_lt (by decide) lower _

theorem isSyllable_of_lt {n : Nat} (lower : n < Hangul.syllables) : Hangul.isSyllable n = false :=
  decide_eq_false fun inside => Nat.not_le.mpr lower inside.1

theorem decomposeChar_of_lt {c : Char} (lower : c.toNat < 0xc0) : decomposeChar c = [c] := by
  have syllable := isSyllable_of_lt (Nat.lt_trans lower (by decide))
  have none : decompositions.find? c.toNat = none :=
    find?_of_below? (below?_of_lt (by decide) lower _)
  simp [decomposeChar, syllable, none]

theorem composePair?_of_lt {a : Char} (lower : a.toNat < 0x3c) (b : Char) :
    composePair? a b = none := by
  have lead : ¬Hangul.leads ≤ a.toNat := Nat.not_le.mpr (Nat.lt_trans lower (by decide))
  have syllable := isSyllable_of_lt (Nat.lt_trans lower (by decide))
  have none : compositions.find? a.toNat = none :=
    find?_of_below? (below?_of_lt (by decide) lower _)
  simp [composePair?, Hangul.compose?, lead, syllable, none]

theorem orderMarks_of_lt {cs : List Char} (lower : ∀ c ∈ cs, c.toNat < 0x300) :
    orderMarks cs = cs := by
  have all (done : List Char) :
      cs.foldl (fun sorted c => insertMark c (combiningClass c) sorted) done =
        cs.reverse ++ done := by
    induction cs generalizing done with
    | nil => rfl
    | cons c rest ih =>
      have rank := combiningClass_of_lt (lower c List.mem_cons_self)
      have front : insertMark c 0 done = c :: done := by
        cases done <;> simp [insertMark]
      rw [List.foldl_cons, rank, front, ih fun d inside => lower d (List.mem_cons_of_mem _ inside)]
      simp
  simp [orderMarks, all]

theorem compose_of_lt {cs : List Char} (lower : ∀ c ∈ cs, c.toNat < 0x3c) : compose cs = cs := by
  have all (done : List Char) (last : Option Char) (before : ∀ c, last = some c → c.toNat < 0x3c) :
      (cs.foldl Composing.feed ⟨done, last, []⟩).flushed =
        cs.reverse ++ (last.toList ++ done) := by
    induction cs generalizing done last with
    | nil => rfl
    | cons c rest ih =>
      have small := lower c List.mem_cons_self
      have rank := combiningClass_of_lt (Nat.lt_trans small (by decide))
      have apart : (last.bind fun a => composePair? a c) = none := by
        cases last with
        | none => rfl
        | some a => exact composePair?_of_lt (before a rfl) c
      have fed : Composing.feed ⟨done, last, []⟩ c = ⟨last.toList ++ done, some c, []⟩ := by
        simp [Composing.feed, Composing.isBlocked, apart, rank, Composing.flushed]
      rw [List.foldl_cons, fed, ih (fun d inside => lower d (List.mem_cons_of_mem _ inside))]
      · simp
      · rintro _ ⟨⟩
        exact small
  simp [compose, all [] none nofun]

theorem normalize_of_lt {cs : List Char} (lower : ∀ c ∈ cs, c.toNat < 0x3c) :
    normalize cs = cs := by
  have apart : cs.flatMap decomposeChar = cs := by
    have each : cs.map decomposeChar = cs.map fun c => [c] := List.map_congr_left fun c inside =>
      decomposeChar_of_lt (Nat.lt_trans (lower c inside) (by decide))
    rw [List.flatMap_def, each, ← List.flatMap_def]
    simp
  rw [normalize, apart, orderMarks_of_lt fun c inside => Nat.lt_trans (lower c inside) (by decide),
    compose_of_lt lower]

end Unicode

namespace Idna

open Unicode

theorem refused_of_lt {c : Char} (lower : c.toNat < 0x80) : refused.contains c = false :=
  contains_of_lt (by decide) lower _

theorem ignored_of_lt {c : Char} (lower : c.toNat < 0xad) : ignored.contains c = false :=
  contains_of_lt (by decide) lower _

theorem image?_of_lt {c : Char} (lower : c.toNat < 0x41) : image? c = none := by
  have run : runs.below? c.toNat = none := below?_of_lt (by decide) lower _
  have small : c.toNat < 0xa0 := Nat.lt_trans lower (by decide)
  have other : images.find? c.toNat = none := find?_of_below? (below?_of_lt (by decide) small _)
  simp [image?, imageInRun?, run, other]

theorem mapChar_of_lt {c : Char} (lower : c.toNat < 0x41) : mapChar c = some [c] := by
  have allowed := refused_of_lt (Nat.lt_trans lower (by decide))
  have kept := ignored_of_lt (Nat.lt_trans lower (by decide))
  simp [mapChar, allowed, kept, image?_of_lt lower]

theorem mapM_of_forall {α β : Type} {f : α → Option β} {g : α → β} {l : List α}
    (each : ∀ a ∈ l, f a = some (g a)) : l.mapM f = some (l.map g) := by
  induction l with
  | nil => rfl
  | cons a rest ih =>
    have first := each a List.mem_cons_self
    simp [first, ih fun b inside => each b (List.mem_cons_of_mem _ inside)]

theorem mapName_of_lt {cs : List Char} (lower : ∀ c ∈ cs, c.toNat < 0x3c) : mapName cs = some cs := by
  have all : cs.mapM mapChar = some (cs.map fun c => [c]) :=
    mapM_of_forall fun c inside => mapChar_of_lt (Nat.lt_trans (lower c inside) (by decide))
  have parts : (cs.map fun c => [c]).flatten = cs := by simp [← List.flatMap_def]
  simp [mapName, all, parts, normalize_of_lt lower]

theorem isRightToLeft_of_lt {c : Char} (lower : c.toNat < 0x80) : isRightToLeft c = false := by
  have code : directions.get c = 0 ∨ 4 ≤ directions.get c :=
    get_front (fun code => code = 0 ∨ 4 ≤ code) (.inl rfl) (by decide)
      (Nat.lt_of_lt_of_le lower (by decide)) _
  rw [isRightToLeft, direction]
  generalize directions.get c = n at code
  match n, code with
  | 0, _ | 4, _ | 5, _ | 6, _ | 7, _ | 8, _ | 9, _ | 10, _ | _ + 11, _ => rfl
  | 1, code | 2, code | 3, code => simp at code

theorem splitLabels_eq (cs : List Char) : splitLabels cs = Text.splitOn '.' cs := by
  induction cs with
  | nil => rfl
  | cons c rest ih =>
    obtain ⟨label, more, split, whole⟩ := Text.splitOn_cons '.' c rest
    rw [whole, splitLabels, List.foldr_cons, ← splitLabels, ih, split]

theorem joinersAllowed_of_lt {cs : List Char} (lower : ∀ c ∈ cs, c.toNat < 0x80)
    (before : List Char) : joinersAllowed before cs = true := by
  induction cs generalizing before with
  | nil => rfl
  | cons c rest ih =>
    have small := lower c List.mem_cons_self
    have noJoiner : c ≠ '\u200c' := fun same => by
      rw [same] at small
      exact absurd small (by decide)
    have noOther : c ≠ '\u200d' := fun same => by
      rw [same] at small
      exact absurd small (by decide)
    simp [joinersAllowed, noJoiner, noOther, ih fun d inside => lower d (List.mem_cons_of_mem c inside)]

theorem isValidLabel_of_lt {label : List Char} (lower : ∀ c ∈ label, c.toNat < 0x80) :
    isValidLabel label = true := by
  cases label with
  | nil => rfl
  | cons c rest =>
    have unmarked := mark_of_lt (Nat.lt_trans (lower c List.mem_cons_self) (by decide))
    simp [isValidLabel, unmarked, joinersAllowed_of_lt lower]

def plainChars : List Char := ['-', '.', '0', '1', '2', '3', '4', '5', '6', '7', '8', '9']

theorem lt_of_plain {c : Char} (plain : c ∈ plainChars) : c.toNat < 0x3c := by
  have all : plainChars.all (fun c => c.toNat < 0x3c) = true := by decide
  simpa using List.all_eq_true.mp all c plain

theorem allowed_of_plain {c : Char} (plain : c ∈ plainChars) :
    isForbidden c = false ∧ isDomainChar c = true := by
  have all : plainChars.all (fun c => !isForbidden c && isDomainChar c) = true := by decide
  simpa using List.all_eq_true.mp all c plain

theorem encoded?_of_plain {label : List Char} (plain : ∀ c ∈ label, c ∈ plainChars) :
    encoded? label = none := by
  unfold encoded?
  split
  next => exact absurd (plain 'x' List.mem_cons_self) (by decide)
  next => rfl

theorem toAscii_eq_some {name domain : List Char} :
    toAscii name = some domain ↔ ∃ mapped labels written, mapName name = some mapped ∧
      (∀ c ∈ mapped, isForbidden c = false) ∧
      (splitLabels mapped).mapM toUnicode = some labels ∧
      (∀ label ∈ labels, isValidLabel label = true) ∧
      (∀ label ∈ labels, ∀ c ∈ label, isRightToLeft c = true →
        ∀ label ∈ labels, hasDirection label = true) ∧
      labels.mapM encodeLabel = some written ∧ ['.'].intercalate written = domain ∧
      ∀ c ∈ domain, isDomainChar c = true := by
  -- The conditions are kept as they are computed until they stand outside the branches.
  simp only [toAscii, Option.bind_eq_bind, Option.bind_none, Option.bind_eq_some_iff,
    Option.ite_none_left_eq_some, Option.ite_none_right_eq_some, Option.some.injEq]
  constructor
  · rintro ⟨mapped, first, allowed, labels, read, valid, directed, written, last, all, rfl⟩
    refine ⟨mapped, labels, written, first, ?_, read, ?_, ?_, last, rfl, List.all_eq_true.mp all⟩
    · simpa using allowed
    · simpa using valid
    · simpa using directed
  · rintro ⟨mapped, labels, written, first, allowed, read, valid, directed, last, rfl, all⟩
    refine ⟨mapped, first, ?_, labels, read, ?_, ?_, written, last, List.all_eq_true.mpr all, rfl⟩
    · simpa using allowed
    · simpa using valid
    · simpa using directed
theorem isDomainChar_of_toAscii {name domain : List Char} (made : toAscii name = some domain) :
    ∀ c ∈ domain, isDomainChar c = true := by
  obtain ⟨_, _, _, _, _, _, _, _, _, _, all⟩ := toAscii_eq_some.mp made
  exact all

theorem toAscii_plain {cs : List Char} (plain : ∀ c ∈ cs, c ∈ plainChars) :
    toAscii cs = some cs := by
  have lower : ∀ c ∈ cs, c.toNat < 0x3c := fun c inside => lt_of_plain (plain c inside)
  have inLabel : ∀ label ∈ splitLabels cs, ∀ c ∈ label, c ∈ plainChars := by
    intro label inside c member
    exact plain c (Text.mem_of_mem_splitOn (splitLabels_eq cs ▸ inside) member)
  have ascii : ∀ label ∈ splitLabels cs, ∀ c ∈ label, c.toNat < 0x80 := fun label inside c member =>
    Nat.lt_trans (lt_of_plain (inLabel label inside c member)) (by decide)
  have kept : (splitLabels cs).mapM toUnicode = some (splitLabels cs) := by
    have each : ∀ label ∈ splitLabels cs, toUnicode label = some (id label) := fun label inside => by
      simp [toUnicode, encoded?_of_plain (inLabel label inside)]
    simpa using mapM_of_forall each
  have written : (splitLabels cs).mapM encodeLabel = some (splitLabels cs) := by
    have each : ∀ label ∈ splitLabels cs, encodeLabel label = some (id label) := fun label inside => by
      have all : label.all isAscii = true :=
        List.all_eq_true.mpr fun c member => decide_eq_true (ascii label inside c member)
      simp [encodeLabel, all]
    simpa using mapM_of_forall each
  have joined : ['.'].intercalate (splitLabels cs) = cs := by
    rw [splitLabels_eq]
    exact Text.intercalate_splitOn '.' cs
  refine toAscii_eq_some.mpr ⟨cs, _, _, mapName_of_lt lower, ?_, kept, ?_, ?_, written, joined, ?_⟩
  · exact fun c inside => (allowed_of_plain (plain c inside)).1
  · exact fun label inside => isValidLabel_of_lt (ascii label inside)
  · intro label inside c member leftward
    cases leftward.symm.trans (isRightToLeft_of_lt (ascii label inside c member))
  · exact fun c inside => (allowed_of_plain (plain c inside)).2

end Idna

end HotReload
