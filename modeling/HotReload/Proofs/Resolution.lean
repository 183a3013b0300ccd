import HotReload.Endpoint
import Mathlib.Data.List.TakeWhile
import HotReload.Proofs.SchemeText

set_option autoImplicit false

namespace HotReload

namespace Url

-- No colon comes at all, or a mark that no scheme holds comes before the first one.
def IsRelative (cs : List Char) : Prop :=
  ':' ∉ cs ∨ ∃ c ∈ cs.takeWhile fun c => c ≠ ':', c = '/' ∨ c = '?' ∨ c = '#'

-- The text before the first colon, without the blanks and controls in front of it and without the
-- tabs and line breaks in it.
def spelledScheme (cs : List Char) : List Char :=
  ((cs.takeWhile fun c => c ≠ ':').dropWhile isEdge).filter fun c => !isIgnored c

theorem mem_of_mem_clean {c : Char} {cs : List Char} (inside : c ∈ clean cs) : c ∈ cs := by
  have trimmed : c ∈ ((cs.dropWhile isEdge).reverse.dropWhile isEdge).reverse :=
    (List.mem_filter.mp inside).1
  have begun : c ∈ (cs.dropWhile isEdge).reverse :=
    (List.dropWhile_sublist _).mem (List.mem_reverse.mp trimmed)
  exact (List.dropWhile_sublist _).mem (List.mem_reverse.mp begun)

theorem mem_dropWhile {c : Char} {cs : List Char} (inside : c ∈ cs) (visible : isEdge c = false) :
    c ∈ cs.dropWhile isEdge := by
  rw [← List.takeWhile_append_dropWhile (p := isEdge) (l := cs)] at inside
  rcases List.mem_append.mp inside with blank | kept
  · have edge : isEdge c = true := List.all_eq_true.mp List.all_takeWhile c blank
    cases edge.symm.trans visible
  · exact kept

theorem takeWhile_ne {d : Char} {front : List Char} (free : d ∉ front) (rest : List Char) :
    (front ++ d :: rest).takeWhile (fun c => c ≠ d) = front := by
  have all : ∀ c ∈ front, decide (c ≠ d) = true := fun c inside =>
    decide_eq_true fun same => free (same ▸ inside)
  rw [List.takeWhile_append_of_pos all]
  simp

theorem takeWhile_clean {cs : List Char} (colon : ':' ∈ cs) :
    (clean cs).takeWhile (fun c => c ≠ ':') = spelledScheme cs := by
  obtain ⟨front, rest, rfl, free⟩ := List.eq_append_cons_of_mem colon
  have visible : isEdge ':' = false := rfl
  have begun : (front ++ ':' :: rest).dropWhile isEdge = front.dropWhile isEdge ++ ':' :: rest := by
    rw [List.dropWhile_append]
    split
    next gone => simp [List.isEmpty_iff.mp gone, visible]
    next => rfl
  have cleaned : clean (front ++ ':' :: rest) =
      (front.dropWhile isEdge).filter (fun c => !isIgnored c) ++ ':' :: cleanEnd rest := by
    rw [← cleanEnd_append visible, ← begun]
    rfl
  have still : ':' ∉ (front.dropWhile isEdge).filter fun c => !isIgnored c := fun inside =>
    free ((List.dropWhile_sublist _).mem (List.mem_filter.mp inside).1)
  rw [cleaned, takeWhile_ne still, spelledScheme, takeWhile_ne free]

theorem spelledScheme_of_split {cs scheme rest : List Char}
    (split : splitScheme? (clean cs) = some (scheme, rest)) :
    ':' ∈ cs ∧ scheme = (spelledScheme cs).map Char.toLower ∧
      ∀ c ∈ spelledScheme cs, isSchemeChar c = true := by
  obtain ⟨first, name, _, inside, cleaned, rfl⟩ := splitScheme?_eq_some split
  have colon : ':' ∈ cs := by
    apply mem_of_mem_clean
    rw [cleaned]
    simp
  have free : ':' ∉ first :: name := fun member => absurd (inside ':' member) (by decide)
  have spelled : spelledScheme cs = first :: name := by
    rw [← takeWhile_clean colon, cleaned, takeWhile_ne free]
  exact ⟨colon, by rw [spelled], by rwa [spelled]⟩

theorem parse_of_relative {base : String} (relative : IsRelative base.toList) :
    parse base = .error .notAbsolute := by
  rw [parse, parseChars]
  cases split : splitScheme? (clean base.toList) with
  | none => rfl
  | some parts =>
    exfalso
    obtain ⟨colon, _, inside⟩ := spelledScheme_of_split split
    rcases relative with none | ⟨c, before, mark⟩
    · exact none colon
    · -- The mark can be seen, so cleaning leaves it where a scheme would have to be.
      have shown : isEdge c = false ∧ isIgnored c = false ∧ isSchemeChar c = false := by
        rcases mark with rfl | rfl | rfl <;> decide
      have spelled : c ∈ spelledScheme base.toList :=
        List.mem_filter.mpr ⟨mem_dropWhile before shown.1, by simp [shown.2.1]⟩
      cases (inside c spelled).symm.trans shown.2.2

end Url

namespace Scheme

theorem ofOrigin_eq_ws_iff (scheme : String) : ofOrigin scheme = .ws ↔ scheme = "http" := by
  unfold ofOrigin
  by_cases plain : scheme = "http"
  next => simp [plain]
  next => simp [plain]

theorem settled_by_one_source (base : String) (page : Page) :
    (Url.IsRelative base.toList → resolve (some base) page = resolve none page) ∧
    (resolve none page = .ws ↔ page.scheme = "http") ∧
    ∀ url, Url.parse base = .ok url →
      (∀ other, resolve (some base) other = resolve (some base) page) ∧
      (resolve (some base) page = .ws ↔
        (Url.spelledScheme base.toList).map Char.toLower = "http".toList) := by
  refine ⟨fun relative => ?_, ofOrigin_eq_ws_iff page.scheme, fun url parsed => ?_⟩
  · simp [resolve, Url.parse_of_relative relative]
  · have used (other : Page) : resolve (some base) other = ofOrigin url.scheme := by
      simp [resolve, parsed]
    obtain ⟨scheme, rest, split, same⟩ := Url.parseChars_scheme parsed
    obtain ⟨_, rfl, _⟩ := Url.spelledScheme_of_split split
    constructor
    · intro other
      rw [used, used]
    · rw [used, ofOrigin_eq_ws_iff, same, ← String.toList_inj, String.toList_ofList]

theorem settled_by_one_source_despite_blanks :
    let page : Page := ⟨"https", "localhost", none⟩
    let slashed := "\thttp/x://[::1]"
    let blank := " \x01Ht\ntP://[::1]"
    Url.IsRelative slashed.toList ∧ resolve (some slashed) page = .wss ∧
      (Url.parse blank).isOk ∧ resolve (some blank) page = .ws := by
  intro page slashed blank
  have relative : Url.IsRelative slashed.toList := .inr ⟨'/', by decide, .inl rfl⟩
  have parsed : Url.parse blank = .ok ⟨"http", some (.ipv6 [0, 0, 0, 0, 0, 0, 0, 1]), none⟩ := by
    decide
  have left := (settled_by_one_source slashed page).1 relative
  obtain ⟨_, plain⟩ := (settled_by_one_source blank page).2.2 _ parsed
  exact ⟨relative, left.trans (by decide), by decide, plain.mpr (by decide)⟩

end Scheme

end HotReload
