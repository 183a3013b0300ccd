import HotReload.Url.Parser

set_option autoImplicit false

namespace HotReload.Url

theorem parseAuthority_eq_ok {scheme : String} {kind : Kind} {cs : List Char} {url : Url}
    (parsed : parseAuthority scheme kind cs = .ok url) :
    ∃ hostText portText host port, parseHost kind hostText = .ok host ∧
      parsePort scheme portText = .ok port ∧ url = ⟨scheme, host, port⟩ := by
  simp only [parseAuthority, bind, Except.bind] at parsed
  split at parsed
  next => cases parsed
  next =>
    split at parsed
    next => cases parsed
    next host named =>
      split at parsed
      next => cases parsed
      next =>
        split at parsed
        next => cases parsed
        next port numbered =>
          split at parsed
          next => cases parsed
          next =>
            cases parsed
            exact ⟨_, _, host, port, named, numbered, rfl⟩

theorem parseAuthority_scheme {scheme : String} {kind : Kind} {cs : List Char} {url : Url}
    (parsed : parseAuthority scheme kind cs = .ok url) : url.scheme = scheme := by
  obtain ⟨_, _, host, port, _, _, rfl⟩ := parseAuthority_eq_ok parsed
  rfl

theorem parseAfterScheme_scheme {scheme : String} {cs : List Char} {url : Url}
    (parsed : parseAfterScheme scheme cs = .ok url) : url.scheme = scheme := by
  unfold parseAfterScheme at parsed
  split at parsed
  next network => exact parseAuthority_scheme parsed
  next file =>
    split at parsed
    next a b rest =>
      split at parsed
      next =>
        cases host : parseFileHost rest with
        | error cause => simp [host, Except.map] at parsed
        | ok found =>
          simp only [host, Except.map, Except.ok.injEq] at parsed
          rw [← parsed]
      next =>
        cases parsed
        rfl
    next =>
      cases parsed
      rfl
  next other =>
    split at parsed
    next => exact parseAuthority_scheme parsed
    next =>
      cases parsed
      rfl

theorem parseChars_scheme {cs : List Char} {url : Url} (parsed : parseChars cs = .ok url) :
    ∃ scheme rest, splitScheme? (clean cs) = some (scheme, rest) ∧
      url.scheme = String.ofList scheme := by
  unfold parseChars at parsed
  split at parsed
  next scheme rest found => exact ⟨scheme, rest, found, parseAfterScheme_scheme parsed⟩
  next => cases parsed

theorem isIgnored_of_visible {c : Char} (visible : isEdge c = false) : isIgnored c = false := by
  cases ignored : isIgnored c with
  | false => rfl
  | true =>
    have blank : c = '\t' ∨ c = '\n' ∨ c = '\r' := of_decide_eq_true ignored
    rcases blank with rfl | rfl | rfl <;> exact absurd visible (by decide)

def cleanEnd (cs : List Char) : List Char :=
  (cs.reverse.dropWhile isEdge).reverse.filter fun c => !isIgnored c

theorem cleanEnd_append {c : Char} (visible : isEdge c = false) (front rest : List Char) :
    cleanEnd (front ++ c :: rest) = front.filter (fun c => !isIgnored c) ++ c :: cleanEnd rest := by
  have kept : (front ++ c :: rest).reverse.dropWhile isEdge =
      rest.reverse.dropWhile isEdge ++ c :: front.reverse := by
    rw [List.reverse_append, List.reverse_cons, List.append_assoc, List.dropWhile_append]
    split
    next gone => simp [List.isEmpty_iff.mp gone, visible]
    next => simp
  have shown := isIgnored_of_visible visible
  rw [cleanEnd, kept]
  simp [cleanEnd, List.filter_append, shown]

theorem cleanEnd_visible {front : List Char} (visible : ∀ c ∈ front, isEdge c = false)
    (rest : List Char) : cleanEnd (front ++ rest) = front ++ cleanEnd rest := by
  induction front with
  | nil => rfl
  | cons c front ih =>
    have first := cleanEnd_append (visible c List.mem_cons_self) [] (front ++ rest)
    simpa [ih fun d member => visible d (List.mem_cons_of_mem c member)] using first

theorem clean_append {front : List Char} (nonempty : front ≠ [])
    (visible : ∀ c ∈ front, isEdge c = false) (rest : List Char) :
    clean (front ++ rest) = front ++ cleanEnd rest := by
  have started : (front ++ rest).dropWhile isEdge = front ++ rest := by
    obtain ⟨c, more, rfl⟩ := List.exists_cons_of_ne_nil nonempty
    simp [visible c List.mem_cons_self]
  rw [← cleanEnd_visible visible, clean, trim, started, cleanEnd]

theorem isEdge_of_le {c least : Char} (above : least ≤ c) (visible : ' ' < least) :
    isEdge c = false :=
  decide_eq_false fun edge => absurd (Char.le_trans above edge) (Char.not_le.mpr visible)

theorem isEdge_of_schemeChar {c : Char} (inside : isSchemeChar c = true) : isEdge c = false := by
  have kinds : c.isAlphanum = true ∨ c = '+' ∨ c = '-' ∨ c = '.' := of_decide_eq_true inside
  rcases kinds with alphanum | rfl | rfl | rfl
  · rcases Bool.or_eq_true_iff.mp alphanum with letter | digit
    · rcases Bool.or_eq_true_iff.mp letter with upper | lower
      · have above : 'A' ≤ c := (of_decide_eq_true upper).1
        exact isEdge_of_le above (by decide)
      · have above : 'a' ≤ c := of_decide_eq_true (Bool.and_eq_true_iff.mp lower).1
        exact isEdge_of_le above (by decide)
    · have above : '0' ≤ c := of_decide_eq_true (Bool.and_eq_true_iff.mp digit).1
      exact isEdge_of_le above (by decide)
  all_goals rfl

theorem splitScheme?_clean (first : Char) (name : List Char) (letter : first.isAlpha = true)
    (inside : ∀ c ∈ first :: name, isSchemeChar c = true) (rest : List Char) :
    splitScheme? (clean (first :: name ++ ':' :: rest)) =
      some ((first :: name).map Char.toLower, cleanEnd rest) := by
  have visible : ∀ c ∈ first :: name ++ [':'], isEdge c = false := by
    intro c member
    rcases List.mem_append.mp member with named | colon
    · exact isEdge_of_schemeChar (inside c named)
    · rw [List.mem_singleton.mp colon]
      decide
  have colon : isSchemeChar ':' = false := by decide
  have cleaned := clean_append (by simp) visible rest
  simp only [List.append_assoc, List.singleton_append] at cleaned
  have scheme : (first :: name ++ ':' :: cleanEnd rest).takeWhile isSchemeChar = first :: name := by
    rw [List.takeWhile_append_of_pos inside]
    simp [colon]
  have after :
      (first :: name ++ ':' :: cleanEnd rest).dropWhile isSchemeChar = ':' :: cleanEnd rest := by
    rw [List.dropWhile_append_of_pos inside]
    simp [colon]
  rw [cleaned]
  simp only [List.cons_append] at scheme after
  simp only [splitScheme?, List.cons_append, letter, if_true, after, scheme]

theorem splitScheme?_eq_some {cs scheme rest : List Char}
    (split : splitScheme? cs = some (scheme, rest)) :
    ∃ first name, first.isAlpha = true ∧ (∀ c ∈ first :: name, isSchemeChar c = true) ∧
      cs = first :: name ++ ':' :: rest ∧ scheme = (first :: name).map Char.toLower := by
  unfold splitScheme? at split
  split at split
  next => cases split
  next first more =>
    split at split
    next letter =>
      split at split
      next after =>
        cases split
        have starts : isSchemeChar first = true := by
          simp [isSchemeChar, Char.isAlphanum, letter]
        have inside : ∀ c ∈ (first :: more).takeWhile isSchemeChar, isSchemeChar c = true :=
          List.all_eq_true.mp List.all_takeWhile
        have whole := List.takeWhile_append_dropWhile (p := isSchemeChar) (l := first :: more)
        rw [after] at whole
        rw [List.takeWhile_cons_of_pos starts] at inside whole ⊢
        exact ⟨first, _, letter, inside, whole.symm, rfl⟩
      next => cases split
    next => cases split

theorem splitScheme?_slash (rest : List Char) : splitScheme? (clean ('/' :: rest)) = none := by
  have visible : ∀ c ∈ ['/'], isEdge c = false := by
    intro c member
    rw [List.mem_singleton.mp member]
    rfl
  have cleaned := clean_append (List.cons_ne_nil '/' []) visible rest
  rw [List.singleton_append] at cleaned
  rw [cleaned]
  rfl

end HotReload.Url
