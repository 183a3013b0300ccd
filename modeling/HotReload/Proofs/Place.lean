import HotReload.Proofs.SchemeText

set_option autoImplicit false

namespace HotReload.Url

def endsPlace (c : Char) : Bool := endsAuthority .network c

def authority (cs : List Char) : List Char :=
  (cs.dropWhile isSlash).takeWhile fun c => !endsPlace c

def readPlace (scheme : String) (authority : List Char) : Except ParseError Url :=
  let place := splitHost false (splitUser authority).2
  if place.1.isEmpty then .error .emptyHost
  else do
    let host ← Host.parse place.1
    let port ← parsePort scheme place.2
    .ok ⟨scheme, some host, port⟩

theorem readPlace_eq_ok {scheme : String} {authority : List Char} {url : Url} :
    readPlace scheme authority = .ok url ↔
      (splitHost false (splitUser authority).2).1 ≠ [] ∧
      ∃ host port, Host.parse (splitHost false (splitUser authority).2).1 = .ok host ∧
        parsePort scheme (splitHost false (splitUser authority).2).2 = .ok port ∧
        url = ⟨scheme, some host, port⟩ := by
  generalize place : splitHost false (splitUser authority).2 = parts
  obtain ⟨hostText, portText⟩ := parts
  simp only [readPlace, place]
  cases hostText with
  | nil => simp
  | cons c rest =>
    cases host : Host.parse (c :: rest) with
    | error cause => simp [bind, Except.bind]
    | ok found =>
      cases port : parsePort scheme portText with
      | error cause => simp [bind, Except.bind]
      | ok number => simp [bind, Except.bind, eq_comm]

theorem readPlace_nil (scheme : String) : readPlace scheme [] = .error .emptyHost := rfl

theorem parseAuthority_network (scheme : String) (cs : List Char) :
    parseAuthority scheme .network cs =
      readPlace scheme (cs.takeWhile fun c => !endsPlace c) := by
  have ends : (fun c => !endsPlace c) = fun c => !endsAuthority .network c := rfl
  simp only [parseAuthority, readPlace, ends]
  by_cases alone : cs.takeWhile (fun c => !endsAuthority .network c) = ['@'] ∧ cs.length > 1
  next =>
    rw [if_pos alone, alone.1]
    rfl
  next =>
    rw [if_neg alone]
    generalize splitHost false (splitUser _).2 = place
    cases hostText : place.1 with
    | nil => simp [parseHost, bind, Except.bind]
    | cons c rest =>
      cases host : Host.parse (c :: rest) with
      | error cause => simp [parseHost, host, Except.map, bind, Except.bind]
      | ok found => simp [parseHost, host, Except.map, bind, Except.bind]

theorem authority_slash {c : Char} (slash : isSlash c = true) (rest : List Char) :
    authority (c :: rest) = authority rest := by
  simp [authority, slash]

theorem parseChars_network (first : Char) (name : List Char) (letter : first.isAlpha = true)
    (inside : ∀ c ∈ first :: name, isSchemeChar c = true)
    (network : kindOf (String.ofList ((first :: name).map Char.toLower)) = .network)
    (rest : List Char) :
    parseChars (first :: name ++ ':' :: '/' :: '/' :: rest) =
      readPlace (String.ofList ((first :: name).map Char.toLower)) (authority (cleanEnd rest)) := by
  have slash : isSlash '/' = true := rfl
  have visible : ∀ c ∈ ['/', '/'], isEdge c = false := by
    simp only [List.mem_cons, List.not_mem_nil, or_false, or_self, forall_eq]
    rfl
  have cleaned : cleanEnd ('/' :: '/' :: rest) = '/' :: '/' :: cleanEnd rest :=
    cleanEnd_visible visible rest
  rw [← authority_slash slash, ← authority_slash slash, ← cleaned]
  simp only [parseChars, splitScheme?_clean first name letter inside, parseAfterScheme, network]
  exact parseAuthority_network _ _

theorem authority_append_slash {front : List Char} (some : front.dropWhile isSlash ≠ [])
    (rest : List Char) : authority (front ++ '/' :: rest) = authority front := by
  have begun : (front ++ '/' :: rest).dropWhile isSlash = front.dropWhile isSlash ++ '/' :: rest := by
    rw [List.dropWhile_append]
    simp [some]
  have ends : endsPlace '/' = true := rfl
  rw [authority, authority, begun, List.takeWhile_append]
  split
  next whole =>
    have same := List.IsPrefix.eq_of_length (List.takeWhile_prefix _) whole
    simp [ends, same]
  next => rfl

theorem parsePort_congr {scheme other : String} (same : defaultPort? scheme = defaultPort? other)
    (cs : List Char) : parsePort scheme cs = parsePort other cs := by
  unfold parsePort
  split
  next rest => rw [same]
  next => rfl

theorem readPlace_congr {scheme other : String} {authority : List Char} {url : Url}
    (same : defaultPort? scheme = defaultPort? other)
    (read : readPlace scheme authority = .ok url) :
    readPlace other authority = .ok ⟨other, url.host, url.port⟩ := by
  obtain ⟨some, host, port, named, numbered, rfl⟩ := readPlace_eq_ok.mp read
  exact readPlace_eq_ok.mpr ⟨some, host, port, named, parsePort_congr same _ ▸ numbered, rfl⟩

end HotReload.Url
