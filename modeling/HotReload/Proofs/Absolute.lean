import Mathlib.Data.List.TakeWhile
import HotReload.Proofs.Origin
import HotReload.Proofs.Place

set_option autoImplicit false

namespace HotReload

namespace Scheme

theorem parseChars_marker (s : Scheme) (rest : List Char) :
    Url.parseChars (s.marker ++ rest) =
      Url.readPlace (String.ofList s.origin) (Url.authority (Url.cleanEnd rest)) := by
  cases s with
  | ws =>
    exact Url.parseChars_network 'h' ['t', 't', 'p'] rfl (List.all_eq_true.mp rfl) (by decide) rest
  | wss =>
    exact Url.parseChars_network 'h' ['t', 't', 'p', 's'] rfl (List.all_eq_true.mp rfl) (by decide)
      rest

theorem parseChars_text (s : Scheme) (rest : List Char) :
    Url.parseChars ((s.text ++ "://").toList ++ rest) =
      Url.readPlace s.text (Url.authority (Url.cleanEnd rest)) := by
  cases s with
  | ws => exact Url.parseChars_network 'w' ['s'] rfl (List.all_eq_true.mp rfl) (by decide) rest
  | wss =>
    exact Url.parseChars_network 'w' ['s', 's'] rfl (List.all_eq_true.mp rfl) (by decide) rest

theorem defaultPort?_text (s : Scheme) :
    Url.defaultPort? (String.ofList s.origin) = Url.defaultPort? s.text := by
  cases s <;> decide

end Scheme

namespace Endpoint

open Url (isEdge isIgnored isSlash endsPlace authority cleanEnd readPlace)

-- The authority as it stands where more text follows, so that no blanks are cut off at its end.
def keptAuthority (rest : List Char) : List Char := authority (rest.filter fun c => !isIgnored c)

theorem endsPlace_of_edge {c : Char} (edge : isEdge c = true) : endsPlace c = false := by
  cases ends : endsPlace c with
  | false => rfl
  | true =>
    have mark : c = '/' ∨ c = '?' ∨ c = '#' ∨ (True ∧ c = '\\') := by
      simpa [endsPlace, Url.endsAuthority] using ends
    rcases mark with rfl | rfl | rfl | ⟨_, rfl⟩ <;> exact absurd edge (by decide)

theorem filter_eq_cleanEnd (rest : List Char) :
    ∃ tail, rest.filter (fun c => !isIgnored c) = cleanEnd rest ++ tail ∧
      ∀ c ∈ tail, isEdge c = true := by
  refine ⟨(rest.reverse.takeWhile isEdge).reverse.filter fun c => !isIgnored c, ?_, ?_⟩
  · rw [cleanEnd, ← List.filter_append, ← List.reverse_append, List.takeWhile_append_dropWhile,
      List.reverse_reverse]
  · intro c member
    have inside : c ∈ rest.reverse.takeWhile isEdge := by
      simpa using (List.mem_filter.mp member).1
    exact List.mem_takeWhile_imp inside

theorem keptAuthority_eq {rest : List Char} (named : authority (cleanEnd rest) ≠ [])
    (unblanked : ∀ c, (keptAuthority rest).getLast? = some c → isEdge c = false) :
    keptAuthority rest = authority (cleanEnd rest) := by
  obtain ⟨tail, split, edges⟩ := filter_eq_cleanEnd rest
  have some : (cleanEnd rest).dropWhile isSlash ≠ [] := fun none => by
    simp [authority, none] at named
  have begun : keptAuthority rest =
      ((cleanEnd rest).dropWhile isSlash ++ tail).takeWhile fun c => !endsPlace c := by
    rw [keptAuthority, authority, split, List.dropWhile_append]
    simp [some]
  have through : tail.takeWhile (fun c => !endsPlace c) = tail :=
    List.takeWhile_eq_self_iff.mpr fun c member => by simp [endsPlace_of_edge (edges c member)]
  rw [List.takeWhile_append, through] at begun
  split at begun
  next whole =>
    have same := List.IsPrefix.eq_of_length (List.takeWhile_prefix _) whole
    cases last : tail.getLast? with
    | none =>
      rw [List.getLast?_eq_none_iff.mp last, List.append_nil] at begun
      rw [begun, authority, same]
    | some c =>
      have edge : isEdge c = true := edges c (List.mem_of_getLast? last)
      have visible := unblanked c (by simp [begun, last])
      cases edge.symm.trans visible
  next => exact begun

theorem toList_url_of_named_host {options : Options} {own : Scheme} {rest : List Char}
    (spelled : options.assetPrefix.toList = own.marker ++ rest) (page : Page) :
    (url options page).toList =
      ((Scheme.resolve (some options.assetPrefix) page).text ++ "://").toList ++
        (rest ++ options.path.toList) := by
  have stripped : stripSlashes options.assetPrefix.toList = own.marker ++ rest := by
    rw [spelled]
    cases own <;> rfl
  rw [url_of_named_host stripped page]
  simp

theorem resolve_of_accepted {options : Options} {own : Scheme} {rest : List Char} {found : Url}
    (spelled : options.assetPrefix.toList = own.marker ++ rest)
    (accepted : Url.parse options.assetPrefix = .ok found) (page : Page) :
    Scheme.resolve (some options.assetPrefix) page = own := by
  have scheme : found.scheme = String.ofList own.origin :=
    own.scheme_of_marker rest (spelled ▸ accepted)
  simp [Scheme.resolve, accepted, scheme, Scheme.ofOrigin_origin]

-- A prefix that spells out an HTTP origin and is accepted as a URL gives the endpoint its host and
-- its port, whatever page the client runs on, if no blank or control character ends its authority:
-- such a character is cut off where the prefix ends, and is not once the path follows.
theorem origin_of_accepted (options : Options) (page : Page) (own : Scheme) (rest : List Char)
    (found : Url) (spelled : options.assetPrefix.toList = own.marker ++ rest)
    (accepted : Url.parse options.assetPrefix = .ok found)
    (unblanked : ∀ c, (keptAuthority rest).getLast? = some c → isEdge c = false)
    (rooted : options.path.toList.head? = some '/') :
    found.scheme = String.ofList own.origin ∧
    (∃ host, found.host = some host) ∧
    ∃ made, Url.parse (url options page) = .ok made ∧ made.scheme = own.text ∧
      made.host = found.host ∧ made.effectivePort? = found.effectivePort? ∧
      ∀ other, url options other = url options page := by
  have read : readPlace (String.ofList own.origin) (authority (cleanEnd rest)) = .ok found := by
    rw [← own.parseChars_marker, ← spelled]
    exact accepted
  obtain ⟨_, host, port, _, _, parts⟩ := Url.readPlace_eq_ok.mp read
  have named : authority (cleanEnd rest) ≠ [] := fun none => by
    rw [none, Url.readPlace_nil] at read
    cases read
  have kept : keptAuthority rest = authority (cleanEnd rest) := keptAuthority_eq named unblanked
  obtain ⟨more, path⟩ : ∃ more, options.path.toList = '/' :: more :=
    List.head?_eq_some_iff.mp rooted
  have placed : authority (cleanEnd (rest ++ options.path.toList)) = authority (cleanEnd rest) := by
    have some : (rest.filter fun c => !isIgnored c).dropWhile isSlash ≠ [] := fun none => by
      rw [← kept, keptAuthority, authority, none] at named
      exact named rfl
    rw [path, Url.cleanEnd_append rfl, Url.authority_append_slash some, ← kept]
    rfl
  have made : Url.parse (url options page) = .ok ⟨own.text, found.host, found.port⟩ := by
    rw [Url.parse, toList_url_of_named_host spelled, resolve_of_accepted spelled accepted,
      Scheme.parseChars_text, placed]
    exact Url.readPlace_congr own.defaultPort?_text read
  refine ⟨by rw [parts], ⟨host, by rw [parts]⟩, _, made, rfl, rfl, ?_, ?_⟩
  · simp only [Url.effectivePort?, parts, own.defaultPort?_text]
  · intro other
    apply String.toList_injective
    simp only [toList_url_of_named_host spelled, resolve_of_accepted spelled accepted]

theorem origin_of_accepted_beside_user :
    let options := Options.new "/hmr" "https:///ops:pw@[::1]:8443?v=1 "
    let page := Page.new "http" "[::2]" (some 80)
    let found : Url := ⟨"https", some (.ipv6 [0, 0, 0, 0, 0, 0, 0, 1]), some 8443⟩
    Url.parse options.assetPrefix = .ok found ∧
      url options page = "wss:///ops:pw@[::1]:8443?v=1 /hmr" ∧
      ∃ made, Url.parse (url options page) = .ok made ∧ made.scheme = "wss" ∧
        made.host = found.host ∧ made.effectivePort? = some 8443 := by
  intro options page found
  have accepted : Url.parse options.assetPrefix = .ok found := by decide
  have last : (keptAuthority "/ops:pw@[::1]:8443?v=1 ".toList).getLast? = some '3' := by decide
  have unblanked : ∀ c, (keptAuthority "/ops:pw@[::1]:8443?v=1 ".toList).getLast? = some c →
      isEdge c = false := fun c found => by
    cases last.symm.trans found
    rfl
  obtain ⟨_, _, made, parsed, scheme, host, port, _⟩ :=
    origin_of_accepted options page .wss "/ops:pw@[::1]:8443?v=1 ".toList found (by decide) accepted
      unblanked (by decide)
  exact ⟨accepted, by decide, made, parsed, scheme, host, port⟩

-- A prefix whose scheme is written otherwise names no host, and a blank at its end may spoil it.
theorem host_of_page_in_place_of_own :
    let loud := Options.new "/hmr" "HTTP://[::1]"
    let blank := Options.new "/hmr" "http://[::1] "
    let page := Page.new "http" "[::2]" none
    let own : Url.Host := .ipv6 [0, 0, 0, 0, 0, 0, 0, 1]
    Url.parse loud.assetPrefix = .ok ⟨"http", some own, none⟩ ∧
      url loud page = "ws://[::2]/HTTP://[::1]/hmr" ∧
      Url.parse (url loud page) = .ok ⟨"ws", some (.ipv6 [0, 0, 0, 0, 0, 0, 0, 2]), none⟩ ∧
      Url.parse blank.assetPrefix = .ok ⟨"http", some own, none⟩ ∧
      url blank page = "ws://[::1] /hmr" ∧
      Url.parse (url blank page) = .error .invalidIpv6 := by decide

end Endpoint

end HotReload
