import HotReload.Endpoint
import HotReload.Proofs.SchemeText

set_option autoImplicit false

namespace HotReload

namespace Text

theorem stripPrefix?_append (front rest : List Char) :
    stripPrefix? front (front ++ rest) = some rest := by
  induction front with
  | nil => rfl
  | cons c front ih => simpa [stripPrefix?] using ih

theorem stripPrefix?_eq_some {front cs rest : List Char}
    (stripped : stripPrefix? front cs = some rest) : cs = front ++ rest := by
  fun_induction stripPrefix? front cs with
  | case1 cs => exact Option.some.inj stripped
  | case2 ps c cs ih => rw [ih stripped, List.cons_append]
  | case3 => cases stripped
  | case4 => cases stripped

end Text

namespace Scheme

def origin : Scheme → List Char
  | .ws => ['h', 't', 't', 'p']
  | .wss => ['h', 't', 't', 'p', 's']

def marker (s : Scheme) : List Char := s.origin ++ [':', '/', '/']

theorem ofOrigin_origin (s : Scheme) : ofOrigin (String.ofList s.origin) = s := by
  cases s <;> decide

theorem scheme_of_marker (s : Scheme) (rest : List Char) {url : Url}
    (parsed : Url.parseChars (s.marker ++ rest) = .ok url) :
    url.scheme = String.ofList s.origin := by
  obtain ⟨scheme, after, split, same⟩ := Url.parseChars_scheme parsed
  have read : ∃ more, Url.splitScheme? (Url.clean (s.marker ++ rest)) = some (s.origin, more) := by
    cases s with
    | ws =>
      exact ⟨_, Url.splitScheme?_clean 'h' ['t', 't', 'p'] rfl (List.all_eq_true.mp rfl)
        ('/' :: '/' :: rest)⟩
    | wss =>
      exact ⟨_, Url.splitScheme?_clean 'h' ['t', 't', 'p', 's'] rfl (List.all_eq_true.mp rfl)
        ('/' :: '/' :: rest)⟩
  obtain ⟨more, read⟩ := read
  cases split.symm.trans read
  exact same

theorem text_marks (own used : Scheme) (rest : List Char) :
    (own.text ++ "://").toList <+: used.text.toList ++ "://".toList ++ rest ↔ used = own := by
  cases own <;> cases used <;> simp [text]

end Scheme

namespace Endpoint

theorem remote?_eq (cs : List Char) : remote? cs =
    (Text.stripPrefix? Scheme.ws.marker cs).or (Text.stripPrefix? Scheme.wss.marker cs) := by
  have plain : "http://".toList = Scheme.ws.marker := by decide
  have secure : "https://".toList = Scheme.wss.marker := by decide
  rw [remote?, plain, secure]
  cases Text.stripPrefix? Scheme.ws.marker cs <;> rfl

theorem remote?_marker (s : Scheme) (rest : List Char) :
    remote? (s.marker ++ rest) = some rest := by
  rw [remote?_eq]
  cases s with
  | ws => rw [Text.stripPrefix?_append, Option.some_or]
  | wss =>
    have other : Text.stripPrefix? Scheme.ws.marker (Scheme.wss.marker ++ rest) = none := rfl
    rw [other, Text.stripPrefix?_append, Option.none_or]

theorem remote?_eq_none {cs : List Char} (unmarked : ∀ own : Scheme, ¬own.marker <+: cs) :
    remote? cs = none := by
  have free (own : Scheme) : Text.stripPrefix? own.marker cs = none :=
    Option.eq_none_iff_forall_ne_some.mpr fun rest stripped =>
      unmarked own ⟨rest, (Text.stripPrefix?_eq_some stripped).symm⟩
  rw [remote?_eq, free .ws, free .wss, Option.none_or]

theorem eq_of_accepted {cs rest : List Char} {own : Scheme} {url : Url}
    (named : stripSlashes cs = own.marker ++ rest) (parsed : Url.parseChars cs = .ok url) :
    cs = own.marker ++ rest := by
  cases cs with
  | nil => exact named
  | cons c more =>
    by_cases slash : c = '/'
    next =>
      obtain ⟨scheme, after, split, _⟩ := Url.parseChars_scheme parsed
      rw [slash, Url.splitScheme?_slash] at split
      cases split
    next => simpa [stripSlashes, slash] using named

theorem resolve_of_named_host {options : Options} {own : Scheme} {rest : List Char}
    (named : stripSlashes options.assetPrefix.toList = own.marker ++ rest) (page : Page) :
    Scheme.resolve (some options.assetPrefix) page =
      if (Url.parse options.assetPrefix).isOk then own else Scheme.ofOrigin page.scheme := by
  cases parsed : Url.parse options.assetPrefix with
  | error cause => simp [Scheme.resolve, parsed, Except.isOk, Except.toBool]
  | ok url =>
    have same := eq_of_accepted named parsed
    have scheme : url.scheme = String.ofList own.origin :=
      own.scheme_of_marker rest (same ▸ parsed)
    simp [Scheme.resolve, parsed, Except.isOk, Except.toBool, scheme, Scheme.ofOrigin_origin]

theorem url_of_named_host {options : Options} {own : Scheme} {rest : List Char}
    (named : stripSlashes options.assetPrefix.toList = own.marker ++ rest) (page : Page) :
    url options page = (Scheme.resolve (some options.assetPrefix) page).text ++ "://" ++
      String.ofList rest ++ options.path := by
  simp [url, origin, named, remote?_marker]

-- A prefix that spells out an HTTP origin, once the slashes in front are gone, gives the endpoint
-- its host always. It gives it the scheme too if it is accepted as a URL just as it is, which no
-- prefix with slashes in front is; if not, the scheme is the one of the page, whichever the prefix
-- names.
theorem scheme_of_named_host (options : Options) (page : Page) (own : Scheme) (rest : List Char)
    (named : stripSlashes options.assetPrefix.toList = own.marker ++ rest) :
    let accepted := (Url.parse options.assetPrefix).isOk
    let used := if accepted then own else Scheme.ofOrigin page.scheme
    url options page = used.text ++ "://" ++ String.ofList rest ++ options.path ∧
    ((own.text ++ "://").toList <+: (url options page).toList ↔
      accepted = true ∨ Scheme.ofOrigin page.scheme = own) ∧
    (accepted = true → options.assetPrefix.toList = own.marker ++ rest) := by
  intro accepted used
  have resolved : Scheme.resolve (some options.assetPrefix) page = used :=
    resolve_of_named_host named page
  have built : url options page = used.text ++ "://" ++ String.ofList rest ++ options.path :=
    resolved ▸ url_of_named_host named page
  refine ⟨built, ?_, fun ok => ?_⟩
  · have named_iff : used = own ↔ accepted = true ∨ Scheme.ofOrigin page.scheme = own := by
      cases ok : accepted <;> simp [used, ok]
    have marks := Scheme.text_marks own used (rest ++ options.path.toList)
    rw [built, ← named_iff, ← marks]
    simp
  · cases parsed : Url.parse options.assetPrefix with
    | error cause => simp [accepted, parsed, Except.isOk, Except.toBool] at ok
    | ok url => exact eq_of_accepted named parsed

theorem scheme_of_named_host_at_port :
    let options := Options.new "/hmr" "https://[::1]:8443/assets"
    let page := Page.localhost 3000
    stripSlashes options.assetPrefix.toList =
        Scheme.wss.marker ++ "[::1]:8443/assets".toList ∧
      (Scheme.wss.text ++ "://").toList <+: (url options page).toList ∧
      url options page = "wss://[::1]:8443/assets/hmr" := by
  intro options page
  have named : stripSlashes options.assetPrefix.toList =
      Scheme.wss.marker ++ "[::1]:8443/assets".toList := by decide
  have accepted : (Url.parse options.assetPrefix).isOk = true := by decide
  obtain ⟨built, marked, _⟩ := scheme_of_named_host options page .wss _ named
  refine ⟨named, marked.mpr (.inl accepted), ?_⟩
  rw [built, accepted]
  decide

-- The host comes from the prefix here, and the scheme from the page.
theorem plain_in_place_of_secure :
    let slashed := Options.new "/hmr" "//https://cdn"
    let broken := Options.new "/hmr" "https://[::1"
    let page := Page.localhost 3000
    stripSlashes slashed.assetPrefix.toList = Scheme.wss.marker ++ "cdn".toList ∧
      url slashed page = "ws://cdn/hmr" ∧
      stripSlashes broken.assetPrefix.toList = Scheme.wss.marker ++ "[::1".toList ∧
      url broken page = "ws://[::1/hmr" := by decide

end Endpoint

end HotReload
