import Mathlib
import HotReload.Proofs.Foreign
import HotReload.Proofs.Relative

set_option autoImplicit false

namespace HotReload

namespace Url

namespace Kind

def readHost : Kind → List Char → Except ParseError Host
  | .other, cs => Host.parseOpaque cs
  | _, cs => Host.parse cs

def Allows : Kind → Host → Prop
  | .other, host => host.Foreign
  | _, host => host.Canonical

variable {kind : Kind} {host : Host} {cs : List Char}

theorem parseHost_of_ne_nil (nonempty : cs ≠ []) :
    parseHost kind cs = (kind.readHost cs).map some := by
  cases kind <;> simp [parseHost, readHost, nonempty]

theorem ne_nil_of_parseHost (read : parseHost kind cs = .ok (some host)) : cs ≠ [] := by
  rintro rfl
  cases kind <;> simp [parseHost] at read

theorem allows_of_readHost (nonempty : cs ≠ []) (read : kind.readHost cs = .ok host) :
    kind.Allows host := by
  cases kind with
  | other => exact Host.foreign_of_parse nonempty read
  | network => exact Host.canonical_of_parse read
  | file => exact Host.canonical_of_parse read

theorem Allows.placed (allowed : kind.Allows host) : host.Placed := by
  cases kind with
  | other => exact Host.Foreign.placed allowed
  | network => exact Host.Canonical.placed allowed
  | file => exact Host.Canonical.placed allowed

theorem Allows.readHost_text (allowed : kind.Allows host) (stable : Host.Stable host.text.toList) :
    kind.readHost host.text.toList = .ok host := by
  cases kind with
  | other => exact Host.Foreign.parse_text allowed
  | network => exact Host.Canonical.parse_text allowed stable
  | file => exact Host.Canonical.parse_text allowed stable

end Kind

structure Located (url : Url) (host : Host) : Prop where
  named : url.host = some host
  allowed : (kindOf url.scheme).Allows host
  kept : url.port = defaultPort? url.scheme → url.port = none
  remote : kindOf url.scheme = .file → host ≠ .name "localhost" ∧ url.port = none

theorem unmarked_of_keepsPlace {c : Char} (keeps : keepsPlace c = true) :
    c ≠ '/' ∧ c ≠ '?' ∧ c ≠ '#' ∧ c ≠ '\\' := by
  simpa [endsPlace, endsAuthority] using (apart_of_keepsPlace keeps).2.1

section place

variable {scheme : String} {host : Host} {port : Option UInt16}

theorem parseAuthority_place {kind : Kind} (allowed : kind.Allows host)
    (stable : Host.Stable host.text.toList) (kept : port = defaultPort? scheme → port = none) :
    parseAuthority scheme kind (host.text.toList ++ writePort port) =
      .ok ⟨scheme, some host, port⟩ := by
  have placed := allowed.placed
  have keeps := keepsPlace_place placed port
  have whole : (host.text.toList ++ writePort port).takeWhile (fun c => !endsAuthority kind c) =
      host.text.toList ++ writePort port := by
    apply List.takeWhile_eq_self_iff.mpr
    intro c inside
    simp [endsAuthority, unmarked_of_keepsPlace (keeps c inside)]
  have alone : host.text.toList ++ writePort port ≠ ['@'] := by
    intro same
    exact (apart_of_keepsPlace (keeps '@' (by simp [same]))).2.2.2 rfl
  have read : parseHost kind host.text.toList = .ok (some host) := by
    rw [Kind.parseHost_of_ne_nil placed.nonempty, allowed.readHost_text stable]
    rfl
  simp only [parseAuthority, whole, splitUser_place placed, splitHost_place placed, alone,
    false_and, if_false, bind, Except.bind, read, parsePort_writePort kept]
  simp

theorem isDriveLetter_text (canonical : host.Canonical) :
    isDriveLetter host.text.toList = false := by
  unfold isDriveLetter
  split
  next c d spelled =>
    rcases canonical.domainChars_or with domain | ⟨groups, rfl⟩
    · -- No domain name holds the second half of a drive letter.
      have second : Idna.isDomainChar d = true := domain d (by simp [spelled])
      have apart : d ≠ ':' ∧ d ≠ '|' := by
        constructor <;>
          · rintro rfl
            exact absurd second (by decide)
      simp [apart]
    · have bracket : c = '[' := by
        simp only [Host.text, String.toList_ofList, List.cons_append] at spelled
        exact (List.cons.inj spelled).1.symm
      simp [bracket, Char.isAlpha, Char.isUpper, Char.isLower]
  next => rfl

theorem parseFileHost_text (canonical : host.Canonical) (stable : Host.Stable host.text.toList)
    (remote : host ≠ .name "localhost") : parseFileHost host.text.toList = .ok (some host) := by
  have placed := canonical.placed
  have inside c (member : c ∈ host.text.toList) : endsFileHost c = false := by
    simp [endsFileHost, isSlash, unmarked_of_keepsPlace (placed.keeps c member)]
  have whole : host.text.toList.takeWhile (fun c => !endsFileHost c) = host.text.toList :=
    List.takeWhile_eq_self_iff.mpr fun c member => by simp [inside c member]
  have nothing : host.text.toList.dropWhile (fun c => !endsFileHost c) = [] :=
    List.dropWhile_eq_nil_iff.mpr fun c member => by simp [inside c member]
  have pathless : beginsWithDrive [] (splitSegments (pathOf [])) = false := by decide
  have nonempty : host.text.toList.isEmpty = false := by simpa using placed.nonempty
  simp only [parseFileHost, whole, nothing, nonempty, isDriveLetter_text canonical, pathless,
    canonical.parse_text stable, bind, Except.bind, remote]
  simp

theorem of_parseFileHost {cs : List Char} (read : parseFileHost cs = .ok (some host)) :
    host.Canonical ∧ host ≠ .name "localhost" := by
  simp only [parseFileHost] at read
  split at read
  next => cases read
  next =>
    cases found : Host.parse (cs.takeWhile fun c => !endsFileHost c) with
    | error cause => simp [found, bind, Except.bind] at read
    | ok other =>
      simp only [found, bind, Except.bind] at read
      split at read
      next => cases read
      next remote =>
        cases read
        exact ⟨Host.canonical_of_parse found, fun here => remote (.inl here)⟩

end place

section url

variable {scheme : String} {host : Host} {url : Url} {cs : List Char}

theorem located_of_parseAuthority {kind : Kind} (sort : kindOf scheme = kind) (other : kind ≠ .file)
    (parsed : parseAuthority scheme kind cs = .ok url) (named : url.host = some host) :
    url.Located host := by
  obtain ⟨hostText, portText, found, port, read, numbered, rfl⟩ := parseAuthority_eq_ok parsed
  obtain rfl : found = some host := named
  have nonempty := Kind.ne_nil_of_parseHost read
  rw [Kind.parseHost_of_ne_nil nonempty] at read
  have readHost : kind.readHost hostText = .ok host := by
    cases taken : kind.readHost hostText with
    | error cause => simp [taken, Except.map] at read
    | ok one => simpa [taken, Except.map] using read
  constructor
  case named => rfl
  case allowed => exact sort ▸ Kind.allows_of_readHost nonempty readHost
  case kept => exact port_of_parsePort numbered
  case remote => exact fun file => absurd (sort.symm.trans file) other

theorem located_of_parse (parsed : parseAfterScheme scheme cs = .ok url)
    (named : url.host = some host) : url.Located host := by
  unfold parseAfterScheme at parsed
  split at parsed
  next network => exact located_of_parseAuthority network (by decide) parsed named
  next file =>
    split at parsed
    next a b rest =>
      split at parsed
      next =>
        cases read : parseFileHost rest with
        | error cause => simp [read, Except.map] at parsed
        | ok found =>
          simp only [read, Except.map, Except.ok.injEq] at parsed
          subst parsed
          obtain rfl : found = some host := named
          obtain ⟨canonical, remote⟩ := of_parseFileHost read
          constructor
          case named => rfl
          case allowed =>
            simp only [file]
            exact canonical
          case kept => exact fun _ => rfl
          case remote => exact fun _ => ⟨remote, rfl⟩
      next =>
        cases parsed
        cases named
    next =>
      cases parsed
      cases named
  next foreign =>
    split at parsed
    next => exact located_of_parseAuthority foreign (by decide) parsed named
    next =>
      cases parsed
      cases named

theorem parseAfterScheme_place (located : url.Located host) (stable : Host.Stable host.text.toList) :
    parseAfterScheme url.scheme ('/' :: '/' :: (host.text.toList ++ writePort url.port)) = .ok url := by
  obtain ⟨named, allowed, kept, remote⟩ := located
  obtain ⟨scheme, found, port⟩ := url
  obtain rfl : found = some host := named
  dsimp only at allowed kept remote ⊢
  have placed := allowed.placed
  have slash : isSlash '/' = true := rfl
  unfold parseAfterScheme
  split
  next network =>
    have started : (host.text.toList ++ writePort port).dropWhile isSlash =
        host.text.toList ++ writePort port := by
      obtain ⟨c, rest, spelled⟩ := List.exists_cons_of_ne_nil placed.nonempty
      have first := placed.keeps c (by simp [spelled])
      simp [spelled, (apart_of_keepsPlace first).2.2.1]
    rw [List.dropWhile_cons_of_pos slash, List.dropWhile_cons_of_pos slash, started]
    exact parseAuthority_place (network ▸ allowed) stable kept
  next file =>
    obtain ⟨elsewhere, rfl⟩ := remote file
    simp only [file] at allowed
    have read := parseFileHost_text allowed stable elsewhere
    simp [slash, writePort, read, Except.map]
  next foreign => exact parseAuthority_place (foreign ▸ allowed) stable kept

end url

theorem located_of_parseChars {cs : List Char} {url : Url} {host : Host}
    (read : parseChars cs = .ok url) (named : url.host = some host) : url.Located host := by
  unfold parseChars at read
  split at read
  next => exact located_of_parse read named
  next => cases read

theorem splitScheme?_place {cs scheme rest place : List Char}
    (split : splitScheme? cs = some (scheme, rest)) (keeps : ∀ c ∈ place, keepsPlace c = true) :
    splitScheme? (clean (scheme ++ ':' :: '/' :: '/' :: place)) =
      some (scheme, '/' :: '/' :: place) := by
  obtain ⟨first, name, rfl, letter, inside⟩ := lower_of_split split
  have lower : (first :: name).map Char.toLower = first :: name := by
    simpa using List.map_congr_left fun c member => (inside c member).2
  have visible : ∀ c ∈ '/' :: '/' :: place, isEdge c = false := by
    intro c member
    simp only [List.mem_cons] at member
    rcases member with rfl | rfl | member
    · rfl
    · rfl
    · exact (apart_of_keepsPlace (keeps c member)).1
  have whole : cleanEnd ('/' :: '/' :: place) = '/' :: '/' :: place := by
    simpa [cleanEnd] using cleanEnd_visible visible []
  rw [splitScheme?_clean first name letter (fun c member => (inside c member).1), lower, whole]

end Url

namespace Page

theorem toList_text (page : Page) :
    page.text.toList = page.scheme.toList ++ ':' :: '/' :: '/' ::
      (page.hostname.toList ++ Url.writePort page.port) := by
  simp [text, ← toList_authority]

theorem read_back_from_text (source : String) (page : Page) (parsed : parse source = .ok page) :
    (Url.Host.Stable page.hostname.toList → parse page.text = .ok page) ∧
      page.hostname ≠ "" ∧
      (∀ c ∈ page.scheme.toList, c.toLower = c ∧ c ≠ ':') ∧
      ∀ port, page.port = some port → Url.defaultPort? page.scheme ≠ some port := by
  obtain ⟨url, host, read, named, rfl⟩ := parse_eq_ok.mp parsed
  obtain ⟨scheme, rest, split, spelled⟩ := Url.parseChars_scheme read
  have located := Url.located_of_parseChars read named
  have placed := located.allowed.placed
  refine ⟨fun stable => ?_, ?_, ?_, ?_⟩
  · -- The text is split again where it was put together, and each part gives what it was made of.
    have keeps := Url.keepsPlace_place placed url.port
    have shown := toList_text ⟨url.scheme, host.text, url.port⟩
    have again : Url.parse (text ⟨url.scheme, host.text, url.port⟩) = .ok url := by
      rw [Url.parse, shown, Url.parseChars, spelled, String.toList_ofList,
        Url.splitScheme?_place split keeps]
      simpa [spelled] using Url.parseAfterScheme_place located stable
    exact parse_eq_ok.mpr ⟨url, host, again, named, rfl⟩
  · intro empty
    exact placed.nonempty (by simpa using empty)
  · intro c member
    obtain ⟨_, _, _, _, inside⟩ := Url.lower_of_split split
    rw [spelled, String.toList_ofList] at member
    obtain ⟨schemeChar, lower⟩ := inside c member
    apply And.intro lower
    rintro rfl
    exact absurd schemeChar (by decide)
  · intro port given standard
    have absent := located.kept (given.trans standard.symm)
    exact Option.some_ne_none port (given.symm.trans absent)

theorem read_back_from_number :
    let page : Page := ⟨"http", "15.0.0.1", some 443⟩
    parse "\tHTTP:\\/u@017.1:0443\\x" = .ok page ∧ page.text = "http://15.0.0.1:443" ∧
      parse page.text = .ok page := by
  intro page
  have plain : Idna.toAscii "017.1".toList = some "017.1".toList :=
    Idna.toAscii_plain (by simp [Idna.plainChars])
  have addressed : Url.Host.parse "017.1".toList = .ok (.ipv4 0x0f000001) :=
    (Url.Host.parse_domain plain).trans (by decide)
  have place : Url.readPlace "http" "u@017.1:0443".toList =
      .ok ⟨"http", some (.ipv4 0x0f000001), some 443⟩ :=
    Url.readPlace_eq_ok.mpr ⟨by decide, _, _, addressed, by decide, rfl⟩
  have read : Url.parse "\tHTTP:\\/u@017.1:0443\\x" =
      .ok ⟨"http", some (.ipv4 0x0f000001), some 443⟩ := by
    have split : Url.splitScheme? (Url.clean "\tHTTP:\\/u@017.1:0443\\x".toList) =
        some ("http".toList, "\\/u@017.1:0443\\x".toList) := by decide
    have network : Url.kindOf "http" = .network := by decide
    have front : ("\\/u@017.1:0443\\x".toList.dropWhile Url.isSlash).takeWhile
        (fun c => !Url.endsPlace c) = "u@017.1:0443".toList := by decide
    rw [Url.parse, Url.parseChars, split]
    simp only [String.ofList_toList, Url.parseAfterScheme, network, Url.parseAuthority_network,
      front, place]
  have written : (Url.Host.ipv4 0x0f000001).text = "15.0.0.1" := by
    have printed : Url.Ipv4.print 0x0f000001 = "15.0.0.1".toList := by decide +kernel
    rw [Url.Host.text, printed, String.ofList_toList]
  have parsed : parse "\tHTTP:\\/u@017.1:0443\\x" = .ok page :=
    parse_eq_ok.mpr ⟨_, _, read, rfl, by rw [written]⟩
  have stable : Url.Host.Stable page.hostname.toList := by
    intro _ _
    apply Idna.toAscii_plain
    simp [page, Idna.plainChars]
  exact ⟨parsed, by decide +kernel, (read_back_from_text _ page parsed).1 stable⟩

end Page

end HotReload
