import Mathlib
import HotReload.Proofs.Hosts
import HotReload.Proofs.Absolute

set_option autoImplicit false

namespace HotReload

namespace Url

def writePort : Option UInt16 → List Char
  | some port => ':' :: Decimal.digits port.toNat
  | none => []

theorem readPort_digits {n : Nat} (small : n ≤ 65535) : readPort 0 (Decimal.digits n) = .ok n := by
  -- The bound is checked at every digit; what is read so far never exceeds the whole.
  have read : ∀ rest, readPort 0 (Decimal.digits n ++ rest) = readPort n rest := by
    revert small
    rw [Decimal.digits_eq_toDigits]
    refine Decimal.toDigits_induction (by decide) (P := fun n cs => n ≤ 65535 → ∀ rest,
      readPort 0 (cs ++ rest) = readPort n rest) ?_ ?_ n
    · intro d digit _ rest
      have fits : ¬d > 65535 := by omega
      simp [readPort, Decimal.digit?_toDigit digit, fits]
    · intro n d _ digit ih small rest
      have fits : ¬n * 10 + d > 65535 := Nat.not_lt.mpr small
      rw [List.append_assoc, ih (by omega)]
      simp [readPort, Decimal.digit?_toDigit digit, fits]
  simpa [readPort] using read []

theorem startsWithDigit_digits (n : Nat) : startsWithDigit (Decimal.digits n) = true := by
  obtain ⟨d, rest, same, digit, _⟩ := Decimal.toDigits_eq_cons (b := 10) (by decide) n
  rw [Decimal.digits_eq_toDigits, same]
  simp [startsWithDigit, Decimal.digit?_toDigit digit]

theorem parsePort_writePort {scheme : String} {port : Option UInt16}
    (kept : port = defaultPort? scheme → port = none) :
    parsePort scheme (writePort port) = .ok port := by
  cases port with
  | none => rfl
  | some port =>
    have small : port.toNat ≤ 65535 := Nat.le_of_lt_succ port.toNat_lt
    have other : some port ≠ defaultPort? scheme := fun same => Option.some_ne_none port (kept same)
    simp [writePort, parsePort, readPort_digits small, startsWithDigit_digits, other, bind,
      Except.bind]

theorem port_of_parsePort {scheme : String} {cs : List Char} {port : Option UInt16}
    (read : parsePort scheme cs = .ok port) : port = defaultPort? scheme → port = none := by
  unfold parsePort at read
  split at read
  next rest =>
    cases value : readPort 0 rest with
    | error cause => simp [value, bind, Except.bind] at read
    | ok n =>
      simp only [value, bind, Except.bind, Except.ok.injEq] at read
      intro same
      split at read
      next kept => exact absurd (read.trans same) kept.2
      next => exact read.symm
  next =>
    cases read
    exact fun _ => rfl

theorem keepsPlace_digits (n : Nat) : ∀ c ∈ Decimal.digits n, keepsPlace c = true := by
  have each : ∀ d < 10, keepsPlace (Nat.digitChar d) = true := by decide
  intro c inside
  obtain ⟨d, digit, rfl⟩ := Decimal.mem_digits inside
  exact each d digit

theorem keepsPlace_writePort (port : Option UInt16) : ∀ c ∈ writePort port, keepsPlace c = true := by
  cases port with
  | none => simp [writePort]
  | some port =>
    intro c inside
    rcases List.mem_cons.mp inside with rfl | digit
    · decide
    · exact keepsPlace_digits _ c digit

theorem apart_of_keepsPlace {c : Char} (keeps : keepsPlace c = true) :
    isEdge c = false ∧ endsPlace c = false ∧ isSlash c = false ∧ c ≠ '@' := by
  have parts : (isEdge c = false ∧ endsPlace c = false) ∧ c ≠ '@' := by
    simpa [keepsPlace] using keeps
  refine ⟨parts.1.1, parts.1.2, ?_, parts.2⟩
  cases slash : isSlash c with
  | false => rfl
  | true =>
    have kinds : c = '/' ∨ c = '\\' := of_decide_eq_true slash
    have ends : endsPlace c = true := by rcases kinds with rfl | rfl <;> rfl
    cases ends.symm.trans parts.1.2

theorem authority_slash_eq {front : List Char} (nonempty : front ≠ [])
    (keeps : ∀ c ∈ front, keepsPlace c = true) (rest : List Char) :
    authority (cleanEnd (front ++ '/' :: rest)) = front := by
  have slash : cleanEnd ('/' :: rest) = '/' :: cleanEnd rest := cleanEnd_append rfl [] rest
  have whole : front.takeWhile (fun c => !endsPlace c) = front :=
    List.takeWhile_eq_self_iff.mpr fun c inside => by
      simp [(apart_of_keepsPlace (keeps c inside)).2.1]
  obtain ⟨c, more, rfl⟩ := List.exists_cons_of_ne_nil nonempty
  have first : (c :: more).dropWhile isSlash = c :: more := by
    simp [(apart_of_keepsPlace (keeps c List.mem_cons_self)).2.2.1]
  rw [cleanEnd_visible fun c inside => (apart_of_keepsPlace (keeps c inside)).1, slash,
    authority_append_slash (by simp [first]), authority, first, whole]

section place

variable {host : Host}

theorem keepsPlace_place (placed : host.Placed) (port : Option UInt16) :
    ∀ c ∈ host.text.toList ++ writePort port, keepsPlace c = true := by
  intro c inside
  rcases List.mem_append.mp inside with named | numbered
  · exact placed.keeps c named
  · exact keepsPlace_writePort port c numbered

theorem splitUser_place (placed : host.Placed) (port : Option UInt16) :
    splitUser (host.text.toList ++ writePort port) = ([], host.text.toList ++ writePort port) := by
  apply splitUser_of_not_mem
  intro inside
  exact (apart_of_keepsPlace (keepsPlace_place placed port '@' inside)).2.2.2 rfl

theorem splitHost_place (placed : host.Placed) (port : Option UInt16) :
    splitHost false (host.text.toList ++ writePort port) = (host.text.toList, writePort port) := by
  apply placed.ends
  cases port <;> simp [writePort]

theorem readPlace_place {scheme : String} {port : Option UInt16} (canonical : host.Canonical)
    (stable : Host.Stable host.text.toList) (kept : port = defaultPort? scheme → port = none) :
    readPlace scheme (host.text.toList ++ writePort port) = .ok ⟨scheme, some host, port⟩ := by
  refine readPlace_eq_ok.mpr ?_
  rw [splitUser_place canonical.placed, splitHost_place canonical.placed]
  exact ⟨canonical.text_ne_nil, host, port, canonical.parse_text stable, parsePort_writePort kept, rfl⟩

end place

theorem readPlace_of_network {cs : List Char} {url : Url} (read : parseChars cs = .ok url)
    (network : kindOf url.scheme = .network) :
    ∃ authority, readPlace url.scheme authority = .ok url := by
  obtain ⟨scheme, rest, split, same⟩ := parseChars_scheme read
  rw [parseChars, split] at read
  simp only [← same, parseAfterScheme, network, parseAuthority_network] at read
  exact ⟨_, read⟩

theorem isSchemeChar_toLower {c : Char} (inside : isSchemeChar c = true) :
    isSchemeChar c.toLower = true := by
  by_cases upper : c.isUpper = true
  next =>
    have letter : c.toLower.isAlpha = true := by
      rw [Char.isAlpha_toLower_eq_isAlpha]
      simp [Char.isAlpha, upper]
    simp [isSchemeChar, Char.isAlphanum, letter]
  next => rwa [Char.toLower_eq_of_not_isUpper upper]

theorem lower_of_split {cs scheme rest : List Char}
    (split : splitScheme? cs = some (scheme, rest)) :
    ∃ first name, scheme = first :: name ∧ first.isAlpha = true ∧
      ∀ c ∈ scheme, isSchemeChar c = true ∧ c.toLower = c := by
  obtain ⟨first, name, letter, inside, _, rfl⟩ := splitScheme?_eq_some split
  refine ⟨first.toLower, name.map Char.toLower, rfl, ?_, ?_⟩
  · rw [Char.isAlpha_toLower_eq_isAlpha, letter]
  · intro c member
    obtain ⟨d, origin, rfl⟩ := List.mem_map.mp member
    exact ⟨isSchemeChar_toLower (inside d origin), by simp⟩

end Url

namespace Page

theorem normalizeScheme_of_split {cs scheme rest : List Char}
    (split : Url.splitScheme? cs = some (scheme, rest)) :
    normalizeScheme (String.ofList scheme) = String.ofList scheme := by
  obtain ⟨_, _, _, _, inside⟩ := Url.lower_of_split split
  have lower : scheme.map Char.toLower = scheme := by
    simpa using List.map_congr_left fun c member => (inside c member).2
  have uncolonned : scheme.getLast? ≠ some ':' := fun last =>
    absurd (inside ':' (List.mem_of_getLast? last)).1 (by decide)
  simp only [normalizeScheme, String.toList_ofList, uncolonned, if_false, lower]

theorem parse_eq_ok {text : String} {page : Page} :
    parse text = .ok page ↔ ∃ url host, Url.parse text = .ok url ∧ url.host = some host ∧
      page = ⟨url.scheme, host.text, url.port⟩ := by
  unfold parse
  cases read : Url.parse text with
  | error cause => simp
  | ok url =>
    obtain ⟨scheme, rest, split, same⟩ := Url.parseChars_scheme read
    have lower : normalizeScheme url.scheme = url.scheme := same ▸ normalizeScheme_of_split split
    cases named : url.host with
    | none => simp [named]
    | some host => simp [named, new, lower, eq_comm]

theorem place_of_parse {text : String} {page : Page} (parsed : parse text = .ok page)
    (network : Url.kindOf page.scheme = .network) :
    (∃ host : Url.Host, host.Canonical ∧ page.hostname = host.text) ∧
      (page.port = Url.defaultPort? page.scheme → page.port = none) := by
  obtain ⟨url, host, read, named, rfl⟩ := parse_eq_ok.mp parsed
  obtain ⟨authority, place⟩ := Url.readPlace_of_network read network
  obtain ⟨_, found, port, hosted, numbered, same⟩ := Url.readPlace_eq_ok.mp place
  have sameHost : host = found := Option.some.inj (named.symm.trans (congrArg Url.host same))
  have samePort : url.port = port := congrArg Url.port same
  exact ⟨⟨host, sameHost ▸ Url.Host.canonical_of_parse hosted, rfl⟩,
    samePort ▸ Url.port_of_parsePort numbered⟩

theorem toList_authority (page : Page) :
    page.authority.toList = page.hostname.toList ++ Url.writePort page.port := by
  unfold authority
  cases page.port <;> simp [Url.writePort, Decimal.ofNat]

end Page

namespace Endpoint

theorem resolve_of_relative {options : Options}
    (relative : options.assetPrefix = "" ∨ options.assetPrefix.toList.head? = some '/')
    (page : Page) :
    Scheme.resolve (some options.assetPrefix) page = Scheme.ofOrigin page.scheme := by
  have refused : Url.parse options.assetPrefix = .error .notAbsolute := by
    rcases relative with empty | slashed
    · rw [empty]
      rfl
    · obtain ⟨rest, spelled⟩ := List.head?_eq_some_iff.mp slashed
      rw [Url.parse, spelled, Url.parseChars, Url.splitScheme?_slash]
  simp [Scheme.resolve, refused]

theorem toList_url_of_relative {options : Options}
    (relative : options.assetPrefix = "" ∨ options.assetPrefix.toList.head? = some '/')
    (unmarked : ∀ own : Scheme, ¬own.marker <+: stripSlashes options.assetPrefix.toList)
    (rooted : options.path.toList.head? = some '/') (page : Page) :
    ∃ rest, (url options page).toList =
      ((Scheme.ofOrigin page.scheme).text ++ "://").toList ++ (page.authority.toList ++ '/' :: rest) := by
  obtain ⟨path, spelled⟩ := List.head?_eq_some_iff.mp rooted
  simp only [url, resolve_of_relative relative, origin, remote?_eq_none unmarked]
  -- If nothing is left of the prefix, the slash is the first of the path.
  split
  next => exact ⟨path, by simp [spelled]⟩
  next => exact ⟨stripSlashes options.assetPrefix.toList ++ '/' :: path, by simp [spelled]⟩

theorem origin_of_page (text : String) (page : Page) (options : Options) (own : Scheme)
    (parsed : Page.parse text = .ok page) (served : page.scheme = String.ofList own.origin)
    (relative : options.assetPrefix = "" ∨ options.assetPrefix.toList.head? = some '/')
    (unmarked : ∀ other : Scheme, ¬other.marker <+: stripSlashes options.assetPrefix.toList)
    (rooted : options.path.toList.head? = some '/')
    (stable : Url.Host.Stable page.hostname.toList) :
    Page.parse (url options page) = .ok ⟨own.text, page.hostname, page.port⟩ := by
  have network : Url.kindOf page.scheme = .network := by
    rw [served]
    cases own <;> decide
  obtain ⟨⟨host, canonical, named⟩, kept⟩ := Page.place_of_parse parsed network
  have same : Scheme.ofOrigin page.scheme = own := by rw [served, Scheme.ofOrigin_origin]
  obtain ⟨rest, built⟩ := toList_url_of_relative relative unmarked rooted page
  rw [same, Page.toList_authority, named] at built
  have placed : Url.parse (url options page) = .ok ⟨own.text, some host, page.port⟩ := by
    have keeps : ∀ c ∈ host.text.toList ++ Url.writePort page.port, Url.keepsPlace c = true :=
      Url.keepsPlace_place canonical.placed page.port
    -- A port that the page leaves out as a default is one for the socket too.
    have samePort : Url.defaultPort? page.scheme = Url.defaultPort? own.text :=
      served ▸ own.defaultPort?_text
    have nonempty : host.text.toList ++ Url.writePort page.port ≠ [] := by
      simp [canonical.text_ne_nil]
    rw [Url.parse, built, own.parseChars_text, Url.authority_slash_eq nonempty keeps]
    exact Url.readPlace_place canonical (named ▸ stable) (samePort ▸ kept)
  exact Page.parse_eq_ok.mpr ⟨_, host, placed, rfl, by rw [named]⟩

theorem origin_of_page_before_marks :
    let options := Options.new "/hmr?at=@[::2]:1" "//a@b:80?c#d\\\x00"
    let page : Page := ⟨"https", "10-0-0-1", none⟩
    Page.parse "https://10-0-0-1:443" = .ok page ∧
      url options page = "wss://10-0-0-1/a@b:80?c#d\\\x00/hmr?at=@[::2]:1" ∧
      Page.parse (url options page) = .ok ⟨"wss", "10-0-0-1", none⟩ := by
  intro options page
  have plain : Idna.toAscii "10-0-0-1".toList = some "10-0-0-1".toList :=
    Idna.toAscii_plain (by simp [Idna.plainChars])
  have named : Url.Host.parse "10-0-0-1".toList = .ok (.name "10-0-0-1") :=
    (Url.Host.parse_domain plain).trans rfl
  have read : Url.parse "https://10-0-0-1:443" = .ok ⟨"https", some (.name "10-0-0-1"), none⟩ :=
    (Scheme.wss.parseChars_marker "10-0-0-1:443".toList).trans
      (Url.readPlace_eq_ok.mpr ⟨by decide, _, _, named, by decide, rfl⟩)
  have parsed : Page.parse "https://10-0-0-1:443" = .ok page :=
    Page.parse_eq_ok.mpr ⟨_, _, read, rfl, rfl⟩
  have unmarked (other : Scheme) : ¬other.marker <+: stripSlashes options.assetPrefix.toList := by
    cases other <;> decide
  exact ⟨parsed, by decide, origin_of_page _ page options .wss parsed (by decide)
    (.inr (by decide)) unmarked (by decide) fun _ _ => plain⟩

end Endpoint

end HotReload
