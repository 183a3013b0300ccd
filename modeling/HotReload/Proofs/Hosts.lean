import HotReload.Proofs.Groups
import HotReload.Proofs.Numeric
import HotReload.Proofs.Place

set_option autoImplicit false

namespace HotReload

namespace Text

theorem utf8EncodeChar_of_lt {c : Char} (ascii : c.toNat < 0x80) :
    String.utf8EncodeChar c = [UInt8.ofNat c.toNat] := by
  have low : c.val.toNat ≤ 127 := Nat.le_of_lt_succ ascii
  rw [String.utf8EncodeChar.eq_def]
  simp only [low, if_true]
  rfl

theorem decodeUtf8_of_lt {cs : List Char} (ascii : ∀ c ∈ cs, c.toNat < 0x80) :
    decodeUtf8 (utf8 cs) = some cs := by
  induction cs with
  | nil => rfl
  | cons c rest ih =>
    have low := ascii c List.mem_cons_self
    have byte : (UInt8.ofNat c.toNat).toNat = c.toNat := by
      simp
      omega
    have single : UInt8.ofNat c.toNat < 0x80 := by
      rw [UInt8.lt_iff_toNat_lt, byte]
      exact low
    have front : utf8 (c :: rest) = UInt8.ofNat c.toNat :: utf8 rest := by
      rw [utf8, List.flatMap_cons, utf8EncodeChar_of_lt low]
      rfl
    rw [front, decodeUtf8.eq_def]
    simp only [single, if_true, byte, Char.ofNat_toNat]
    rw [ih fun d inside => ascii d (List.mem_cons_of_mem c inside)]
    rfl

end Text

namespace Url

open Text (utf8)

theorem percentDecode_of_ne {cs : List Char} (whole : ∀ c ∈ cs, c ≠ '%') :
    percentDecode cs = utf8 cs := by
  fun_induction percentDecode cs with
  | case1 => exact absurd rfl (whole '%' List.mem_cons_self)
  | case2 => exact absurd rfl (whole '%' List.mem_cons_self)
  | case3 c rest _ ih =>
    rw [ih fun d inside => whole d (List.mem_cons_of_mem c inside)]
    rfl
  | case4 => rfl

def keepsPlace (c : Char) : Bool := !isEdge c && !endsPlace c && c != '@'

theorem of_isDomainChar {c : Char} (domain : Idna.isDomainChar c = true) :
    c.toNat < 0x80 ∧ keepsPlace c = true ∧ c ∉ ['%', ':', '[', ']'] := by
  obtain ⟨ascii, allowed, _⟩ :
      Idna.isAscii c = true ∧ Idna.isForbidden c = false ∧ c.isUpper = false := by
    simpa [Idna.isDomainChar] using domain
  have apart : ¬c ≤ ' ' ∧ c ≠ '\x7f' ∧
      c ∉ ['%', '#', '/', ':', '<', '>', '?', '@', '[', '\\', ']', '^', '|'] := by
    simpa [Idna.isForbidden] using allowed
  obtain ⟨visible, _, apart⟩ := apart
  simp only [List.mem_cons, List.not_mem_nil, or_false, not_or] at apart
  refine ⟨of_decide_eq_true ascii, ?_, by simp [apart]⟩
  simp [keepsPlace, isEdge, endsPlace, endsAuthority, visible, apart]

theorem of_group {c : Char} (inside : c = ':' ∨ ∃ d < 16, c = Nat.digitChar d) :
    keepsPlace c = true ∧ c ∉ ['[', ']'] := by
  have digits : ∀ d < 16, keepsPlace (Nat.digitChar d) = true ∧ Nat.digitChar d ∉ ['[', ']'] := by
    decide
  rcases inside with rfl | ⟨d, small, rfl⟩
  · decide
  · exact digits d small

theorem splitHost_append {bracketed : Bool} {front : List Char}
    (unbracketed : ∀ c ∈ front, c ∉ ['[', ']']) (free : bracketed = true ∨ ':' ∉ front)
    (rest : List Char) :
    splitHost bracketed (front ++ rest) =
      (front ++ (splitHost bracketed rest).1, (splitHost bracketed rest).2) := by
  -- No bracket stands in the front, so the host is inside one throughout or never.
  induction front with
  | nil => rfl
  | cons c front ih =>
    obtain ⟨noOpening, noClosing⟩ : c ≠ '[' ∧ c ≠ ']' := by
      simpa using unbracketed c List.mem_cons_self
    have apart : ¬(c = ':' ∧ (!bracketed) = true) := by
      rintro ⟨rfl, outside⟩
      rcases free with inside | free
      · simp [inside] at outside
      · exact free List.mem_cons_self
    have later := ih (fun d inside => unbracketed d (List.mem_cons_of_mem c inside))
      (free.imp_right fun free inside => free (List.mem_cons_of_mem c inside))
    simp only [List.cons_append, splitHost, apart, if_false, noOpening, noClosing, later]

theorem splitHost_free {name rest : List Char} (free : ∀ c ∈ name, c ∉ [':', '[', ']'])
    (ends : ∀ c, rest.head? = some c → c = ':') : splitHost false (name ++ rest) = (name, rest) := by
  have stop : splitHost false rest = ([], rest) := by
    cases rest with
    | nil => rfl
    | cons c more => simp [splitHost, ends c rfl]
  have unbracketed : ∀ c ∈ name, c ∉ ['[', ']'] := fun c inside bracket =>
    free c inside (List.mem_cons_of_mem _ bracket)
  have uncolonned : ':' ∉ name := fun inside => free ':' inside List.mem_cons_self
  rw [splitHost_append unbracketed (.inr uncolonned), stop, List.append_nil]

theorem splitUser_of_not_mem {cs : List Char} (free : '@' ∉ cs) : splitUser cs = ([], cs) := by
  have none : Text.splitLast? '@' cs = none := by
    induction cs with
    | nil => rfl
    | cons c rest ih =>
      have apart : c ≠ '@' := fun same => free (same ▸ List.mem_cons_self)
      simp [Text.splitLast?, ih fun inside => free (List.mem_cons_of_mem c inside), apart]
  simp [splitUser, none]

theorem Ipv4.print_ne_nil (address : Nat) : print address ≠ [] := fun none => by
  have numbered := endsInNumber_print address
  rw [none] at numbered
  cases numbered

theorem Ipv4.plain_of_mem_print {address : Nat} {c : Char} (inside : c ∈ print address) :
    c ∈ Idna.plainChars := by
  have digits : ∀ d < 10, Nat.digitChar d ∈ Idna.plainChars := by decide
  rw [print_eq] at inside
  rcases Text.mem_intercalate inside with rfl | ⟨part, found, member⟩
  · decide
  · obtain ⟨n, _, rfl⟩ := List.mem_map.mp found
    obtain ⟨d, small, rfl⟩ := Decimal.mem_digits member
    exact digits d small

theorem Ipv6.mem_print {groups : List Nat} {c : Char} (inside : c ∈ print groups) :
    c = ':' ∨ ∃ d < 16, c = Nat.digitChar d := by
  have each (groups : List Nat) (inside : c ∈ printGroups groups) :
      c = ':' ∨ ∃ d < 16, c = Nat.digitChar d := by
    refine (Text.mem_intercalate inside).imp_right fun ⟨part, found, member⟩ => ?_
    obtain ⟨n, _, rfl⟩ := List.mem_map.mp found
    exact Decimal.mem_toDigits (by decide) member
  unfold print at inside
  split at inside
  split at inside
  next => exact each _ inside
  next =>
    simp only [List.mem_append, List.mem_cons] at inside
    rcases inside with before | colon | colon | after
    · exact each _ before
    · exact .inl colon
    · exact .inl colon
    · exact each _ after

namespace Host

inductive Canonical : Host → Prop
  | name {source domain : List Char} (made : Idna.toAscii source = some domain)
      (nonempty : domain ≠ []) (unnumbered : Ipv4.endsInNumber domain = false) :
      Canonical (.name (String.ofList domain))
  | ipv4 {address : Nat} (bounded : address < 4294967296) : Canonical (.ipv4 address)
  | ipv6 {groups : List Nat} (count : groups.length = 8) (small : ∀ group ∈ groups, group < 65536) :
      Canonical (.ipv6 groups)

theorem eq_of_bracketed {cs : List Char} {host : Host} (read : parseBracketed cs = .ok host) :
    ∃ groups, host = .ipv6 groups ∧ groups.length = 8 ∧ ∀ group ∈ groups, group < 65536 := by
  unfold parseBracketed at read
  split at read
  next =>
    split at read
    next groups parsed =>
      cases read
      exact ⟨groups, rfl, Ipv6.parse_lt parsed⟩
    next => cases read
  next => cases read

theorem parseBracketed_print {groups : List Nat} (count : groups.length = 8)
    (small : ∀ group ∈ groups, group < 65536) :
    parseBracketed (Ipv6.print groups ++ [']']) = .ok (.ipv6 groups) := by
  simp [parseBracketed, Ipv6.parse_print count small]

theorem canonical_of_domain {source domain : List Char} {host : Host}
    (made : Idna.toAscii source = some domain) (read : ofDomain domain = .ok host) :
    host.Canonical := by
  unfold ofDomain at read
  split at read
  next => cases read
  next nonempty =>
    split at read
    next =>
      split at read
      next address parsed =>
        cases read
        exact .ipv4 (Ipv4.parse_lt parsed)
      next => cases read
    next unnumbered =>
      cases read
      exact .name made (by simpa using nonempty) (by simpa using unnumbered)

theorem canonical_of_parse {cs : List Char} {host : Host} (read : parse cs = .ok host) :
    host.Canonical := by
  unfold parse at read
  split at read
  next rest =>
    obtain ⟨groups, rfl, count, small⟩ := eq_of_bracketed read
    exact .ipv6 count small
  next =>
    split at read
    next domain found =>
      obtain ⟨source, _, made⟩ := Option.bind_eq_some_iff.mp found
      exact canonical_of_domain made read
    next => cases read

theorem parse_domain {domain : List Char} (stable : Idna.toAscii domain = some domain) :
    parse domain = ofDomain domain := by
  have chars := fun c inside => of_isDomainChar (Idna.isDomainChar_of_toAscii stable c inside)
  have decoded : percentDecode domain = utf8 domain := percentDecode_of_ne fun c inside same =>
    (chars c inside).2.2 (same ▸ List.mem_cons_self)
  have text : Text.decodeUtf8 (utf8 domain) = some domain :=
    Text.decodeUtf8_of_lt fun c inside => (chars c inside).1
  unfold parse
  split
  next rest => exact absurd (chars '[' List.mem_cons_self).2.2 (by decide)
  next => simp only [decoded, text, Option.bind_some, stable]

-- A domain name that is its own ASCII form, if it is the ASCII form of anything. One that takes
-- more digits to write than are ever decoded is not.
def Stable (domain : List Char) : Prop :=
  ∀ source, Idna.toAscii source = some domain → Idna.toAscii domain = some domain

-- What the text of a host must be like to be found again in front of a port.
structure Placed (host : Host) : Prop where
  nonempty : host.text.toList ≠ []
  keeps : ∀ c ∈ host.text.toList, keepsPlace c = true
  ends : ∀ rest, (∀ c, rest.head? = some c → c = ':') →
    splitHost false (host.text.toList ++ rest) = (host.text.toList, rest)

variable {host : Host} (canonical : host.Canonical)

include canonical

theorem Canonical.parse_text (stable : Stable host.text.toList) :
    parse host.text.toList = .ok host := by
  cases canonical with
  | @name source domain made nonempty unnumbered =>
    simp only [text, String.toList_ofList] at stable ⊢
    rw [parse_domain (stable source made)]
    simp [ofDomain, nonempty, unnumbered]
  | @ipv4 address bounded =>
    have plain : Idna.toAscii (Ipv4.print address) = some (Ipv4.print address) :=
      Idna.toAscii_plain fun c inside => Ipv4.plain_of_mem_print inside
    simp only [text, String.toList_ofList]
    rw [parse_domain plain]
    simp [ofDomain, Ipv4.print_ne_nil, Ipv4.endsInNumber_print, Ipv4.parse_print bounded]
  | @ipv6 groups count small =>
    simp only [text, String.toList_ofList, List.cons_append, parse]
    exact parseBracketed_print count small

theorem Canonical.domainChars_or : (∀ c ∈ host.text.toList, Idna.isDomainChar c = true) ∨
    ∃ groups, host = .ipv6 groups := by
  cases canonical with
  | name made =>
    simp only [text, String.toList_ofList]
    exact .inl (Idna.isDomainChar_of_toAscii made)
  | ipv4 =>
    simp only [text, String.toList_ofList]
    exact .inl fun c inside => (Idna.allowed_of_plain (Ipv4.plain_of_mem_print inside)).2
  | ipv6 => exact .inr ⟨_, rfl⟩

theorem Canonical.keepsPlace_text : ∀ c ∈ host.text.toList, keepsPlace c = true := by
  intro c inside
  rcases canonical.domainChars_or with domain | ⟨groups, rfl⟩
  · exact (of_isDomainChar (domain c inside)).2.1
  · simp only [text, String.toList_ofList, List.mem_append, List.mem_cons, List.not_mem_nil,
      or_false] at inside
    rcases inside with (rfl | group) | rfl
    · decide
    · exact (of_group (Ipv6.mem_print group)).1
    · decide

theorem Canonical.text_ne_nil : host.text.toList ≠ [] := by
  cases canonical with
  | name _ nonempty => simpa [text] using nonempty
  | ipv4 => simpa [text] using Ipv4.print_ne_nil _
  | ipv6 => simp [text]

theorem Canonical.splitHost_text {rest : List Char} (ends : ∀ c, rest.head? = some c → c = ':') :
    splitHost false (host.text.toList ++ rest) = (host.text.toList, rest) := by
  -- A name holds no colon at all, and an address holds its colons between brackets.
  rcases canonical.domainChars_or with domain | ⟨groups, rfl⟩
  · refine splitHost_free (fun c inside mark => ?_) ends
    exact (of_isDomainChar (domain c inside)).2.2 (List.mem_cons_of_mem _ mark)
  · have stop : splitHost false rest = ([], rest) := by
      rw [← List.nil_append rest]
      exact splitHost_free (List.forall_mem_nil _) ends
    have closed : splitHost true (Ipv6.print groups ++ ']' :: rest) =
        (Ipv6.print groups ++ [']'], rest) := by
      rw [splitHost_append (fun c inside => (of_group (Ipv6.mem_print inside)).2) (.inl rfl)]
      simp [splitHost, stop]
    simp [text, splitHost, closed]

theorem Canonical.placed : host.Placed where
  nonempty := canonical.text_ne_nil
  keeps := canonical.keepsPlace_text
  ends _ ends := canonical.splitHost_text ends

end Host

end Url

end HotReload
