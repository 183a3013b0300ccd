import HotReload.Proofs.Hosts

set_option autoImplicit false

namespace HotReload.Url

-- Such a character is written as itself, and stands for itself in a host.
def isKept (c : Char) : Bool := ' ' ≤ c ∧ c < '\x7f' ∧ !isForbiddenInHost c

theorem of_isKept {c : Char} (kept : isKept c = true) :
    keepsPlace c = true ∧ c ∉ [':', '[', ']'] := by
  obtain ⟨above, _, allowed⟩ := of_decide_eq_true kept
  have apart : c ∉ ['\x00', '\t', '\n', '\r', ' ', '#', '/', ':', '<', '>', '?', '@', '[', '\\', ']',
      '^', '|'] := by
    simpa [isForbiddenInHost] using allowed
  simp only [List.mem_cons, List.not_mem_nil, or_false, not_or] at apart
  -- Of the characters that are cut off at the edges, only the blank comes up to the bound.
  have visible : isEdge c = false := by
    apply decide_eq_false
    intro edge
    have blank : c = ' ' := Char.le_antisymm edge above
    simp [apart] at blank
  constructor
  · simp [keepsPlace, endsPlace, endsAuthority, visible, apart]
  · simp [apart]

theorem isKept_percentEncodeByte (b : UInt8) : ∀ c ∈ percentEncodeByte b, isKept c = true := by
  have digits : ∀ d < 16, isKept (upperHexDigit d) = true := by decide
  have bounded := b.toNat_lt
  intro c inside
  simp only [percentEncodeByte, List.mem_cons, List.not_mem_nil, or_false] at inside
  rcases inside with rfl | rfl | rfl
  · decide
  · apply digits
    omega
  · apply digits
    omega

theorem isKept_encodeControls {cs : List Char} (allowed : cs.any isForbiddenInHost = false) :
    ∀ c ∈ encodeControls cs, isKept c = true := by
  intro c inside
  obtain ⟨d, member, written⟩ := List.mem_flatMap.mp inside
  by_cases printable : ' ' ≤ d ∧ d < '\x7f'
  next =>
    rw [if_pos printable] at written
    obtain rfl := List.mem_singleton.mp written
    have free : isForbiddenInHost c = false := by simpa using List.any_eq_false.mp allowed c member
    simp [isKept, printable, free]
  next =>
    rw [if_neg printable] at written
    obtain ⟨b, _, digit⟩ := List.mem_flatMap.mp written
    exact isKept_percentEncodeByte b c digit

theorem encodeControls_of_kept {cs : List Char} (kept : ∀ c ∈ cs, isKept c = true) :
    encodeControls cs = cs := by
  induction cs with
  | nil => rfl
  | cons c rest ih =>
    obtain ⟨above, below, _⟩ := of_decide_eq_true (kept c List.mem_cons_self)
    have later := ih fun d inside => kept d (List.mem_cons_of_mem c inside)
    have printable : ' ' ≤ c ∧ c < '\x7f' := ⟨above, below⟩
    rw [encodeControls, List.flatMap_cons, if_pos printable, ← encodeControls, later]
    rfl

theorem encodeControls_ne_nil {cs : List Char} (nonempty : cs ≠ []) : encodeControls cs ≠ [] := by
  obtain ⟨c, rest, rfl⟩ := List.exists_cons_of_ne_nil nonempty
  intro none
  rw [encodeControls, List.flatMap_cons, List.append_eq_nil_iff] at none
  have front := none.1
  split at front
  next => cases front
  next =>
    obtain ⟨b, bytes, encoded⟩ := List.exists_cons_of_ne_nil (String.utf8EncodeChar_ne_nil (c := c))
    rw [encoded] at front
    cases front

namespace Host

inductive Foreign : Host → Prop
  | name {chars : List Char} (nonempty : chars ≠ []) (kept : ∀ c ∈ chars, isKept c = true) :
    Foreign (.name (String.ofList chars))
  | ipv6 {groups : List Nat} (count : groups.length = 8) (small : ∀ group ∈ groups, group < 65536) :
    Foreign (.ipv6 groups)

theorem foreign_of_parse {cs : List Char} {host : Host} (nonempty : cs ≠ [])
    (read : parseOpaque cs = .ok host) : host.Foreign := by
  unfold parseOpaque at read
  split at read
  next rest =>
    obtain ⟨groups, rfl, count, small⟩ := eq_of_bracketed read
    exact .ipv6 count small
  next =>
    split at read
    next => cases read
    next allowed =>
      cases read
      have free : cs.any isForbiddenInHost = false := by simpa using allowed
      exact .name (encodeControls_ne_nil nonempty) (isKept_encodeControls free)

theorem Foreign.placed {host : Host} (foreign : host.Foreign) : host.Placed := by
  cases foreign with
  | ipv6 count small => exact (Canonical.ipv6 count small).placed
  | @name chars nonempty kept =>
    have spelled : (Host.name (String.ofList chars)).text.toList = chars := String.toList_ofList
    constructor
    case nonempty => rwa [spelled]
    case keeps =>
      rw [spelled]
      exact fun c inside => (of_isKept (kept c inside)).1
    case ends =>
      intro rest ends
      rw [spelled]
      exact splitHost_free (fun c inside => (of_isKept (kept c inside)).2) ends

theorem Foreign.parse_text {host : Host} (foreign : host.Foreign) :
    parseOpaque host.text.toList = .ok host := by
  cases foreign with
  | ipv6 count small =>
    simp only [text, String.toList_ofList, List.cons_append, parseOpaque]
    exact parseBracketed_print count small
  | @name chars nonempty kept =>
    have allowed : chars.any isForbiddenInHost = false := by
      apply List.any_eq_false.mpr
      intro c inside
      simpa using (of_decide_eq_true (kept c inside)).2.2
    simp only [text, String.toList_ofList]
    unfold parseOpaque
    split
    next rest => exact absurd (of_isKept (kept '[' List.mem_cons_self)).2 (by decide)
    next => simp [allowed, encodeControls_of_kept kept]

end Host

end HotReload.Url
