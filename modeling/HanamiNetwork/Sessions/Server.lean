import HanamiNetwork.Basis.Regex
import HanamiNetwork.Basis.Trace
import HanamiNetwork.Data.Items

/-!
# Servers

`addServer` (`hanami_messaging.cpp`) opens a server of one of two kinds, by the address in the
config: one for tcp if the address matches a regex for IPv4 addresses, and one on a
unix-domain socket if it does not. The regex is written down as an expression whose
`pattern` is the text in the source.

The addresses it matches are four octets with dots between them, and no others
(`fullMatch_ipv4Regex_iff`). What it takes for that at the end of its repetition, a dot or the
end of the input, is decided by the boundary that follows.
-/

namespace HanamiNetwork

open HanamiNetwork.Basis HanamiNetwork.Basis.Regex

/-! ### The regex -/

/-- A letter, a digit or an underscore. -/
def isWord (c : UInt8) : Bool := 48 ≤ c && c ≤ 57 || 65 ≤ c && c ≤ 90 || 97 ≤ c && c ≤ 122 || c = 95

/-- `[0-9]`. -/
def digitRegex : Regex UInt8 := .range [(48, 57)]

/-- `25[0-5]|2[0-4][0-9]|[01]?[0-9][0-9]?`. -/
def octetRegex : Regex UInt8 :=
  .alt (.seq (.char 50) (.seq (.char 53) (.range [(48, 53)])))
    (.alt (.seq (.char 50) (.seq (.range [(48, 52)]) digitRegex))
      (.seq (.opt (.range [(48, 48), (49, 49)])) (.seq digitRegex (.opt digitRegex))))

/-- `(25[0-5]|2[0-4][0-9]|[01]?[0-9][0-9]?)(\.|$)`. -/
def partRegex : Regex UInt8 := .seq (.group octetRegex) (.group (.alt (.char 46) .endOfInput))

/-- `ipv4Regex`. -/
def ipv4Regex : Regex UInt8 := .seq .wordBoundary (.seq (.times 4 (.group partRegex)) .wordBoundary)

/-- The text of an expression. -/
def pattern : Regex UInt8 → Str
  | .char c => if c ∈ str ".$()[]\x7b\x7d|?\\" then [92, c] else [c]
  | .range ranges => str "[" ++ (ranges.flatMap fun range =>
      if range.1 = range.2 then [range.1] else [range.1, 45, range.2]) ++ str "]"
  | .seq r s => pattern r ++ pattern s
  | .alt r s => pattern r ++ str "|" ++ pattern s
  | .opt r => pattern r ++ str "?"
  | .times n r => pattern r ++ str "\x7b" ++ str (toString n) ++ str "\x7d"
  | .group r => str "(" ++ pattern r ++ str ")"
  | .endOfInput => str "$"
  | .wordBoundary => str "\\b"

example : pattern ipv4Regex =
    str "\\b((25[0-5]|2[0-4][0-9]|[01]?[0-9][0-9]?)(\\.|$))\x7b4\x7d\\b" := by decide

/-! ### The server -/

/-- A call that opens a server. -/
inductive ServerCall where
  /-- `addTlsTcpServer`. -/
  | addTlsTcpServer (port : UInt16) (certFilePath keyFilePath : Str)
  /-- `addUnixDomainServer`. -/
  | addUnixDomainServer (serverAddress : Str)
  deriving DecidableEq

/-- What a call that opens a server gives. -/
structure ServerOutcome where
  /-- The id of the server, zero if it was not opened. -/
  id : UInt32
  /-- The messages that are put into the error container. -/
  messages : List Str

/-- What opening a server leaves behind. -/
inductive ServerEffect where
  /-- A server is opened. -/
  | call (call : ServerCall)
  /-- `LOG_ERROR(error)`. -/
  | logError (error : ErrorContainer)

/-- `addServer`; `controller` is what the calls of the session-controller give. -/
def addServer (controller : ServerCall → ServerOutcome) (serverAddress : Str) (error : ErrorContainer)
    (port : UInt16) (certFilePath keyFilePath : Str) : Traced ServerEffect (Bool × ErrorContainer) := do
  if fullMatch isWord ipv4Regex serverAddress then
    let call := .addTlsTcpServer port certFilePath keyFilePath
    Traced.emit (.call call)
    let error : ErrorContainer := ⟨error.messages ++ (controller call).messages⟩
    if (controller call).id = 0 then
      let error := error.addMeesage (str "can't initialize tcp-server on port " ++ str (toString port))
      Traced.emit (.logError error)
      return (false, error)
    else
      return (true, error)
  else
    let call := .addUnixDomainServer serverAddress
    Traced.emit (.call call)
    let error : ErrorContainer := ⟨error.messages ++ (controller call).messages⟩
    if (controller call).id = 0 then
      let error := error.addMeesage (str "can't initialize uds-server on file " ++ serverAddress)
      Traced.emit (.logError error)
      return (false, error)
    else
      return (true, error)

/-! ### Addresses -/

/-- A digit. -/
def isDigit (c : UInt8) : Prop := 48 ≤ c.toNat ∧ c.toNat ≤ 57

instance (c : UInt8) : Decidable (isDigit c) := inferInstanceAs (Decidable (_ ∧ _))

/-- The value of digits. -/
def decimalValue (digits : Str) : ℕ := digits.foldl (fun value c => 10 * value + (c.toNat - 48)) 0

/-- One to three digits, of a value of at most 255. -/
structure IsOctet (part : Str) : Prop where
  /-- There is one. -/
  nonempty : part ≠ []
  /-- There are no more than three. -/
  length_le : part.length ≤ 3
  /-- They are digits. -/
  digits : ∀ c ∈ part, isDigit c
  /-- They fit into a byte. -/
  value_le : decimalValue part ≤ 255

/-- Four octets with dots between them. -/
def IsIpv4Address (address : Str) : Prop :=
  ∃ parts : List Str, parts.length = 4 ∧ (∀ part ∈ parts, IsOctet part) ∧ address = (str ".").intercalate parts

/-! ### What the regex matches -/

section

variable {pos pos' : Position UInt8}

theorem inRanges_iff {a b c : UInt8} : inRanges [(a, b)] c = true ↔ a.toNat ≤ c.toNat ∧ c.toNat ≤ b.toNat := by
  simp [inRanges, UInt8.le_iff_toNat_le]

theorem inRanges_zero_one_iff {c : UInt8} :
    inRanges [(48, 48), (49, 49)] c = true ↔ 48 ≤ c.toNat ∧ c.toNat ≤ 49 := by
  simp only [inRanges, List.any_cons, List.any_nil, Bool.or_false, Bool.or_eq_true, Bool.and_eq_true,
    decide_eq_true_iff, UInt8.le_iff_toNat_le, UInt8.reduceToNat]
  omega

theorem mem_ends_digitRegex : pos' ∈ ends isWord digitRegex pos ↔ ∃ c, isDigit c ∧ Consumes pos [c] pos' := by
  rw [digitRegex, mem_ends_range]
  simp only [inRanges_iff]
  rfl

theorem isOctet_one {a : UInt8} (ha : isDigit a) : IsOctet [a] := by
  refine ⟨by simp, by simp, by simpa using ha, ?_⟩
  unfold isDigit at ha
  simp only [decimalValue, List.foldl_cons, List.foldl_nil]
  omega

theorem isOctet_two {a b : UInt8} (ha : isDigit a) (hb : isDigit b) : IsOctet [a, b] := by
  refine ⟨by simp, by simp, by simpa using ⟨ha, hb⟩, ?_⟩
  unfold isDigit at ha hb
  simp only [decimalValue, List.foldl_cons, List.foldl_nil]
  omega

theorem isOctet_three_iff {a b c : UInt8} (ha : isDigit a) (hb : isDigit b) (hc : isDigit c) :
    IsOctet [a, b, c] ↔ a.toNat ≤ 49 ∨ a = 50 ∧ (b.toNat ≤ 52 ∨ b = 53 ∧ c.toNat ≤ 53) := by
  have hvalue : IsOctet [a, b, c] ↔ decimalValue [a, b, c] ≤ 255 :=
    ⟨fun h => h.value_le, fun h => ⟨by simp, by simp, by simpa using ⟨ha, hb, hc⟩, h⟩⟩
  rw [hvalue, ← UInt8.toNat_inj, ← UInt8.toNat_inj]
  unfold isDigit at ha hb hc
  simp only [decimalValue, List.foldl_cons, List.foldl_nil, UInt8.reduceToNat]
  omega

/-- What a match of the octets consumes is one. -/
theorem octet_of_mem_ends (h : pos' ∈ ends isWord octetRegex pos) :
    ∃ part, IsOctet part ∧ Consumes pos part pos' := by
  simp only [octetRegex, mem_ends_alt, mem_ends_seq, mem_ends_char, mem_ends_range, mem_ends_opt,
    mem_ends_digitRegex, inRanges_iff, inRanges_zero_one_iff, UInt8.reduceToNat] at h
  rcases h with ⟨_, h₁, _, h₂, c, hc, h₃⟩ | ⟨_, h₁, _, ⟨b, hb, h₂⟩, c, hc, h₃⟩ |
    ⟨_, h₁, _, ⟨b, hb, h₂⟩, h₃⟩
  · have hdigit : isDigit c := ⟨hc.1, hc.2.trans (by decide)⟩
    exact ⟨[50, 53, c], (isOctet_three_iff (by decide) (by decide) hdigit).mpr (.inr ⟨rfl, .inr ⟨rfl, hc.2⟩⟩),
      h₁.append (h₂.append h₃)⟩
  · have hdigit : isDigit b := ⟨hb.1, hb.2.trans (by decide)⟩
    exact ⟨[50, b, c], (isOctet_three_iff (by decide) hdigit hc).mpr (.inr ⟨rfl, .inl hb.2⟩),
      h₁.append (h₂.append h₃)⟩
  · rcases h₁ with ⟨a, ha, h₁⟩ | rfl <;> rcases h₃ with ⟨c, hc, h₃⟩ | rfl
    · have hdigit : isDigit a := ⟨ha.1, ha.2.trans (by decide)⟩
      exact ⟨[a, b, c], (isOctet_three_iff hdigit hb hc).mpr (.inl ha.2), h₁.append (h₂.append h₃)⟩
    · have hdigit : isDigit a := ⟨ha.1, ha.2.trans (by decide)⟩
      exact ⟨[a, b], isOctet_two hdigit hb, h₁.append h₂⟩
    · exact ⟨[b, c], isOctet_two hb hc, h₂.append h₃⟩
    · exact ⟨[b], isOctet_one hb, h₂⟩

theorem mem_ends_of_octet {part : Str} (hpart : IsOctet part) (h : Consumes pos part pos') :
    pos' ∈ ends isWord octetRegex pos := by
  simp only [octetRegex, mem_ends_alt, mem_ends_seq, mem_ends_char, mem_ends_range, mem_ends_opt,
    mem_ends_digitRegex, inRanges_iff, inRanges_zero_one_iff, UInt8.reduceToNat]
  rcases part with _ | ⟨a, _ | ⟨b, _ | ⟨c, _ | ⟨d, part⟩⟩⟩⟩
  · exact absurd rfl hpart.nonempty
  · have ha := hpart.digits a (by simp)
    exact .inr (.inr ⟨pos, .inr rfl, pos', ⟨a, ha, h⟩, .inr rfl⟩)
  · have ha := hpart.digits a (by simp)
    have hb := hpart.digits b (by simp)
    obtain ⟨mid, h₁, h₂⟩ := consumes_cons.mp h
    exact .inr (.inr ⟨pos, .inr rfl, mid, ⟨a, ha, h₁⟩, .inl ⟨b, hb, h₂⟩⟩)
  · have ha := hpart.digits a (by simp)
    have hb := hpart.digits b (by simp)
    have hc := hpart.digits c (by simp)
    obtain ⟨mid, h₁, h⟩ := consumes_cons.mp h
    obtain ⟨mid', h₂, h₃⟩ := consumes_cons.mp h
    rcases (isOctet_three_iff ha hb hc).mp hpart with hle | ⟨rfl, hle | ⟨rfl, hle⟩⟩
    · exact .inr (.inr ⟨mid, .inl ⟨a, ⟨ha.1, hle⟩, h₁⟩, mid', ⟨b, hb, h₂⟩, .inl ⟨c, hc, h₃⟩⟩)
    · exact .inr (.inl ⟨mid, h₁, mid', ⟨b, ⟨hb.1, hle⟩, h₂⟩, c, hc, h₃⟩)
    · exact .inl ⟨mid, h₁, mid', h₂, c, ⟨hc.1, hle⟩, h₃⟩
  · have hlen := hpart.length_le
    simp only [List.length_cons] at hlen
    omega

/-- **A part of the address**: an octet, and then a dot, or the end of the input. -/
theorem mem_ends_partRegex : pos' ∈ ends isWord partRegex pos ↔ ∃ part, IsOctet part ∧
    (Consumes pos (part ++ str ".") pos' ∨ Consumes pos part pos' ∧ pos'.rest = []) := by
  simp only [partRegex, mem_ends_seq, mem_ends_group, mem_ends_alt, mem_ends_char, mem_ends_endOfInput]
  constructor
  · rintro ⟨mid, hmid, h | ⟨rfl, hrest⟩⟩
    · obtain ⟨part, hpart, hconsumes⟩ := octet_of_mem_ends hmid
      exact ⟨part, hpart, .inl (hconsumes.append h)⟩
    · obtain ⟨part, hpart, hconsumes⟩ := octet_of_mem_ends hmid
      exact ⟨part, hpart, .inr ⟨hconsumes, hrest⟩⟩
  · rintro ⟨part, hpart, h | ⟨h, hrest⟩⟩
    · obtain ⟨mid, hconsumes, hdot⟩ := consumes_append.mp h
      exact ⟨mid, mem_ends_of_octet hpart hconsumes, .inl hdot⟩
    · exact ⟨pos', mem_ends_of_octet hpart h, .inr ⟨rfl, hrest⟩⟩

/-! ### Octets with dots between them -/

/-- This many octets with dots between them. -/
def IsOctets (n : ℕ) (text : Str) : Prop :=
  ∃ parts : List Str, parts.length = n ∧ (∀ part ∈ parts, IsOctet part) ∧ text = (str ".").intercalate parts

theorem isOctets_one_iff {text : Str} : IsOctets (0 + 1) text ↔ IsOctet text := by
  constructor
  · rintro ⟨parts, hlength, hparts, rfl⟩
    obtain ⟨part, rfl⟩ := List.length_eq_one_iff.mp hlength
    rw [List.intercalate_singleton]
    exact hparts part (List.mem_singleton_self _)
  · intro h
    exact ⟨[text], rfl, by simpa using h, List.intercalate_singleton.symm⟩

theorem isOctets_succ_iff {n : ℕ} {text : Str} : IsOctets (n + 1 + 1) text ↔
    ∃ part rest, IsOctet part ∧ IsOctets (n + 1) rest ∧ text = part ++ str "." ++ rest := by
  constructor
  · rintro ⟨parts, hlength, hparts, rfl⟩
    obtain ⟨part, parts, rfl⟩ := List.exists_cons_of_length_eq_add_one hlength
    rw [List.length_cons, Nat.add_right_cancel_iff] at hlength
    obtain ⟨hpart, hparts⟩ := List.forall_mem_cons.mp hparts
    have hne : parts ≠ [] := List.ne_nil_of_length_eq_add_one hlength
    exact ⟨part, _, hpart, ⟨parts, hlength, hparts, rfl⟩, List.intercalate_cons_of_ne_nil hne⟩
  · rintro ⟨part, _, hpart, ⟨parts, hlength, hparts, rfl⟩, rfl⟩
    have hne : parts ≠ [] := List.ne_nil_of_length_eq_add_one hlength
    exact ⟨part :: parts, by rw [List.length_cons, hlength], List.forall_mem_cons.mpr ⟨hpart, hparts⟩,
      (List.intercalate_cons_of_ne_nil hne).symm⟩

/-- The first of the octets starts the text. -/
theorem IsOctets.exists_cons {n : ℕ} {text : Str} (h : IsOctets (n + 1) text) :
    ∃ c rest, text = c :: rest ∧ isDigit c := by
  obtain ⟨parts, hlength, hparts, rfl⟩ := h
  obtain ⟨part, parts, rfl⟩ := List.exists_cons_of_length_eq_add_one hlength
  have hpart := hparts part List.mem_cons_self
  obtain ⟨c, digits, rfl⟩ := List.exists_cons_of_ne_nil hpart.nonempty
  have hdigit := hpart.digits c List.mem_cons_self
  cases parts with
  | nil => exact ⟨c, digits, List.intercalate_singleton, hdigit⟩
  | cons next parts => exact ⟨c, _, List.intercalate_cons_of_ne_nil (List.cons_ne_nil _ _), hdigit⟩

theorem IsOctets.ne_nil {n : ℕ} {text : Str} (h : IsOctets (n + 1) text) : text ≠ [] := by
  obtain ⟨c, rest, rfl, -⟩ := h.exists_cons
  exact List.cons_ne_nil c rest

/-! ### The boundary at the end -/

theorem isWord_of_digit {c : UInt8} (h : isDigit c) : isWord c = true := by
  simp only [isDigit] at h
  simp [isWord, UInt8.le_iff_toNat_le, h]

theorem not_boundary_of_dot {part : Str} (h : Consumes pos (part ++ str ".") pos') (hrest : pos'.rest = []) :
    boundary isWord pos' = false := by
  have hlast : pos'.last = some 46 := by
    rw [h.2, List.getLast?_append]
    rfl
  rw [boundary, hlast, hrest]
  rfl

theorem boundary_of_octet {part : Str} (hpart : IsOctet part) (h : Consumes pos part pos') (hrest : pos'.rest = []) :
    boundary isWord pos' = true := by
  obtain ⟨c, hc⟩ := List.getLast?_isSome.mpr hpart.nonempty |> Option.isSome_iff_exists.mp
  have hlast : pos'.last = some c := by
    rw [h.2, hc, Option.some_or]
  have hword := isWord_of_digit (hpart.digits c (List.mem_of_getLast? hc))
  rw [boundary, hlast, hrest]
  simp [atWord, hword]

/-- **The parts of the address**: what ends at the end of the input and of a word is octets with dots
between them. -/
theorem times_partRegex_iff (n : ℕ) (pos : Position UInt8) :
    (∃ pos' ∈ ends isWord (.times (n + 1) (.group partRegex)) pos, pos'.rest = [] ∧ boundary isWord pos' = true) ↔
      IsOctets (n + 1) pos.rest := by
  induction n generalizing pos with
  | zero =>
    simp only [mem_ends_times_succ, mem_ends_times_zero, mem_ends_group, mem_ends_partRegex, isOctets_one_iff]
    constructor
    · rintro ⟨_, ⟨pos', ⟨part, hpart, h | ⟨h, -⟩⟩, rfl⟩, hrest, hboundary⟩
      · rw [not_boundary_of_dot h hrest] at hboundary
        cases hboundary
      · rwa [h.1, hrest, List.append_nil]
    · intro hpart
      have h : Consumes pos pos.rest ⟨pos.rest.getLast?.or pos.last, []⟩ := ⟨(List.append_nil _).symm, rfl⟩
      exact ⟨_, ⟨_, ⟨pos.rest, hpart, .inr ⟨h, rfl⟩⟩, rfl⟩, rfl, boundary_of_octet hpart h rfl⟩
  | succ n ih =>
    have hsplit : (∃ pos' ∈ ends isWord (.times (n + 1 + 1) (.group partRegex)) pos,
        pos'.rest = [] ∧ boundary isWord pos' = true) ↔
          ∃ mid ∈ ends isWord partRegex pos, IsOctets (n + 1) mid.rest := by
      simp only [← ih, mem_ends_times_succ (n := n + 1), mem_ends_group]
      exact ⟨fun ⟨pos', ⟨mid, hmid, hpos'⟩, h⟩ => ⟨mid, hmid, pos', hpos', h⟩,
        fun ⟨mid, hmid, pos', hpos', h⟩ => ⟨pos', ⟨mid, hmid, hpos'⟩, h⟩⟩
    rw [hsplit, isOctets_succ_iff]
    constructor
    · rintro ⟨mid, hmid, hmore⟩
      obtain ⟨part, hpart, h | ⟨-, hrest⟩⟩ := mem_ends_partRegex.mp hmid
      · exact ⟨part, mid.rest, hpart, hmore, h.1⟩
      · -- after the end of the input there is no octet
        exact absurd hrest hmore.ne_nil
    · rintro ⟨part, rest, hpart, hmore, htext⟩
      exact ⟨⟨(part ++ str ".").getLast?.or pos.last, rest⟩,
        mem_ends_partRegex.mpr ⟨part, hpart, .inl ⟨htext, rfl⟩⟩, hmore⟩

end

theorem boundary_start {address : Str} (h : IsIpv4Address address) : boundary isWord ⟨none, address⟩ = true := by
  have hoctets : IsOctets (3 + 1) address := h
  obtain ⟨c, rest, rfl, hdigit⟩ := hoctets.exists_cons
  simp [boundary, atWord, isWord_of_digit hdigit]

/-- **What the regex matches**: four octets with dots between them. -/
theorem fullMatch_ipv4Regex_iff (address : Str) :
    fullMatch isWord ipv4Regex address = true ↔ IsIpv4Address address := by
  have htimes := times_partRegex_iff 3 ⟨none, address⟩
  rw [fullMatch_iff]
  simp only [ipv4Regex, mem_ends_seq, mem_ends_wordBoundary]
  constructor
  · rintro ⟨pos', ⟨_, ⟨rfl, -⟩, mid, hmid, hpos', hboundary⟩, hrest⟩
    exact htimes.mp ⟨mid, hmid, hpos' ▸ hrest, hboundary⟩
  · intro h
    obtain ⟨pos', hmid, hrest, hboundary⟩ := htimes.mpr h
    exact ⟨pos', ⟨_, ⟨rfl, boundary_start h⟩, pos', hmid, rfl, hboundary⟩, hrest⟩

/-- The kind of server is chosen by the address. -/
structure ServerByAddress (effects : List ServerEffect) (serverAddress : Str) (port : UInt16)
    (certFilePath keyFilePath : Str) : Prop where
  /-- A server for tcp is opened for an IPv4 address. -/
  tcp : .call (.addTlsTcpServer port certFilePath keyFilePath) ∈ effects ↔ IsIpv4Address serverAddress
  /-- A server on a unix-domain socket is opened for any other. -/
  unixDomain : .call (.addUnixDomainServer serverAddress) ∈ effects ↔ ¬ IsIpv4Address serverAddress
  /-- No other is opened. -/
  only : ∀ call, .call call ∈ effects → call = .addTlsTcpServer port certFilePath keyFilePath ∨
    call = .addUnixDomainServer serverAddress

/-- **The kind of the server** is decided by whether the address is four octets with dots between them. -/
theorem serverByAddress_addServer (controller : ServerCall → ServerOutcome) (serverAddress : Str)
    (error : ErrorContainer) (port : UInt16) (certFilePath keyFilePath : Str) :
    ServerByAddress (addServer controller serverAddress error port certFilePath keyFilePath).effects serverAddress
      port certFilePath keyFilePath := by
  unfold addServer
  by_cases h : IsIpv4Address serverAddress
  · rw [if_pos ((fullMatch_ipv4Regex_iff serverAddress).mpr h)]
    by_cases hid : (controller (.addTlsTcpServer port certFilePath keyFilePath)).id = 0 <;>
      constructor <;> simp [hid, h]
  · rw [if_neg fun hm => h ((fullMatch_ipv4Regex_iff serverAddress).mp hm)]
    by_cases hid : (controller (.addUnixDomainServer serverAddress)).id = 0 <;> constructor <;> simp [hid, h]

end HanamiNetwork
