import Mathlib.Data.List.Basic

/-!
# JSON texts

The grammar of JSON as a parser of UTF-8 texts: whitespace, the three literals, numbers, strings
with their escapes, arrays and objects. It is strict: nothing follows the value of a text, no
comma trails, a string holds no bare control character, and an escaped surrogate stands in
a pair. The members of an object are kept as a list, in the order they are written in.

Whatever is read is followed by a `Rest`, a text shorter than the one it was read from, so
that the recursion through arrays and objects ends. Of the parser, the proofs use what a string
scans to: a text without escapes (`scanString_plain`), or a shorter one (`scanString_cases`).
-/

namespace HanamiNetwork.Basis

/-- A JSON value; a number is kept as it is written. -/
inductive Json where
  /-- `null`. -/
  | null
  /-- `true` or `false`. -/
  | bool (b : Bool)
  /-- A number. -/
  | number (text : List Char)
  /-- A string. -/
  | string (s : List Char)
  /-- An array. -/
  | array (elements : List Json)
  /-- An object. -/
  | object (members : List (List Char × Json))

/-- What is left of a text behind a part of it that is not empty. -/
abbrev Rest (s : List Char) : Type := { r : List Char // r.length < s.length }

namespace Rest

variable {s : List Char}

/-- What is left is left behind one more character. -/
def cons (c : Char) (r : Rest s) : Rest (c :: s) := ⟨r.1, Nat.lt_succ_of_lt r.2⟩

/-- What is left of what is left. -/
def trans (r : Rest s) (r' : Rest r.1) : Rest s := ⟨r'.1, Nat.lt_trans r'.2 r.2⟩

end Rest

namespace Json

/-! ### Whitespace -/

/-- A whitespace character. -/
def isSpace (c : Char) : Bool := c = ' ' || c = '\t' || c = '\n' || c = '\r'

/-- A text without the whitespace it starts with. -/
def skipSpace (s : List Char) : List Char := s.dropWhile isSpace

theorem length_skipSpace (s : List Char) : (skipSpace s).length ≤ s.length := by
  exact (List.dropWhile_sublist _).length_le

/-- What follows a character, if this is what comes next. -/
def expect (c : Char) (s : List Char) : Option (Rest s) :=
  match h : skipSpace s with
  | [] => none
  | d :: r =>
    if d = c then
      some ⟨r, by
        have hle := length_skipSpace s
        rw [h, List.length_cons] at hle
        omega⟩
    else none

/-! ### Strings -/

/-- The value of a hexadecimal digit. -/
def hexDigit (c : Char) : Option ℕ :=
  if '0' ≤ c ∧ c ≤ '9' then some (c.toNat - 48)
  else if 'a' ≤ c ∧ c ≤ 'f' then some (c.toNat - 87)
  else if 'A' ≤ c ∧ c ≤ 'F' then some (c.toNat - 55)
  else none

/-- Four hexadecimal digits. -/
def hex4 (s : List Char) : Option (ℕ × Rest s) :=
  match s with
  | a :: b :: c :: d :: r => do
    let a ← hexDigit a
    let b ← hexDigit b
    let c ← hexDigit c
    let d ← hexDigit d
    some (((a * 16 + b) * 16 + c) * 16 + d, ⟨r, by simp only [List.length_cons]; omega⟩)
  | _ => none

/-- The character a `\u` escape stands for, from the digits on. -/
def unicodeEscape (s : List Char) : Option (Char × Rest s) := do
  let (high, r) ← hex4 s
  if 0xD800 ≤ high ∧ high < 0xDC00 then
    -- the first half of a pair
    match h : r.1 with
    | '\\' :: 'u' :: r' => do
      let (low, r'') ← hex4 r'
      if 0xDC00 ≤ low ∧ low < 0xE000 then
        some (Char.ofNat (0x10000 + (high - 0xD800) * 0x400 + (low - 0xDC00)),
          r.trans ⟨r''.1, by rw [h, List.length_cons, List.length_cons]; exact Nat.lt_trans r''.2 (by omega)⟩)
      else none
    | _ => none
  else if 0xDC00 ≤ high ∧ high < 0xE000 then none
  else some (Char.ofNat high, r)

/-- The character an escape of one letter stands for. -/
def letterEscape : Char → Option Char
  | '"' => some '"'
  | '\\' => some '\\'
  | '/' => some '/'
  | 'b' => some '\x08'
  | 'f' => some '\x0c'
  | 'n' => some '\n'
  | 'r' => some '\r'
  | 't' => some '\t'
  | _ => none

/-- The character an escape stands for, from behind the backslash on. -/
def escape (s : List Char) : Option (Char × Rest s) :=
  match s with
  | [] => none
  | c :: r =>
    if c = 'u' then (unicodeEscape r).map fun p => (p.1, p.2.cons c)
    else (letterEscape c).map fun d => (d, ⟨r, Nat.lt_succ_self _⟩)

/-- A string, from behind the quote it starts with on. -/
def scanString (s : List Char) : Option (List Char × Rest s) :=
  match s with
  | [] => none
  | c :: s =>
    if c = '"' then some ([], ⟨s, Nat.lt_succ_self _⟩)
    else if c = '\\' then do
      let (d, r) ← escape s
      let (v, r') ← scanString r.1
      some (d :: v, (r.trans r').cons c)
    else if c < ' ' then none
    else do
      let (v, r) ← scanString s
      some (c :: v, r.cons c)
termination_by s.length
decreasing_by
  · exact Nat.lt_succ_of_lt r.2
  · exact Nat.lt_succ_self _

/-! ### Numbers and literals -/

/-- An exponent, or nothing. -/
def isExponent : List Char → Bool
  | [] => true
  | e :: s =>
    let digits := match s with
      | '+' :: r | '-' :: r => r
      | _ => s
    (e = 'e' || e = 'E') && !digits.isEmpty && digits.all Char.isDigit

/-- A fraction and an exponent, or one of them, or nothing. -/
def isFraction : List Char → Bool
  | '.' :: c :: s => c.isDigit && isExponent (s.dropWhile Char.isDigit)
  | s => isExponent s

/-- A number. -/
def isNumber (s : List Char) : Bool :=
  match (match s with | '-' :: r => r | _ => s) with
  | [] => false
  | '0' :: r => isFraction r
  | c :: r => c.isDigit && isFraction (r.dropWhile Char.isDigit)

/-- A character of a number or a literal. -/
def isWordChar (c : Char) : Bool := c.isAlphanum || c = '-' || c = '+' || c = '.'

/-- The value a word stands for. -/
def ofWord (word : List Char) : Option Json :=
  if word = "null".toList then some .null
  else if word = "true".toList then some (.bool true)
  else if word = "false".toList then some (.bool false)
  else if isNumber word = true then some (.number word)
  else none

/-- A number or a literal. -/
def scalar (s : List Char) : Option (Json × Rest s) :=
  match h : skipSpace s with
  | [] => none
  | c :: r =>
    if isWordChar c = true then
      (ofWord (c :: r.takeWhile isWordChar)).map fun v => (v, ⟨r.dropWhile isWordChar, by
        have hle := length_skipSpace s
        have hle' := (List.dropWhile_sublist isWordChar (l := r)).length_le
        rw [h, List.length_cons] at hle
        omega⟩)
    else none

/-! ### Values -/

mutual

/-- A value. -/
def value (s : List Char) : Option (Json × Rest s) :=
  match expect '"' s with
  | some r => (scanString r.1).map fun p => (.string p.1, r.trans p.2)
  | none =>
    match expect '{' s with
    | some r =>
      match expect '}' r.1 with
      | some r' => some (.object [], r.trans r')
      | none => (members r.1).map fun p => (.object p.1, r.trans p.2)
    | none =>
      match expect '[' s with
      | some r =>
        match expect ']' r.1 with
        | some r' => some (.array [], r.trans r')
        | none => (elements r.1).map fun p => (.array p.1, r.trans p.2)
      | none => scalar s
termination_by (s.length, 0)
decreasing_by
  · exact Prod.Lex.left _ _ r.2
  · exact Prod.Lex.left _ _ r.2

/-- A member of an object. -/
def member (s : List Char) : Option ((List Char × Json) × Rest s) := do
  let quote ← expect '"' s
  let (key, r) ← scanString quote.1
  let colon ← expect ':' r.1
  let (v, r') ← value colon.1
  some ((key, v), quote.trans (r.trans (colon.trans r')))
termination_by (s.length, 1)
decreasing_by
  exact Prod.Lex.left _ _ (quote.trans (r.trans colon)).2

/-- The members of an object, with the brace behind them. -/
def members (s : List Char) : Option (List (List Char × Json) × Rest s) := do
  let (m, r) ← member s
  match expect '\x7d' r.1 with
  | some brace => some ([m], r.trans brace)
  | none => do
    let comma ← expect ',' r.1
    let (ms, r') ← members comma.1
    some (m :: ms, r.trans (comma.trans r'))
termination_by (s.length, 2)
decreasing_by
  · exact Prod.Lex.right _ Nat.one_lt_two
  · exact Prod.Lex.left _ _ (r.trans comma).2

/-- The elements of an array, with the bracket behind them. -/
def elements (s : List Char) : Option (List Json × Rest s) := do
  let (v, r) ← value s
  match expect ']' r.1 with
  | some bracket => some ([v], r.trans bracket)
  | none => do
    let comma ← expect ',' r.1
    let (vs, r') ← elements comma.1
    some (v :: vs, r.trans (comma.trans r'))
termination_by (s.length, 1)
decreasing_by
  · exact Prod.Lex.right _ Nat.zero_lt_one
  · exact Prod.Lex.left _ _ (r.trans comma).2

end

/-- The value of a text. -/
def parseText (text : List Char) : Option Json :=
  (value text).bind fun p => if skipSpace p.2.1 = [] then some p.1 else none

/-! ### Bytes -/

/-- The bytes of a text, in UTF-8. -/
def utf8 (text : List Char) : List UInt8 := text.flatMap String.utf8EncodeChar

/-- The value of a text of bytes. -/
def parse (bytes : List UInt8) : Option Json :=
  bytes.toByteArray.utf8Decode?.bind fun text => parseText text.toList

theorem utf8_append (s t : List Char) : utf8 (s ++ t) = utf8 s ++ utf8 t := List.flatMap_append

theorem utf8Decode?_utf8 (text : List Char) : (utf8 text).toByteArray.utf8Decode? = some text.toArray :=
  List.utf8Decode?_utf8Encode

/-- Different texts have different bytes. -/
theorem utf8_injective : Function.Injective utf8 := by
  intro s t h
  have hdecode := (utf8Decode?_utf8 s).symm.trans (h ▸ utf8Decode?_utf8 t)
  simpa using hdecode

theorem parse_utf8 (text : List Char) : parse (utf8 text) = parseText text := by
  rw [parse, utf8Decode?_utf8, Option.bind_some, List.toList_toArray]

/-! ### What a string scans to -/

/-- A character that stands for itself in a string. -/
def IsPlain (c : Char) : Prop := c ≠ '"' ∧ c ≠ '\\' ∧ ' ' ≤ c

theorem expect_cons {c : Char} (hc : isSpace c = false) (s : List Char) :
    expect c (c :: s) = some ⟨s, Nat.lt_succ_self _⟩ := by
  have h : skipSpace (c :: s) = c :: s := by simp [skipSpace, hc]
  rw [expect]
  split
  · simp_all
  · simp_all

theorem expect_cons_ne {c d : Char} (hd : isSpace d = false) (hne : d ≠ c) (s : List Char) :
    expect c (d :: s) = none := by
  have h : skipSpace (d :: s) = d :: s := by simp [skipSpace, hd]
  rw [expect]
  split <;> simp_all

theorem expect_nil (c : Char) {s : List Char} (h : s = []) : expect c s = none := by
  subst h
  rfl

theorem scanString_plain {v : List Char} (hv : ∀ c ∈ v, IsPlain c) (r : List Char) :
    ∃ h, scanString (v ++ '"' :: r) = some (v, ⟨r, h⟩) := by
  induction v with
  | nil =>
    refine ⟨Nat.lt_succ_self _, ?_⟩
    show scanString ('"' :: r) = _
    rw [scanString, if_pos rfl]
  | cons c v ih =>
    obtain ⟨⟨hquote, hback, hspace⟩, hv⟩ := List.forall_mem_cons.mp hv
    obtain ⟨h, hscan⟩ := ih hv
    refine ⟨Nat.lt_succ_of_lt h, ?_⟩
    show scanString (c :: (v ++ '"' :: r)) = _
    rw [scanString, if_neg hquote, if_neg hback, if_neg (Char.not_lt.mpr hspace), hscan]
    rfl

/-- What is scanned is a text without escapes, or shorter than it is written. -/
theorem scanString_cases {s v : List Char} {r : Rest s} (h : scanString s = some (v, r)) :
    (s = v ++ '"' :: r.1 ∧ ∀ c ∈ v, IsPlain c) ∨ v.length + r.1.length + 1 < s.length := by
  obtain ⟨n, hn⟩ : ∃ n, s.length = n := ⟨_, rfl⟩
  induction n using Nat.strongRecOn generalizing s v r with
  | ind n ih =>
    subst hn
    cases s with
    | nil => simp [scanString] at h
    | cons c s =>
      rw [scanString] at h
      split_ifs at h with hquote hback hspace
      · -- the quote
        cases h
        exact .inl ⟨by simp [hquote], by simp⟩
      · -- an escape
        obtain ⟨⟨d, mid⟩, -, h⟩ := Option.bind_eq_some_iff.mp h
        obtain ⟨⟨v', r'⟩, hscan, h⟩ := Option.bind_eq_some_iff.mp h
        cases h
        have hmid := mid.2
        rcases ih mid.1.length (Nat.lt_succ_of_lt mid.2) hscan rfl with ⟨hs, -⟩ | hlt
        · have hlen := congrArg List.length hs
          simp only [List.length_append, List.length_cons] at hlen
          right
          simp only [Rest.trans, Rest.cons, List.length_cons]
          omega
        · right
          simp only [Rest.trans, Rest.cons, List.length_cons]
          omega
      · -- a character that stands for itself
        obtain ⟨⟨v', r'⟩, hscan, h⟩ := Option.bind_eq_some_iff.mp h
        cases h
        rcases ih s.length (Nat.lt_succ_self _) hscan rfl with ⟨hs, hv⟩ | hlt
        · exact .inl ⟨congrArg (c :: ·) hs, List.forall_mem_cons.mpr ⟨⟨hquote, hback, Char.not_lt.mp hspace⟩, hv⟩⟩
        · right
          simp only [Rest.cons, List.length_cons]
          omega

/-! ### Objects with one member -/

theorem value_string (t : List Char) :
    value ('"' :: t) = (scanString t).map fun p => (.string p.1, p.2.cons '"') := by
  rw [value, expect_cons rfl]
  rfl

theorem value_object (s : List Char) :
    value ('\x7b' :: '"' :: s) = (members ('"' :: s)).map fun p => (.object p.1, p.2.cons '\x7b') := by
  rw [value, expect_cons_ne rfl (by decide), expect_cons rfl]
  dsimp only
  rw [expect_cons_ne rfl (by decide)]
  rfl

/-- A member whose key is written without escapes, and whose value is a string. -/
theorem member_string {key : List Char} (hkey : ∀ c ∈ key, IsPlain c) (t : List Char) :
    ∃ later : Rest t → Rest ('"' :: (key ++ '"' :: ':' :: '"' :: t)), (∀ r, (later r).1 = r.1) ∧
      member ('"' :: (key ++ '"' :: ':' :: '"' :: t)) =
        (scanString t).map fun p => ((key, .string p.1), later p.2) := by
  obtain ⟨hlt, hscan⟩ := scanString_plain hkey (':' :: '"' :: t)
  refine ⟨fun r => ⟨r.1, ?_⟩, fun _ => rfl, ?_⟩
  · have := r.2
    simp
    omega
  rw [member, expect_cons rfl, Option.bind_eq_bind, Option.bind_some, hscan, Option.bind_eq_bind, Option.bind_some]
  dsimp only
  rw [expect_cons rfl, Option.bind_eq_bind, Option.bind_some, value_string]
  cases scanString t <;> rfl

/-- The first of the members is a member, and something follows it. -/
theorem first_of_members {s : List Char} {m : List Char × Json} {ms : List (List Char × Json)} {r : Rest s}
    (h : members s = some (m :: ms, r)) : ∃ r', member s = some (m, r') ∧ r'.1 ≠ [] := by
  rw [members] at h
  obtain ⟨⟨m', r'⟩, hm, h⟩ := Option.bind_eq_some_iff.mp h
  have hr : r'.1 ≠ [] := by
    intro hr
    simp [expect_nil _ hr] at h
  refine ⟨r', ?_, hr⟩
  rw [hm]
  dsimp only at h
  split at h
  · cases h
    rfl
  · obtain ⟨comma, -, h⟩ := Option.bind_eq_some_iff.mp h
    obtain ⟨⟨ms', r''⟩, -, h⟩ := Option.bind_eq_some_iff.mp h
    cases h
    rfl

/-- **Concatenation without escaping**: between quotes, a text is the string value it is meant to be
exactly if it has no character that does not stand for itself. -/
theorem parseText_member_iff {key : List Char} (hkey : ∀ c ∈ key, IsPlain c) (v : List Char) :
    parseText ('\x7b' :: '"' :: (key ++ '"' :: ':' :: '"' :: (v ++ ['"', '\x7d']))) =
      some (.object [(key, .string v)]) ↔ ∀ c ∈ v, IsPlain c := by
  obtain ⟨later, hlater, hmember⟩ := member_string hkey (v ++ ['"', '\x7d'])
  constructor
  · intro h
    rw [parseText, value_object] at h
    obtain ⟨⟨j, r⟩, hj, h⟩ := Option.bind_eq_some_iff.mp h
    obtain ⟨⟨ms, r'⟩, hms, hobject⟩ := Option.map_eq_some_iff.mp hj
    split_ifs at h with hend
    cases hobject
    cases h
    -- what follows the string is not empty, so that no character is left for an escape
    obtain ⟨r₁, hm, hne⟩ := first_of_members hms
    rw [hmember] at hm
    obtain ⟨⟨v', r₂⟩, hscan, heq⟩ := Option.map_eq_some_iff.mp hm
    simp only [Prod.mk.injEq, Json.string.injEq, true_and] at heq
    obtain ⟨rfl, rfl⟩ := heq
    rw [hlater] at hne
    rcases scanString_cases hscan with ⟨-, hv⟩ | hlt
    · exact hv
    · have hpos := List.length_pos_of_ne_nil hne
      simp only [List.length_append, List.length_cons, List.length_nil] at hlt
      omega
  · intro hv
    obtain ⟨hlt, hscan⟩ := scanString_plain hv ['\x7d']
    rw [hscan, Option.map_some] at hmember
    have hbrace : ∀ s : List Char, s = ['\x7d'] → ∃ r : Rest s, expect '\x7d' s = some r ∧ r.1 = [] := by
      rintro _ rfl
      exact ⟨_, expect_cons rfl [], rfl⟩
    obtain ⟨r, hr, hnil⟩ := hbrace _ (hlater ⟨['\x7d'], hlt⟩)
    rw [parseText, value_object, members, hmember, Option.bind_eq_bind, Option.bind_some]
    dsimp only
    rw [hr]
    have hend : skipSpace r.1 = [] := by
      rw [hnil]
      rfl
    exact if_pos hend

end Json

end HanamiNetwork.Basis
