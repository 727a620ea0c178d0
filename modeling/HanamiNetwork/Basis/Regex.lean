import Mathlib.Data.List.Basic

/-!
# Regular expressions that backtrack

Regular expressions with repetitions that are counted, the end of the input and word
boundaries, over any alphabet. A match starts at a position, which knows the letter before it
and the letters after it, and ends at one; an expression can match in several ways, and
`ends` lists where they end, in the order in which a backtracking matcher tries them.

A whole text is matched if one of these ways ends at its end (`fullMatch_iff`). What each
operator matches is said by one lemma (`mem_ends_char` and so on), so that a proof about an
expression is one about the words its parts consume (`Consumes`).
-/

namespace HanamiNetwork.Basis

universe u

/-- A regular expression. -/
inductive Regex (α : Type u) where
  /-- One letter: `c`. -/
  | char (c : α)
  /-- A letter of one of these ranges: `[a-b]`. -/
  | range (ranges : List (α × α))
  /-- One expression, then another: `rs`. -/
  | seq (r s : Regex α)
  /-- One expression or another: `r|s`. -/
  | alt (r s : Regex α)
  /-- An expression that may be left out: `r?`. -/
  | opt (r : Regex α)
  /-- An expression this many times: `r{n}`. -/
  | times (n : ℕ) (r : Regex α)
  /-- An expression in parentheses: `(r)`. -/
  | group (r : Regex α)
  /-- The end of the input: `$`. -/
  | endOfInput
  /-- The boundary of a word: `\b`. -/
  | wordBoundary

/-- A position in a text. -/
@[ext]
structure Position (α : Type u) where
  /-- The letter before it, if it is not at the start. -/
  last : Option α
  /-- The letters after it. -/
  rest : List α

namespace Regex

variable {α : Type u} [DecidableEq α] [LE α] [DecidableLE α] (isWord : α → Bool)

/-- There is a letter of a word. -/
def atWord (c : Option α) : Bool := c.any isWord

/-- Whether a position is at the boundary of a word. -/
def boundary (pos : Position α) : Bool := atWord isWord pos.last != atWord isWord pos.rest.head?

/-- A letter is in one of the ranges. -/
def inRanges (ranges : List (α × α)) (c : α) : Bool := ranges.any fun range => range.1 ≤ c && c ≤ range.2

/-- Go on after a letter that passes a test. -/
def step (test : α → Bool) (pos : Position α) : List (Position α) :=
  match pos.rest with
  | [] => []
  | c :: rest => if test c then [⟨some c, rest⟩] else []

/-- Go on this many times. -/
def repeated (f : Position α → List (Position α)) : ℕ → Position α → List (Position α)
  | 0, pos => [pos]
  | n + 1, pos => (f pos).flatMap (repeated f n)

/-- Where the ways to match from a position end. -/
def ends : Regex α → Position α → List (Position α)
  | char c, pos => step (· = c) pos
  | range ranges, pos => step (inRanges ranges) pos
  | seq r s, pos => (ends r pos).flatMap (ends s)
  | alt r s, pos => ends r pos ++ ends s pos
  | opt r, pos => ends r pos ++ [pos]
  | times n r, pos => repeated (ends r) n pos
  | group r, pos => ends r pos
  | endOfInput, pos => if pos.rest.isEmpty then [pos] else []
  | wordBoundary, pos => if boundary isWord pos then [pos] else []

/-- `regex_match`: the expression matches the whole text. -/
def fullMatch (r : Regex α) (text : List α) : Bool := (ends isWord r ⟨none, text⟩).any fun pos => pos.rest.isEmpty

/-! ### Consuming letters -/

/-- A position is reached from another by consuming a word. -/
def Consumes (pos : Position α) (word : List α) (pos' : Position α) : Prop :=
  pos.rest = word ++ pos'.rest ∧ pos'.last = word.getLast?.or pos.last

omit [DecidableEq α] [LE α] [DecidableLE α]

variable {pos mid pos' : Position α} {word word' : List α}

@[simp] theorem consumes_nil : Consumes pos [] pos' ↔ pos' = pos := by
  rw [Consumes, List.nil_append, List.getLast?_nil, Option.none_or, Position.ext_iff]
  exact ⟨fun h => ⟨h.2, h.1.symm⟩, fun h => ⟨h.2.symm, h.1⟩⟩

theorem Consumes.append (h : Consumes pos word mid) (h' : Consumes mid word' pos') :
    Consumes pos (word ++ word') pos' := by
  refine ⟨?_, ?_⟩
  · rw [h.1, h'.1, List.append_assoc]
  · rw [h'.2, h.2, List.getLast?_append, Option.or_assoc]

theorem consumes_append :
    Consumes pos (word ++ word') pos' ↔ ∃ mid, Consumes pos word mid ∧ Consumes mid word' pos' := by
  refine ⟨fun h => ⟨⟨word.getLast?.or pos.last, word' ++ pos'.rest⟩, ⟨?_, rfl⟩, rfl, ?_⟩,
    fun ⟨_, h, h'⟩ => h.append h'⟩
  · rw [h.1, List.append_assoc]
  · rw [h.2, List.getLast?_append, Option.or_assoc]

theorem consumes_cons {c : α} :
    Consumes pos (c :: word) pos' ↔ ∃ mid, Consumes pos [c] mid ∧ Consumes mid word pos' := by
  rw [← List.singleton_append, consumes_append]

theorem mem_step {test : α → Bool} : pos' ∈ step test pos ↔ ∃ c, test c = true ∧ Consumes pos [c] pos' := by
  obtain ⟨last, rest⟩ := pos
  obtain ⟨last', rest'⟩ := pos'
  cases rest with
  | nil => simp [step, Consumes]
  | cons c rest =>
    simp only [step, Consumes, List.cons_append, List.nil_append, List.cons.injEq, List.getLast?_singleton,
      Option.some_or]
    split_ifs with hc
    · rw [List.mem_singleton, Position.mk.injEq]
      constructor
      · rintro ⟨rfl, rfl⟩
        exact ⟨c, hc, ⟨rfl, rfl⟩, rfl⟩
      · rintro ⟨c', -, ⟨rfl, rfl⟩, rfl⟩
        exact ⟨rfl, rfl⟩
    · refine iff_of_false List.not_mem_nil ?_
      rintro ⟨c', hc', ⟨rfl, -⟩, -⟩
      exact hc hc'

/-! ### What the operators match -/

variable [DecidableEq α] [LE α] [DecidableLE α] {isWord : α → Bool} {r s : Regex α}

theorem mem_ends_char {c : α} : pos' ∈ ends isWord (char c) pos ↔ Consumes pos [c] pos' := by
  rw [ends, mem_step]
  simp

theorem mem_ends_range {ranges : List (α × α)} : pos' ∈ ends isWord (range ranges) pos ↔
    ∃ c, inRanges ranges c = true ∧ Consumes pos [c] pos' := mem_step

theorem mem_ends_seq :
    pos' ∈ ends isWord (seq r s) pos ↔ ∃ mid ∈ ends isWord r pos, pos' ∈ ends isWord s mid := List.mem_flatMap

theorem mem_ends_alt :
    pos' ∈ ends isWord (alt r s) pos ↔ pos' ∈ ends isWord r pos ∨ pos' ∈ ends isWord s pos := List.mem_append

theorem mem_ends_opt : pos' ∈ ends isWord (opt r) pos ↔ pos' ∈ ends isWord r pos ∨ pos' = pos := by
  rw [ends, List.mem_append, List.mem_singleton]

theorem mem_ends_times_zero : pos' ∈ ends isWord (times 0 r) pos ↔ pos' = pos := List.mem_singleton

theorem mem_ends_times_succ {n : ℕ} : pos' ∈ ends isWord (times (n + 1) r) pos ↔
    ∃ mid ∈ ends isWord r pos, pos' ∈ ends isWord (times n r) mid := List.mem_flatMap

theorem mem_ends_group : pos' ∈ ends isWord (group r) pos ↔ pos' ∈ ends isWord r pos := Iff.rfl

theorem mem_ends_endOfInput : pos' ∈ ends isWord endOfInput pos ↔ pos' = pos ∧ pos.rest = [] := by
  rw [ends]
  split_ifs with h <;> rw [List.isEmpty_iff] at h <;> simp [h]

theorem mem_ends_wordBoundary : pos' ∈ ends isWord wordBoundary pos ↔ pos' = pos ∧ boundary isWord pos = true := by
  rw [ends]
  split_ifs with h <;> simp [h]

/-- **A whole text is matched** if a match of the expression can end at its end. -/
theorem fullMatch_iff {text : List α} :
    fullMatch isWord r text = true ↔ ∃ pos' ∈ ends isWord r ⟨none, text⟩, pos'.rest = [] := by
  rw [fullMatch, List.any_eq_true]
  simp only [List.isEmpty_iff]

end Regex

end HanamiNetwork.Basis
