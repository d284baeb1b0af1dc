/-!
# Blanks, lines and words

Text is cut the way a reader of indented lines needs it: into lines, into the
parts before and after a separator, and into words, the longest runs without a
blank. A blank is a character with the Unicode property White_Space.
-/
namespace SpriteGame.Text

/-! ## Blanks -/

/-- The characters with the property White_Space. -/
def isBlank (c : Char) : Bool :=
  let n := c.toNat
  (9 ≤ n && n ≤ 13) || n == 0x20 || n == 0x85 || n == 0xA0 || n == 0x1680
    || (0x2000 ≤ n && n ≤ 0x200A) || n == 0x2028 || n == 0x2029 || n == 0x202F
    || n == 0x205F || n == 0x3000

theorem isBlank_of_isWhitespace {c : Char} (h : c.isWhitespace = true) : isBlank c = true := by
  simp only [Char.isWhitespace, Bool.or_eq_true, decide_eq_true_eq] at h
  rcases h with ((rfl | rfl) | rfl) | rfl <;> decide

def trimEnd (s : List Char) : List Char :=
  (s.reverse.dropWhile isBlank).reverse

def trim (s : List Char) : List Char :=
  trimEnd (s.dropWhile isBlank)

/-! ## Separators -/

/-- The parts before and after the first `sep`. -/
def splitFirst (sep : Char) : List Char → Option (List Char × List Char)
  | [] => none
  | c :: s =>
    if c = sep then some ([], s)
    else (splitFirst sep s).map fun p => (c :: p.1, p.2)

/-- The parts between the occurrences of `sep`; one more than there are occurrences. -/
def splitAll (sep : Char) : List Char → List (List Char)
  | [] => [[]]
  | c :: s =>
    if c = sep then [] :: splitAll sep s
    else
      match splitAll sep s with
      | [] => [[c]]
      | part :: parts => (c :: part) :: parts

/-- The parts with `sep` between them. -/
def joinWith (sep : Char) : List (List Char) → List Char
  | [] => []
  | [part] => part
  | part :: parts => part ++ sep :: joinWith sep parts

theorem splitFirst_eq_some {sep : Char} {s a b : List Char} :
    splitFirst sep s = some (a, b) ↔ s = a ++ sep :: b ∧ sep ∉ a := by
  induction s generalizing a with
  | nil => simp [splitFirst]
  | cons c s ih =>
    by_cases h : c = sep
    · subst h
      cases a with
      | nil => simp [splitFirst, eq_comm]
      | cons x a => simp [splitFirst]; intro h _ hn; exact absurd h hn
    · cases a with
      | nil => simp [splitFirst, h]
      | cons x a =>
        simp only [splitFirst, if_neg h, Option.map_eq_some_iff, Prod.mk.injEq, List.cons.injEq,
          List.cons_append, List.mem_cons, not_or]
        constructor
        · rintro ⟨⟨a', b'⟩, hab, ⟨rfl, rfl⟩, rfl⟩
          obtain ⟨rfl, hn⟩ := ih.1 hab
          exact ⟨⟨rfl, rfl⟩, Ne.symm h, hn⟩
        · rintro ⟨⟨rfl, rfl⟩, -, hn⟩
          exact ⟨(a, b), ih.2 ⟨rfl, hn⟩, ⟨rfl, rfl⟩, rfl⟩

theorem splitFirst_eq_none {sep : Char} {s : List Char} : splitFirst sep s = none ↔ sep ∉ s := by
  induction s with
  | nil => simp [splitFirst]
  | cons c s ih =>
    by_cases h : c = sep
    · simp [splitFirst, h]
    · simp [splitFirst, h, ih, Ne.symm h]

theorem splitAll_ne_nil (sep : Char) (s : List Char) : splitAll sep s ≠ [] := by
  cases s with
  | nil => simp [splitAll]
  | cons c s =>
    simp only [splitAll]
    split
    · simp
    · split <;> simp

/-- Joining the parts gives the text back. -/
theorem joinWith_splitAll (sep : Char) (s : List Char) : joinWith sep (splitAll sep s) = s := by
  induction s with
  | nil => rfl
  | cons c s ih =>
    simp only [splitAll]
    split
    · next h =>
      cases hs : splitAll sep s with
      | nil => exact absurd hs (splitAll_ne_nil sep s)
      | cons part parts => rw [hs] at ih; simp [joinWith, ih, h]
    · cases hs : splitAll sep s with
      | nil => exact absurd hs (splitAll_ne_nil sep s)
      | cons part parts =>
        rw [hs] at ih
        cases parts with
        | nil => simpa [joinWith] using ih
        | cons q qs => simpa [joinWith] using ih

/-! ## Lines -/

/-- A line without the carriage return that may end it. -/
def dropReturn (s : List Char) : List Char :=
  if s.getLast? = some '\r' then s.dropLast else s

/-- The lines of a text. A newline ends a line, together with one carriage
return before it; the text after the last newline is a line unless it is empty. -/
def lines (s : List Char) : List (List Char) :=
  let parts := splitAll '\n' s
  match parts.getLast? with
  | none | some [] => parts.dropLast.map dropReturn
  | some rest => parts.dropLast.map dropReturn ++ [rest]

/-! ## Words -/

/-- The run of non-blanks that `s` starts with, possibly empty, and the words after it. -/
def leadingWord : List Char → List Char × List (List Char)
  | [] => ([], [])
  | c :: s =>
    let (w, ws) := leadingWord s
    if isBlank c then ([], if w.isEmpty then ws else w :: ws) else (c :: w, ws)

/-- The words of a text: its longest runs without a blank. -/
def words (s : List Char) : List (List Char) :=
  let (w, ws) := leadingWord s
  if w.isEmpty then ws else w :: ws

@[simp] theorem words_nil : words [] = [] := rfl

theorem words_blank_cons {c : Char} (h : isBlank c = true) (s : List Char) :
    words (c :: s) = words s := by
  simp [words, leadingWord, h]

theorem words_append_blank {c : Char} (h : isBlank c = true) (s t : List Char) :
    words (s ++ c :: t) = words s ++ words t := by
  have key : leadingWord (s ++ c :: t) = ((leadingWord s).1, (leadingWord s).2 ++ words t) := by
    induction s with
    | nil => simp [leadingWord, h, words]
    | cons d s ih =>
      simp only [List.cons_append, leadingWord, ih]
      split
      · split <;> simp
      · rfl
  simp only [words, key]
  split <;> simp

/-- Every word is non-empty and without a blank. -/
theorem mem_words {s w : List Char} (h : w ∈ words s) : w ≠ [] ∧ ∀ c ∈ w, isBlank c = false := by
  have key : ∀ s : List Char, (∀ c ∈ (leadingWord s).1, isBlank c = false) ∧
      ∀ w ∈ (leadingWord s).2, w ≠ [] ∧ ∀ c ∈ w, isBlank c = false := by
    intro s
    induction s with
    | nil => simp [leadingWord]
    | cons d s ih =>
      simp only [leadingWord]
      split
      · refine ⟨by simp, fun w hw => ?_⟩
        split at hw
        · exact ih.2 w hw
        · next he =>
          rcases List.mem_cons.1 hw with rfl | hw
          · exact ⟨by simpa using he, ih.1⟩
          · exact ih.2 w hw
      · next hd =>
        refine ⟨fun c hc => ?_, ih.2⟩
        rcases List.mem_cons.1 hc with rfl | hc
        · simpa using hd
        · exact ih.1 c hc
  simp only [words] at h
  split at h
  · exact (key s).2 w h
  · next he =>
    rcases List.mem_cons.1 h with rfl | h
    · exact ⟨by simpa using he, (key s).1⟩
    · exact (key s).2 w h

end SpriteGame.Text
