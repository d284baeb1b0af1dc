import SpriteGame.Settings.Json
import Mathlib.Data.List.Basic
/-!
# Lexing

What a JSON text is cut into: a relation between a text and its tokens, which `tokens?`
decides (`tokens?_eq_some_iff`), and the tokens that a name in quotes and a natural number
are taken for (`token?_quoted`, `token?_toDigits`).
-/
namespace SpriteGame.Json

variable {s rest : List Char} {ts : List Token}

/-! ## Every token takes a character -/

/-- What is scanned after one more code unit. -/
theorem scanned_of_cons {n : Nat} {scanned : Option (List Nat × List Char)} {ns : List Nat}
    (h : (do let (ms, u) ← scanned; pure (n :: ms, u)) = some (ns, rest)) : ∃ ms, scanned = some (ms, rest) := by
  obtain ⟨⟨ms, u⟩, hscanned, hp⟩ := Option.bind_eq_some_iff.1 h
  cases hp
  exact ⟨ms, hscanned⟩

theorem length_scanString {ns : List Nat} (h : scanString s = some (ns, rest)) : rest.length < s.length := by
  fun_induction scanString s generalizing ns rest with
  | case1 => cases h
  | case2 s => cases h; exact Nat.lt_succ_self _
  | case3 a b c d s ih =>
    obtain ⟨n, -, h⟩ := Option.bind_eq_some_iff.1 h
    obtain ⟨ms, hscanned⟩ := scanned_of_cons h
    have := ih hscanned
    simp only [List.length_cons]
    omega
  | case4 e s _ ih =>
    obtain ⟨n, -, h⟩ := Option.bind_eq_some_iff.1 h
    obtain ⟨ms, hscanned⟩ := scanned_of_cons h
    have := ih hscanned
    simp only [List.length_cons]
    omega
  | case5 => cases h
  | case6 c s _ _ _ _ ih =>
    obtain ⟨ms, hscanned⟩ := scanned_of_cons h
    exact Nat.lt_succ_of_lt (ih hscanned)

theorem length_scanDigits {digits : List Char} (h : scanDigits s = some (digits, rest)) : rest.length < s.length := by
  unfold scanDigits at h
  split at h
  case h_1 => cases h
  case h_2 hdigits =>
    cases h
    have hsplit := congrArg List.length (List.takeWhile_append_dropWhile (p := Char.isDigit) (l := s))
    have hpos := List.length_pos_iff.2 hdigits
    rw [List.length_append] at hsplit
    omega

theorem length_scanFraction {b : Bool} (h : scanFraction s = some (b, rest)) : rest.length ≤ s.length := by
  unfold scanFraction at h
  split at h
  case h_1 s =>
    obtain ⟨⟨digits, u⟩, hu, hp⟩ := Option.map_eq_some_iff.1 h
    cases hp
    exact Nat.le_succ_of_le (Nat.le_of_lt (length_scanDigits hu))
  case h_2 => cases h; exact Nat.le_refl _

theorem length_scanExponent {b : Bool} (h : scanExponent s = some (b, rest)) : rest.length ≤ s.length := by
  unfold scanExponent at h
  split at h
  case h_1 c s =>
    split at h
    · obtain ⟨⟨digits, u⟩, hu, hp⟩ := Option.map_eq_some_iff.1 h
      cases hp
      have := length_scanDigits hu
      split at this <;> simp only [List.length_cons] <;> omega
    · cases h; exact Nat.le_refl _
  case h_2 => cases h; exact Nat.le_refl _

theorem length_scanMagnitude {n : Option Nat} (h : scanMagnitude s = some (n, rest)) : rest.length < s.length := by
  unfold scanMagnitude at h
  simp only [Option.bind_eq_bind, Option.bind_eq_some_iff, Prod.exists] at h
  obtain ⟨digits, s₁, hdigits, h⟩ := h
  split at h
  · cases h
  · simp only [Option.bind_eq_some_iff, Prod.exists] at h
    obtain ⟨b, s₂, hfraction, e, s₃, hexponent, hp⟩ := h
    cases hp
    have h₁ := length_scanDigits hdigits
    have h₂ := length_scanFraction hfraction
    have h₃ := length_scanExponent hexponent
    omega

theorem length_scanNumber {n : Option Nat} (h : scanNumber s = some (n, rest)) : rest.length < s.length := by
  unfold scanNumber at h
  split at h
  case h_1 s =>
    obtain ⟨⟨m, u⟩, hu, hp⟩ := Option.map_eq_some_iff.1 h
    cases hp
    exact Nat.lt_succ_of_lt (length_scanMagnitude hu)
  case h_2 => exact length_scanMagnitude h

theorem length_token? {t : Token} (h : token? s = some (t, rest)) : rest.length < s.length := by
  unfold token? at h
  split at h
  case h_7 s =>
    obtain ⟨⟨ns, u⟩, hu, hp⟩ := Option.map_eq_some_iff.1 h
    cases hp
    exact Nat.lt_succ_of_lt (length_scanString hu)
  case h_11 =>
    obtain ⟨⟨n, u⟩, hu, hp⟩ := Option.map_eq_some_iff.1 h
    cases hp
    exact length_scanNumber hu
  all_goals cases h; simp only [List.length_cons]; omega

/-! ## Texts and their tokens -/

theorem token?_of_isBlank {c : Char} (hc : isBlank c = true) (s : List Char) : token? (c :: s) = none := by
  simp only [isBlank, Bool.or_eq_true, beq_iff_eq] at hc
  rcases hc with ((rfl | rfl) | rfl) | rfl <;> rfl

/-- The tokens that a text is cut into, the blanks between them passed over. -/
inductive Lexes : List Char → List Token → Prop
  | nil : Lexes [] []
  | blank {c : Char} {s : List Char} {ts : List Token} (hc : isBlank c = true) (h : Lexes s ts) : Lexes (c :: s) ts
  | token {s rest : List Char} {t : Token} {ts : List Token} (ht : token? s = some (t, rest))
      (h : Lexes rest ts) : Lexes s (t :: ts)

theorem Lexes.of_dropWhile (h : Lexes (s.dropWhile isBlank) ts) : Lexes s ts := by
  induction s with
  | nil => exact h
  | cons c s ih =>
    by_cases hc : isBlank c = true
    · rw [List.dropWhile_cons_of_pos hc] at h
      exact (ih h).blank hc
    · rwa [List.dropWhile_cons_of_neg hc] at h

theorem lexes_of_tokensWithin {bound : Nat} (h : tokensWithin bound s = some ts) : Lexes s ts := by
  refine Lexes.of_dropWhile ?_
  induction bound generalizing s ts with
  | zero =>
    unfold tokensWithin at h
    cases hdrop : s.dropWhile isBlank with
    | nil => rw [hdrop] at h; cases h; exact .nil
    | cons c u => rw [hdrop] at h; cases h
  | succ bound ih =>
    unfold tokensWithin at h
    cases hdrop : s.dropWhile isBlank with
    | nil => rw [hdrop] at h; cases h; exact .nil
    | cons c u =>
      rw [hdrop] at h
      simp only [Option.bind_eq_bind, Option.bind_eq_some_iff, Prod.exists] at h
      obtain ⟨t, rest, ht, us, hus, hp⟩ := h
      cases hp
      exact .token ht (Lexes.of_dropWhile (ih hus))

/-- A bound of as many characters as the text has is never what stops the cutting. -/
theorem Lexes.tokensWithin (h : Lexes s ts) {bound : Nat} (hbound : s.length ≤ bound) :
    Json.tokensWithin bound s = some ts := by
  induction h generalizing bound with
  | nil => cases bound <;> rfl
  | @blank c s ts hc _ ih =>
    have hrest := ih (Nat.le_of_succ_le hbound)
    unfold Json.tokensWithin at hrest ⊢
    rwa [List.dropWhile_cons_of_pos hc]
  | @token s rest t ts ht _ ih =>
    have hlength := length_token? ht
    cases s with
    | nil => exact absurd hlength (Nat.not_lt_zero _)
    | cons c s =>
      have hc : ¬isBlank c = true := fun hc => by simp [token?_of_isBlank hc] at ht
      obtain ⟨bound, rfl⟩ : ∃ b, bound = b + 1 := Nat.exists_eq_succ_of_ne_zero fun hzero => by
        rw [hzero] at hbound
        cases hbound
      have hrest := ih (Nat.le_of_lt_succ (Nat.lt_of_lt_of_le hlength hbound))
      unfold Json.tokensWithin
      rw [List.dropWhile_cons_of_neg hc]
      simp [ht, hrest]

theorem tokens?_eq_some_iff : tokens? s = some ts ↔ Lexes s ts :=
  ⟨lexes_of_tokensWithin, fun h => h.tokensWithin (Nat.le_refl _)⟩

/-! ## Names -/

/-- A character that stands for itself between quotes. -/
def Plain (c : Char) : Prop := c ≠ '"' ∧ c ≠ '\\' ∧ 0x20 ≤ c.toNat

instance (c : Char) : Decidable (Plain c) := inferInstanceAs (Decidable (_ ∧ _))

theorem scanString_quoted {name : List Char} (hname : ∀ c ∈ name, Plain c) (rest : List Char) :
    scanString (name ++ '"' :: rest) = some (name.map Char.toNat, rest) := by
  induction name with
  | nil => rfl
  | cons c name ih =>
    obtain ⟨⟨hquote, hslash, hlow⟩, hname⟩ := List.forall_mem_cons.1 hname
    have hlow : ¬c.toNat < 0x20 := Nat.not_lt.2 hlow
    rw [List.cons_append, scanString, if_neg hlow, ih hname]
    · rfl
    all_goals simp_all

/-- No character is half of a surrogate pair. -/
theorem joinPairs?_map_toNat (name : List Char) : joinPairs? (name.map Char.toNat) = some name := by
  induction name with
  | nil => rfl
  | cons c name ih =>
    have hc : c.toNat < 0xD800 ∨ 0xDFFF < c.toNat ∧ c.toNat < 0x110000 := c.valid
    rw [List.map_cons, joinPairs?.eq_def]
    dsimp only
    rw [if_neg (by omega), if_neg (by omega), ih, Option.map_some, Char.ofNat_toNat]

theorem token?_quoted {name : List Char} (hname : ∀ c ∈ name, Plain c) (rest : List Char) :
    token? ('"' :: (name ++ '"' :: rest)) = some (.text (some name), rest) := by
  rw [token?, scanString_quoted hname, Option.map_some, joinPairs?_map_toNat]

/-! ## Natural numbers -/

/-- A text that does not go on with a number. -/
def EndsNumber (s : List Char) : Prop :=
  ∀ c ∈ s.head?, c.isDigit = false ∧ c ≠ '.' ∧ c ≠ 'e' ∧ c ≠ 'E'

theorem scanDigits_append {digits : List Char} (hne : digits ≠ []) (hdigits : ∀ c ∈ digits, c.isDigit = true)
    (hend : EndsNumber rest) : scanDigits (digits ++ rest) = some (digits, rest) := by
  have hrest : rest.takeWhile Char.isDigit = [] ∧ rest.dropWhile Char.isDigit = rest := by
    cases rest with
    | nil => exact ⟨rfl, rfl⟩
    | cons c rest => simp [(hend c rfl).1]
  obtain ⟨d, ds, rfl⟩ := List.exists_cons_of_ne_nil hne
  unfold scanDigits
  rw [List.takeWhile_append_of_pos hdigits, List.dropWhile_append_of_pos hdigits, hrest.1, hrest.2, List.append_nil]

theorem scanFraction_of_ends (hend : EndsNumber rest) : scanFraction rest = some (false, rest) := by
  cases rest with
  | nil => rfl
  | cons c rest => rw [scanFraction]; simpa using (hend c rfl).2.1

theorem scanExponent_of_ends (hend : EndsNumber rest) : scanExponent rest = some (false, rest) := by
  cases rest with
  | nil => rfl
  | cons c rest =>
    obtain ⟨-, -, he, hE⟩ := hend c rfl
    unfold scanExponent
    exact if_neg (not_or.2 ⟨he, hE⟩)

/-- No zero leads the digits of another number. -/
theorem head_toDigits {n : Nat} (hn : n ≠ 0) : (Nat.toDigits 10 n).head? ≠ some '0' := by
  induction n using Nat.strongRecOn with
  | ind n ih =>
    by_cases hlt : n < 10
    · rw [Nat.toDigits_of_lt_base hlt]
      have hdigit : ∀ d < 10, d ≠ 0 → [Nat.digitChar d].head? ≠ some '0' := by decide
      exact hdigit n hlt hn
    · have hne : n / 10 ≠ 0 := by omega
      rw [Nat.toDigits_of_base_le (by decide) (Nat.not_lt.1 hlt), List.head?_append_of_ne_nil _ Nat.toDigits_ne_nil]
      exact ih (n / 10) (by omega) hne

theorem isDigit_of_mem_toDigits {n : Nat} {c : Char} (hc : c ∈ Nat.toDigits 10 n) : c.isDigit = true :=
  Nat.isDigit_of_mem_toDigits (by decide) (by decide) hc

theorem scanMagnitude_toDigits (n : Nat) (hend : EndsNumber rest) :
    scanMagnitude (Nat.toDigits 10 n ++ rest) = some (some n, rest) := by
  have hdigits : ∀ c ∈ Nat.toDigits 10 n, c.isDigit = true := fun c hc => isDigit_of_mem_toDigits hc
  have hlead : ¬((Nat.toDigits 10 n).head? = some '0' ∧ (Nat.toDigits 10 n).length ≠ 1) := by
    rcases eq_or_ne n 0 with rfl | hn
    · decide
    · exact fun h => head_toDigits hn h.1
  have hvalue : digitsValue (Nat.toDigits 10 n) = n := Nat.ofDigitChars_ten_toDigits
  simp only [scanMagnitude, scanDigits_append Nat.toDigits_ne_nil hdigits hend, Option.bind_eq_bind, Option.bind_some,
    if_neg hlead, scanFraction_of_ends hend, scanExponent_of_ends hend, hvalue]
  rfl

theorem token?_of_isDigit {c : Char} (hc : c.isDigit = true) (s : List Char) :
    token? (c :: s) = (scanMagnitude (c :: s)).map fun p => (.number p.1, p.2) := by
  have hnumber : scanNumber (c :: s) = scanMagnitude (c :: s) := by
    unfold scanNumber
    split
    case h_1 heq => cases heq; exact absurd hc (by decide)
    case h_2 => rfl
  unfold token?
  split
  case h_11 => rw [hnumber]
  all_goals
    next heq => cases heq; exact absurd hc (by decide)

theorem token?_toDigits (n : Nat) (hend : EndsNumber rest) :
    token? (Nat.toDigits 10 n ++ rest) = some (.number (some n), rest) := by
  obtain ⟨c, cs, hcs⟩ := List.exists_cons_of_ne_nil (Nat.toDigits_ne_nil (b := 10) (n := n))
  have hc : c.isDigit = true := isDigit_of_mem_toDigits (hcs ▸ List.mem_cons_self)
  have hscan := scanMagnitude_toDigits n hend
  rw [hcs, List.cons_append] at hscan ⊢
  rw [token?_of_isDigit hc, hscan, Option.map_some]

end SpriteGame.Json
