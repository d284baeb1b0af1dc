import Mathlib.Data.List.TakeWhile
import SpriteGame.Game.Writer
/-!
# Lines of words

What the cutting of text gives back of text that was put together: a line is indented as it
was written (`indentOf_line`) and has its words (`trim_line`, `words_joinWith`), and lines
that are ended one after the other are the lines of the text (`lines_flatMap`).
-/
namespace SpriteGame.Text

variable {w s t : List Char} {ws : List (List Char)}

/-! ## Words -/

theorem Clean.ne_blank (h : Clean s) {c : Char} (hc : c ∈ s) : isBlank c = false := (h c hc).1

theorem Token.no_blank (h : Token w) : (w.isEmpty || w.any isBlank) = false := by
  have hany : w.any isBlank = false := List.any_eq_false.2 fun c hc => by simp [h.2.ne_blank hc]
  simp [h.1, hany]

theorem leadingWord_of_solid (h : ∀ c ∈ w, isBlank c = false) : leadingWord w = (w, []) := by
  induction w with
  | nil => rfl
  | cons c w ih =>
    obtain ⟨hc, hw⟩ := List.forall_mem_cons.1 h
    simp [leadingWord, ih hw, hc]

theorem words_of_solid (hne : w ≠ []) (h : ∀ c ∈ w, isBlank c = false) : words w = [w] := by
  simp [words, leadingWord_of_solid h, hne]

theorem words_of_token (h : Token w) : words w = [w] := words_of_solid h.1 fun _ hc => h.2.ne_blank hc

/-- The rest of a line, each word after a blank. -/
def spaced (ws : List (List Char)) : List Char := ws.flatMap (' ' :: ·)

theorem spaced_cons (w : List Char) (ws : List (List Char)) : spaced (w :: ws) = ' ' :: (w ++ spaced ws) := rfl

theorem spaced_append (ws vs : List (List Char)) : spaced (ws ++ vs) = spaced ws ++ spaced vs :=
  List.flatMap_append

theorem joinWith_cons (w : List Char) (ws : List (List Char)) : joinWith ' ' (w :: ws) = w ++ spaced ws := by
  induction ws generalizing w with
  | nil => simp [joinWith, spaced]
  | cons v ws ih => rw [joinWith, ih, spaced_cons]; simp

theorem words_append_spaced (hw : Token w) (hws : ∀ v ∈ ws, Token v) : words (w ++ spaced ws) = w :: ws := by
  induction ws generalizing w with
  | nil => simp [spaced, words_of_token hw]
  | cons v ws ih =>
    obtain ⟨hv, hws⟩ := List.forall_mem_cons.1 hws
    rw [spaced_cons, words_append_blank (by decide), words_of_token hw, ih hv hws, List.singleton_append]

theorem words_spaced (hws : ∀ v ∈ ws, Token v) : words (spaced ws) = ws := by
  cases ws with
  | nil => rfl
  | cons v ws =>
    obtain ⟨hv, hws⟩ := List.forall_mem_cons.1 hws
    rw [spaced_cons, words_blank_cons (by decide), words_append_spaced hv hws]

theorem words_joinWith (hws : ∀ v ∈ ws, Token v) : words (joinWith ' ' ws) = ws := by
  cases ws with
  | nil => rfl
  | cons v ws =>
    obtain ⟨hv, hws⟩ := List.forall_mem_cons.1 hws
    rw [joinWith_cons, words_append_spaced hv hws]

/-! ## The characters of a line -/

theorem mem_joinWith {c : Char} (hc : c ∈ joinWith ' ' ws) : c = ' ' ∨ ∃ v ∈ ws, c ∈ v := by
  cases ws with
  | nil => cases hc
  | cons v ws =>
    rw [joinWith_cons, spaced, List.mem_append, List.mem_flatMap] at hc
    rcases hc with hc | ⟨u, hu, hc⟩
    · exact .inr ⟨v, List.mem_cons_self, hc⟩
    · rcases List.mem_cons.1 hc with rfl | hc
      · exact .inl rfl
      · exact .inr ⟨u, List.mem_cons_of_mem _ hu, hc⟩

/-- What is in a line of tokens is a blank between them, or no blank at all. -/
theorem mem_line (hws : ∀ v ∈ ws, Token v) {indent : Nat} {c : Char} (hc : c ∈ Writer.line indent ws) :
    c = ' ' ∨ isBlank c = false ∧ c ≠ '#' := by
  unfold Writer.line at hc
  rcases List.mem_append.1 hc with hc | hc
  · exact .inl (List.eq_of_mem_replicate hc)
  · exact (mem_joinWith hc).imp_right fun ⟨v, hv, hcv⟩ => (hws v hv).2 c hcv

/-- A text that neither starts nor ends with a blank. -/
structure Trimmed (s : List Char) : Prop where
  head : ∀ c ∈ s.head?, isBlank c = false
  last : ∀ c ∈ s.getLast?, isBlank c = false

theorem dropWhile_of_head (h : ∀ c ∈ s.head?, isBlank c = false) : s.dropWhile isBlank = s := by
  cases s with
  | nil => rfl
  | cons c s => simp [h c rfl]

theorem Trimmed.trim_eq (h : Trimmed s) : trim s = s := by
  have hlast : ∀ c ∈ s.reverse.head?, isBlank c = false := by simpa using h.last
  rw [trim, trimEnd, dropWhile_of_head h.head, dropWhile_of_head hlast, List.reverse_reverse]

theorem trim_append_blank (h : Trimmed s) (hs : s ≠ []) : trim (s ++ [' ']) = s := by
  have hhead : ∀ c ∈ (s ++ [' ']).head?, isBlank c = false := by
    obtain ⟨c, s, rfl⟩ := List.exists_cons_of_ne_nil hs
    exact h.head
  have hlast : ∀ c ∈ s.reverse.head?, isBlank c = false := by simpa using h.last
  have hblank : isBlank ' ' = true := by decide
  rw [trim, dropWhile_of_head hhead, trimEnd, List.reverse_append, List.reverse_singleton, List.singleton_append,
    List.dropWhile_cons_of_pos hblank, dropWhile_of_head hlast, List.reverse_reverse]

theorem Token.trimmed (h : Token w) : Trimmed w where
  head _ hc := h.2.ne_blank (List.mem_of_mem_head? hc)
  last _ hc := h.2.ne_blank (List.mem_of_mem_getLast? hc)

theorem trimmed_append_spaced (hw : Trimmed w) (hne : w ≠ []) (hws : ∀ v ∈ ws, Token v) : Trimmed (w ++ spaced ws) := by
  induction ws generalizing w with
  | nil => simpa [spaced] using hw
  | cons v ws ih =>
    obtain ⟨hv, hws⟩ := List.forall_mem_cons.1 hws
    have hlonger : Trimmed (w ++ ' ' :: v) := by
      obtain ⟨c, w, rfl⟩ := List.exists_cons_of_ne_nil hne
      obtain ⟨d, v, rfl⟩ := List.exists_cons_of_ne_nil hv.1
      have hlast : ((c :: w) ++ ' ' :: d :: v).getLast? = (d :: v).getLast? := by
        simp [List.getLast?_append, List.getLast?_cons]
      exact ⟨hw.head, hlast ▸ hv.trimmed.last⟩
    have := ih hlonger (by simp) hws
    rwa [List.append_assoc] at this

theorem trimmed_joinWith (hws : ∀ v ∈ ws, Token v) : Trimmed (joinWith ' ' ws) := by
  cases ws with
  | nil => exact ⟨nofun, nofun⟩
  | cons v ws =>
    obtain ⟨hv, hws⟩ := List.forall_mem_cons.1 hws
    rw [joinWith_cons]
    exact trimmed_append_spaced hv.trimmed hv.1 hws

theorem joinWith_ne_nil (hne : ws ≠ []) (hws : ∀ v ∈ ws, Token v) : joinWith ' ' ws ≠ [] := by
  intro hnil
  have hwords := words_joinWith hws
  rw [hnil] at hwords
  exact hne hwords.symm

/-! ## Reading a line -/

theorem dropComment_line (hws : ∀ v ∈ ws, Token v) (indent : Nat) :
    Reader.dropComment (Writer.line indent ws) = Writer.line indent ws := by
  refine List.takeWhile_eq_self_iff.2 fun c hc => decide_eq_true ?_
  rcases mem_line hws hc with rfl | ⟨-, hc⟩
  · decide
  · exact hc

theorem dropComment_joinWith (hws : ∀ v ∈ ws, Token v) :
    Reader.dropComment (joinWith ' ' ws) = joinWith ' ' ws := dropComment_line hws 0

theorem trim_line (hws : ∀ v ∈ ws, Token v) (indent : Nat) : trim (Writer.line indent ws) = joinWith ' ' ws := by
  have htrimmed := trimmed_joinWith hws
  have hdrop : (Writer.line indent ws).dropWhile isBlank = (joinWith ' ' ws).dropWhile isBlank := by
    unfold Writer.line
    induction indent with
    | zero => rfl
    | succ indent ih => exact ih
  rw [trim, hdrop]
  exact htrimmed.trim_eq

theorem width_replicate (n k : Nat) :
    (List.replicate n ' ').foldl (fun n c => n + if c = '\t' then 4 else 1) k = k + n := by
  induction n generalizing k with
  | zero => rfl
  | succ n ih =>
    rw [List.replicate_succ, List.foldl_cons, ih, if_neg (by decide)]
    omega

theorem indentOf_line (hws : ∀ v ∈ ws, Token v) (indent : Nat) :
    Reader.indentOf (Writer.line indent ws) = indent := by
  have hblanks : (Writer.line indent ws).takeWhile isBlank = List.replicate indent ' ' := by
    have hhead := (trimmed_joinWith hws).head
    unfold Writer.line
    induction indent with
    | zero =>
      cases hs : joinWith ' ' ws with
      | nil => rfl
      | cons c s =>
        have hc : isBlank c = false := hhead c (by rw [hs]; rfl)
        simp [hc]
    | succ indent ih =>
      rw [List.replicate_succ, List.cons_append, List.takeWhile_cons_of_pos (by decide), ih]
  rw [Reader.indentOf, hblanks, width_replicate, Nat.zero_add]

/-! ## Arrows -/

/-- A line is cut at its first arrow: the words in front of it, and those after it. -/
theorem splitFirst_arrow {lhs rhs : List (List Char)} (hne : lhs ≠ []) (harrow : ∀ v ∈ lhs, '>' ∉ v) :
    splitFirst '>' (joinWith ' ' (lhs ++ ['>'] :: rhs)) = some (joinWith ' ' lhs ++ [' '], spaced rhs) := by
  rw [splitFirst_eq_some]
  obtain ⟨w, ws, rfl⟩ := List.exists_cons_of_ne_nil hne
  constructor
  · simp [joinWith_cons, spaced_append, spaced_cons]
  · intro hmem
    rcases List.mem_append.1 hmem with hmem | hmem
    · rcases mem_joinWith hmem with hblank | ⟨v, hv, hmem⟩
      · exact absurd hblank (by decide)
      · exact harrow v hv hmem
    · exact absurd (List.mem_singleton.1 hmem) (by decide)

/-! ## Parts -/

section Parts

variable {sep : Char}

theorem splitAll_of_not_mem (h : sep ∉ s) : splitAll sep s = [s] := by
  induction s with
  | nil => rfl
  | cons c s ih =>
    obtain ⟨hc, hs⟩ := not_or.1 ((not_congr List.mem_cons).1 h)
    simp [splitAll, Ne.symm hc, ih hs]

theorem splitAll_append_sep (sep : Char) (s t : List Char) :
    splitAll sep (s ++ sep :: t) = splitAll sep s ++ splitAll sep t := by
  induction s with
  | nil => simp [splitAll]
  | cons c s ih =>
    obtain ⟨part, parts, hs⟩ := List.exists_cons_of_ne_nil (splitAll_ne_nil sep s)
    by_cases hc : c = sep <;> simp [splitAll, hc, ih, hs]

theorem splitAll_append (h : sep ∉ s) (t : List Char) : splitAll sep (s ++ sep :: t) = s :: splitAll sep t := by
  rw [splitAll_append_sep, splitAll_of_not_mem h, List.singleton_append]

/-- What was joined is cut where it was joined, and where its parts have the separator themselves. -/
theorem splitAll_joinWith {parts : List (List Char)} (h : parts ≠ []) :
    splitAll sep (joinWith sep parts) = parts.flatMap (splitAll sep) := by
  induction parts with
  | nil => exact absurd rfl h
  | cons part parts ih =>
    cases parts with
    | nil => rw [joinWith, List.flatMap_singleton]
    | cons next parts =>
      have hjoin : joinWith sep (part :: next :: parts) = part ++ sep :: joinWith sep (next :: parts) := rfl
      rw [hjoin, splitAll_append_sep, List.flatMap_cons, ih (List.cons_ne_nil _ _)]

theorem not_mem_of_mem_splitAll {part : List Char} (h : part ∈ splitAll sep s) : sep ∉ part := by
  induction s generalizing part with
  | nil =>
    obtain rfl := List.mem_singleton.1 h
    exact List.not_mem_nil
  | cons c s ih =>
    obtain ⟨first, parts, hs⟩ := List.exists_cons_of_ne_nil (splitAll_ne_nil sep s)
    rw [hs] at ih
    by_cases hc : c = sep
    · rw [splitAll, if_pos hc, hs] at h
      rcases List.mem_cons.1 h with rfl | h
      · exact List.not_mem_nil
      · exact ih h
    · simp only [splitAll, if_neg hc, hs, List.mem_cons] at h
      rcases h with rfl | h
      · exact List.not_mem_cons_of_ne_of_not_mem (Ne.symm hc) (ih List.mem_cons_self)
      · exact ih (List.mem_cons_of_mem _ h)

/-- There is one more part than there are separators. -/
theorem length_splitAll (sep : Char) (s : List Char) : (splitAll sep s).length = s.count sep + 1 := by
  induction s with
  | nil => rfl
  | cons c s ih =>
    obtain ⟨part, parts, hs⟩ := List.exists_cons_of_ne_nil (splitAll_ne_nil sep s)
    rw [hs, List.length_cons] at ih
    by_cases hc : c = sep <;> simp [splitAll, hc, hs, ih]

/-- Parts are joined with one separator fewer than there are parts. -/
theorem count_joinWith {parts : List (List Char)} (h : parts ≠ []) :
    (joinWith sep parts).count sep + 1 = parts.flatten.count sep + parts.length := by
  induction parts with
  | nil => exact absurd rfl h
  | cons part parts ih =>
    cases parts with
    | nil => simp [joinWith]
    | cons next parts =>
      have hnext := ih (List.cons_ne_nil next parts)
      have hjoin : joinWith sep (part :: next :: parts) = part ++ sep :: joinWith sep (next :: parts) := rfl
      rw [hjoin, List.count_append, List.count_cons_self, List.flatten_cons, List.count_append, List.length_cons]
      omega

end Parts

/-! ## Lines -/

theorem dropReturn_of_not_mem (h : '\r' ∉ s) : dropReturn s = s :=
  if_neg fun hlast => h (List.mem_of_getLast? hlast)

/-- Lines that end with a newline are the lines of the text. -/
theorem lines_flatMap {ls : List (List Char)} (hnewline : ∀ l ∈ ls, '\n' ∉ l) (hreturn : ∀ l ∈ ls, '\r' ∉ l) :
    lines (ls.flatMap (· ++ ['\n'])) = ls := by
  have hparts : splitAll '\n' (ls.flatMap (· ++ ['\n'])) = ls ++ [[]] := by
    clear hreturn
    induction ls with
    | nil => rfl
    | cons l ls ih =>
      obtain ⟨hl, hls⟩ := List.forall_mem_cons.1 hnewline
      rw [List.flatMap_cons, List.append_assoc, List.singleton_append, splitAll_append hl, ih hls, List.cons_append]
  have hsame : ls.map dropReturn = ls.map id :=
    List.map_congr_left fun l hl => dropReturn_of_not_mem (hreturn l hl)
  unfold lines
  simp [hparts, hsame]

end SpriteGame.Text
