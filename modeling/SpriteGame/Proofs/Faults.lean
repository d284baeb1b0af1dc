import Mathlib.Data.List.Basic
import Mathlib.Data.List.Induction
import SpriteGame.Proofs.Reading
import SpriteGame.Proofs.Words
/-!
# Faulty lines

A line that cannot be read is reported once and has no other effect: where another line stands
above it, the text reads the same without it, but for the report (`faults_read`). What the
reader knows when it comes to a line is what the lines above say (`Position.below`), and a
faulty line is none that opens a section.
-/
namespace SpriteGame

/-! ## Texts with a line made empty -/

namespace Text

/-- A text whose line at `n`, counted from zero, is made empty. -/
def eraseLine (s : List Char) (n : Nat) : List Char := joinWith '\n' ((splitAll '\n' s).set n [])

theorem splitAll_eraseLine (s : List Char) (n : Nat) : splitAll '\n' (eraseLine s n) = (splitAll '\n' s).set n [] := by
  have hne : (splitAll '\n' s).set n [] ≠ [] := fun h => splitAll_ne_nil '\n' s ((List.set_eq_nil_iff _ _).1 h)
  have hpart : ∀ part ∈ (splitAll '\n' s).set n [], splitAll '\n' part = [part] := by
    intro part hpart
    rcases List.mem_or_eq_of_mem_set hpart with hpart | rfl
    · exact splitAll_of_not_mem (not_mem_of_mem_splitAll hpart)
    · rfl
  rw [eraseLine, splitAll_joinWith hne, List.flatMap_congr hpart, List.flatMap_singleton']

/-- The text behind the last newline is a line unless it is empty. -/
theorem lines_of_splitAll {s last : List Char} {ended : List (List Char)} (h : splitAll '\n' s = ended ++ [last]) :
    lines s = ended.map dropReturn ++ if last = [] then [] else [last] := by
  cases last <;> simp [lines, h]

/-- The lines but one stay as they are; an empty line at the end is none. -/
theorem lines_eraseLine {s : List Char} {n : Nat} (h : n < (lines s).length) :
    lines (eraseLine s n) = (lines s).set n [] ∨ lines (eraseLine s n) ++ [[]] = (lines s).set n [] := by
  obtain ⟨ended, last, hs⟩ := (List.eq_nil_or_concat (splitAll '\n' s)).resolve_left (splitAll_ne_nil '\n' s)
  rw [List.concat_eq_append] at hs
  have herased := splitAll_eraseLine s n
  rw [hs] at herased
  rw [lines_of_splitAll hs] at h ⊢
  by_cases hn : n < ended.length
  · rw [List.set_append_left _ _ hn] at herased
    have hn' : n < (ended.map dropReturn).length := by rwa [List.length_map]
    rw [lines_of_splitAll herased, List.set_append_left _ _ hn', List.map_set]
    exact .inl rfl
  · -- Only the last line is left, which no newline ends.
    have hlast : last ≠ [] := by
      rintro rfl
      exact hn (by simpa using h)
    rw [if_neg hlast] at h ⊢
    obtain rfl : n = ended.length := by simp at h; omega
    rw [List.set_append_right _ _ (Nat.le_refl _), Nat.sub_self] at herased
    rw [lines_of_splitAll herased, List.set_append_right _ _ (by rw [List.length_map]), List.length_map, Nat.sub_self]
    exact .inr (by simp)

end Text

open Text

namespace Reader

variable {above : List Line} {number : Nat} {raw : List Char}

/-! ## The position below lines -/

/-- Where the reader stands below lines, the nearest first. -/
def Position.below (above : List Line) : Position := ⟨!above.isEmpty, Reader.opened above⟩

theorem opened_below (above : List Line) : (Position.below above).opened = opened above := rfl

theorem started_below (h : (Position.below above).started = false) : above = [] := by
  simpa [Position.below] using h

/-- A line moves the reader on, if it says something. -/
theorem readLine_below (above : List Line) (number : Nat) (raw : List Char) :
    (readLine (.below above) number raw).1 = .below ((Line.of? number raw).toList ++ above) := by
  cases hline : Line.of? number raw with
  | none => rw [readLine_blank hline]; rfl
  | some l =>
    obtain ⟨result, hread, -⟩ := readLine_spec (opened_below above) started_below hline
    rw [hread]
    rfl

theorem readLines_cons (pos : Position) (number : Nat) (raw : List Char) (raws : List (List Char)) :
    readLines pos number (raw :: raws) =
      (readLine pos number raw).2.toList ++ readLines (readLine pos number raw).1 (number + 1) raws := rfl

theorem readLines_append (xs ys : List (List Char)) (above : List Line) (number : Nat) :
    readLines (.below above) number (xs ++ ys) = readLines (.below above) number xs ++
      readLines (.below ((significant number xs).reverse ++ above)) (number + xs.length) ys := by
  induction xs generalizing above number with
  | nil => rfl
  | cons x xs ih =>
    rw [List.cons_append, readLines_cons, readLines_cons, readLine_below, ih, List.append_assoc, significant_cons,
      List.length_cons, List.reverse_append]
    have hnumber : number + 1 + xs.length = number + (xs.length + 1) := by omega
    have hline : (Line.of? number x).toList.reverse = (Line.of? number x).toList := by
      cases Line.of? number x <;> rfl
    rw [hnumber, hline, List.append_assoc]

/-- An empty line is as good as none, but that it counts. -/
theorem readLines_empty (pos : Position) (number : Nat) (raws : List (List Char)) :
    readLines pos number ([] :: raws) = readLines pos (number + 1) raws := rfl

theorem readLines_concat_empty (raws : List (List Char)) :
    readLines (.below []) 1 (raws ++ [[]]) = readLines (.below []) 1 raws := by
  rw [readLines_append, readLines_empty, readLines, List.append_nil]

/-- A faulty line that is not the first leaves the reader where it stands. -/
theorem readLine_error {p : Problem} (habove : above ≠ [])
    (h : (readLine (.below above) number raw).2 = some (.error p)) :
    readLine (.below above) number raw = (.below above, some (.error p)) := by
  cases hline : Line.of? number raw with
  | none => rw [readLine_blank hline] at h; cases h
  | some l =>
    obtain ⟨result, hread, hreads⟩ := readLine_spec (opened_below above) started_below hline
    rw [hread] at h ⊢
    obtain rfl := Option.some.inj h
    cases hreads with
    | other _ hheader _ _ =>
      -- A faulty line is no header, so the section above it stays open.
      have hstarted : (!above.isEmpty) = true := by simpa using habove
      rw [opened_cons_of_none hheader, Position.below, hstarted]

/-! ## The line in a problem -/

/-- What can be said of a line: that it is bad, or that a placeholder in it has no value. -/
inductive Blames (number : Nat) : Problem → Prop
  | bad (fault : LineFault) : Blames number (.badLine number fault)
  | valueless (name : String) : Blames number (.missingParameter "value" (.placeholder name))

section Blamed

variable {α β : Type} {x : Except Problem α}

/-- If it is a problem, then one of the line with the number. -/
def Blamed (number : Nat) (x : Except Problem α) : Prop := ∀ p, x = .error p → Blames number p

theorem blamed_ok (a : α) : Blamed number (.ok a : Except Problem α) := nofun

theorem blamed_bad (fault : LineFault) : Blamed number (.error (.badLine number fault) : Except Problem α) :=
  fun _ h => Except.error.inj h ▸ .bad fault

theorem Blamed.bind {f : α → Except Problem β} (hx : Blamed number x) (hf : ∀ a, Blamed number (f a)) :
    Blamed number (x >>= f) := by
  intro p h
  cases x with
  | error q =>
    cases h
    exact hx _ rfl
  | ok a => exact hf a p h

theorem Blamed.map {f : α → β} (hx : Blamed number x) : Blamed number (x.map f) := hx.bind fun _ => blamed_ok _

variable {text : List Char}

theorem blamed_readParams (tokens : List (List Char)) : Blamed number (readParams number tokens) := by
  unfold readParams
  generalize (SortedMap.empty : Params) = params
  induction tokens generalizing params with
  | nil => exact blamed_ok params
  | cons token tokens ih =>
    rw [List.foldlM_cons]
    refine Blamed.bind ?_ ih
    split
    · exact blamed_ok _
    · exact blamed_bad _

theorem blamed_readSprite : Blamed number (readSprite number text) := by
  unfold readSprite
  split
  · exact blamed_bad _
  · dsimp only
    split
    · exact blamed_bad _
    · exact (blamed_readParams _).bind fun _ => blamed_ok _

theorem blamed_readInteraction : Blamed number (readInteraction number text) := by
  unfold readInteraction
  split
  · exact blamed_bad _
  · split
    · split
      · exact blamed_bad _
      · exact (blamed_readParams _).bind fun _ => blamed_ok _
    · exact blamed_bad _

theorem blamed_readTermination : Blamed number (readTermination number text) := by
  unfold readTermination
  split
  · exact blamed_bad _
  · exact (blamed_readParams _).bind fun _ => blamed_ok _

theorem blamed_readMapping : Blamed number (readMapping number text) := by
  unfold readMapping
  split
  · split
    · exact blamed_ok _
    · exact blamed_bad _
  · exact blamed_bad _

theorem blamed_readPlaceholder : Blamed number (readPlaceholder number text) := by
  unfold readPlaceholder
  split
  · exact blamed_bad _
  · refine (blamed_readParams _).bind fun params => ?_
    split
    · exact blamed_ok _
    · exact fun _ h => Except.error.inj h ▸ .valueless _

theorem blamed_readItem (sec : Section) (indent : Nat) : Blamed number (readItem sec number indent text) := by
  cases sec with
  | sprites => exact blamed_readSprite.map
  | interactions => exact blamed_readInteraction.map
  | terminations => exact blamed_readTermination.map
  | mapping => exact blamed_readMapping.map
  | placeholders => exact blamed_readPlaceholder.map

theorem blamed_readBody (opened : Option (Section × Nat)) (indent : Nat) :
    Blamed number (readBody opened number indent text).2 := by
  unfold readBody
  split
  · exact blamed_ok _
  · split
    · split
      · exact blamed_bad _
      · exact blamed_readItem _ _
    · exact blamed_bad _

theorem blamed_readLine {pos : Position} {result : Except Problem Item}
    (h : (readLine pos number raw).2 = some result) : Blamed number result := by
  unfold readLine at h
  dsimp only at h
  split at h
  · cases h
  · split at h
    · exact Option.some.inj h ▸ (blamed_readParams _).map
    · exact Option.some.inj h ▸ blamed_readBody _ _

end Blamed

/-! ## Problems and their lines -/

def problem? : Except Problem Item → Option Problem
  | .ok _ => none
  | .error p => some p

/-- What is reported of one of many lines. -/
def problemIn? (raws : List (List Char)) (n : Nat) : Option Problem :=
  (raws[n]?.bind fun raw => (readLine (.below (significant 1 (raws.take n)).reverse) (n + 1) raw).2).bind problem?

theorem readLine_of_problemIn? {raws : List (List Char)} {n : Nat} {p : Problem} (h : problemIn? raws n = some p) :
    ∃ raw, raws[n]? = some raw ∧
      (readLine (.below (significant 1 (raws.take n)).reverse) (n + 1) raw).2 = some (.error p) := by
  obtain ⟨result, hresult, hp⟩ := Option.bind_eq_some_iff.1 h
  obtain ⟨raw, hraw, hread⟩ := Option.bind_eq_some_iff.1 hresult
  cases result with
  | ok item => cases hp
  | error q =>
    obtain rfl := Option.some.inj hp
    exact ⟨raw, hraw, hread⟩

/-- What is reported of a line depends on it and those above it. -/
theorem problemIn?_append (xs ys : List (List Char)) {n : Nat} (h : n < xs.length) :
    problemIn? (xs ++ ys) n = problemIn? xs n := by
  unfold problemIn?
  rw [List.getElem?_append_left h, List.take_append_of_le_length h.le]

theorem problemIn?_last (xs : List (List Char)) (raw : List Char) :
    problemIn? (xs ++ [raw]) xs.length =
      (readLine (.below (significant 1 xs).reverse) (xs.length + 1) raw).2.bind problem? := by
  unfold problemIn?
  rw [List.getElem?_concat_length, List.take_left, Option.bind_some]

/-- The problems of lines are what is reported of each. -/
theorem problems_readLines (raws : List (List Char)) :
    (readLines (.below []) 1 raws).filterMap problem? = (List.range raws.length).filterMap (problemIn? raws) := by
  induction raws using List.reverseRecOn with
  | nil => rfl
  | append_singleton raws raw ih =>
    have hsame : ∀ n ∈ List.range raws.length, problemIn? (raws ++ [raw]) n = problemIn? raws n := fun n hn =>
      problemIn?_append raws [raw] (List.mem_range.1 hn)
    rw [readLines_append, List.filterMap_append, ih, List.length_append, List.length_singleton, List.range_succ,
      List.filterMap_append, List.filterMap_congr hsame, List.append_nil, Nat.add_comm 1]
    congr 1
    rw [List.filterMap_cons, problemIn?_last, readLines_cons, readLines, List.append_nil]
    cases (readLine (.below (significant 1 raws).reverse) (raws.length + 1) raw).2 with
    | none => rfl
    | some result => cases result <;> rfl

theorem problems_take {raws : List (List Char)} {n : Nat} (h : n ≤ raws.length) :
    (readLines (.below []) 1 (raws.take n)).filterMap problem? = (List.range n).filterMap (problemIn? raws) := by
  have hlength : (raws.take n).length = n := List.length_take_of_le h
  rw [problems_readLines, hlength]
  refine List.filterMap_congr fun m hm => ?_
  rw [← problemIn?_append (raws.take n) (raws.drop n) (by rwa [hlength, ← List.mem_range]), List.take_append_drop]

/-- Without a faulty line that is not the first, lines give the same but for its problem. -/
theorem readLines_erase {raws : List (List Char)} {n : Nat} {p : Problem} (h : problemIn? raws n = some p)
    (hfirst : significant 1 (raws.take n) ≠ []) :
    ∃ after, readLines (.below []) 1 raws = readLines (.below []) 1 (raws.take n) ++ .error p :: after ∧
      readLines (.below []) 1 (raws.set n []) = readLines (.below []) 1 (raws.take n) ++ after := by
  obtain ⟨raw, hraw, hread⟩ := readLine_of_problemIn? h
  obtain ⟨hn, rfl⟩ := List.getElem?_eq_some_iff.1 hraw
  have hstand := readLine_error (List.reverse_ne_nil_iff.2 hfirst) hread
  have hlength : 1 + (raws.take n).length = n + 1 := by
    rw [List.length_take_of_le hn.le, Nat.add_comm]
  -- The lines below are read from the same position with the faulty line and without it.
  refine ⟨readLines (.below (significant 1 (raws.take n)).reverse) (n + 1 + 1) (raws.drop (n + 1)), ?_, ?_⟩
  · calc readLines (.below []) 1 raws
        = readLines (.below []) 1 (raws.take n ++ raws[n] :: raws.drop (n + 1)) := by
          rw [← List.drop_eq_getElem_cons hn, List.take_append_drop]
      _ = _ := by
          rw [readLines_append, hlength, List.append_nil, readLines_cons, hstand]
          rfl
  · rw [List.set_eq_take_append_cons_drop, if_pos hn, readLines_append, hlength, List.append_nil, readLines_empty]

end Reader

namespace Description

/-- What is reported of a line of a text, counted from zero. -/
def problemAt? (text : List Char) (n : Nat) : Option Problem := Reader.problemIn? (lines text) n

/-- What a text is read to depends on what its lines give. -/
theorem read_eq (text : List Char) :
    let results := Reader.readLines (.below []) 1 (lines text)
    read text =
      ⟨Reader.assemble (results.filterMap fun r => r.toOption), results.filterMap Reader.problem?, []⟩ := rfl

/-- Faults of a text are those of its lines, at most one of each, and each is told with its line
or is that of a placeholder without a value. Take a faulty line that is not the first to say
something, and make it empty: the description stays the same, line numbers included, and of all
that is reported only its own fault is missing. -/
theorem faults_read (text : List Char) :
    (read text).problems = (List.range (lines text).length).filterMap (problemAt? text) ∧
    (∀ n p, problemAt? text n = some p → Reader.Blames (n + 1) p) ∧
    ∀ n p, problemAt? text n = some p → Reader.significant 1 ((lines text).take n) ≠ [] →
      ∃ after, (read text).problems = (List.range n).filterMap (problemAt? text) ++ p :: after ∧
        read (eraseLine text n) =
          { read text with problems := (List.range n).filterMap (problemAt? text) ++ after } := by
  refine ⟨Reader.problems_readLines (lines text), fun n p hp => ?_, fun n p hp hfirst => ?_⟩
  · obtain ⟨raw, -, hread⟩ := Reader.readLine_of_problemIn? hp
    exact Reader.blamed_readLine hread p rfl
  obtain ⟨raw, hraw, -⟩ := Reader.readLine_of_problemIn? hp
  obtain ⟨hn, -⟩ := List.getElem?_eq_some_iff.1 hraw
  obtain ⟨after, hread, herased⟩ := Reader.readLines_erase hp hfirst
  have hlines : Reader.readLines (.below []) 1 (lines (eraseLine text n)) =
      Reader.readLines (.below []) 1 ((lines text).set n []) := by
    rcases lines_eraseLine hn with h | h
    · rw [h]
    · rw [← h, Reader.readLines_concat_empty]
  refine ⟨after.filterMap Reader.problem?, ?_, ?_⟩
  · simp only [read_eq, hread, List.filterMap_append, Reader.problems_take hn.le]
    rfl
  · simp only [read_eq, hlines, herased, hread, List.filterMap_append, Reader.problems_take hn.le]
    rfl

/-- Two sprites with a faulty line between them, and another at the end, which has no newline. -/
def spoiled : List Char := "SpriteSet\n a >\n b\n  c >\n d".toList

/-- The sprite `c` stays nested in `a` when the line between them is taken away. -/
theorem faults_read_spoiled :
    problemAt? spoiled 2 = some (.badLine 3 .noSpriteArrow) ∧
      problemAt? spoiled 4 = some (.badLine 5 .noSpriteArrow) ∧
      (read spoiled).problems = [.badLine 3 .noSpriteArrow, .badLine 5 .noSpriteArrow] ∧
      (read (eraseLine spoiled 2)).value = (read spoiled).value ∧
      (read (eraseLine spoiled 4)).value = (read spoiled).value := by
  obtain ⟨-, -, herase⟩ := faults_read spoiled
  have hmiddle : problemAt? spoiled 2 = some (.badLine 3 .noSpriteArrow) := by decide +kernel
  have hlast : problemAt? spoiled 4 = some (.badLine 5 .noSpriteArrow) := by decide +kernel
  obtain ⟨after, -, hread⟩ := herase 2 _ hmiddle (by decide +kernel)
  obtain ⟨after', -, hread'⟩ := herase 4 _ hlast (by decide +kernel)
  exact ⟨hmiddle, hlast, by decide +kernel, by rw [hread], by rw [hread']⟩

end Description

end SpriteGame
