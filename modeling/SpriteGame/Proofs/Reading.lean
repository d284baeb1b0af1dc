import SpriteGame.Game.Reader
import SpriteGame.Proofs.Indentation
/-!
# The sprites of a text

What the forest of a description is, said of the lines of its text: `sprites_read`. A walk
of it visits the definitions that the lines of the sprite sections give, in the order of the
text, each under the nearest definition above it that is indented less and in the same
section.
-/
namespace SpriteGame

open Text

namespace Reader

/-! ## Lines and what they give -/

/-- A line that says something, without its comment and the blanks around it. -/
structure Line where
  number : Nat
  indent : Nat
  text : List Char

def Line.of? (number : Nat) (raw : List Char) : Option Line :=
  let content := dropComment raw
  let text := trim content
  if text.isEmpty then none else some ⟨number, indentOf content, text⟩

/-- The lines that say something, where the first has the given number. -/
def significant (number : Nat) (raws : List (List Char)) : List Line :=
  (raws.zipIdx number).filterMap fun p => Line.of? p.2 p.1

/-- The section that a line opens, with the indentation of the line. -/
def Line.header? (l : Line) : Option (Section × Nat) := (Section.ofHeader? l.text).map (·, l.indent)

/-- The section that is open below lines, the nearest first. -/
def opened (above : List Line) : Option (Section × Nat) := above.findSome? Line.header?

/-- The definition that a line below others gives: one in a sprite section, indented more
than the header of the section, that can be read. -/
def definition? (above : List Line) (l : Line) : Option Indented :=
  match opened above with
  | some (.sprites, base) =>
    if base < l.indent then (readSprite l.number l.text).toOption.map (⟨l.indent, ·⟩) else none
  | _ => none

/-- The definitions below the nearest header, the nearest first. -/
def entries (above : List Line) : List Indented :=
  (above.takeWhile (·.header?.isNone)).filterMap (definition? above)

/-- The definitions that lines below others give, in their order, each with the nearest above
it that is indented less, unless a header stands between the two. -/
def visits : List Line → List Line → List (SpriteDef × Option SpriteDef)
  | _, [] => []
  | above, l :: below =>
    ((definition? above l).map fun e => (e.sprite, Outline.enclosing (entries above) e.indent)).toList
      ++ visits (l :: above) below

variable {above : List Line} {l : Line} {number : Nat} {raw text : List Char}

theorem readSprite_ok {d : SpriteDef} (h : readSprite number text = .ok d) : d.children = [] ∧ d.line = number := by
  unfold readSprite at h
  split at h
  · cases h
  · dsimp only at h
    split at h
    · cases h
    · split at h <;> obtain ⟨params, -, hd⟩ := ok_of_bind h <;> cases hd <;> exact ⟨rfl, rfl⟩

/-- A header names no sprite. -/
theorem readSprite_header {sec : Section} (h : Section.ofHeader? text = some sec) :
    ∃ p, readSprite number text = .error p := by
  have harrow : '>' ∉ text := by
    unfold Section.ofHeader? at h
    repeat' split at h
    all_goals first | cases h; done | (subst text; decide)
  rw [readSprite, splitFirst_eq_none.2 harrow]
  exact ⟨_, rfl⟩

theorem definition?_eq_some {e : Indented} (h : definition? above l = some e) :
    ∃ base, opened above = some (.sprites, base) ∧ base < l.indent ∧
      e.indent = l.indent ∧ readSprite l.number l.text = .ok e.sprite := by
  unfold definition? at h
  split at h
  · next base hopened =>
    split at h
    · next hbase =>
      refine ⟨base, hopened, hbase, ?_⟩
      cases hread : readSprite l.number l.text with
      | error p => rw [hread] at h; cases h
      | ok d => rw [hread] at h; cases h; exact ⟨rfl, rfl⟩
    · cases h
  · cases h

theorem definition?_of_header (h : l.header?.isSome) : definition? above l = none := by
  refine Option.eq_none_iff_forall_not_mem.2 fun e he => ?_
  obtain ⟨base, -, -, -, hread⟩ := definition?_eq_some he
  obtain ⟨sec, hsec⟩ := Option.isSome_iff_exists.1 (Option.isSome_map ▸ h)
  obtain ⟨p, hp⟩ : ∃ p, readSprite l.number l.text = .error p := readSprite_header hsec
  rw [hread] at hp
  cases hp

theorem opened_cons_of_none (h : l.header? = none) : opened (l :: above) = opened above := by
  rw [opened, List.findSome?_cons, h]
  rfl

theorem entries_of_header (h : l.header?.isSome) : entries (l :: above) = [] := by
  have hheader : ¬ l.header?.isNone := by simp [Option.isSome_iff_ne_none.1 h]
  simp [entries, hheader]

theorem entries_cons (h : l.header? = none) : entries (l :: above) = (definition? above l).toList ++ entries above := by
  have hentry : definition? (l :: above) = definition? above := by
    funext x
    rw [definition?, definition?, opened_cons_of_none h]
  rw [entries, entries, hentry, List.takeWhile_cons_of_pos (by rw [h]; rfl), List.filterMap_cons]
  cases definition? above l <;> rfl

/-! ## What the reader makes of a line -/

/-- An item that says nothing about sprites. -/
def Item.plain : Item → Bool
  | .header _ | .sprite .. => false
  | _ => true

theorem outlines_plain {item : Item} (h : item.plain) (items : List Item) :
    outlines (item :: items) = outlines items := by
  cases item <;> first | rfl | cases h

theorem readItem_plain {sec : Section} (hsec : sec ≠ .sprites) {indent : Nat} {item : Item}
    (h : readItem sec number indent text = .ok item) : item.plain := by
  cases sec with
  | sprites => exact absurd rfl hsec
  | interactions | terminations | mapping | placeholders =>
    obtain ⟨value, -, hvalue⟩ := ok_of_bind (f := fun _ => .ok _) h
    cases hvalue
    rfl

/-- What a line that says something does below others: it opens a section, gives a definition,
or has nothing to do with sprites. -/
inductive Reads (above : List Line) (l : Line) : Except Problem Item → Prop
  | header (sec : Section) (h : l.header?.isSome) : Reads above l (.ok (.header sec))
  | sprite (e : Indented) (h : l.header? = none) (he : definition? above l = some e) :
      Reads above l (.ok (.sprite e.indent e.sprite))
  | other (result : Except Problem Item) (h : l.header? = none) (he : definition? above l = none)
      (hplain : ∀ item, result = .ok item → item.plain) : Reads above l result

theorem readBody_spec (above : List Line) (l : Line) :
    (readBody (opened above) l.number l.indent l.text).1 = opened (l :: above) ∧
      Reads above l (readBody (opened above) l.number l.indent l.text).2 := by
  unfold readBody
  split
  · next sec hsec =>
    have hheader : l.header? = some (sec, l.indent) := by rw [Line.header?, hsec]; rfl
    exact ⟨by rw [opened, List.findSome?_cons, hheader], .header sec (by rw [hheader]; rfl)⟩
  · next hsec =>
    have hheader : l.header? = none := by rw [Line.header?, hsec]; rfl
    rw [opened_cons_of_none hheader]
    cases hopened : opened above with
    | none => exact ⟨rfl, .other _ hheader (by simp [definition?, hopened]) nofun⟩
    | some p =>
      obtain ⟨sec, base⟩ := p
      dsimp only
      split
      · next hle =>
        have hnone : definition? above l = none := by
          cases sec <;> simp [definition?, hopened, Nat.not_lt.2 hle]
        exact ⟨rfl, .other _ hheader hnone nofun⟩
      · next hlt =>
        refine ⟨rfl, ?_⟩
        by_cases hsec : sec = .sprites
        · subst hsec
          have hentry : definition? above l = (readSprite l.number l.text).toOption.map (⟨l.indent, ·⟩) := by
            simp [definition?, hopened, Nat.not_le.1 hlt]
          cases hread : readSprite l.number l.text with
          | error p =>
            rw [readItem, hread]
            exact .other _ hheader (by rw [hentry, hread]; rfl) nofun
          | ok d =>
            rw [readItem, hread]
            exact .sprite ⟨l.indent, d⟩ hheader (by rw [hentry, hread]; rfl)
        · have hnone : definition? above l = none := by
            cases sec <;> first | exact absurd rfl hsec | simp [definition?, hopened]
          exact .other _ hheader hnone fun item => readItem_plain hsec

theorem readLine_blank {pos : Position} (h : Line.of? number raw = none) : readLine pos number raw = (pos, none) := by
  unfold Line.of? at h
  dsimp only at h
  split at h
  · next hblank => rw [readLine, if_pos hblank]
  · cases h

/-- The game's own line is no header. -/
theorem ofHeader?_of_game {tokens : List (List Char)}
    (h : words text = ['B', 'a', 's', 'i', 'c', 'G', 'a', 'm', 'e'] :: tokens) : Section.ofHeader? text = none := by
  have hfirst : (words text).head? = some "BasicGame".toList := by
    rw [h]
    rfl
  unfold Section.ofHeader?
  repeat' split
  all_goals first | rfl | (subst text; exact absurd hfirst (by decide))

theorem readLine_spec {pos : Position} (hopened : pos.opened = opened above)
    (hstarted : pos.started = false → above = [])
    (h : Line.of? number raw = some l) :
    ∃ result, readLine pos number raw = (⟨true, opened (l :: above)⟩, some result) ∧ Reads above l result := by
  unfold Line.of? at h
  dsimp only at h
  split at h
  · cases h
  · next htext =>
    cases h
    rw [readLine, if_neg htext]
    split
    · next tokens hstart hwords =>
      -- the game's own line stands above all sections
      obtain rfl := hstarted hstart
      have hheader := ofHeader?_of_game hwords
      refine ⟨_, by rw [hopened, opened_cons_of_none (by rw [Line.header?, hheader]; rfl)], ?_⟩
      refine .other _ (by rw [Line.header?, hheader]; rfl) rfl fun item hitem => ?_
      obtain ⟨params, -, hparams⟩ := ok_of_bind (f := fun _ => .ok _) hitem
      cases hparams
      rfl
    · obtain ⟨hnext, hreads⟩ :=
        readBody_spec above ⟨number, indentOf (dropComment raw), trim (dropComment raw)⟩
      rw [hopened]
      exact ⟨_, by rw [← hnext], hreads⟩

/-! ## The outlines of the lines -/

/-- The items of lines, those that cannot be read left out. -/
def items (pos : Position) (number : Nat) (raws : List (List Char)) : List Item :=
  (readLines pos number raws).filterMap fun r => r.toOption

theorem items_blank (h : Line.of? number raw = none) (pos : Position) (raws : List (List Char)) :
    items pos number (raw :: raws) = items pos (number + 1) raws := by
  rw [items, readLines, readLine_blank h]
  rfl

theorem items_line {pos : Position} (hopened : pos.opened = opened above)
    (hstarted : pos.started = false → above = [])
    (h : Line.of? number raw = some l) (raws : List (List Char)) :
    ∃ result, Reads above l result ∧ items pos number (raw :: raws) =
      result.toOption.toList ++ items ⟨true, opened (l :: above)⟩ (number + 1) raws := by
  obtain ⟨result, hread, hreads⟩ := readLine_spec hopened hstarted h
  refine ⟨result, hreads, ?_⟩
  rw [items, readLines, hread]
  cases result <;> rfl

theorem significant_cons (number : Nat) (raw : List Char) (raws : List (List Char)) :
    significant number (raw :: raws) = (Line.of? number raw).toList ++ significant (number + 1) raws := by
  cases h : Line.of? number raw <;> simp [significant, h]

/-- The outlines of the items are the definitions of the lines, cut at the headers. -/
theorem outlines_items (raws : List (List Char)) {pos : Position} (hopened : pos.opened = opened above)
    (hstarted : pos.started = false → above = []) (number : Nat) :
    ∃ current later, outlines (items pos number raws) = current :: later ∧
      Outline.visits none (entries above) current ++ later.flatMap (Outline.visits none []) =
        visits above (significant number raws) := by
  induction raws generalizing pos above number with
  | nil => exact ⟨[], [], rfl, rfl⟩
  | cons raw raws ih =>
    rw [significant_cons]
    cases hline : Line.of? number raw with
    | none =>
      rw [items_blank hline]
      exact ih hopened hstarted (number + 1)
    | some l =>
      obtain ⟨result, hreads, hitems⟩ := items_line hopened hstarted hline raws
      have hnext : (⟨true, opened (l :: above)⟩ : Position).opened = opened (l :: above) := rfl
      obtain ⟨current, later, hout, hvisits⟩ := ih hnext nofun (number + 1)
      rw [hitems, Option.toList_some, List.singleton_append, visits, ← hvisits]
      cases hreads with
      | header sec h =>
        refine ⟨[], current :: later, by simp [outlines, hout, Except.toOption], ?_⟩
        rw [definition?_of_header h, entries_of_header h]
        rfl
      | sprite e h he =>
        refine ⟨e :: current, later, by simp [outlines, hout, Except.toOption], ?_⟩
        rw [entries_cons h, he]
        simp [Outline.visits]
      | other result h he hplain =>
        rw [entries_cons h, he]
        cases result with
        | error p => exact ⟨current, later, hout, rfl⟩
        | ok item => exact ⟨current, later, (outlines_plain (hplain item rfl) _).trans hout, rfl⟩

/-- A definition that is read encloses none yet. -/
theorem children_of_mem_items {raws : List (List Char)} {pos : Position} (hopened : pos.opened = opened above)
    (hstarted : pos.started = false → above = []) {indent : Nat} {d : SpriteDef}
    (h : .sprite indent d ∈ items pos number raws) : d.children = [] := by
  induction raws generalizing pos above number with
  | nil => cases h
  | cons raw raws ih =>
    cases hline : Line.of? number raw with
    | none =>
      rw [items_blank hline] at h
      exact ih hopened hstarted h
    | some l =>
      obtain ⟨result, hreads, hitems⟩ := items_line hopened hstarted hline raws
      rw [hitems, List.mem_append] at h
      rcases h with h | h
      · cases hreads with
        | header sec hl => simp [Except.toOption] at h
        | sprite e hl he =>
          obtain ⟨base, -, -, -, hread⟩ := definition?_eq_some he
          obtain ⟨-, rfl⟩ : indent = e.indent ∧ d = e.sprite := by simpa [Except.toOption] using h
          exact (readSprite_ok hread).1
        | other result hl he hplain =>
          cases result with
          | error p => cases h
          | ok item =>
            obtain rfl := List.mem_singleton.1 h
            exact absurd (hplain _ rfl) Bool.false_ne_true
      · have hnext : (⟨true, opened (l :: above)⟩ : Position).opened = opened (l :: above) := rfl
        exact ih hnext nofun h

/-! ## The forest of the lines -/

theorem outlines_ne_nil (l : List Item) : outlines l ≠ [] := by
  induction l with
  | nil => exact List.cons_ne_nil _ _
  | cons item l ih =>
    cases item <;> first | exact ih | (cases h : outlines l <;> simp [outlines, h])

/-- What an item does to a forest that is read: a definition closes those that are not
indented less, and a header closes all. -/
def grow (g : Growth) : Item → Growth
  | .header _ => g.close 0
  | .sprite indent sprite => g.enter ⟨indent, sprite⟩
  | _ => g

theorem close_grow {l : List Item} (hbare : ∀ indent d, .sprite indent d ∈ l → d.children = []) {g : Growth}
    (hg : g.Ascending) {current : List Indented} {later : List (List Indented)} (hout : outlines l = current :: later) :
    (l.foldl grow g).close 0 = ⟨g.finish (Outline.trees current) ++ later.flatMap Outline.forest, []⟩ := by
  induction l generalizing g current later with
  | nil =>
    cases hout
    rw [List.flatMap_nil, List.append_nil]
    exact Growth.close_zero hg
  | cons item l ih =>
    obtain ⟨next, rest, hnext⟩ := List.exists_cons_of_ne_nil (outlines_ne_nil l)
    have hbare' : ∀ indent d, .sprite indent d ∈ l → d.children = [] := fun indent d h =>
      hbare indent d (List.mem_cons_of_mem item h)
    cases item with
    | header sec =>
      obtain ⟨rfl, rfl⟩ : [] = current ∧ next :: rest = later := by simpa [outlines, hnext] using hout
      rw [List.foldl_cons, grow, Growth.close_zero hg, ih hbare' (Growth.ascending_closed _) hnext]
      simp [Growth.finish, Outline.forest, Outline.trees]
    | sprite indent d =>
      obtain ⟨rfl, rfl⟩ : ⟨indent, d⟩ :: next = current ∧ rest = later := by
        simpa [outlines, hnext] using hout
      rw [List.foldl_cons, grow, ih hbare' (Growth.ascending_enter hg _) hnext,
        Growth.finish_enter hg (hbare indent d List.mem_cons_self)]
    | game | interactions | termination | mapping | placeholder =>
      exact ih hbare' hg hout

theorem walkAll_forests (outlines : List (List Indented)) :
    (SpriteDef.walkAll none (outlines.flatMap Outline.forest)).map SpriteDef.bareVisit =
      (outlines.flatMap (Outline.visits none [])).map SpriteDef.bareVisit := by
  induction outlines with
  | nil => rfl
  | cons outline outlines ih =>
    rw [List.flatMap_cons, List.flatMap_cons, SpriteDef.walkAll_append, List.map_append, List.map_append, ih,
      Outline.walk_forest rfl]

theorem bare_of_definition? {e : Indented} (h : definition? above l = some e) : e.sprite.bare = e.sprite := by
  obtain ⟨base, -, -, -, hread⟩ := definition?_eq_some h
  have hchildren := (readSprite_ok hread).1
  cases hd : e.sprite
  rw [hd] at hchildren
  rw [SpriteDef.bare, ← hchildren]

theorem bare_enclosing (above : List Line) (indent : Nat) :
    (Outline.enclosing (entries above) indent).map SpriteDef.bare = Outline.enclosing (entries above) indent := by
  unfold Outline.enclosing
  cases hfind : (entries above).find? (·.indent < indent) with
  | none => rfl
  | some e =>
    obtain ⟨x, -, hx⟩ := List.mem_filterMap.1 (List.mem_of_find?_eq_some hfind)
    exact congrArg some (bare_of_definition? hx)

theorem bareVisit_visits (above below : List Line) :
    (visits above below).map SpriteDef.bareVisit = visits above below := by
  induction below generalizing above with
  | nil => rfl
  | cons l below ih =>
    rw [visits, List.map_append, ih]
    cases he : definition? above l with
    | none => rfl
    | some e => simp [SpriteDef.bareVisit, bare_of_definition? he, bare_enclosing]

theorem lines_visits (above below : List Line) :
    ((visits above below).map fun v => v.1.line).Sublist (below.map (·.number)) := by
  induction below generalizing above with
  | nil => exact List.Sublist.slnil
  | cons l below ih =>
    rw [visits, List.map_append, List.map_cons]
    cases he : definition? above l with
    | none => exact (ih (l :: above)).cons _
    | some e =>
      obtain ⟨base, -, -, -, hread⟩ := definition?_eq_some he
      simpa [(readSprite_ok hread).2] using ih (l :: above)

theorem ascending_significant (number : Nat) (raws : List (List Char)) :
    ((significant number raws).map (·.number)).Pairwise (· < ·) := by
  have hall : (raws.zipIdx number).Pairwise (fun p q => p.2 < q.2) := by
    rw [← List.pairwise_map, List.zipIdx_map_snd]
    exact List.pairwise_lt_range'
  have hnumber : ∀ (p : List Char × Nat) l, Line.of? p.2 p.1 = some l → l.number = p.2 := by
    intro p l h
    unfold Line.of? at h
    dsimp only at h
    split at h <;> cases h
    rfl
  refine List.pairwise_map.2 (hall.filterMap _ fun p q hpq l hl m hm => ?_)
  rw [hnumber p l hl, hnumber q m hm]
  exact hpq

end Reader

/-- The sprites of a description, for every text. A walk visits the definitions that the lines
give, each once and in the order of the text, under the nearest one above it that is indented
less with no header between. They are the trees that grow when a definition closes those that
are not indented less; a round of closing closes one, so that closing ends. -/
theorem Description.sprites_read (text : List Char) :
    let d := (read text).value
    let items := Reader.items ⟨false, none⟩ 1 (lines text)
    d.walk.map SpriteDef.bareVisit = Reader.visits [] (Reader.significant 1 (lines text)) ∧
      (d.walk.map fun v => v.1.line).Pairwise (· < ·) ∧
      d.sprites = ((items.foldl Reader.grow ⟨[], []⟩).close 0).roots ∧
      ∀ indent, WellFounded fun g' g : Growth => g.round? indent = some g' := by
  intro d items
  have hsprites : d.sprites = (Reader.outlines items).flatMap Outline.forest := rfl
  have hstart : (⟨false, none⟩ : Reader.Position).opened = Reader.opened [] := rfl
  obtain ⟨current, later, hout, hvisits⟩ := Reader.outlines_items (lines text) hstart (fun _ => rfl) 1
  have hwalk : d.walk.map SpriteDef.bareVisit = Reader.visits [] (Reader.significant 1 (lines text)) := by
    rw [walk, hsprites, Reader.walkAll_forests, ← Reader.bareVisit_visits, ← hvisits, hout]
    rfl
  refine ⟨hwalk, ?_, ?_, fun indent => ?_⟩
  · have hlines : d.walk.map (fun v => v.1.line) =
        (Reader.visits [] (Reader.significant 1 (lines text))).map fun v => v.1.line := by
      rw [← hwalk, List.map_map]
      rfl
    rw [hlines]
    exact (Reader.ascending_significant 1 (lines text)).sublist (Reader.lines_visits _ _)
  · have hbare : ∀ indent s, .sprite indent s ∈ items → s.children = [] := fun indent s h =>
      Reader.children_of_mem_items hstart (fun _ => rfl) h
    rw [hsprites, Reader.close_grow hbare (Growth.ascending_closed _) hout, hout]
    rfl
  · refine Subrelation.wf (fun h => ?_) (measure fun g : Growth => g.stack.length).wf
    exact Nat.lt_of_succ_le (Nat.le_of_eq (Growth.length_round? h).symm)

end SpriteGame
