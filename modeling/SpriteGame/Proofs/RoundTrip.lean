import SpriteGame.Proofs.Assembly
import SpriteGame.Proofs.Words
/-!
# Reading what was written

The canonical text of a description reads back as that description: `read_write`. Every line
that is written gives the item that it is written for (`Gives`), so that all lines yield the
items of the description (`Yields`, `yields_script`), from which it is put together again.
-/
namespace SpriteGame

open Text

namespace Reader

/-! ## Parameters and headers -/

theorem token_params {p : Params} (h : p.Writable) : ∀ w ∈ Writer.params p, Token w := by
  intro w hw
  obtain ⟨e, he, rfl⟩ := List.mem_map.1 hw
  obtain ⟨hkey, -, hvalue⟩ := h e he
  refine ⟨by simp, fun c hc => ?_⟩
  rcases List.mem_append.1 hc with hc | hc
  · exact hkey.2 c hc
  · rcases List.mem_cons.1 hc with rfl | hc
    · decide
    · exact hvalue c hc

theorem keyValue?_eq {key value : String} (hne : key.toList ≠ []) (h : '=' ∉ key.toList) :
    keyValue? (key.toList ++ '=' :: value.toList) = some (key, value) := by
  obtain ⟨k, ks, hkey⟩ := List.exists_cons_of_ne_nil hne
  have hsplit : splitFirst '=' (key.toList ++ '=' :: value.toList) = some (k :: ks, value.toList) :=
    splitFirst_eq_some.2 ⟨by rw [hkey], hkey ▸ h⟩
  rw [keyValue?, hsplit]
  dsimp only
  rw [← hkey, String.ofList_toList, String.ofList_toList]

/-- Parameters read back, since their keys are written in ascending order. -/
theorem readParams_params (line : Nat) {p : Params} (h : p.Writable) : readParams line (Writer.params p) = .ok p := by
  unfold readParams Writer.params
  rw [List.foldlM_map]
  refine Eq.trans (@foldlM_eq _ _ _ _ (fun (params : Params) (e : String × String) => params.insert e.1 e.2)
    (fun _ => True) _ (fun params _ e he => ⟨?_, trivial⟩) _ trivial).1 (congrArg _ p.ofList_entries)
  obtain ⟨hkey, hsep, -⟩ := h e he
  rw [keyValue?_eq hkey.1 hsep]

theorem ofHeader?_keyword (sec : Section) : Section.ofHeader? sec.keyword.toList = some sec := by
  cases sec <;> rfl

/-- A header is one word. -/
theorem ofHeader?_eq_none {s : List Char} (h : (words s).length ≠ 1) : Section.ofHeader? s = none := by
  unfold Section.ofHeader?
  repeat' split
  all_goals first | rfl | (subst s; exact absurd rfl h)

/-! ## Items -/

section Items

variable (n : Nat)

/-- The name in front of an arrow, and the words after it. -/
theorem splitFirst_name {w : List Char} (hw : '>' ∉ w) (rhs : List (List Char)) :
    splitFirst '>' (joinWith ' ' (w :: ['>'] :: rhs)) = some (w ++ [' '], spaced rhs) :=
  @splitFirst_arrow [w] rhs (List.cons_ne_nil _ _) (by simpa using hw)

theorem token_arrow : Token ['>'] := by decide

/-- What stands behind the arrow of a definition. -/
theorem token_class {d : SpriteDef} (h : d.Writable) :
    ∀ w ∈ d.keyword.toList.map String.toList ++ Writer.params d.params, Token w := by
  obtain ⟨-, hkeyword, hparams⟩ := h
  intro w hw
  rcases List.mem_append.1 hw with hw | hw
  · obtain ⟨k, hk, rfl⟩ := List.mem_map.1 hw
    exact (hkeyword k (Option.mem_toList.1 hk)).1
  · exact token_params hparams w hw

theorem readSprite_written {d : SpriteDef} (h : d.Writable) :
    readSprite n (joinWith ' ' (d.name.toList :: ['>'] ::
      (d.keyword.toList.map String.toList ++ Writer.params d.params))) =
        .ok { d with children := [], line := n } := by
  have htokens := token_class h
  obtain ⟨name, keyword, own, children, line⟩ := d
  obtain ⟨hname, hkeyword, hown⟩ := h
  have hparams := readParams_params n hown
  unfold readSprite
  dsimp only at *
  rw [splitFirst_name hname.2]
  dsimp only
  rw [trim_append_blank hname.1.trimmed hname.1.1, hname.1.no_blank, if_neg Bool.false_ne_true,
    words_spaced htokens, String.ofList_toList]
  cases keyword with
  | some k =>
    have hsep : k.toList.contains '=' = false := by simpa using (hkeyword k rfl).2
    rw [Option.toList_some, List.map_cons, List.map_nil, List.singleton_append]
    dsimp only
    rw [hsep, if_neg Bool.false_ne_true]
    dsimp only
    rw [hparams, String.ofList_toList]
    rfl
  | none =>
    -- without a class the first word is a parameter already
    have hsep : ∀ w ∈ Writer.params own, '=' ∈ w := by
      intro w hw
      obtain ⟨e, -, rfl⟩ := List.mem_map.1 hw
      simp
    cases htokens : Writer.params own with
    | nil =>
      rw [htokens] at hparams
      simp [hparams]
    | cons t ts =>
      rw [htokens] at hparams hsep
      have hsep : t.contains '=' = true := by simpa using hsep t List.mem_cons_self
      rw [Option.toList_none, List.map_nil, List.nil_append]
      dsimp only
      rw [if_pos hsep]
      dsimp only
      rw [hparams]
      rfl

theorem token_interaction {r : InteractionDef} (h : r.Writable) :
    ∀ w ∈ r.first.toList :: r.second.toList :: ['>'] :: r.effect.toList :: Writer.params r.params, Token w := by
  obtain ⟨hfirst, hsecond, heffect, hparams⟩ := h
  simpa using ⟨hfirst.1, hsecond.1, token_arrow, heffect, token_params hparams⟩

theorem readInteraction_written {r : InteractionDef} (h : r.Writable) :
    readInteraction n (joinWith ' ' (r.first.toList :: r.second.toList :: ['>'] :: r.effect.toList ::
      Writer.params r.params)) = .ok [{ r with line := n }] := by
  have hall := token_interaction h
  obtain ⟨hfirst, hsecond, heffect, hparams⟩ := h
  have hrhs : ∀ w ∈ r.effect.toList :: Writer.params r.params, Token w :=
    List.forall_mem_cons.2 ⟨heffect, token_params hparams⟩
  have hlhs : ∀ w ∈ [r.first.toList, r.second.toList], Token w := by
    simpa using ⟨hfirst.1, hsecond.1⟩
  have hwords : words (joinWith ' ' [r.first.toList, r.second.toList] ++ [' ']) =
      [r.first.toList, r.second.toList] := by
    rw [words_append_blank (by decide), words_joinWith hlhs, words_nil, List.append_nil]
  have hsplit : splitFirst '>' (joinWith ' ' (r.first.toList :: r.second.toList :: ['>'] :: r.effect.toList ::
      Writer.params r.params)) = some (joinWith ' ' [r.first.toList, r.second.toList] ++ [' '], _) :=
    @splitFirst_arrow [_, _] _ (List.cons_ne_nil _ _) (by simpa using ⟨hfirst.2, hsecond.2⟩)
  unfold readInteraction
  rw [dropComment_joinWith hall, hsplit]
  dsimp only
  rw [hwords, words_spaced hrhs]
  dsimp only
  simp only [readParams_params n hparams, String.ofList_toList, List.map_cons, List.map_nil]
  rfl

theorem token_termination {t : TerminationDef} (h : t.Writable) :
    ∀ w ∈ t.kind.toList :: Writer.params t.params, Token w :=
  List.forall_mem_cons.2 ⟨h.1, token_params h.2.1⟩

theorem readTermination_written {t : TerminationDef} (h : t.Writable) :
    readTermination n (joinWith ' ' (t.kind.toList :: Writer.params t.params)) = .ok { t with line := n } := by
  unfold readTermination
  rw [dropComment_joinWith (token_termination h), words_joinWith (token_termination h)]
  dsimp only
  rw [readParams_params n h.2.1, String.ofList_toList]
  rfl

theorem readMapping_written {c : Char} {names : List String} (hc : Name [c])
    (hnames : ∀ name ∈ names, Token name.toList) :
    readMapping n (joinWith ' ' ([c] :: ['>'] :: names.map String.toList)) = .ok (c, names) := by
  have hrhs : ∀ w ∈ names.map String.toList, Token w := List.forall_mem_map.2 hnames
  have htrim : trim ([c] ++ [' ']) = [c] := trim_append_blank hc.1.trimmed hc.1.1
  unfold readMapping
  rw [splitFirst_name hc.2]
  dsimp only
  rw [htrim, words_spaced hrhs, List.map_map]
  simp

theorem writable_value {value : String} (h : Clean value.toList) :
    Params.Writable (SortedMap.empty.insert "value" value) := by
  intro e he
  obtain rfl := List.mem_singleton.1 he
  exact ⟨(by decide : Token "value".toList), (by decide : '=' ∉ "value".toList), h⟩

theorem params_value (value : String) :
    Writer.params (SortedMap.empty.insert "value" value) = ["value=".toList ++ value.toList] := by
  have hkey : "value=".toList = "value".toList ++ ['='] := by decide
  rw [hkey, List.append_assoc]
  rfl

theorem readPlaceholder_written {name value : String} (hname : Name name.toList) (hvalue : Clean value.toList) :
    readPlaceholder n (joinWith ' ' [name.toList, ['>'], "value=".toList ++ value.toList]) = .ok (name, value) := by
  have hown := writable_value hvalue
  have hrhs : ∀ w ∈ ["value=".toList ++ value.toList], Token w := params_value value ▸ token_params hown
  unfold readPlaceholder
  rw [splitFirst_name hname.2]
  dsimp only
  rw [trim_append_blank hname.1.trimmed hname.1.1, words_spaced hrhs, ← params_value, readParams_params n hown,
    String.ofList_toList]
  rfl

end Items

/-! ## Lines -/

/-- A line on its own is read as an item, whatever its number. -/
structure Gives (pos : Position) (raw : List Char) (item : Item) (pos' : Position) : Prop where
  oneLine : '\n' ∉ raw ∧ '\r' ∉ raw
  reads : ∀ n, ∃ item', readLine pos n raw = (pos', some (.ok item')) ∧ item'.unnumbered = item.unnumbered

/-- Lines that are read as items, one after the other. -/
inductive Yields : Position → List (List Char) → List Item → Position → Prop
  | nil (pos : Position) : Yields pos [] [] pos
  | cons {pos mid pos' : Position} {raw : List Char} {raws : List (List Char)} {item : Item} {items : List Item}
      (h : Gives pos raw item mid) (hs : Yields mid raws items pos') : Yields pos (raw :: raws) (item :: items) pos'

variable {pos mid pos' : Position} {raws raws' : List (List Char)} {items items' : List Item}

theorem Yields.append (h : Yields pos raws items mid) (h' : Yields mid raws' items' pos') :
    Yields pos (raws ++ raws') (items ++ items') pos' := by
  induction h with
  | nil => exact h'
  | cons hline _ ih => exact .cons hline (ih h')

/-- Lines that leave the position as it is. -/
theorem Yields.map {α : Type} {raw : α → List Char} {item : α → Item} {xs : List α}
    (h : ∀ x ∈ xs, Gives pos (raw x) (item x) pos) : Yields pos (xs.map raw) (xs.map item) pos := by
  induction xs with
  | nil => exact .nil pos
  | cons x xs ih =>
    obtain ⟨hx, hxs⟩ := List.forall_mem_cons.1 h
    exact .cons hx (ih hxs)

theorem Yields.oneLine (h : Yields pos raws items pos') : ∀ raw ∈ raws, '\n' ∉ raw ∧ '\r' ∉ raw := by
  induction h with
  | nil => exact nofun
  | cons hline _ ih => exact List.forall_mem_cons.2 ⟨hline.oneLine, ih⟩

theorem Yields.results (h : Yields pos raws items pos') (n : Nat) :
    ∃ items' : List Item, readLines pos n raws = items'.map .ok ∧
      items'.map Item.unnumbered = items.map Item.unnumbered := by
  induction h generalizing n with
  | nil => exact ⟨[], rfl, rfl⟩
  | cons hline _ ih =>
    obtain ⟨item', hread, hitem⟩ := hline.reads n
    obtain ⟨items', hreads, hitems⟩ := ih (n + 1)
    refine ⟨item' :: items', ?_, by rw [List.map_cons, List.map_cons, hitem, hitems]⟩
    rw [readLines, hread]
    dsimp only
    rw [hreads]
    rfl

section Lines

variable {ws : List (List Char)} {indent base : Nat} {sec : Section}

theorem oneLine_line (hws : ∀ w ∈ ws, Token w) (indent : Nat) :
    '\n' ∉ Writer.line indent ws ∧ '\r' ∉ Writer.line indent ws := by
  constructor <;> intro hc <;> rcases mem_line hws hc with hc | ⟨hc, -⟩ <;> exact absurd hc (by decide)

theorem readLine_line (hws : ∀ w ∈ ws, Token w) (hne : ws ≠ []) (opened : Option (Section × Nat)) (n : Nat) :
    let body := readBody opened n indent (joinWith ' ' ws)
    readLine ⟨true, opened⟩ n (Writer.line indent ws) = (⟨true, body.1⟩, some body.2) := by
  have htext : ¬ (joinWith ' ' ws).isEmpty := by simpa using joinWith_ne_nil hne hws
  unfold readLine
  dsimp only
  rw [dropComment_line hws, trim_line hws, if_neg htext, indentOf_line hws]

/-- A line in an open section that is no header gives an item of that section. -/
theorem gives_line (hws : ∀ w ∈ ws, Token w) (hne : ws ≠ []) (hheader : Section.ofHeader? (joinWith ' ' ws) = none)
    (hindent : base < indent) {item : Item}
    (hitem : ∀ n, ∃ item', readItem sec n indent (joinWith ' ' ws) = .ok item' ∧ item'.unnumbered = item.unnumbered) :
    Gives ⟨true, some (sec, base)⟩ (Writer.line indent ws) item ⟨true, some (sec, base)⟩ := by
  refine ⟨oneLine_line hws indent, fun n => ?_⟩
  obtain ⟨item', hread, hsame⟩ := hitem n
  refine ⟨item', ?_, hsame⟩
  rw [readLine_line hws hne, readBody, hheader]
  dsimp only
  rw [if_neg (Nat.not_le.2 hindent), hread]

theorem gives_header (opened : Option (Section × Nat)) (sec : Section) :
    Gives ⟨true, opened⟩ (Writer.header sec) (.header sec) ⟨true, some (sec, 4)⟩ := by
  have hws : ∀ w ∈ [sec.keyword.toList], Token w := by cases sec <;> decide
  refine ⟨oneLine_line hws 4, fun n => ⟨.header sec, ?_, rfl⟩⟩
  rw [Writer.header, readLine_line hws (List.cons_ne_nil _ _), joinWith]
  unfold readBody
  rw [ofHeader?_keyword]

/-- The game's own line comes before all others. -/
theorem gives_game {p : Params} (h : p.Writable) :
    Gives ⟨false, none⟩ (Writer.line 0 ("BasicGame".toList :: Writer.params p)) (.game p) ⟨true, none⟩ := by
  have hws : ∀ w ∈ "BasicGame".toList :: Writer.params p, Token w :=
    List.forall_mem_cons.2 ⟨by decide, token_params h⟩
  refine ⟨oneLine_line hws 0, fun n => ⟨.game p, ?_, rfl⟩⟩
  have htext : ¬ (joinWith ' ' ("BasicGame".toList :: Writer.params p)).isEmpty := by
    simpa using joinWith_ne_nil (List.cons_ne_nil _ _) hws
  have hwords : words (joinWith ' ' ("BasicGame".toList :: Writer.params p)) =
      ['B', 'a', 's', 'i', 'c', 'G', 'a', 'm', 'e'] :: Writer.params p := words_joinWith hws
  unfold readLine
  dsimp only
  rw [dropComment_line hws, trim_line hws, if_neg htext, hwords]
  exact congrArg (fun r : Except Problem Params => ((⟨true, none⟩ : Position), some (r.map Item.game)))
    (readParams_params n h)

end Lines

/-! ## Sections -/

/-- A line of more words than one is no header. -/
theorem ofHeader?_long (hws : ∀ w ∈ ws, Token w) (hlong : 1 < ws.length) :
    Section.ofHeader? (joinWith ' ' ws) = none :=
  ofHeader?_eq_none (by rw [words_joinWith hws]; omega)

/-- The position in a section. -/
def inside (sec : Section) : Position := ⟨true, some (sec, 4)⟩

theorem gives_sprite {d : SpriteDef} (h : d.Writable) {indent : Nat} (hindent : 4 < indent) :
    Gives (inside .sprites)
      (Writer.line indent (d.name.toList :: ['>'] :: (d.keyword.toList.map String.toList ++ Writer.params d.params)))
      (.sprite indent { d with children := [] }) (inside .sprites) := by
  have hws := List.forall_mem_cons.2 ⟨h.1.1, List.forall_mem_cons.2 ⟨token_arrow, token_class h⟩⟩
  refine gives_line hws (List.cons_ne_nil _ _) (ofHeader?_long hws (by simp)) hindent fun n => ?_
  exact ⟨.sprite indent { d with children := [], line := n }, by rw [readItem, readSprite_written n h]; rfl, rfl⟩

theorem gives_interaction {r : InteractionDef} (h : r.Writable) :
    Gives (inside .interactions) (Writer.interaction r) (.interactions [r]) (inside .interactions) := by
  have hws := token_interaction h
  refine gives_line hws (List.cons_ne_nil _ _) (ofHeader?_long hws (by simp)) (by decide) fun n => ?_
  exact ⟨.interactions [{ r with line := n }], by rw [readItem, readInteraction_written n h]; rfl, rfl⟩

theorem gives_termination {t : TerminationDef} (h : t.Writable) :
    Gives (inside .terminations) (Writer.termination t) (.termination t) (inside .terminations) := by
  have hws := token_termination h
  have hheader : Section.ofHeader? (joinWith ' ' (t.kind.toList :: Writer.params t.params)) = none := by
    by_cases hempty : t.params.entries = []
    · rw [Writer.params, hempty]
      exact h.2.2 hempty
    · have hpos := List.length_pos_iff.2 hempty
      exact ofHeader?_long hws (by simpa [Writer.params] using hpos)
  refine gives_line hws (List.cons_ne_nil _ _) hheader (by decide) fun n => ?_
  exact ⟨.termination { t with line := n }, by rw [readItem, readTermination_written n h]; rfl, rfl⟩

theorem gives_mapping {e : Char × List String} (hc : Name [e.1]) (hnames : ∀ name ∈ e.2, Token name.toList) :
    Gives (inside .mapping) (Writer.mapping e) (.mapping e.1 e.2) (inside .mapping) := by
  have hws := List.forall_mem_cons.2 ⟨hc.1, List.forall_mem_cons.2 ⟨token_arrow, List.forall_mem_map.2 hnames⟩⟩
  refine gives_line hws (List.cons_ne_nil _ _) (ofHeader?_long hws (by simp)) (by decide) fun n => ?_
  exact ⟨.mapping e.1 e.2, by rw [readItem, readMapping_written n hc hnames]; rfl, rfl⟩

theorem gives_placeholder {e : String × String} (hname : Name e.1.toList) (hvalue : Clean e.2.toList) :
    Gives (inside .placeholders) (Writer.placeholder e) (.placeholder e.1 e.2) (inside .placeholders) := by
  have hvalues := token_params (writable_value hvalue)
  rw [params_value] at hvalues
  have hws := List.forall_mem_cons.2 ⟨hname.1, List.forall_mem_cons.2 ⟨token_arrow, hvalues⟩⟩
  refine gives_line hws (List.cons_ne_nil _ _) (ofHeader?_long hws (by simp)) (by decide) fun n => ?_
  exact ⟨.placeholder e.1 e.2, by rw [readItem, readPlaceholder_written n hname hvalue]; rfl, rfl⟩

mutual

theorem yields_sprite (d : SpriteDef) (parent : Option SpriteDef) {indent : Nat} (hindent : 4 < indent)
    (h : ∀ v ∈ SpriteDef.walk parent d, v.1.Writable) :
    Yields (inside .sprites) (Writer.sprite indent d) ((d.outline indent).map Indented.item) (inside .sprites) := by
  match d with
  | ⟨name, keyword, own, children, line⟩ =>
    obtain ⟨hself, hchildren⟩ := List.forall_mem_cons.1 h
    exact .cons (gives_sprite hself hindent) (yields_sprites children _ (Nat.lt_add_right 4 hindent) hchildren)

theorem yields_sprites (ds : List SpriteDef) (parent : Option SpriteDef) {indent : Nat} (hindent : 4 < indent)
    (h : ∀ v ∈ SpriteDef.walkAll parent ds, v.1.Writable) :
    Yields (inside .sprites) (Writer.sprites indent ds) ((SpriteDef.outlineAll indent ds).map Indented.item)
      (inside .sprites) := by
  match ds with
  | [] => exact .nil _
  | d :: ds =>
    obtain ⟨hd, hds⟩ := List.forall_mem_append.1 h
    rw [Writer.sprites, SpriteDef.outlineAll, List.map_append]
    exact (yields_sprite d parent hindent hd).append (yields_sprites ds parent hindent hds)

end

/-- The lines of a description are read as its items. -/
theorem yields_script {d : Description} (h : d.Writable) :
    Yields ⟨false, none⟩ (Writer.script d) d.items (inside .mapping) := by
  have hgame : Yields ⟨false, none⟩ [_] [.game d.gameParams] ⟨true, none⟩ := .cons (gives_game h.gameParams) (.nil _)
  have hsprites := yields_sprites d.sprites none (by decide : 4 < 8) h.sprites
  have hplaceholders : Yields (inside .placeholders) (d.placeholders.entries.map Writer.placeholder) _ _ :=
    .map fun e he => gives_placeholder (h.placeholders e he).1 (h.placeholders e he).2
  have hinteractions : Yields (inside .interactions) (d.interactions.map Writer.interaction) _ _ :=
    .map fun r hr => gives_interaction (h.interactions r hr)
  have hterminations : Yields (inside .terminations) (d.terminations.map Writer.termination) _ _ :=
    .map fun t ht => gives_termination (h.terminations t ht)
  have hmapping : Yields (inside .mapping) (d.levelMapping.entries.map Writer.mapping) _ _ :=
    .map fun e he => gives_mapping (h.mapping e he).1 (h.mapping e he).2
  exact hgame.append (.cons (gives_header _ _) hsprites)
    |>.append (.cons (gives_header _ _) hplaceholders)
    |>.append (.cons (gives_header _ _) hinteractions)
    |>.append (.cons (gives_header _ _) hterminations)
    |>.append (.cons (gives_header _ _) hmapping)

end Reader

namespace Description

/-- The canonical text of a description that can be written is read without a problem, as that
description but for the numbers of lines. -/
theorem read_write {d : Description} (h : d.Writable) :
    (read d.write).problems = [] ∧ (read d.write).value.unnumbered = d.unnumbered := by
  have hyields := Reader.yields_script h
  have hlines : lines d.write = Writer.script d :=
    lines_flatMap (fun l hl => (hyields.oneLine l hl).1) fun l hl => (hyields.oneLine l hl).2
  obtain ⟨items, hread, hitems⟩ := hyields.results 1
  have hvalue : (read d.write).value = Reader.assemble items := by
    unfold read
    dsimp only
    rw [hlines, hread, List.filterMap_map]
    exact congrArg Reader.assemble List.filterMap_some
  constructor
  · unfold read
    dsimp only
    rw [hlines, hread, List.filterMap_map]
    exact List.filterMap_eq_nil_iff.2 fun _ _ => rfl
  · rw [hvalue, Reader.assemble_unnumbered, hitems, ← Reader.assemble_unnumbered, Reader.assemble_items]

/-- Animals in a maze: a nested sprite without a class, one with parameters alone, and a
condition that is a single word. -/
def burrow : Description :=
  { gameParams := .ofList [("square_size", "10")]
    sprites := [
      ⟨"wall", some "Immovable", .empty, [], 1⟩,
      ⟨"animal", some "RandomNPC", .ofList [("cooldown", "2")],
        [⟨"fox", none, .empty, [⟨"cub", none, .ofList [("img", ""), ("speed", "0.5")], [], 4⟩], 3⟩,
          ⟨"hare", some "Fleeing", .ofList [("stype", "fox")], [], 5⟩], 2⟩]
    interactions := [⟨"hare", "fox", "killSprite", .ofList [("scoreChange", "-1")], 6⟩]
    terminations := [⟨"Dusk", .empty, 7⟩]
    levelMapping := .ofList [('f', ["fox", "cub"]), ('.', [])]
    placeholders := .ofList [("pace", "0.5")] }

theorem read_write_burrow :
    burrow.Writable ∧ Writer.script burrow = [
        "BasicGame square_size=10",
        "    SpriteSet",
        "        wall > Immovable",
        "        animal > RandomNPC cooldown=2",
        "            fox >",
        "                cub > img= speed=0.5",
        "            hare > Fleeing stype=fox",
        "    ParameterSet",
        "        pace > value=0.5",
        "    InteractionSet",
        "        hare fox > killSprite scoreChange=-1",
        "    TerminationSet",
        "        Dusk",
        "    LevelMapping",
        "        . >",
        "        f > fox cub"].map String.toList ∧
      (read burrow.write).problems = [] ∧ (read burrow.write).value.unnumbered = burrow.unnumbered := by
  have hwritable : burrow.Writable := by
    constructor <;> decide +kernel
  exact ⟨hwritable, by decide +kernel, read_write hwritable⟩

end Description

end SpriteGame
