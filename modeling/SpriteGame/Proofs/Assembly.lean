import SpriteGame.Game.Writer
import SpriteGame.Proofs.Reading
/-!
# Putting a description together

A description is put together from the items of its lines: `assemble_items` says so of the
items that it is written as, where the outline of its sprites nests into their forest again
(`forest_outlineAll`). The numbers of the lines have no part in it (`assemble_unnumbered`).
-/
namespace SpriteGame

/-! ## Items without line numbers -/

def Indented.unnumbered (e : Indented) : Indented := { e with sprite := e.sprite.unnumbered }

/-- An item without the number of the line that it is from. -/
def Reader.Item.unnumbered : Reader.Item → Reader.Item
  | .sprite indent d => .sprite indent d.unnumbered
  | .interactions rules => .interactions (rules.map ({ · with line := 0 }))
  | .termination rule => .termination { rule with line := 0 }
  | item => item

/-- The item of a definition in an outline. -/
def Indented.item (e : Indented) : Reader.Item := .sprite e.indent e.sprite

theorem SpriteDef.unnumberedAll_eq_map (ds : List SpriteDef) : unnumberedAll ds = ds.map unnumbered := by
  induction ds with
  | nil => rfl
  | cons d ds ih => rw [unnumberedAll, ih, List.map_cons]

/-- Numbers of lines have no part in nesting. -/
theorem Outline.unnumbered_nest (e : Indented) (later : List Indented) :
    (nest e later).map Indented.unnumbered = nest e.unnumbered (later.map Indented.unnumbered) := by
  have hsame : (fun x : Indented => decide (e.unnumbered.indent < x.indent)) ∘ Indented.unnumbered =
      fun x : Indented => decide (e.indent < x.indent) := rfl
  unfold nest
  dsimp only
  rw [List.takeWhile_map, List.dropWhile_map, hsame, List.map_cons]
  congr 1
  obtain ⟨indent, name, keyword, params, children, line⟩ := e
  simp [Indented.unnumbered, SpriteDef.unnumbered, SpriteDef.unnumberedAll_eq_map]

theorem Outline.unnumbered_forest (outline : List Indented) :
    SpriteDef.unnumberedAll (forest outline) = forest (outline.map Indented.unnumbered) := by
  have htrees : (trees outline).map Indented.unnumbered = trees (outline.map Indented.unnumbered) := by
    induction outline with
    | nil => rfl
    | cons e outline ih => rw [List.map_cons, trees_cons, trees_cons, unnumbered_nest, ih]
  rw [SpriteDef.unnumberedAll_eq_map, forest, forest, ← htrees, List.map_map, List.map_map]
  rfl

namespace Reader

theorem outlines_unnumbered (l : List Item) :
    outlines (l.map Item.unnumbered) = (outlines l).map (List.map Indented.unnumbered) := by
  induction l with
  | nil => rfl
  | cons item l ih =>
    obtain ⟨current, later, hout⟩ := List.exists_cons_of_ne_nil (outlines_ne_nil l)
    rw [hout] at ih
    cases item <;> simp [Item.unnumbered, outlines, ih, hout, Indented.unnumbered]

theorem addItem_unnumbered (d : Description) (item : Item) :
    (addItem d item).unnumbered = addItem d.unnumbered item.unnumbered := by
  cases item <;> simp [addItem, Item.unnumbered, Description.unnumbered]

theorem assemble_unnumbered (l : List Item) : (assemble l).unnumbered = assemble (l.map Item.unnumbered) := by
  have hrest : (l.foldl addItem .empty).unnumbered = (l.map Item.unnumbered).foldl addItem .empty := by
    rw [List.foldl_map]
    exact (List.foldl_hom Description.unnumbered fun d item => (addItem_unnumbered d item).symm).symm
  have hsprites : SpriteDef.unnumberedAll ((outlines l).flatMap Outline.forest) =
      (outlines (l.map Item.unnumbered)).flatMap Outline.forest := by
    rw [outlines_unnumbered, List.flatMap_map, SpriteDef.unnumberedAll_eq_map, List.map_flatMap]
    simp only [← SpriteDef.unnumberedAll_eq_map, Outline.unnumbered_forest]
  unfold assemble
  rw [← hrest, ← hsprites]
  rfl

end Reader

/-! ## The outline of a forest -/

mutual

/-- The definitions of a tree one after the other, each level four columns deeper. -/
def SpriteDef.outline (indent : Nat) : SpriteDef → List Indented
  | ⟨name, keyword, params, children, line⟩ =>
    ⟨indent, name, keyword, params, [], line⟩ :: SpriteDef.outlineAll (indent + 4) children

def SpriteDef.outlineAll (indent : Nat) : List SpriteDef → List Indented
  | [] => []
  | d :: ds => SpriteDef.outline indent d ++ SpriteDef.outlineAll indent ds

end

namespace Outline

variable {indent : Nat} {later : List Indented}

theorem nest_append {inside : List Indented} (hinside : ∀ x ∈ inside, indent < x.indent)
    (hlater : ∀ x ∈ later, x.indent ≤ indent) (sprite : SpriteDef) :
    nest ⟨indent, sprite⟩ (inside ++ later) = ⟨indent, { sprite with children := inside.map (·.sprite) }⟩ :: later := by
  have hpos : ∀ x ∈ inside, decide (indent < x.indent) = true := fun x hx => decide_eq_true (hinside x hx)
  have hstop : later.takeWhile (indent < ·.indent) = [] ∧ later.dropWhile (indent < ·.indent) = later := by
    cases later with
    | nil => exact ⟨rfl, rfl⟩
    | cons x later => simp [Nat.not_lt.2 (hlater x List.mem_cons_self)]
  unfold nest
  dsimp only
  rw [List.takeWhile_append_of_pos hpos, List.dropWhile_append_of_pos hpos, hstop.1, hstop.2, List.append_nil]

mutual

/-- The outline of a tree in front of others that are not indented more is that tree again. -/
theorem trees_outline (indent : Nat) (d : SpriteDef) {later : List Indented}
    (hlater : ∀ x ∈ trees later, x.indent ≤ indent) :
    trees (d.outline indent ++ later) = ⟨indent, d⟩ :: trees later := by
  match d with
  | ⟨name, keyword, params, children, line⟩ =>
    have hchildren := trees_outlineAll (indent + 4) children fun x hx => Nat.le_add_right_of_le (hlater x hx)
    have hinside : ∀ x ∈ children.map (Indented.mk (indent + 4)), indent < x.indent := by
      simp
    rw [SpriteDef.outline, List.cons_append, trees_cons, hchildren, nest_append hinside hlater, List.map_map]
    simp [Function.comp_def]

theorem trees_outlineAll (indent : Nat) (ds : List SpriteDef) {later : List Indented}
    (hlater : ∀ x ∈ trees later, x.indent ≤ indent) :
    trees (SpriteDef.outlineAll indent ds ++ later) = ds.map (Indented.mk indent) ++ trees later := by
  match ds with
  | [] => rfl
  | d :: ds =>
    have hrest := trees_outlineAll indent ds hlater
    -- What follows a definition are its siblings and what comes later: none is indented more.
    have hle : ∀ x ∈ trees (SpriteDef.outlineAll indent ds ++ later), x.indent ≤ indent := by
      rw [hrest]
      intro x hx
      rcases List.mem_append.1 hx with hx | hx
      · obtain ⟨d, -, rfl⟩ := List.mem_map.1 hx
        exact Nat.le_refl _
      · exact hlater x hx
    rw [SpriteDef.outlineAll, List.append_assoc, trees_outline indent d hle, hrest]
    rfl

end

theorem forest_outlineAll (indent : Nat) (ds : List SpriteDef) : forest (SpriteDef.outlineAll indent ds) = ds := by
  have htrees := @trees_outlineAll indent ds [] nofun
  rw [List.append_nil] at htrees
  rw [forest, htrees]
  simp [trees, Function.comp_def]

end Outline

/-! ## The items of a description -/

namespace Description

/-- What the lines of a description are written for. -/
def items (d : Description) : List Reader.Item :=
  [.game d.gameParams]
    ++ .header .sprites :: (SpriteDef.outlineAll 8 d.sprites).map Indented.item
    ++ .header .placeholders :: d.placeholders.entries.map (fun e => .placeholder e.1 e.2)
    ++ .header .interactions :: d.interactions.map (fun r => .interactions [r])
    ++ .header .terminations :: d.terminations.map .termination
    ++ .header .mapping :: d.levelMapping.entries.map (fun e => .mapping e.1 e.2)

end Description

namespace Reader

theorem outlines_header (sec : Section) (l : List Item) : outlines (.header sec :: l) = [] :: outlines l := rfl

theorem outlines_map_plain {α : Type} {item : α → Item} (h : ∀ x, (item x).plain) (xs : List α) (l : List Item) :
    outlines (xs.map item ++ l) = outlines l := by
  induction xs with
  | nil => rfl
  | cons x xs ih => rw [List.map_cons, List.cons_append, outlines_plain (h x), ih]

theorem outlines_item {e : Indented} {l : List Item} {current : List Indented} {later : List (List Indented)}
    (h : outlines l = current :: later) : outlines (e.item :: l) = (e :: current) :: later := by
  simp [Indented.item, outlines, h]

theorem outlines_outline (outline : List Indented) (sec : Section) (l : List Item) :
    outlines (outline.map Indented.item ++ .header sec :: l) = outline :: outlines l := by
  induction outline with
  | nil => rfl
  | cons e outline ih => exact outlines_item ih

theorem outlines_of_items (d : Description) :
    outlines d.items = [[], SpriteDef.outlineAll 8 d.sprites, [], [], [], []] := by
  have hlast : outlines (d.levelMapping.entries.map fun e => .mapping e.1 e.2) = [[]] := by
    have := @outlines_map_plain _ (fun e => .mapping e.1 e.2) (fun _ => rfl) d.levelMapping.entries []
    rwa [List.append_nil] at this
  unfold Description.items
  simp only [List.append_assoc, List.cons_append, List.nil_append]
  rw [outlines_plain rfl, outlines_header, outlines_outline, outlines_map_plain fun _ => rfl, outlines_header,
    outlines_map_plain fun _ => rfl, outlines_header, outlines_map_plain fun _ => rfl, outlines_header, hlast]

section Assembly

variable (d : Description)

theorem foldl_addItem_sprites (outline : List Indented) : (outline.map Indented.item).foldl addItem d = d := by
  induction outline with
  | nil => rfl
  | cons e outline ih => exact ih

theorem foldl_addItem_interactions (rules : List InteractionDef) :
    (rules.map fun r => .interactions [r]).foldl addItem d = { d with interactions := d.interactions ++ rules } := by
  induction rules generalizing d with
  | nil => simp
  | cons r rules ih => simp [addItem, ih]

theorem foldl_addItem_terminations (rules : List TerminationDef) :
    (rules.map Item.termination).foldl addItem d = { d with terminations := d.terminations ++ rules } := by
  induction rules generalizing d with
  | nil => simp
  | cons r rules ih => simp [addItem, ih]

theorem foldl_addItem_placeholders (l : List (String × String)) :
    (l.map fun e => .placeholder e.1 e.2).foldl addItem d =
      { d with placeholders := l.foldl (fun m e => m.insert e.1 e.2) d.placeholders } := by
  induction l generalizing d with
  | nil => rfl
  | cons e l ih => exact ih _

theorem foldl_addItem_mapping (l : List (Char × List String)) :
    (l.map fun e => .mapping e.1 e.2).foldl addItem d =
      { d with levelMapping := l.foldl (fun m e => m.insert e.1 e.2) d.levelMapping } := by
  induction l generalizing d with
  | nil => rfl
  | cons e l ih => exact ih _

theorem assemble_items : assemble d.items = d := by
  have hsprites : (outlines d.items).flatMap Outline.forest = d.sprites := by
    have hempty : Outline.forest [] = [] := rfl
    simp [outlines_of_items, Outline.forest_outlineAll, hempty]
  have hrest : d.items.foldl addItem .empty = { d with sprites := [] } := by
    unfold Description.items
    simp only [List.foldl_append, List.foldl_cons, List.foldl_nil, addItem, foldl_addItem_sprites,
      foldl_addItem_interactions, foldl_addItem_terminations, foldl_addItem_placeholders, foldl_addItem_mapping]
    change { d with
      sprites := []
      levelMapping := .ofList d.levelMapping.entries
      placeholders := .ofList d.placeholders.entries } = _
    rw [SortedMap.ofList_entries, SortedMap.ofList_entries]
  rw [assemble, hsprites, hrest]

end Assembly

end Reader

end SpriteGame
