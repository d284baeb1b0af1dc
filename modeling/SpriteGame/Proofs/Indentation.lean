import Mathlib.Data.List.TakeWhile
import SpriteGame.Game.Outline
/-!
# Indentation and nesting

The forest of an outline nests a definition in the nearest one before it that is indented
less: `walk_forest` says so of all definitions, in their order. It is also the forest that
grows from a stack of open definitions, each closed by the next one that is not indented
more (`roots_grow`).
-/
namespace SpriteGame

/-- A definition without those nested in it. -/
def SpriteDef.bare (d : SpriteDef) : SpriteDef := { d with children := [] }

/-- A visit of a walk without the definitions nested in those visited. -/
def SpriteDef.bareVisit (e : SpriteDef × Option SpriteDef) : SpriteDef × Option SpriteDef :=
  (e.1.bare, e.2.map bare)

theorem SpriteDef.walkAll_append (parent : Option SpriteDef) (ds es : List SpriteDef) :
    walkAll parent (ds ++ es) = walkAll parent ds ++ walkAll parent es := by
  induction ds with
  | nil => rfl
  | cons d ds ih => simp only [List.cons_append, walkAll, ih, List.append_assoc]

theorem SpriteDef.walk_eq (parent : Option SpriteDef) (d : SpriteDef) :
    walk parent d = (d, parent) :: walkAll (some d) d.children := by
  cases d
  rw [walk]

namespace Outline

/-! ## The nearest entry that is indented less -/

/-- The nearest of the entries above, the nearest first, that is indented less. -/
def enclosing (above : List Indented) (indent : Nat) : Option SpriteDef :=
  (above.find? (·.indent < indent)).map (·.sprite)

/-- The definitions of an outline below other entries, each with the one that encloses it:
`parent` where none above is indented less. -/
def visits (parent : Option SpriteDef) : List Indented → List Indented → List (SpriteDef × Option SpriteDef)
  | _, [] => []
  | above, e :: outline => (e.sprite, (enclosing above e.indent).or parent) :: visits parent (e :: above) outline

theorem visits_append (parent : Option SpriteDef) (above l m : List Indented) :
    visits parent above (l ++ m) = visits parent above l ++ visits parent (l.reverse ++ above) m := by
  induction l generalizing above with
  | nil => rfl
  | cons e l ih => simp [visits, ih]

theorem enclosing_append (above more : List Indented) (indent : Nat) :
    enclosing (above ++ more) indent = (enclosing above indent).or (enclosing more indent) := by
  unfold enclosing
  rw [List.find?_append]
  cases above.find? (·.indent < indent) <;> rfl

theorem enclosing_eq_none {above : List Indented} {indent : Nat} :
    enclosing above indent = none ↔ ∀ b ∈ above, indent ≤ b.indent := by
  simp [enclosing]

/-- An entry that is indented less than all that follow is the parent of last resort. -/
theorem visits_of_lt {e : Indented} {outline : List Indented} (h : ∀ x ∈ outline, e.indent < x.indent)
    (parent : Option SpriteDef) (above : List Indented) :
    visits parent (above ++ [e]) outline = visits (some e.sprite) above outline := by
  induction outline generalizing above with
  | nil => rfl
  | cons x outline ih =>
    obtain ⟨hx, hrest⟩ := List.forall_mem_cons.1 h
    have hlast : enclosing [e] x.indent = some e.sprite := by
      simp [enclosing, hx]
    unfold visits
    rw [enclosing_append, hlast, Option.or_assoc, Option.some_or]
    exact congrArg _ (ih hrest (x :: above))

/-- Entries are out of reach once one follows that is indented no more than they are. -/
theorem visits_of_le {k : Nat} {old : List Indented} (hold : ∀ x ∈ old, k ≤ x.indent) (parent : Option SpriteDef)
    {above outline : List Indented}
    (h : (∃ b ∈ above, b.indent ≤ k) ∨ ∀ b, outline.head? = some b → b.indent ≤ k) :
    visits parent (above ++ old) outline = visits parent above outline := by
  induction outline generalizing above with
  | nil => rfl
  | cons x outline ih =>
    have hreach : enclosing (above ++ old) x.indent = enclosing above x.indent := by
      rw [enclosing_append]
      cases habove : enclosing above x.indent with
      | some s => rfl
      | none =>
        have hx : x.indent ≤ k := by
          rcases h with ⟨b, hb, hle⟩ | h
          · exact Nat.le_trans (enclosing_eq_none.1 habove b hb) hle
          · exact h x rfl
        exact enclosing_eq_none.2 fun y hy => Nat.le_trans hx (hold y hy)
    have hnext : ∃ b ∈ x :: above, b.indent ≤ k := by
      rcases h with ⟨b, hb, hle⟩ | h
      · exact ⟨b, List.mem_cons_of_mem x hb, hle⟩
      · exact ⟨x, List.mem_cons_self, h x rfl⟩
    unfold visits
    rw [hreach]
    exact congrArg _ (ih (.inl hnext))

/-- An entry, those indented more right below it and the rest of the outline. -/
theorem visits_split {e : Indented} {inside later : List Indented} (hinside : ∀ x ∈ inside, e.indent < x.indent)
    (hlater : ∀ b, later.head? = some b → b.indent ≤ e.indent) (parent : Option SpriteDef) :
    visits parent [] (e :: (inside ++ later)) =
      (e.sprite, parent) :: (visits (some e.sprite) [] inside ++ visits parent [] later) := by
  have hold : ∀ x ∈ inside.reverse ++ [e], e.indent ≤ x.indent := fun x hx => by
    rcases List.mem_append.1 hx with hx | hx
    · exact Nat.le_of_lt (hinside x (List.mem_reverse.1 hx))
    · exact Nat.le_of_eq (congrArg _ (List.mem_singleton.1 hx).symm)
  calc visits parent [] (e :: (inside ++ later))
      = (e.sprite, parent) ::
          (visits parent ([] ++ [e]) inside ++ visits parent ([] ++ (inside.reverse ++ [e])) later) := by
        rw [visits, visits_append]
        rfl
    _ = (e.sprite, parent) :: (visits (some e.sprite) [] inside ++ visits parent [] later) := by
        rw [visits_of_lt hinside, visits_of_le hold parent (.inr hlater)]

/-! ## The forest -/

theorem trees_cons (e : Indented) (outline : List Indented) : trees (e :: outline) = nest e (trees outline) := rfl

/-- What is indented more than `j` is indented more than any `k` below it. -/
theorem takeWhile_dropWhile_of_le {k j : Nat} (h : k ≤ j) (l : List Indented) :
    (l.takeWhile (k < ·.indent)).takeWhile (j < ·.indent) = l.takeWhile (j < ·.indent) ∧
      (l.takeWhile (k < ·.indent)).dropWhile (j < ·.indent) =
        (l.dropWhile (j < ·.indent)).takeWhile (k < ·.indent) ∧
      (l.dropWhile (j < ·.indent)).dropWhile (k < ·.indent) = l.dropWhile (k < ·.indent) := by
  induction l with
  | nil => exact ⟨rfl, rfl, rfl⟩
  | cons x l ih =>
    by_cases hj : j < x.indent
    · have hk : k < x.indent := Nat.lt_of_le_of_lt h hj
      simpa [hj, hk] using ih
    · by_cases hk : k < x.indent <;> simp [hj, hk]

/-- Cutting the trees before the first that is not indented more than `k` cuts the outline there. -/
theorem span_trees (k : Nat) (outline : List Indented) :
    (trees outline).takeWhile (k < ·.indent) = trees (outline.takeWhile (k < ·.indent)) ∧
      (trees outline).dropWhile (k < ·.indent) = trees (outline.dropWhile (k < ·.indent)) := by
  induction outline with
  | nil => exact ⟨rfl, rfl⟩
  | cons e outline ih =>
    by_cases hk : k < e.indent
    · obtain ⟨hinside, houtside, hdrop⟩ := takeWhile_dropWhile_of_le (Nat.le_of_lt hk) (trees outline)
      simp [trees_cons, nest, hk, ← ih.1, ← ih.2, hinside, houtside, hdrop]
    · rw [trees_cons]
      simp [nest, hk, trees]

theorem forest_cons (e : Indented) (outline : List Indented) :
    forest (e :: outline) =
      { e.sprite with children := forest (outline.takeWhile (e.indent < ·.indent)) }
        :: forest (outline.dropWhile (e.indent < ·.indent)) := by
  simp only [forest, trees_cons, nest, List.map_cons, (span_trees e.indent outline).1, (span_trees e.indent outline).2]

/-- A walk of the forest visits the definitions of the outline in their order, each under the
nearest one before it that is indented less. -/
theorem walk_forest {parent parent' : Option SpriteDef}
    (hparent : parent.map SpriteDef.bare = parent'.map SpriteDef.bare)
    (outline : List Indented) :
    (SpriteDef.walkAll parent (forest outline)).map SpriteDef.bareVisit =
      (visits parent' [] outline).map SpriteDef.bareVisit := by
  induction hn : outline.length using Nat.strong_induction_on generalizing parent parent' outline with
  | _ n ih =>
  cases outline with
  | nil => rfl
  | cons e outline =>
    obtain ⟨inside, hin⟩ : ∃ l, l = outline.takeWhile (e.indent < ·.indent) := ⟨_, rfl⟩
    obtain ⟨later, hout⟩ : ∃ l, l = outline.dropWhile (e.indent < ·.indent) := ⟨_, rfl⟩
    have hsplit : outline = inside ++ later := by
      rw [hin, hout, List.takeWhile_append_dropWhile]
    have hinside : ∀ x ∈ inside, e.indent < x.indent := fun x hx =>
      of_decide_eq_true (List.mem_takeWhile_imp (p := fun x : Indented => e.indent < x.indent) (hin ▸ hx))
    have hlater : ∀ b, later.head? = some b → b.indent ≤ e.indent := fun b hb => by
      have hstop := List.head?_dropWhile_not (fun x : Indented => e.indent < x.indent) outline
      rw [← hout, hb] at hstop
      simpa using hstop
    have hlength : inside.length + later.length < n := by
      rw [← hn, hsplit, List.length_cons, List.length_append]
      exact Nat.lt_succ_self _
    have hbare : (some { e.sprite with children := forest inside }).map SpriteDef.bare =
        (some e.sprite).map SpriteDef.bare := rfl
    have ihin := ih inside.length (by omega) hbare inside rfl
    have ihout := ih later.length (by omega) hparent later rfl
    rw [forest_cons, ← hin, ← hout, SpriteDef.walkAll, SpriteDef.walk_eq, List.cons_append, List.map_cons,
      List.map_append, ihin, ihout, hsplit, visits_split hinside hlater, List.map_cons, List.map_append]
    congr 1
    rw [SpriteDef.bareVisit, SpriteDef.bareVisit, hparent]
    rfl

end Outline

/-! ## Growing the forest -/

/-- A definition together with more that are nested in it. -/
def Indented.adopt (e : Indented) (ds : List SpriteDef) : Indented :=
  { e with sprite := { e.sprite with children := e.sprite.children ++ ds } }

namespace Indented

variable (e : Indented) (ds ds' : List SpriteDef)

@[simp] theorem indent_adopt : (e.adopt ds).indent = e.indent := rfl

@[simp] theorem adopt_nil : e.adopt [] = e := by
  obtain ⟨indent, name, keyword, params, children, line⟩ := e
  simp only [adopt, List.append_nil]

@[simp] theorem adopt_adopt : (e.adopt ds).adopt ds' = e.adopt (ds ++ ds') := by
  simp only [adopt, List.append_assoc]

end Indented

/-- A forest that is still read: its trees that are complete, and the definitions that are
open, the innermost first. -/
structure Growth where
  roots : List SpriteDef
  stack : List Indented

namespace Growth

variable {indent : Nat} {g g' : Growth} {later : List Indented}

/-- A round of closing: the innermost open definition goes to the one around it, unless it
is indented less than what comes. -/
def round? (indent : Nat) (g : Growth) : Option Growth :=
  match g.stack with
  | [] => none
  | e :: around =>
    if indent ≤ e.indent then
      match around with
      | [] => some ⟨g.roots ++ [e.sprite], []⟩
      | p :: around => some ⟨g.roots, p.adopt [e.sprite] :: around⟩
    else none

theorem round?_cases (h : g.round? indent = some g') :
    ∃ e, indent ≤ e.indent ∧ (g.stack = [e] ∧ g' = ⟨g.roots ++ [e.sprite], []⟩ ∨
      ∃ p around, g.stack = e :: p :: around ∧ g' = ⟨g.roots, p.adopt [e.sprite] :: around⟩) := by
  unfold round? at h
  split at h
  · cases h
  · next e around he =>
    split at h
    · next hle =>
      refine ⟨e, hle, ?_⟩
      cases around with
      | nil => exact .inl ⟨he, (Option.some.inj h).symm⟩
      | cons p around => exact .inr ⟨p, around, he, (Option.some.inj h).symm⟩
    · cases h

/-- Every round closes one definition. -/
theorem length_round? (h : g.round? indent = some g') : g.stack.length = g'.stack.length + 1 := by
  obtain ⟨e, -, ⟨he, rfl⟩ | ⟨p, around, he, rfl⟩⟩ := round?_cases h <;> rw [he] <;> rfl

/-- Close the open definitions that are not indented less. -/
def close (indent : Nat) (g : Growth) : Growth :=
  match h : g.round? indent with
  | none => g
  | some g' =>
    have := length_round? h
    close indent g'
termination_by g.stack.length

/-- A definition comes: it closes those that are not indented less, and is open itself. -/
def enter (g : Growth) (e : Indented) : Growth :=
  let g := g.close e.indent
  { g with stack := e :: g.stack }

/-- Every open definition is indented more than the one around it. -/
def Ascending (g : Growth) : Prop := g.stack.Pairwise fun e around => around.indent < e.indent

theorem ascending_closed (roots : List SpriteDef) : (⟨roots, []⟩ : Growth).Ascending := List.Pairwise.nil

/-- Closing stops at a definition that is indented less, and so are those around it. -/
theorem lt_of_round?_eq_none (hg : g.Ascending) (h : g.round? indent = none) :
    ∀ e ∈ g.stack, e.indent < indent := by
  unfold Ascending at hg
  cases hs : g.stack with
  | nil => exact fun e he => absurd he List.not_mem_nil
  | cons e around =>
    rw [hs] at hg
    have hlt : e.indent < indent := by
      by_contra hle
      cases around <;> simp [round?, hs, Nat.not_lt.1 hle] at h
    exact List.forall_mem_cons.2
      ⟨hlt, fun p hp => Nat.lt_trans ((List.pairwise_cons.1 hg).1 p hp) hlt⟩

theorem ascending_round? (hg : g.Ascending) (h : g.round? indent = some g') : g'.Ascending := by
  obtain ⟨e, -, ⟨he, rfl⟩ | ⟨p, around, he, rfl⟩⟩ := round?_cases h
  · exact ascending_closed _
  · unfold Ascending at hg
    rw [he] at hg
    exact List.pairwise_cons.2 (List.pairwise_cons.1 hg.of_cons)

/-! ### What a growth ends in -/

/-- Put an open definition before the trees that follow. -/
def absorb (later : List Indented) (e : Indented) : List Indented :=
  e.adopt ((later.takeWhile (e.indent < ·.indent)).map (·.sprite)) :: later.dropWhile (e.indent < ·.indent)

/-- The forest when the trees `later` follow and nothing else. -/
def finish (g : Growth) (later : List Indented) : List SpriteDef :=
  g.roots ++ (g.stack.foldl absorb later).map (·.sprite)

theorem absorb_of_le {e : Indented} (h : ∀ b, later.head? = some b → b.indent ≤ e.indent) :
    absorb later e = e :: later := by
  cases later with
  | nil => simp [absorb]
  | cons b later =>
    have hb : b.indent ≤ e.indent := h b rfl
    simp [absorb, Nat.not_lt.2 hb]

theorem absorb_cons {e p : Indented} (h : p.indent < e.indent) :
    absorb (e :: later) p = absorb later (p.adopt [e.sprite]) := by
  change _ = (p.adopt [e.sprite]).adopt ((later.takeWhile (p.indent < ·.indent)).map (·.sprite)) ::
    later.dropWhile (p.indent < ·.indent)
  simp [absorb, h]

theorem finish_round? (hg : g.Ascending) (h : g.round? indent = some g')
    (hlater : ∀ b, later.head? = some b → b.indent ≤ indent) : g'.finish later = g.finish later := by
  obtain ⟨e, hle, hround⟩ := round?_cases h
  have habsorb : absorb later e = e :: later :=
    absorb_of_le fun b hb => Nat.le_trans (hlater b hb) hle
  rcases hround with ⟨he, rfl⟩ | ⟨p, around, he, rfl⟩
  · simp [finish, he, habsorb]
  · unfold Ascending at hg
    rw [he] at hg
    have hp : p.indent < e.indent := (List.pairwise_cons.1 hg).1 p List.mem_cons_self
    simp only [finish, he, List.foldl_cons, habsorb, absorb_cons hp]

/-- Closing leaves open what is indented less, and changes nothing about the outcome when what
follows is not indented more. -/
theorem close_spec (hg : g.Ascending) (indent : Nat) :
    (g.close indent).Ascending ∧ (∀ e ∈ (g.close indent).stack, e.indent < indent) ∧
      ∀ later : List Indented, (∀ b, later.head? = some b → b.indent ≤ indent) →
        (g.close indent).finish later = g.finish later := by
  induction g using close.induct indent with
  | case1 g h =>
    have hclose : g.close indent = g := by
      unfold close
      split <;> simp_all
    rw [hclose]
    exact ⟨hg, lt_of_round?_eq_none hg h, fun _ _ => rfl⟩
  | case2 g g' h _ ih =>
    have hclose : g.close indent = g'.close indent := by
      rw [close]
      split <;> simp_all
    obtain ⟨hasc, hlt, hfinish⟩ := ih (ascending_round? hg h)
    rw [hclose]
    exact ⟨hasc, hlt, fun later hlater => (hfinish later hlater).trans (finish_round? hg h hlater)⟩

theorem close_zero (hg : g.Ascending) : g.close 0 = ⟨g.finish [], []⟩ := by
  obtain ⟨-, hlt, hfinish⟩ := close_spec hg 0
  have hstack : (g.close 0).stack = [] :=
    List.eq_nil_iff_forall_not_mem.2 fun e he => absurd (hlt e he) (Nat.not_lt_zero _)
  rw [← hfinish [] nofun]
  cases hclose : g.close 0
  rw [hclose] at hstack
  subst hstack
  simp [finish]

theorem ascending_enter (hg : g.Ascending) (e : Indented) : (g.enter e).Ascending := by
  obtain ⟨hasc, hlt, -⟩ := close_spec hg e.indent
  exact List.pairwise_cons.2 ⟨hlt, hasc⟩

/-- A definition that is open grows into the tree that an outline makes of it. -/
theorem finish_enter (hg : g.Ascending) {e : Indented} (he : e.sprite.children = []) (outline : List Indented) :
    (g.enter e).finish (Outline.trees outline) = g.finish (Outline.trees (e :: outline)) := by
  obtain ⟨-, -, hfinish⟩ := close_spec hg e.indent
  have habsorb : absorb (Outline.trees outline) e = Outline.trees (e :: outline) := by
    simp [Outline.trees_cons, Outline.nest, absorb, Indented.adopt, he]
  calc (g.enter e).finish (Outline.trees outline)
      = (g.close e.indent).finish (absorb (Outline.trees outline) e) := rfl
    _ = g.finish (Outline.trees (e :: outline)) := by
        rw [habsorb]
        refine hfinish _ fun b hb => ?_
        obtain rfl : { e with sprite := _ } = b := Option.some.inj hb
        exact Nat.le_refl _

end Growth

end SpriteGame
