import Mathlib.Data.List.Sort
import SpriteGame.Proofs.Inheritance
/-!
# The types below a definition

Definitions are walked so that all that is nested in one comes right after it. So the
descendants of its type are the types of that part of the walk (`descendants_of_walk`), and by
their names they are those of the definitions there, whatever stands before or after it
(`names_descendants_of_walk`). The same is said of the parent of a type by `parent?_of_walk`.
-/
namespace SpriteGame

/-! ## Parts of a walk -/

namespace SpriteDef

mutual

/-- A visit is followed by the walk of what is visited. -/
theorem segment_walk (parent : Option SpriteDef) : (d : SpriteDef) → ∀ {k : Nat} {e q},
    (walk parent d)[k]? = some (e, q) → ∃ pre post, walk parent d = pre ++ (walk q e ++ post) ∧ pre.length = k
  | ⟨name, keyword, params, children, line⟩, k, e, q, hk => by
    cases k with
    | zero =>
      rw [walk_eq] at hk
      obtain ⟨rfl, rfl⟩ := Prod.mk.inj (Option.some.inj hk)
      exact ⟨[], [], (List.append_nil _).symm, rfl⟩
    | succ k =>
      rw [walk_eq] at hk ⊢
      obtain ⟨pre, post, hwalk, hlength⟩ := segment_walkAll _ children hk
      exact ⟨_ :: pre, post, congrArg _ hwalk, congrArg _ hlength⟩

theorem segment_walkAll (parent : Option SpriteDef) : (ds : List SpriteDef) → ∀ {k : Nat} {e q},
    (walkAll parent ds)[k]? = some (e, q) → ∃ pre post, walkAll parent ds = pre ++ (walk q e ++ post) ∧ pre.length = k
  | [], k, _, _, hk => by simp [walkAll] at hk
  | d :: ds, k, e, q, hk => by
    rw [walkAll] at hk ⊢
    rcases Nat.lt_or_ge k (walk parent d).length with hlt | hle
    · rw [List.getElem?_append_left hlt] at hk
      obtain ⟨pre, post, hwalk, hlength⟩ := segment_walk parent d hk
      exact ⟨pre, post ++ walkAll parent ds, by rw [hwalk]; simp, hlength⟩
    · rw [List.getElem?_append_right hle] at hk
      obtain ⟨pre, post, hwalk, hlength⟩ := segment_walkAll parent ds hk
      refine ⟨walk parent d ++ pre, post, by rw [hwalk]; simp, ?_⟩
      rw [List.length_append, hlength]
      omega

end

mutual

/-- What is visited in a walk besides its start is nested in something that is visited in it too. -/
theorem nested_walk {x : SpriteDef × Option SpriteDef} (parent : Option SpriteDef) : (d : SpriteDef) →
    x ∈ walk parent d → x = (d, parent) ∨
      ∃ p, x.2 = some p ∧ x.1 ∈ p.children ∧ ∃ q, (p, q) ∈ walk parent d
  | ⟨name, keyword, params, children, line⟩, hx => by
    rw [walk_eq] at hx ⊢
    rcases List.mem_cons.1 hx with hx | hx
    · exact .inl hx
    · rcases nested_walkAll _ children hx with ⟨c, hc, rfl⟩ | ⟨p, hp, hchild, q, hq⟩
      · exact .inr ⟨_, rfl, hc, parent, List.mem_cons_self⟩
      · exact .inr ⟨p, hp, hchild, q, List.mem_cons_of_mem _ hq⟩

theorem nested_walkAll {x : SpriteDef × Option SpriteDef} (parent : Option SpriteDef) : (ds : List SpriteDef) →
    x ∈ walkAll parent ds → (∃ d ∈ ds, x = (d, parent)) ∨
      ∃ p, x.2 = some p ∧ x.1 ∈ p.children ∧ ∃ q, (p, q) ∈ walkAll parent ds
  | [], hx => by cases hx
  | d :: ds, hx => by
    rw [walkAll] at hx ⊢
    rcases List.mem_append.1 hx with hx | hx
    · refine (nested_walk parent d hx).imp (fun h => ⟨d, List.mem_cons_self, h⟩) ?_
      exact fun ⟨p, hp, hchild, q, hq⟩ => ⟨p, hp, hchild, q, List.mem_append_left _ hq⟩
    · refine (nested_walkAll parent ds hx).imp (fun ⟨c, hc, h⟩ => ⟨c, List.mem_cons_of_mem _ hc, h⟩) ?_
      exact fun ⟨p, hp, hchild, q, hq⟩ => ⟨p, hp, hchild, q, List.mem_append_right _ hq⟩

end

theorem head_mem_walk (parent : Option SpriteDef) (d : SpriteDef) : (d, parent) ∈ walk parent d := by
  obtain ⟨name, keyword, params, children, line⟩ := d
  rw [walk_eq]
  exact List.mem_cons_self

/-- What is nested in nothing is visited in the walk that starts with it only. -/
theorem root_mem_walk_iff {c e : SpriteDef} {q : Option SpriteDef} : (c, none) ∈ walk q e ↔ (c, none) = (e, q) := by
  constructor
  · intro h
    rcases nested_walk q e h with h | ⟨p, hp, -⟩
    · exact h
    · cases hp
  · intro h
    exact h ▸ head_mem_walk q e

end SpriteDef

/-- The walk of a visited definition stands in the whole walk from its visit on. -/
theorem Description.getElem?_walk {d : Description} {k : Nat} {e : SpriteDef} {q : Option SpriteDef}
    (hk : d.walk[k]? = some (e, q)) {m : Nat} {x : SpriteDef × Option SpriteDef}
    (hm : (SpriteDef.walk q e)[m]? = some x) : d.walk[k + m]? = some x := by
  obtain ⟨pre, post, hwalk, rfl⟩ := SpriteDef.segment_walkAll none d.sprites hk
  have hlt : m < (SpriteDef.walk q e).length := (List.getElem?_eq_some_iff.1 hm).1
  rw [walk, hwalk, List.getElem?_append_right (Nat.le_add_right ..), Nat.add_sub_cancel_left,
    List.getElem?_append_left hlt, hm]

/-! ## Types of a walk -/

namespace Registry

variable {r : Registry} {d : Description} (hd : r.Declares d.walk)
include hd

namespace Declares

theorem edge_lt : Registry.edge < r.size := by
  rw [hd.size]
  exact Nat.succ_pos _

theorem type_lt {k : Nat} {x : SpriteDef × Option SpriteDef} (hk : d.walk[k]? = some x) : k + 1 < r.size := by
  rw [hd.size]
  exact Nat.succ_lt_succ (List.getElem?_eq_some_iff.1 hk).1

/-- No two visits are of definitions with one name. -/
theorem index_unique {i j : Nat} {x y : SpriteDef × Option SpriteDef} (hi : d.walk[i]? = some x)
    (hj : d.walk[j]? = some y) (hname : x.1.name = y.1.name) : i = j := by
  have hi := (hd.types i x.1 x.2 hi).2
  rw [hname, (hd.types j y.1 y.2 hj).2] at hi
  exact Nat.succ.inj (Option.some.inj hi).symm

/-- A number is that of the screen edge, of a visited definition, or of nothing. -/
theorem type_cases (id : TypeId) :
    id = Registry.edge ∨ (∃ k e q, id = k + 1 ∧ d.walk[k]? = some (e, q)) ∨ r.size ≤ id := by
  rcases Nat.lt_or_ge id r.size with hlt | hle
  · cases id with
    | zero => exact .inl rfl
    | succ k =>
      have hk : k < d.walk.length := by
        have hsize := hd.size
        omega
      exact .inr (.inl ⟨k, d.walk[k].1, d.walk[k].2, rfl, List.getElem?_eq_getElem hk⟩)
  · exact .inr (.inr hle)

/-- A registered type is found by its name. -/
theorem resolve?_name {id : TypeId} (hid : id < r.size) : r.resolve? (r.name id) = some id := by
  rcases hd.type_cases id with rfl | ⟨k, e, q, rfl, hk⟩ | hle
  · rw [hd.edge.1, hd.edge.2]
  · rw [(hd.types k e q hk).1, (hd.types k e q hk).2]
  · exact absurd hid (Nat.not_lt.2 hle)

theorem parent?_of_walk {k : Nat} {e : SpriteDef} {q : Option SpriteDef} (hk : d.walk[k]? = some (e, q)) :
    r.parent? (k + 1) = q.bind fun p => r.resolve? p.name := by
  cases q with
  | none => exact hd.roots k e hk
  | some p =>
    obtain ⟨j, q, -, hj, hparent⟩ := hd.nested k e p hk
    rw [hparent, Option.bind_some, (hd.types j p q hj).2]

/-- What is nested in a definition is visited in a walk if it is its start, or if the
definition is visited in it. -/
theorem mem_walk_iff_enclosing {k : Nat} {e : SpriteDef} {q : Option SpriteDef} (hk : d.walk[k]? = some (e, q))
    {j i : Nat} {c p : SpriteDef} {q' : Option SpriteDef} (hj : d.walk[j]? = some (c, some p))
    (hi : d.walk[i]? = some (p, q')) :
    (c, some p) ∈ SpriteDef.walk q e ↔ (c, some p) = (e, q) ∨ (p, q') ∈ SpriteDef.walk q e := by
  constructor
  · intro h
    refine (SpriteDef.nested_walk q e h).imp_right ?_
    rintro ⟨p', hp', -, q'', hq⟩
    obtain rfl : p = p' := Option.some.inj hp'
    -- The definition that encloses it is visited once only.
    obtain ⟨m, hm⟩ := List.mem_iff_getElem?.1 hq
    have hi' := d.getElem?_walk hk hm
    obtain rfl := hd.index_unique hi hi' rfl
    rw [Option.some.inj (hi.symm.trans hi')]
    exact hq
  · rintro (h | h)
    · exact h ▸ SpriteDef.head_mem_walk q e
    · have hchild : c ∈ p.children := by
        rcases SpriteDef.nested_walkAll none d.sprites (List.mem_of_getElem? hj) with ⟨_, -, h⟩ | ⟨p', hp', hc, -⟩
        · cases h
        · cases hp'
          exact hc
      exact SpriteDef.child_mem_walk hchild q e h

variable (hr : r.WellFormed)
include hr

/-- The types below that of a visited definition are those of the visits in its walk. -/
theorem mem_descendants_of_walk {k : Nat} {e : SpriteDef} {q : Option SpriteDef} (hk : d.walk[k]? = some (e, q))
    {j : Nat} {x : SpriteDef × Option SpriteDef} (hj : d.walk[j]? = some x) :
    j + 1 ∈ r.descendants (k + 1) ↔ x ∈ SpriteDef.walk q e := by
  rw [hr.mem_descendants (hd.type_lt hk)]
  -- The induction goes up the ancestors, which are visited before.
  induction j using Nat.strong_induction_on generalizing x with
  | h j ih =>
    have hself : j + 1 = k + 1 ↔ x = (e, q) := by
      constructor
      · intro h
        obtain rfl := Nat.succ.inj h
        exact Option.some.inj (hj.symm.trans hk)
      · rintro rfl
        rw [hd.index_unique hj hk rfl]
    rw [hself, hr.chained]
    obtain ⟨c, parent⟩ := x
    cases parent with
    | none =>
      rw [hd.roots j c hj, lineage, or_iff_left List.not_mem_nil, SpriteDef.root_mem_walk_iff]
    | some p =>
      obtain ⟨i, q', hij, hi, hparent⟩ := hd.nested j c p hj
      have hup : k + 1 ∈ r.lineage (some (i + 1)) ↔ (p, q') ∈ SpriteDef.walk q e := by
        rw [lineage, List.mem_cons, eq_comm]
        exact ih i hij hi
      rw [hparent, hup, hd.mem_walk_iff_enclosing hk hj hi]

/-- The types below that of a visited definition have the numbers that follow its own. -/
theorem descendants_of_walk {k : Nat} {e : SpriteDef} {q : Option SpriteDef} (hk : d.walk[k]? = some (e, q)) :
    r.descendants (k + 1) = List.range' (k + 1) (SpriteDef.walk q e).length := by
  have hsegment := fun {m x} => @Description.getElem?_walk d k e q hk m x
  refine List.Pairwise.eq_of_mem_iff (hr.ascending _) List.pairwise_lt_range' fun id => ?_
  rw [List.mem_range'_1]
  constructor
  · intro h
    obtain ⟨-, hlt, hbelow⟩ := (hr.closed _ _).1 h
    have hlt : id < d.walk.length + 1 := Nat.lt_of_lt_of_eq hlt hd.size
    have hle : k + 1 ≤ id := hbelow.elim (fun h => Nat.le_of_eq h.symm) fun h => Nat.le_of_lt (hr.older h)
    obtain ⟨j, rfl⟩ : ∃ j, id = j + 1 := Nat.exists_eq_succ_of_ne_zero (Nat.ne_of_gt (Nat.lt_of_lt_of_le k.succ_pos hle))
    have hlt : j < d.walk.length := Nat.lt_of_succ_lt_succ hlt
    have hj : d.walk[j]? = some d.walk[j] := List.getElem?_eq_getElem hlt
    obtain ⟨m, hm⟩ := List.mem_iff_getElem?.1 ((hd.mem_descendants_of_walk hr hk hj).1 h)
    have hplace : k + m = j := hd.index_unique (hsegment hm) hj rfl
    have hlen : m < (SpriteDef.walk q e).length := (List.getElem?_eq_some_iff.1 hm).1
    omega
  · rintro ⟨hle, hlt⟩
    obtain ⟨m, rfl⟩ := Nat.exists_eq_add_of_le hle
    have hm : m < (SpriteDef.walk q e).length := Nat.lt_of_add_lt_add_left hlt
    rw [Nat.add_right_comm]
    exact (hd.mem_descendants_of_walk hr hk (hsegment (List.getElem?_eq_getElem hm))).2 (List.getElem_mem _)

/-- By their names, they are what is visited in its walk. -/
theorem names_descendants_of_walk {k : Nat} {e : SpriteDef} {q : Option SpriteDef} (hk : d.walk[k]? = some (e, q)) :
    (r.descendants (k + 1)).map some = (SpriteDef.walk q e).map fun x => r.resolve? x.1.name := by
  rw [hd.descendants_of_walk hr hk]
  refine List.ext_getElem (by simp) fun m hm _ => ?_
  have hm : m < (SpriteDef.walk q e).length := by simpa using hm
  have htype : r.resolve? (SpriteDef.walk q e)[m].1.name = some (k + m + 1) :=
    (hd.types _ _ _ (d.getElem?_walk hk (List.getElem?_eq_getElem hm))).2
  rw [List.getElem_map, List.getElem_map, List.getElem_range', htype, Nat.one_mul, Nat.add_right_comm]

/-- Nothing inherits from the screen edge. -/
theorem edge_not_mem_ancestors (id : TypeId) : Registry.edge ∉ r.ancestors id := by
  induction id using Nat.strong_induction_on with
  | h id ih =>
    rcases hd.type_cases id with rfl | ⟨k, e, q, rfl, hk⟩ | hle
    · exact fun h => Nat.lt_irrefl _ (hr.older h)
    · rw [hr.chained]
      cases q with
      | none =>
        rw [hd.roots k e hk]
        exact List.not_mem_nil
      | some p =>
        obtain ⟨j, -, hj, -, hparent⟩ := hd.nested k e p hk
        rw [hparent, lineage, List.mem_cons]
        exact fun h => h.elim (Nat.zero_ne_add_one j) (ih (j + 1) (Nat.succ_lt_succ hj))
    · rw [ancestors_of_size_le hle]
      exact List.not_mem_nil

theorem descendants_edge : r.descendants Registry.edge = [Registry.edge] := by
  refine List.Pairwise.eq_of_mem_iff (hr.ascending _) (List.pairwise_singleton _ _) fun id => ?_
  rw [hr.mem_descendants hd.edge_lt, List.mem_singleton, or_iff_left (hd.edge_not_mem_ancestors hr id)]

end Declares

end Registry

end SpriteGame
