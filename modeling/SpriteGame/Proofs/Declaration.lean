import Mathlib.Data.List.Nodup
import SpriteGame.Proofs.Compilation
import SpriteGame.Proofs.Indentation
/-!
# Declarations without a problem

Where no name is declared twice, every definition of a walk gets a type: the numbers go by
the order of the walk, with the screen edge before the first, and the type that encloses a
definition is the parent of its type (`declares_declare`).
-/
namespace SpriteGame

theorem findIdx?_of_nodup {α : Type} [DecidableEq α] {l : List α} (hl : l.Nodup) {i : Nat} {a : α}
    (h : l[i]? = some a) : l.findIdx? (· = a) = some i := by
  obtain ⟨hi, ha⟩ := List.getElem?_eq_some_iff.1 h
  refine List.findIdx?_eq_some_iff_getElem.2 ⟨hi, by simp [ha], fun j hj hsame => ?_⟩
  have hsame : l[j] = l[i] := by simpa [ha] using hsame
  exact Nat.ne_of_lt hj ((List.Nodup.getElem_inj_iff hl).1 hsame)

/-! ## Names of types -/

namespace Registry

/-- The names of the types, in the order of their numbers. -/
def names (r : Registry) : List String := r.entries.toList.map (·.name)

theorem length_names (r : Registry) : r.names.length = r.size := by
  simp [names, size]

theorem name_of_getElem? {r : Registry} {id : TypeId} {name : String} (h : r.names[id]? = some name) :
    r.name id = name := by
  unfold names at h
  rw [List.getElem?_map, Array.getElem?_toList, Option.map_eq_some_iff] at h
  obtain ⟨e, he, rfl⟩ := h
  rw [Registry.name, he]

/-- A name that is found is that of the type. -/
theorem name_of_resolve? {r : Registry} {name : String} {id : TypeId} (h : r.resolve? name = some id) :
    r.name id = name := by
  obtain ⟨hlt, hname, -⟩ := Array.findIdx?_eq_some_iff_getElem.1 h
  rw [Registry.name, Array.getElem?_eq_getElem hlt]
  exact of_decide_eq_true hname

theorem resolve?_eq (r : Registry) (name : String) : r.resolve? name = r.names.findIdx? (· = name) := by
  obtain ⟨⟨entries⟩⟩ := r
  simp [resolve?, names, Function.comp_def]

theorem resolve?_eq_none {r : Registry} {name : String} : r.resolve? name = none ↔ name ∉ r.names := by
  rw [resolve?_eq, List.findIdx?_eq_none_iff]
  constructor
  · exact fun h hmem => by simpa using h name hmem
  · intro h x hx
    rw [decide_eq_false_iff_not]
    rintro rfl
    exact h hx

theorem names_register {r : Registry} (hr : r.WellFormed) {name : String} (h : r.resolve? name = none)
    (parent : Option TypeId) : (r.register name parent).2.names = r.names ++ [name] := by
  have hentries := entries_register h parent (hr.nodup_lineage parent)
  refine List.ext_getElem? fun i => ?_
  rw [names, List.getElem?_map, Array.getElem?_toList, hentries]
  rcases Nat.lt_trichotomy i r.size with hlt | heq | hgt
  · -- Adopting leaves the name alone.
    rw [if_neg (Nat.ne_of_lt hlt), List.getElem?_append_left (by rwa [length_names]), names, List.getElem?_map,
      Array.getElem?_toList]
    split
    · cases r.entries[i]? <;> rfl
    · rfl
  · rw [if_pos heq, heq, ← length_names, List.getElem?_concat_length]
    rfl
  · have hnone : r.entries[i]? = none := Array.getElem?_eq_none (Nat.le_of_lt hgt)
    have hlast : (r.names ++ [name])[i]? = none := by
      rw [List.getElem?_eq_none]
      simp only [List.length_append, length_names, List.length_singleton]
      omega
    rw [if_neg (Nat.ne_of_gt hgt), hnone, hlast]
    split <;> rfl

/-- Registering keeps names apart: a known name gets no second type. -/
theorem nodup_register {r : Registry} (hr : r.WellFormed) (hnames : r.names.Nodup) (name : String)
    (parent : Option TypeId) : (r.register name parent).2.names.Nodup := by
  cases h : r.resolve? name with
  | some id => rwa [register_of_known h]
  | none =>
    have hnew : name ∉ r.names := resolve?_eq_none.1 h
    rw [names_register hr h]
    refine List.nodup_append.2 ⟨hnames, List.nodup_singleton _, fun a ha b hb => ?_⟩
    rw [List.mem_singleton.1 hb]
    rintro rfl
    exact hnew ha

/-- Where no type has the name of another one, a type is found by its name. -/
theorem resolve?_name_of_nodup {r : Registry} (hnames : r.names.Nodup) {id : TypeId} (hid : id < r.size) :
    r.resolve? (r.name id) = some id := by
  have hlt : id < r.names.length := hid.trans_eq r.length_names.symm
  have hname : r.names[id]? = some r.names[id] := List.getElem?_eq_getElem hlt
  rw [name_of_getElem? hname, resolve?_eq, findIdx?_of_nodup hnames hname]

end Registry

/-! ## Declaring a walk -/

namespace Ruleset

variable {r : Registry} {l : List (SpriteDef × Option SpriteDef)}

/-- The registry with a type for one more definition. -/
def declareOne (r : Registry) (e : SpriteDef × Option SpriteDef) : Registry :=
  (r.register e.1.name (e.2.bind fun p => r.resolve? p.name)).2

theorem declare_cons {e : SpriteDef × Option SpriteDef} (h : (declare r (e :: l)).problems = []) :
    r.resolve? e.1.name = none ∧ (declare (declareOne r e) l).problems = [] ∧
      (declare r (e :: l)).value.1 = (declare (declareOne r e) l).value.1 := by
  obtain ⟨d, parent⟩ := e
  rw [declare] at h ⊢
  cases hname : r.resolve? d.name with
  | some id =>
    simp only [hname] at h
    cases h
  | none =>
    simp only [hname, Checked.problems_bind, List.append_eq_nil_iff] at h
    exact ⟨rfl, h.1, rfl⟩

theorem wellFormed_declareOne (hr : r.WellFormed) (e : SpriteDef × Option SpriteDef) :
    (declareOne r e).WellFormed := by
  refine Registry.wellFormed_register hr e.1.name fun p hp => ?_
  obtain ⟨q, -, hq⟩ := Option.bind_eq_some_iff.1 hp
  exact Registry.resolve?_lt hq

theorem names_declare (hr : r.WellFormed) (h : (declare r l).problems = []) :
    (declare r l).value.1.names = r.names ++ l.map (·.1.name) := by
  induction l generalizing r with
  | nil => simp [declare]
  | cons e l ih =>
    obtain ⟨hname, hproblems, hvalue⟩ := declare_cons h
    have hnames : (declareOne r e).names = r.names ++ [e.1.name] := Registry.names_register hr hname _
    rw [hvalue, ih (wellFormed_declareOne hr e) hproblems, hnames]
    simp

/-- No type has the name of another one, also where a name is declared twice. -/
theorem nodup_declare (hr : r.WellFormed) (hnames : r.names.Nodup) : (declare r l).value.1.names.Nodup := by
  induction l generalizing r with
  | nil => exact hnames
  | cons e l ih =>
    obtain ⟨d, parent⟩ := e
    rw [declare]
    cases hname : r.resolve? d.name with
    | some id => exact ih hr hnames
    | none => exact ih (wellFormed_declareOne hr (d, parent)) (Registry.nodup_register hr hnames ..)

/-- Declaring more leaves the ancestors of a type alone. -/
theorem ancestors_declare (hr : r.WellFormed) (h : (declare r l).problems = []) {id : TypeId} (hid : id < r.size) :
    (declare r l).value.1.ancestors id = r.ancestors id := by
  induction l generalizing r with
  | nil => rfl
  | cons e l ih =>
    obtain ⟨hname, hproblems, hvalue⟩ := declare_cons h
    have hsize : (declareOne r e).size = r.size + 1 := Registry.size_register hname _
    rw [hvalue, ih (wellFormed_declareOne hr e) hproblems (hsize ▸ Nat.lt_succ_of_lt hid), declareOne,
      Registry.ancestors_register hname _ (hr.nodup_lineage _), if_neg (Nat.ne_of_lt hid)]

/-- The parent of a type is found by its name, among the names declared before. -/
theorem parent?_declare (hr : r.WellFormed) (h : (declare r l).problems = []) {k : Nat} {d : SpriteDef}
    {parent : Option SpriteDef} (hk : l[k]? = some (d, parent)) :
    (declare r l).value.1.parent? (r.size + k) =
      parent.bind fun p => (r.names ++ (l.take k).map (·.1.name)).findIdx? (· = p.name) := by
  induction l generalizing r k with
  | nil => simp at hk
  | cons e l ih =>
    obtain ⟨hname, hproblems, hvalue⟩ := declare_cons h
    have hsize : (declareOne r e).size = r.size + 1 := Registry.size_register hname _
    rw [hvalue]
    cases k with
    | zero =>
      obtain rfl := Option.some.inj hk
      rw [Registry.parent?,
        ancestors_declare (wellFormed_declareOne hr _) hproblems (hsize ▸ Nat.lt_succ_self _), declareOne,
        Registry.ancestors_register hname _ (hr.nodup_lineage _), if_pos (Nat.add_zero _)]
      cases parent with
      | none => rfl
      | some p =>
        simp only [Option.bind_some, Registry.resolve?_eq, List.take_zero, List.map_nil, List.append_nil]
        cases r.names.findIdx? (· = p.name) <;> rfl
    | succ k =>
      have hnames : (declareOne r e).names = r.names ++ [e.1.name] := Registry.names_register hr hname _
      have hrest := ih (wellFormed_declareOne hr e) hproblems (k := k) hk
      rw [hsize, hnames] at hrest
      rw [← Nat.add_assoc, Nat.add_right_comm, hrest]
      simp

end Ruleset

/-! ## Who encloses whom -/

mutual

/-- What encloses a definition of a walk comes before it, or encloses the whole walk. -/
theorem SpriteDef.enclosing_walk (parent : Option SpriteDef) : (d : SpriteDef) → ∀ (k : Nat) (e p : SpriteDef),
    (walk parent d)[k]? = some (e, some p) → parent = some p ∨ ∃ j q, j < k ∧ (walk parent d)[j]? = some (p, q)
  | ⟨name, keyword, params, children, line⟩, k, e, p, hk => by
    rw [walk_eq] at hk ⊢
    cases k with
    | zero =>
      left
      exact congrArg Prod.snd (Option.some.inj hk)
    | succ k =>
      right
      rcases enclosing_walkAll _ children k e p hk with hself | ⟨j, q, hj, hq⟩
      · exact ⟨0, parent, Nat.succ_pos k, by rw [List.getElem?_cons_zero, Option.some.inj hself]⟩
      · exact ⟨j + 1, q, Nat.succ_lt_succ hj, hq⟩

theorem SpriteDef.enclosing_walkAll (parent : Option SpriteDef) : (ds : List SpriteDef) → ∀ (k : Nat) (e p : SpriteDef),
    (walkAll parent ds)[k]? = some (e, some p) → parent = some p ∨ ∃ j q, j < k ∧ (walkAll parent ds)[j]? = some (p, q)
  | [], _, _, _, hk => by simp [walkAll] at hk
  | d :: ds, k, e, p, hk => by
    rw [walkAll] at hk ⊢
    rcases Nat.lt_or_ge k (walk parent d).length with hlt | hle
    · rw [List.getElem?_append_left hlt] at hk
      refine (enclosing_walk parent d k e p hk).imp_right fun ⟨j, q, hj, hq⟩ => ⟨j, q, hj, ?_⟩
      rwa [List.getElem?_append_left (Nat.lt_trans hj hlt)]
    · rw [List.getElem?_append_right hle] at hk
      refine (enclosing_walkAll parent ds _ e p hk).imp_right fun ⟨j, q, hj, hq⟩ => ?_
      refine ⟨(walk parent d).length + j, q, by omega, ?_⟩
      rwa [List.getElem?_append_right (Nat.le_add_right ..), Nat.add_sub_cancel_left]

end

/-- The types are the screen edge and, in the order of a walk, the definitions in it, each
with the type of the definition that encloses it as its parent. -/
structure Registry.Declares (r : Registry) (walk : List (SpriteDef × Option SpriteDef)) : Prop where
  size : r.size = walk.length + 1
  edge : r.name edge = edgeName ∧ r.resolve? edgeName = some edge
  types : ∀ (k : Nat) d parent, walk[k]? = some (d, parent) →
    r.name (k + 1) = d.name ∧ r.resolve? d.name = some (k + 1)
  roots : ∀ (k : Nat) d, walk[k]? = some (d, none) → r.parent? (k + 1) = none
  nested : ∀ (k : Nat) d p, walk[k]? = some (d, some p) →
    ∃ j q, j < k ∧ walk[j]? = some (p, q) ∧ r.parent? (k + 1) = some (j + 1)

theorem Ruleset.declares_declare {d : Description} (h : (declare .new d.walk).problems = []) :
    (declare .new d.walk).value.1.Declares d.walk := by
  have hwell : Registry.WellFormed .new := Registry.wellFormed_new
  have hnames : (declare .new d.walk).value.1.names = edgeName :: d.walk.map (·.1.name) := names_declare hwell h
  have hnodup : (declare .new d.walk).value.1.names.Nodup := nodup_declare hwell (by decide)
  generalize hr : (declare .new d.walk).value.1 = r at hnames hnodup
  have hfound : ∀ {i : Nat} {name : String}, r.names[i]? = some name →
      r.name i = name ∧ r.resolve? name = some i := fun hi =>
    ⟨Registry.name_of_getElem? hi, (r.resolve?_eq _).trans (findIdx?_of_nodup hnodup hi)⟩
  have hname : ∀ {k : Nat} {d' : SpriteDef} {parent : Option SpriteDef}, d.walk[k]? = some (d', parent) →
      r.names[k + 1]? = some d'.name := fun hk => by
    rw [hnames, List.getElem?_cons_succ, List.getElem?_map, hk]
    rfl
  have hparent : ∀ {k : Nat} {d' : SpriteDef} {parent : Option SpriteDef}, d.walk[k]? = some (d', parent) →
      r.parent? (k + 1) =
        parent.bind fun p => (edgeName :: (d.walk.take k).map (·.1.name)).findIdx? (· = p.name) := fun hk => by
    rw [← hr, Nat.add_comm]
    exact parent?_declare hwell h hk
  refine ⟨?_, hfound (by rw [hnames]; rfl), fun k d' parent hk => hfound (hname hk), fun k d' hk => hparent hk,
    fun k d' p hk => ?_⟩
  · rw [← r.length_names, hnames]
    simp
  · obtain hnone | ⟨j, q, hj, hq⟩ := SpriteDef.enclosing_walkAll none d.sprites k d' p hk
    · cases hnone
    refine ⟨j, q, hj, hq, ?_⟩
    -- The names before the `k`-th visit have that of the enclosing definition at its place.
    have htake : edgeName :: (d.walk.take k).map (·.1.name) = r.names.take (k + 1) := by
      rw [hnames, List.take_succ_cons, List.map_take]
    rw [hparent hk, htake, Option.bind_some]
    refine findIdx?_of_nodup (hnodup.sublist (List.take_sublist ..)) ?_
    rw [List.getElem?_take_of_lt (Nat.succ_lt_succ hj), hname hq]

theorem Ruleset.declares_compile {d : Description} {settings : Settings} (h : (compile d settings).problems = []) :
    (compile d settings).value.registry.Declares d.walk := by
  unfold compile at h
  simp only [Checked.problems_bind, List.append_eq_nil_iff] at h
  exact declares_declare h.1

end SpriteGame
