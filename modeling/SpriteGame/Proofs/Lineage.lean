import SpriteGame.Registry
/-!
# Lineage

Types are only ever added to a registry, each under a type that is there already. So
the ancestors of a type are older than it, and the descendants that are kept of a type
are exactly the types that have it among their ancestors (`WellFormed.mem_descendants`).
`wellFormed_register` is the step, `wellFormed_new` the start.
-/
namespace SpriteGame

/-- Changing the elements at different places of an array, one after the other, changes
each of them once. -/
theorem getElem?_foldl_modify {α : Type} (f : α → α) (l : List Nat) (hl : l.Nodup) (es : Array α)
    (i : Nat) :
    (l.foldl (fun es a => es.modify a f) es)[i]? = if i ∈ l then es[i]?.map f else es[i]? := by
  induction l generalizing es with
  | nil => simp
  | cons a l ih =>
    obtain ⟨ha, hl⟩ := List.nodup_cons.1 hl
    rw [List.foldl_cons, ih hl, Array.getElem?_modify]
    by_cases hi : i = a
    · -- The other places are not `a`: there are no duplicates.
      subst hi
      simp [ha]
    · simp [hi, Ne.symm hi]

theorem size_foldl_modify {α : Type} (f : α → α) (l : List Nat) (es : Array α) :
    (l.foldl (fun es a => es.modify a f) es).size = es.size := by
  induction l generalizing es with
  | nil => rfl
  | cons a l ih => rw [List.foldl_cons, ih, Array.size_modify]

namespace Registry

/-- What holds of every registry that types were registered in. -/
structure WellFormed (r : Registry) : Prop where
  /-- A chain of ancestors leads from younger to older types. -/
  falling : ∀ id, (id :: r.ancestors id).Pairwise (· > ·)
  /-- A chain of ancestors goes on as that of the parent does. -/
  chained : ∀ id, r.ancestors id = r.lineage (r.parent? id)
  /-- The descendants are those whose chain of ancestors comes by. -/
  closed : ∀ a d, d ∈ r.descendants a ↔ a < r.size ∧ d < r.size ∧ (d = a ∨ a ∈ r.ancestors d)
  ascending : ∀ a, (r.descendants a).Pairwise (· < ·)

/-! ## Look-ups -/

theorem resolve?_lt {r : Registry} {name : String} {id : TypeId} (h : r.resolve? name = some id) :
    id < r.size := by
  obtain ⟨hlt, -⟩ := Array.findIdx?_eq_some_iff_getElem.1 h
  exact hlt

theorem ancestors_of_size_le {r : Registry} {id : TypeId} (h : r.size ≤ id) : r.ancestors id = [] := by
  simp [ancestors, Array.getElem?_eq_none h]

theorem descendants_of_size_le {r : Registry} {id : TypeId} (h : r.size ≤ id) :
    r.descendants id = [] := by
  simp [descendants, Array.getElem?_eq_none h]

/-- For registered types, inheriting reads the same from both ends. -/
theorem WellFormed.mem_descendants {r : Registry} (hr : r.WellFormed) {a d : TypeId} (ha : a < r.size) :
    d ∈ r.descendants a ↔ d = a ∨ a ∈ r.ancestors d := by
  rw [hr.closed]
  constructor
  · exact fun h => h.2.2
  · rintro (rfl | h)
    · exact ⟨ha, ha, .inl rfl⟩
    · refine ⟨ha, Nat.lt_of_not_le fun hd => ?_, .inr h⟩
      rw [ancestors_of_size_le hd] at h
      cases h

/-! ## Registration -/

theorem register_of_known {r : Registry} {name : String} {id : TypeId} (h : r.resolve? name = some id)
    (parent : Option TypeId) : r.register name parent = (id, r) := by
  unfold register
  rw [h]

section New

variable {r : Registry} {name : String} (h : r.resolve? name = none) (parent : Option TypeId)
include h

theorem fst_register : (r.register name parent).1 = r.size := by
  unfold register
  rw [h]

theorem size_register : (r.register name parent).2.size = r.size + 1 := by
  unfold register size
  rw [h]
  simp [size_foldl_modify]

/-- A new type is listed last; of the others only its ancestors change, by adopting it. -/
theorem entries_register (hn : (r.lineage parent).Nodup) (i : Nat) :
    (r.register name parent).2.entries[i]? =
      if i = r.size then some ⟨name, r.lineage parent, [r.size]⟩
      else if i ∈ r.lineage parent then r.entries[i]?.map (TypeEntry.adopt r.size)
      else r.entries[i]? := by
  unfold register
  rw [h]
  simp only [Array.getElem?_push, size_foldl_modify, getElem?_foldl_modify _ _ hn]
  rfl

theorem ancestors_register (hn : (r.lineage parent).Nodup) (i : TypeId) :
    (r.register name parent).2.ancestors i =
      if i = r.size then r.lineage parent else r.ancestors i := by
  unfold ancestors
  rw [entries_register h parent hn]
  by_cases hi : i = r.size
  · simp [hi]
  · by_cases hm : i ∈ r.lineage parent
    · cases he : r.entries[i]? <;> simp [hi, hm, TypeEntry.adopt]
    · simp [hi, hm]

theorem descendants_register (hn : (r.lineage parent).Nodup) (i : TypeId) :
    (r.register name parent).2.descendants i =
      if i = r.size then [r.size]
      else if i ∈ r.lineage parent ∧ i < r.size then r.descendants i ++ [r.size]
      else r.descendants i := by
  unfold descendants
  rw [entries_register h parent hn]
  by_cases hi : i = r.size
  · simp [hi]
  · by_cases hlt : i < r.size
    · have he : r.entries[i]? = some r.entries[i] := Array.getElem?_eq_getElem hlt
      by_cases hm : i ∈ r.lineage parent <;> simp [hi, hm, hlt, he, TypeEntry.adopt]
    · have he : r.entries[i]? = none := Array.getElem?_eq_none (Nat.le_of_not_lt hlt)
      simp [hi, hlt, he]

end New

/-! ## The invariant -/

section Invariant

variable {r : Registry} (hr : r.WellFormed)
include hr

theorem WellFormed.older {id a : TypeId} (h : a ∈ r.ancestors id) : a < id :=
  (List.pairwise_cons.1 (hr.falling id)).1 a h

theorem WellFormed.nodup_lineage (parent : Option TypeId) : (r.lineage parent).Nodup := by
  cases parent with
  | none => exact List.nodup_nil
  | some p => exact (hr.falling p).imp Nat.ne_of_gt

/-- The ancestors of a new type are registered types. -/
theorem WellFormed.lineage_lt {parent : Option TypeId} (hp : ∀ p ∈ parent, p < r.size) {a : TypeId}
    (h : a ∈ r.lineage parent) : a < r.size := by
  cases parent with
  | none => cases h
  | some p =>
    have hlt : p < r.size := hp p rfl
    rcases List.mem_cons.1 h with rfl | h
    · exact hlt
    · exact Nat.lt_trans (hr.older h) hlt

section Step

variable {name : String} (h : r.resolve? name = none) {parent : Option TypeId}
  (hp : ∀ p ∈ parent, p < r.size)
include h hp

theorem falling_register (id : TypeId) :
    (id :: (r.register name parent).2.ancestors id).Pairwise (· > ·) := by
  rw [ancestors_register h parent (hr.nodup_lineage parent)]
  split
  · -- The chain of a new type goes on as that of its parent.
    next hid =>
    refine List.pairwise_cons.2 ⟨fun a ha => hid ▸ hr.lineage_lt hp ha, ?_⟩
    cases parent with
    | none => exact List.Pairwise.nil
    | some p => exact hr.falling p
  · exact hr.falling id

theorem chained_register (id : TypeId) :
    (r.register name parent).2.ancestors id =
      (r.register name parent).2.lineage ((r.register name parent).2.parent? id) := by
  -- A lineage under a registered type is the same before and after.
  have hkeep : ∀ q : Option TypeId, (∀ p ∈ q, p < r.size) →
      (r.register name parent).2.lineage q = r.lineage q := by
    intro q hq
    cases q with
    | none => rfl
    | some p =>
      have hne : p ≠ r.size := Nat.ne_of_lt (hq p rfl)
      simp only [lineage, ancestors_register h parent (hr.nodup_lineage parent), hne, if_false]
  unfold parent?
  rw [ancestors_register h parent (hr.nodup_lineage parent)]
  split
  · rw [hkeep]
    · cases parent <;> rfl
    · intro p hmem
      exact hr.lineage_lt hp (List.mem_of_head? hmem)
  · rw [hkeep]
    · exact hr.chained id
    · intro p hmem
      have hanc : p ∈ r.ancestors id := List.mem_of_head? hmem
      have hid : id < r.size := Nat.lt_of_not_le fun hle => by
        rw [ancestors_of_size_le hle] at hanc
        cases hanc
      exact Nat.lt_trans (hr.older hanc) hid

theorem closed_register (a d : TypeId) :
    d ∈ (r.register name parent).2.descendants a ↔
      a < (r.register name parent).2.size ∧ d < (r.register name parent).2.size ∧
        (d = a ∨ a ∈ (r.register name parent).2.ancestors d) := by
  have hn := hr.nodup_lineage parent
  rw [size_register h, descendants_register h parent hn, ancestors_register h parent hn]
  by_cases ha : a = r.size
  · -- The new type has no descendant but itself.
    subst ha
    rw [if_pos rfl, List.mem_singleton]
    constructor
    · rintro rfl
      exact ⟨Nat.lt_succ_self _, Nat.lt_succ_self _, .inl rfl⟩
    · rintro ⟨-, hd, rfl | hm⟩
      · rfl
      · split at hm
        · assumption
        · exact absurd (hr.older hm) (Nat.not_lt.2 (Nat.le_of_lt_succ hd))
  · rw [if_neg ha]
    by_cases hd : d = r.size
    · -- It is a descendant of those that it is registered under.
      subst hd
      have hnot : r.size ∉ r.descendants a := fun hm => Nat.lt_irrefl _ ((hr.closed a _).1 hm).2.1
      rw [if_pos rfl]
      constructor
      · intro hm
        split at hm
        · next hl => exact ⟨Nat.lt_succ_of_lt hl.2, Nat.lt_succ_self _, .inr hl.1⟩
        · exact absurd hm hnot
      · rintro ⟨-, -, heq | hl⟩
        · exact absurd heq.symm ha
        · rw [if_pos ⟨hl, hr.lineage_lt hp hl⟩]
          exact List.mem_append_right _ List.mem_cons_self
    · have hold : d ∈ (if a ∈ r.lineage parent ∧ a < r.size then r.descendants a ++ [r.size]
          else r.descendants a) ↔ d ∈ r.descendants a := by
        split <;> simp [hd]
      rw [hold, if_neg hd, hr.closed, Nat.lt_succ_iff_lt_or_eq, Nat.lt_succ_iff_lt_or_eq]
      simp only [ha, hd, or_false]

omit hp in
theorem ascending_register (a : TypeId) :
    ((r.register name parent).2.descendants a).Pairwise (· < ·) := by
  rw [descendants_register h parent (hr.nodup_lineage parent)]
  split
  · exact List.pairwise_singleton _ _
  · split
    · refine List.pairwise_append.2 ⟨hr.ascending a, List.pairwise_singleton _ _, fun d hd e he => ?_⟩
      rw [List.mem_singleton.1 he]
      exact ((hr.closed a d).1 hd).2.1
    · exact hr.ascending a

end Step

/-- Registering a name under a registered type, or under none, keeps the invariant. -/
theorem wellFormed_register (name : String) {parent : Option TypeId} (hp : ∀ p ∈ parent, p < r.size) :
    (r.register name parent).2.WellFormed := by
  cases h : r.resolve? name with
  | some id =>
    rw [register_of_known h]
    exact hr
  | none =>
    exact {
      falling := falling_register hr h hp
      chained := chained_register hr h hp
      closed := closed_register hr h hp
      ascending := ascending_register hr h }

end Invariant

/-- The screen edge alone inherits from nothing. -/
theorem wellFormed_new : WellFormed new := by
  have hanc : ∀ id, new.ancestors id = [] := by
    intro id
    cases id with
    | zero => rfl
    | succ n => exact ancestors_of_size_le (Nat.succ_le_succ n.zero_le)
  have hdesc : ∀ n, new.descendants (n + 1) = [] :=
    fun n => descendants_of_size_le (Nat.succ_le_succ n.zero_le)
  refine ⟨fun id => ?_, fun id => ?_, fun a d => ?_, fun a => ?_⟩
  · rw [hanc]
    exact List.pairwise_singleton _ _
  · unfold parent?
    rw [hanc]
    rfl
  · rw [hanc]
    cases a with
    | zero => cases d <;> simp [new, descendants, size, edge]
    | succ n =>
      rw [hdesc]
      simp [new, size]
  · cases a with
    | zero => exact List.pairwise_singleton _ _
    | succ n =>
      rw [hdesc]
      exact List.Pairwise.nil

end Registry

end SpriteGame
