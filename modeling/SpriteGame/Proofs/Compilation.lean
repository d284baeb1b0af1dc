import SpriteGame.Proofs.Lineage
import SpriteGame.Ruleset
/-!
# Compiled rule sets

What holds of the rule set of every description, whatever problems the description
has: the registry is well-formed (`wellFormed_compile`), every type has its template
at its place (`aligned_compile`), and the rules speak of registered types only
(`types_lt_compile`).
-/
namespace SpriteGame

namespace Template

/-- What every reading of a template has in common: what it is handed, its name and its target. -/
theorem fields_read (id : TypeId) (cls : SpriteClass) (params : Params) (registry : Registry) :
    let t := (read id cls params registry).value
    t.id = id ∧ t.name = registry.name id ∧ t.cls = cls ∧ t.ancestors = registry.ancestors id ∧ t.params = params ∧
      t.target = (params.sprite? (.sprite (registry.name id)) registry "stype").value := by
  -- The reader branches on the limit, on the greatest distance and on a missing target.
  unfold read
  simp only [Checked.value_bind]
  split <;> simp only [Checked.value_bind] <;> split <;> simp only [Checked.value_bind] <;>
    split <;> exact ⟨rfl, rfl, rfl, rfl, rfl, rfl⟩

theorem id_build (id : TypeId) (keyword : Option String) (own : Params) (parent : Option Template)
    (registry : Registry) : (build id keyword own parent registry).value.id = id := by
  unfold build
  exact (fields_read ..).1

theorem name_build (id : TypeId) (keyword : Option String) (own : Params) (parent : Option Template)
    (registry : Registry) : (build id keyword own parent registry).value.name = registry.name id := by
  unfold build
  exact (fields_read ..).2.1

theorem ancestors_build (id : TypeId) (keyword : Option String) (own : Params) (parent : Option Template)
    (registry : Registry) : (build id keyword own parent registry).value.ancestors = registry.ancestors id := by
  unfold build
  exact (fields_read ..).2.2.2.1

end Template

namespace Ruleset

/-! ## Declarations -/

theorem wellFormed_declare (l : List (SpriteDef × Option SpriteDef)) {r : Registry}
    (hr : r.WellFormed) : (declare r l).value.1.WellFormed := by
  induction l generalizing r with
  | nil => exact hr
  | cons e l ih =>
    obtain ⟨d, parent⟩ := e
    unfold declare
    cases h : r.resolve? d.name with
    | some id => exact ih hr
    | none =>
      refine ih (Registry.wellFormed_register hr d.name fun p hp => ?_)
      obtain ⟨q, -, hq⟩ := Option.bind_eq_some_iff.1 hp
      exact Registry.resolve?_lt hq

/-- Declared types are numbered one after the other, from the first free number on. -/
theorem ids_declare (l : List (SpriteDef × Option SpriteDef)) (r : Registry) :
    (declare r l).value.2.map (·.1) = List.range' r.size (declare r l).value.2.length ∧
      (declare r l).value.1.size = r.size + (declare r l).value.2.length := by
  induction l generalizing r with
  | nil => exact ⟨rfl, rfl⟩
  | cons e l ih =>
    obtain ⟨d, parent⟩ := e
    unfold declare
    cases h : r.resolve? d.name with
    | some id => exact ih r
    | none =>
      -- The type takes the first free number, and the rest go on from the next.
      obtain ⟨hids, hsize⟩ := ih (r.register d.name (parent.bind fun p => r.resolve? p.name)).2
      rw [Registry.size_register h] at hids hsize
      simp only [Checked.value_bind, Checked.value_pure, List.map_cons, List.length_cons,
        List.range'_succ, Registry.fst_register h]
      exact ⟨congrArg _ hids, by rw [hsize]; omega⟩

/-! ## Templates -/

/-- Templates stand at the place of their type. -/
def InPlace (templates : Array Template) : Prop :=
  ∀ (i : TypeId) (t : Template), templates[i]? = some t → t.id = i

theorem inPlace_push {templates : Array Template} (h : InPlace templates) {t : Template}
    (ht : t.id = templates.size) : InPlace (templates.push t) := by
  intro i u hu
  rw [Array.getElem?_push] at hu
  split at hu
  · next hi =>
    rw [← Option.some.inj hu, ht, hi]
  · exact h i u hu

theorem inPlace_buildTemplates (registry : Registry) (placeholders : Params)
    (l : List (TypeId × SpriteDef)) {templates : Array Template} (h : InPlace templates)
    (hl : l.map (·.1) = List.range' templates.size l.length) :
    InPlace (buildTemplates registry placeholders l templates).value ∧
      (buildTemplates registry placeholders l templates).value.size = templates.size + l.length := by
  induction l generalizing templates with
  | nil => exact ⟨h, rfl⟩
  | cons e l ih =>
    obtain ⟨id, d⟩ := e
    obtain ⟨hid, hl⟩ := List.cons.inj hl
    unfold buildTemplates
    simp only [Checked.value_bind]
    generalize ht : (Template.build id d.keyword _ _ registry).value = t
    -- The template goes to the end, and that is the place of its type.
    have hplace : t.id = templates.size := by
      rw [← ht, Template.id_build]
      exact hid
    have hnext := ih (inPlace_push h hplace) (by rwa [Array.size_push])
    rw [Array.size_push] at hnext
    exact ⟨hnext.1, hnext.2.trans (Nat.add_right_comm ..)⟩

theorem inPlace_edgeTemplate (registry : Registry) : InPlace #[edgeTemplate registry] := by
  have hid : (edgeTemplate registry).id = Registry.edge := Template.id_build ..
  generalize edgeTemplate registry = t at hid
  exact @inPlace_push #[] (fun i u hu => by simp at hu) t hid

/-- What every template has that is built, all of them have. -/
theorem forall_buildTemplates {registry : Registry} {P : Template → Prop}
    (hP : ∀ id keyword own parent, P (Template.build id keyword own parent registry).value) (placeholders : Params)
    (l : List (TypeId × SpriteDef)) {templates : Array Template} (h : ∀ t ∈ templates, P t) :
    ∀ t ∈ (buildTemplates registry placeholders l templates).value, P t := by
  induction l generalizing templates with
  | nil => exact h
  | cons e l ih =>
    obtain ⟨id, d⟩ := e
    refine ih fun t ht => ?_
    rcases Array.mem_push.1 ht with ht | rfl
    · exact h t ht
    · exact hP ..

/-- There is one template for each type, at its place. -/
structure Aligned (r : Ruleset) : Prop where
  size : r.templates.size = r.registry.size
  inPlace : InPlace r.templates

/-! ## The rule set of a description -/

section Compile

variable (d : Description) (settings : Settings)

theorem wellFormed_compile : (compile d settings).value.registry.WellFormed :=
  wellFormed_declare d.walk Registry.wellFormed_new

theorem templates_compile :
    (compile d settings).value.templates =
      (buildTemplates (compile d settings).value.registry d.placeholders (declare .new d.walk).value.2
        #[edgeTemplate (compile d settings).value.registry]).value := rfl

theorem forall_templates_compile {P : Template → Prop}
    (hP : ∀ id keyword own parent,
      P (Template.build id keyword own parent (compile d settings).value.registry).value) :
    ∀ t ∈ (compile d settings).value.templates, P t := by
  rw [templates_compile]
  refine forall_buildTemplates hP _ _ fun t ht => ?_
  rw [Array.mem_singleton.1 ht]
  exact hP ..

theorem aligned_compile : (compile d settings).value.Aligned := by
  obtain ⟨hids, hsize⟩ := ids_declare d.walk Registry.new
  obtain ⟨hplace, hcount⟩ := inPlace_buildTemplates (compile d settings).value.registry d.placeholders
    (declare .new d.walk).value.2 (inPlace_edgeTemplate _) hids
  refine ⟨?_, ?_⟩
  · rw [templates_compile, hcount]
    exact hsize.symm
  · unfold InPlace
    rw [templates_compile]
    exact hplace

/-- An interaction of a rule set is read from one of the description. -/
theorem mem_interactions_compile {rule : Interaction}
    (h : rule ∈ (compile d settings).value.interactions) :
    ∃ def' ∈ d.interactions,
      (Interaction.read? (compile d settings).value.registry d.placeholders def').value = some rule := by
  have h' : rule ∈ (Checked.keepEach (Interaction.read? (compile d settings).value.registry
      d.placeholders) d.interactions).value := List.mem_toArray.1 h
  rw [Checked.value_keepEach] at h'
  exact List.mem_filterMap.1 h'

end Compile

end Ruleset

/-! ## Interactions -/

namespace Interaction

theorem types_readBetween {registry : Registry} {d : InteractionDef} {place : Place} {first second : TypeId}
    {r : Interaction} (h : (readBetween registry d place first second).value = some r) :
    r.first = first ∧ r.second = second := by
  unfold readBetween at h
  simp only [Checked.value_bind] at h
  split at h
  · simp only [Checked.value_bind] at h
    split at h <;> cases h <;> exact ⟨rfl, rfl⟩
  · cases h

/-- The types of an interaction are those of the names in it. -/
theorem resolve?_of_read? {registry : Registry} {placeholders : Params} {d : InteractionDef} {r : Interaction}
    (h : (read? registry placeholders d).value = some r) :
    registry.resolve? d.first = some r.first ∧ registry.resolve? d.second = some r.second := by
  unfold read? Registry.resolve at h
  cases hf : registry.resolve? d.first <;> cases hs : registry.resolve? d.second <;>
    simp only [hf, hs] at h
  case some.some first second =>
    split at h
    · cases h
    · obtain ⟨rfl, rfl⟩ := types_readBetween h
      exact ⟨rfl, rfl⟩
  all_goals cases h

end Interaction

theorem Ruleset.types_lt_compile {d : Description} {settings : Settings} {rule : Interaction}
    (h : rule ∈ (compile d settings).value.interactions) :
    rule.first < (compile d settings).value.registry.size ∧
      rule.second < (compile d settings).value.registry.size := by
  obtain ⟨def', -, hread⟩ := mem_interactions_compile d settings h
  obtain ⟨hfirst, hsecond⟩ := Interaction.resolve?_of_read? hread
  exact ⟨Registry.resolve?_lt hfirst, Registry.resolve?_lt hsecond⟩

end SpriteGame
