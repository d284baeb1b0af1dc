import SpriteGame.Proofs.Renumbering
import SpriteGame.Proofs.Subtree
/-!
# Sprites in another order

The order in which sprites are declared, the nested ones with those that they are nested in,
only says which numbers their types get. The walk of the definitions is permuted, so the names
are the same (`Declares.resolve?_counterpart`), and with the numbers changed to those of the
same names the registries agree (`renumbers_counterpart`) and then all that is compiled with
them (`renumbers_compile`). So by its names a rule set reads the same in every order of the
sprites (`agreesByName_compile`).
-/
namespace SpriteGame

/-! ## Walks in another order -/

theorem SpriteDef.walkAll_eq_flatMap (parent : Option SpriteDef) (ds : List SpriteDef) :
    walkAll parent ds = ds.flatMap (walk parent) := by
  induction ds with
  | nil => rw [walkAll, List.flatMap_nil]
  | cons d ds ih => rw [walkAll, ih, List.flatMap_cons]

/-- A description with other sprites, or with its own in another order. -/
def Description.withSprites (d : Description) (sprites : List SpriteDef) : Description := { d with sprites }

theorem Description.walk_perm {d : Description} {sprites : List SpriteDef} (h : d.sprites.Perm sprites) :
    d.walk.Perm (d.withSprites sprites).walk := by
  unfold walk withSprites
  rw [SpriteDef.walkAll_eq_flatMap, SpriteDef.walkAll_eq_flatMap]
  exact h.flatMap_right _

namespace Ruleset

/-- Where no name is declared twice there is no problem. -/
theorem problems_declare_of_nodup {l : List (SpriteDef × Option SpriteDef)} {r : Registry} (hr : r.WellFormed)
    (h : (r.names ++ l.map (·.1.name)).Nodup) : (declare r l).problems = [] := by
  induction l generalizing r with
  | nil => rfl
  | cons e l ih =>
    obtain ⟨d, parent⟩ := e
    have hname : r.resolve? d.name = none := by
      refine Registry.resolve?_eq_none.2 fun hmem => ?_
      exact (List.nodup_append.1 h).2.2 _ hmem _ List.mem_cons_self rfl
    have hrest : (declare (declareOne r (d, parent)) l).problems = [] := by
      refine ih (wellFormed_declareOne hr (d, parent)) ?_
      rw [declareOne, Registry.names_register hr hname]
      simpa using h
    rw [declare, hname]
    dsimp only
    rw [Checked.problems_bind, Checked.problems_pure, List.append_nil]
    exact hrest

theorem problems_declare_perm {l l' : List (SpriteDef × Option SpriteDef)} (hperm : l.Perm l')
    (h : (declare .new l).problems = []) : (declare .new l').problems = [] := by
  have hnodup := @nodup_declare .new l Registry.wellFormed_new (by decide)
  rw [names_declare Registry.wellFormed_new h] at hnodup
  exact problems_declare_of_nodup Registry.wellFormed_new
    (((hperm.map _).append_left _).nodup_iff.1 hnodup)

end Ruleset

/-! ## The types with the same names -/

namespace Registry

/-- The number that a type has in another registry, by its name. -/
def counterpart (r r' : Registry) (id : TypeId) : TypeId :=
  if id < r.size then (r'.resolve? (r.name id)).getD id else id

theorem name_of_size_le {r : Registry} {id : TypeId} (h : r.size ≤ id) : r.name id = "" := by
  rw [Registry.name, Array.getElem?_eq_none h]

theorem WellFormed.parent?_edge {r : Registry} (hr : r.WellFormed) : r.parent? edge = none := by
  cases h : r.parent? edge with
  | none => rfl
  | some p => exact absurd (hr.older (List.mem_of_head? h)) (Nat.not_lt_zero p)

/-- Two registries hold the same definitions, visited in different orders. -/
structure Rearranged (r : Registry) (d : Description) (r' : Registry) (d' : Description) : Prop where
  wellFormed : r.WellFormed
  declares : r.Declares d.walk
  wellFormed' : r'.WellFormed
  declares' : r'.Declares d'.walk
  walk : d.walk.Perm d'.walk

namespace Rearranged

variable {r r' : Registry} {d d' : Description} (h : r.Rearranged d r' d')
include h

theorem symm : r'.Rearranged d' r d := ⟨h.wellFormed', h.declares', h.wellFormed, h.declares, h.walk.symm⟩

theorem size_eq : r'.size = r.size := by
  rw [h.declares.size, h.declares'.size, h.walk.length_eq]

theorem counterpart_edge : r.counterpart r' edge = edge := by
  rw [counterpart, if_pos h.declares.edge_lt, h.declares.edge.1, h.declares'.edge.2, Option.getD_some]

theorem counterpart_of_walk {k : Nat} {x : SpriteDef × Option SpriteDef} (hk : d.walk[k]? = some x) :
    ∃ k', d'.walk[k']? = some x ∧ r.counterpart r' (k + 1) = k' + 1 := by
  obtain ⟨k', hk'⟩ := List.mem_iff_getElem?.1 (h.walk.subset (List.mem_of_getElem? hk))
  refine ⟨k', hk', ?_⟩
  rw [counterpart, if_pos (h.declares.type_lt hk), (h.declares.types k _ _ hk).1, (h.declares'.types k' _ _ hk').2,
    Option.getD_some]

/-- What has no name in the one has none in the other, and is left as it is. -/
theorem counterpart_of_size_le {id : TypeId} (hle : r.size ≤ id) : r'.size ≤ id ∧ r.counterpart r' id = id :=
  ⟨h.size_eq.symm ▸ hle, if_neg (Nat.not_lt.2 hle)⟩

theorem resolve?_counterpart (name : String) : r'.resolve? name = (r.resolve? name).map (r.counterpart r') := by
  cases hid : r.resolve? name with
  | some id =>
    obtain rfl := name_of_resolve? hid
    rcases h.declares.type_cases id with rfl | ⟨k, e, q, rfl, hk⟩ | hle
    · rw [h.declares.edge.1, h.declares'.edge.2, Option.map_some, h.counterpart_edge]
    · obtain ⟨k', hk', hf⟩ := h.counterpart_of_walk hk
      rw [(h.declares.types k e q hk).1, (h.declares'.types k' e q hk').2, Option.map_some, hf]
    · exact absurd (resolve?_lt hid) (Nat.not_lt.2 hle)
  | none =>
    cases hid' : r'.resolve? name with
    | none => rfl
    | some id =>
      -- A name that is known in the new order was known in the old one.
      obtain rfl := name_of_resolve? hid'
      rcases h.declares'.type_cases id with rfl | ⟨k, e, q, rfl, hk⟩ | hle
      · rw [h.declares'.edge.1, h.declares.edge.2] at hid
        cases hid
      · obtain ⟨k', hk', -⟩ := h.symm.counterpart_of_walk hk
        rw [(h.declares'.types k e q hk).1, (h.declares.types k' e q hk').2] at hid
        cases hid
      · exact absurd (resolve?_lt hid') (Nat.not_lt.2 hle)

theorem name_counterpart (id : TypeId) : r'.name (r.counterpart r' id) = r.name id := by
  rcases h.declares.type_cases id with rfl | ⟨k, e, q, rfl, hk⟩ | hle
  · rw [h.counterpart_edge, h.declares.edge.1, h.declares'.edge.1]
  · obtain ⟨k', hk', hf⟩ := h.counterpart_of_walk hk
    rw [hf, (h.declares.types k e q hk).1, (h.declares'.types k' e q hk').1]
  · obtain ⟨hle', hf⟩ := h.counterpart_of_size_le hle
    rw [hf, name_of_size_le hle, name_of_size_le hle']

theorem counterpart_lt {id : TypeId} (hid : id < r.size) : r.counterpart r' id < r.size := by
  have hfound := h.resolve?_counterpart (r.name id)
  rw [h.declares.resolve?_name hid, Option.map_some] at hfound
  exact h.size_eq ▸ resolve?_lt hfound

theorem injective_counterpart : Function.Injective (r.counterpart r') := by
  intro a b hab
  have hname : r.name a = r.name b := by
    rw [← h.name_counterpart a, hab, h.name_counterpart b]
  rcases Nat.lt_or_ge a r.size with ha | ha <;> rcases Nat.lt_or_ge b r.size with hb | hb
  · have ha := h.declares.resolve?_name ha
    rw [hname, h.declares.resolve?_name hb] at ha
    exact (Option.some.inj ha).symm
  · have hlt := h.counterpart_lt ha
    rw [hab, (h.counterpart_of_size_le hb).2] at hlt
    exact absurd hlt (Nat.not_lt.2 hb)
  · have hlt := h.counterpart_lt hb
    rw [← hab, (h.counterpart_of_size_le ha).2] at hlt
    exact absurd hlt (Nat.not_lt.2 ha)
  · rwa [(h.counterpart_of_size_le ha).2, (h.counterpart_of_size_le hb).2] at hab

theorem parent?_counterpart (id : TypeId) :
    r'.parent? (r.counterpart r' id) = (r.parent? id).map (r.counterpart r') := by
  rcases h.declares.type_cases id with rfl | ⟨k, e, q, rfl, hk⟩ | hle
  · rw [h.counterpart_edge, h.wellFormed.parent?_edge, h.wellFormed'.parent?_edge, Option.map_none]
  · obtain ⟨k', hk', hf⟩ := h.counterpart_of_walk hk
    rw [hf, h.declares'.parent?_of_walk hk', h.declares.parent?_of_walk hk]
    cases q with
    | none => rfl
    | some p => exact h.resolve?_counterpart p.name
  · obtain ⟨hle', hf⟩ := h.counterpart_of_size_le hle
    rw [hf, parent?, parent?, ancestors_of_size_le hle, ancestors_of_size_le hle']
    rfl

theorem ancestors_counterpart (id : TypeId) :
    r'.ancestors (r.counterpart r' id) = (r.ancestors id).map (r.counterpart r') := by
  induction id using Nat.strong_induction_on with
  | h id ih =>
    rw [h.wellFormed'.chained, h.wellFormed.chained id, h.parent?_counterpart]
    cases hp : r.parent? id with
    | none => rfl
    | some p => exact congrArg (r.counterpart r' p :: ·) (ih p (h.wellFormed.older (List.mem_of_head? hp)))

theorem descendants_counterpart (id : TypeId) :
    r'.descendants (r.counterpart r' id) = (r.descendants id).map (r.counterpart r') := by
  rcases h.declares.type_cases id with rfl | ⟨k, e, q, rfl, hk⟩ | hle
  · rw [h.counterpart_edge, h.declares.descendants_edge h.wellFormed, h.declares'.descendants_edge h.wellFormed',
      List.map_singleton, h.counterpart_edge]
  · obtain ⟨k', hk', hf⟩ := h.counterpart_of_walk hk
    -- The same definitions are visited below, and they keep their names.
    have hsome : Function.Injective (List.map (some : TypeId → Option TypeId)) :=
      List.map_injective_iff.2 (Option.some_injective _)
    refine hsome ?_
    calc (r'.descendants (r.counterpart r' (k + 1))).map some
        = (SpriteDef.walk q e).map fun x => r'.resolve? x.1.name := by
          rw [hf, h.declares'.names_descendants_of_walk h.wellFormed' hk']
      _ = ((SpriteDef.walk q e).map fun x => r.resolve? x.1.name).map (Option.map (r.counterpart r')) := by
          rw [List.map_map]
          exact List.map_congr_left fun x _ => h.resolve?_counterpart x.1.name
      _ = ((r.descendants (k + 1)).map (r.counterpart r')).map some := by
          rw [← h.declares.names_descendants_of_walk h.wellFormed hk, List.map_map, List.map_map]
          rfl
  · obtain ⟨hle', hf⟩ := h.counterpart_of_size_le hle
    rw [hf, descendants_of_size_le hle, descendants_of_size_le hle', List.map_nil]

theorem renumbers : r.Renumbers (r.counterpart r') r' where
  resolve := h.resolve?_counterpart
  name := h.name_counterpart
  ancestors := h.ancestors_counterpart
  descendants := h.descendants_counterpart
  edge := h.counterpart_edge
  injective := h.injective_counterpart

end Rearranged

end Registry

/-! ## Rule sets under other numbers -/

namespace Ruleset

/-- The one rule set is the other, with its types under other numbers. -/
structure Renumbers (f : TypeId → TypeId) (rules rules' : Ruleset) : Prop where
  registry : rules.registry.Renumbers f rules'.registry
  templates : ∀ id, rules'.template? (f id) = (rules.template? id).map (Template.renumber f)
  interactions : rules'.interactions.toList = rules.interactions.toList.map fun i => i.renumber f i.definition
  pairs : ∀ a b, (rules'.pair? (f a) (f b)).map (·.rules) = (rules.pair? a b).map (·.rules)
  terminations : rules'.terminations = rules.terminations.map fun t => t.renumber f t.definition
  levelMapping : rules'.levelMapping = rules.levelMapping.mapValues fun _ types => types.map f

theorem template?_edge (d : Description) (settings : Settings) :
    (compile d settings).value.template? Registry.edge =
      some (edgeTemplate (compile d settings).value.registry) := by
  unfold template?
  rw [templates_compile]
  exact kept_buildTemplates _ _ _ Nat.zero_lt_one

theorem template?_of_size_le {d : Description} {settings : Settings} {id : TypeId}
    (hle : (compile d settings).value.registry.size ≤ id) : (compile d settings).value.template? id = none :=
  Array.getElem?_eq_none ((aligned_compile d settings).size.symm ▸ hle)

/-- The template of a definition, from its own part and that of the type it inherits from. -/
def templateOf (rules : Ruleset) (placeholders : Params) (id : TypeId) (e : SpriteDef) : Checked Template :=
  Template.build id e.keyword (e.params.decorate placeholders) ((rules.registry.parent? id).bind rules.template?)
    rules.registry

theorem akin_templateOf {f : TypeId → TypeId} {rules rules' : Ruleset}
    (hr : rules.registry.Renumbers f rules'.registry) (placeholders : Params) (e : SpriteDef) {id : TypeId}
    (hparent : ∀ p, rules.registry.parent? id = some p →
      rules'.template? (f p) = (rules.template? p).map (Template.renumber f)) :
    Checked.Akin (Template.renumber f) (rules.templateOf placeholders id e) (rules'.templateOf placeholders (f id) e) := by
  have hinherited : (rules'.registry.parent? (f id)).bind rules'.template? =
      ((rules.registry.parent? id).bind rules.template?).map (Template.renumber f) := by
    rw [hr.parent?]
    cases hp : rules.registry.parent? id with
    | none => rfl
    | some p => exact hparent p hp
  unfold templateOf
  rw [hinherited]
  exact Template.akin_build hr id e.keyword _ _

section

variable {d : Description} {sprites : List SpriteDef} (hperm : d.sprites.Perm sprites)
include hperm

theorem rearranged_compile (settings : Settings) (h : (declare .new d.walk).problems = []) :
    (compile d settings).value.registry.Rearranged d (compile (d.withSprites sprites) settings).value.registry
      (d.withSprites sprites) where
  wellFormed := wellFormed_compile d settings
  declares := declares_declare h
  wellFormed' := wellFormed_compile _ settings
  declares' := declares_declare (problems_declare_perm (Description.walk_perm hperm) h)
  walk := Description.walk_perm hperm

theorem template?_counterpart (settings : Settings) (h : (declare .new d.walk).problems = []) (id : TypeId) :
    let rules := (compile d settings).value
    let rules' := (compile (d.withSprites sprites) settings).value
    let f := rules.registry.counterpart rules'.registry
    rules'.template? (f id) = (rules.template? id).map (Template.renumber f) := by
  intro rules rules' f
  have hre : rules.registry.Rearranged d rules'.registry (d.withSprites sprites) := rearranged_compile hperm settings h
  have h' : (declare .new (d.withSprites sprites).walk).problems = [] := problems_declare_perm hre.walk h
  induction id using Nat.strong_induction_on with
  | h id ih =>
    rcases hre.declares.type_cases id with rfl | ⟨k, e, q, rfl, hk⟩ | hle
    · have hedge := (Template.akin_build hre.renumbers Registry.edge none .empty none).value
      have hf : f Registry.edge = Registry.edge := hre.counterpart_edge
      rw [hre.counterpart_edge] at hedge
      rw [hf, template?_edge, template?_edge, Option.map_some]
      exact congrArg some hedge
    · obtain ⟨k', hk', hf⟩ := hre.counterpart_of_walk hk
      have hakin := akin_templateOf hre.renumbers d.placeholders e fun p hp =>
        ih p (hre.wellFormed.older (List.mem_of_head? hp))
      have hvalue := (@templates_of_walk d settings h).1 k e q hk
      have hvalue' := (@templates_of_walk (d.withSprites sprites) settings h').1 k' e q hk'
      rw [← hf] at hvalue'
      rw [hvalue, Option.map_some]
      exact hvalue'.trans (congrArg some hakin.value)
    · obtain ⟨hle', hsame⟩ := hre.counterpart_of_size_le hle
      have hf : f id = id := hsame
      rw [hf, template?_of_size_le hle, template?_of_size_le hle', Option.map_none]

/-- Where no name is declared twice, sprites in another order only give other numbers to types. -/
theorem renumbers_compile (settings : Settings) (h : (declare .new d.walk).problems = []) :
    (compile d settings).value.Renumbers
      ((compile d settings).value.registry.counterpart (compile (d.withSprites sprites) settings).value.registry)
      (compile (d.withSprites sprites) settings).value := by
  have hr := (rearranged_compile hperm settings h).renumbers
  have hinteractions : (compile (d.withSprites sprites) settings).value.interactions.toList =
      (compile d settings).value.interactions.toList.map _ :=
    (Checked.akin_keepEach fun rule _ => Interaction.akin_reread hr d.placeholders rule).value
  exact {
    registry := hr
    templates := template?_counterpart hperm settings h
    interactions := hinteractions
    pairs := fun a b => by
      rw [pair?_compile, pair?_compile, hinteractions]
      simp only [Pairing.mem_keys_renumber hr]
      split
      · exact congrArg some (Pairing.rules_between_renumber hr _ a b)
      · rfl
    terminations := (Checked.akin_keepEach fun t _ => Termination.akin_reread hr t).value
    levelMapping := levelMapping_renumber hr d.levelMapping }

/-- Sprites in another order have no problem either. -/
theorem problems_compile_perm {settings : Settings} (h : (compile d settings).problems = []) :
    (compile (d.withSprites sprites) settings).problems = [] := by
  obtain ⟨hdeclare, hbuild, hinteractions, hterminations, hmapping⟩ := problems_compile_eq_nil.1 h
  have hre := rearranged_compile hperm settings hdeclare
  have hr := hre.renumbers
  have hdeclare' : (declare .new (d.withSprites sprites).walk).problems = [] := problems_declare_perm hre.walk hdeclare
  refine problems_compile_eq_nil.2 ⟨hdeclare', ?_, ?_, ?_, ?_⟩
  · refine (@templates_of_walk (d.withSprites sprites) settings hdeclare').2.2 fun k' e q hk' => ?_
    obtain ⟨k, hk, -⟩ := hre.symm.counterpart_of_walk hk'
    obtain ⟨k'', hk'', hf⟩ := hre.counterpart_of_walk hk
    obtain rfl := hre.declares'.index_unique hk' hk'' rfl
    have hakin := @akin_templateOf _ _ _ hr d.placeholders e (k + 1) fun p _ =>
      template?_counterpart hperm settings hdeclare p
    rw [hf] at hakin
    exact hakin.problems.2 ((@templates_of_walk d settings hdeclare).2.1 hbuild k e q hk)
  · exact fun rule hrule => (Interaction.akin_reread hr d.placeholders rule).problems.2 (hinteractions rule hrule)
  · exact fun t ht => (Termination.akin_reread hr t).problems.2 (hterminations t ht)
  · exact (problems_resolveMapping_renumber hr d.levelMapping).2 hmapping

end

/-! ## Rule sets read by names -/

/-- A template with names in place of the types that it speaks of. The other fields stand in
a template that speaks of the screen edge only. -/
structure NamedTemplate where
  type : String
  ancestors : List String
  target : Option String
  ammo : Option String
  rest : Template

def namedTemplate? (r : Ruleset) (name : String) : Option NamedTemplate :=
  ((r.registry.resolve? name).bind r.template?).map fun t => {
    type := r.registry.name t.id
    ancestors := r.names t.ancestors
    target := t.target.map r.registry.name
    ammo := t.ammo.map r.registry.name
    rest := { t with id := Registry.edge, ancestors := [], target := none, ammo := none } }

/-- The numbers of the rules for two sprites, by declaration order. -/
def ruleNumbers? (r : Ruleset) (first second : String) : Option (List Nat) :=
  (r.registry.resolve? first).bind fun a => (r.registry.resolve? second).bind fun b => (r.pair? a b).map (·.rules)

/-- Two rule sets say the same of the sprites with the same names. -/
structure AgreesByName (r r' : Ruleset) : Prop where
  templates : ∀ name, r'.namedTemplate? name = r.namedTemplate? name
  rules : ∀ first second, r'.ruleNumbers? first second = r.ruleNumbers? first second
  interactions : ∀ first second, r'.interactionsBetween first second = r.interactionsBetween first second
  terminations : r'.terminations.map (fun t => (t.kind, t.definition, r'.summarizeTermination t)) =
    r.terminations.map fun t => (t.kind, t.definition, r.summarizeTermination t)
  mapping : r'.mappingNames = r.mappingNames

namespace Renumbers

variable {f : TypeId → TypeId} {r r' : Ruleset} (h : r.Renumbers f r')
include h

theorem names (types : List TypeId) : r'.names (types.map f) = r.names types := by
  unfold Ruleset.names
  rw [List.map_map]
  exact List.map_congr_left fun id _ => h.registry.name id

theorem name_option (type : Option TypeId) : (type.map f).map r'.registry.name = type.map r.registry.name := by
  cases type with
  | none => rfl
  | some id => exact congrArg some (h.registry.name id)

theorem namedTemplate? (name : String) : r'.namedTemplate? name = r.namedTemplate? name := by
  unfold Ruleset.namedTemplate?
  rw [h.registry.resolve]
  cases r.registry.resolve? name with
  | none => rfl
  | some id =>
    rw [Option.map_some, Option.bind_some, Option.bind_some, h.templates, Option.map_map]
    refine congrArg (Option.map · _) (funext fun t => ?_)
    simp only [Function.comp_apply, Template.renumber, h.registry.name, h.names, h.name_option]

theorem ruleNumbers? (first second : String) : r'.ruleNumbers? first second = r.ruleNumbers? first second := by
  unfold Ruleset.ruleNumbers?
  rw [h.registry.resolve, h.registry.resolve]
  cases r.registry.resolve? first with
  | none => rfl
  | some a =>
    cases r.registry.resolve? second with
    | none => rfl
    | some b => exact h.pairs a b

theorem summarizeRule (i : Interaction) : r'.summarizeRule (i.renumber f i.definition) = r.summarizeRule i := by
  have htypes : (i.effect.renumber f).referencedTypes = i.effect.referencedTypes.map f := by
    cases i.effect <;> rfl
  unfold Ruleset.summarizeRule Interaction.renumber
  rw [htypes, h.names]

theorem interactionsBetween (first second : String) :
    r'.interactionsBetween first second = r.interactionsBetween first second := by
  have hget : ∀ i : Nat, r'.interactions[i]? = (r.interactions[i]?).map fun rule => rule.renumber f rule.definition := by
    intro i
    rw [← Array.getElem?_toList, ← Array.getElem?_toList, h.interactions, List.getElem?_map]
  have hrules : ∀ rules : List Nat, (rules.filterMap (r'.interactions[·]?)).map r'.summarizeRule =
      (rules.filterMap (r.interactions[·]?)).map r.summarizeRule := by
    intro rules
    rw [List.map_filterMap, List.map_filterMap]
    refine congrArg (List.filterMap · rules) (funext fun i => ?_)
    rw [hget, Option.map_map]
    exact congrArg (Option.map · _) (funext h.summarizeRule)
  unfold Ruleset.interactionsBetween
  rw [h.registry.resolve, h.registry.resolve]
  cases r.registry.resolve? first with
  | none => rfl
  | some a =>
    cases r.registry.resolve? second with
    | none => rfl
    | some b =>
      have hpair := h.pairs a b
      cases hp : r.pair? a b with
      | none =>
        rw [hp, Option.map_none, Option.map_eq_none_iff] at hpair
        simp only [Option.map_some, hpair, hp]
      | some p =>
        rw [hp, Option.map_some] at hpair
        obtain ⟨p', hp', hp'rules⟩ := Option.map_eq_some_iff.1 hpair
        simp only [Option.map_some, hp', hp, hp'rules, hrules]

theorem summarizeTermination (t : Termination) :
    r'.summarizeTermination (t.renumber f t.definition) = r.summarizeTermination t := by
  have htypes : (t.condition.renumber f).types = t.condition.types.map f := by
    cases t.condition <;> rfl
  unfold Ruleset.summarizeTermination Termination.renumber
  rw [htypes, h.names]

theorem mappingNames : r'.mappingNames = r.mappingNames := by
  refine SortedMap.ext_get? fun c => ?_
  unfold Ruleset.mappingNames
  rw [SortedMap.get?_mapValues, SortedMap.get?_mapValues, h.levelMapping, SortedMap.get?_mapValues, Option.map_map]
  exact congrArg (Option.map · _) (funext h.names)

theorem agreesByName : r.AgreesByName r' where
  templates := h.namedTemplate?
  rules := h.ruleNumbers?
  interactions := h.interactionsBetween
  terminations := by
    rw [h.terminations, List.map_map]
    refine List.map_congr_left fun t _ => ?_
    have hkind : (t.renumber f t.definition).kind = t.kind := by
      unfold Termination.kind Termination.renumber
      cases t.condition <;> rfl
    rw [Function.comp_apply, hkind, h.summarizeTermination]
    rfl
  mapping := h.mappingNames

end Renumbers

/-- A description whose sprites are put in another order still has no problem, and all that is
said of sprites by their names is the same: their templates, the numbers of the rules for two
of them, the conditions that end the game, and what characters stand for. -/
theorem agreesByName_compile {d : Description} {sprites : List SpriteDef} {settings : Settings}
    (h : (compile d settings).problems = []) (hperm : d.sprites.Perm sprites) :
    (compile (d.withSprites sprites) settings).problems = [] ∧
      (compile d settings).value.AgreesByName (compile (d.withSprites sprites) settings).value :=
  ⟨problems_compile_perm hperm h, (renumbers_compile hperm settings (problems_compile_eq_nil.1 h).1).agreesByName⟩

/-- From the last to the first, the walls are the fifth type and no longer the first one, and
what happens to an ant at a wall is still the first of the rules. -/
theorem agreesByName_compile_colony :
    let rules := (compile colony .default).value
    let backwards := compile (colony.withSprites colony.sprites.reverse) .default
    (compile colony .default).problems = [] ∧ colony.sprites.Perm colony.sprites.reverse ∧
      backwards.problems = [] ∧ rules.AgreesByName backwards.value ∧ rules.registry.resolve? "wall" = some 1 ∧
      backwards.value.registry.resolve? "wall" = some 5 ∧ backwards.value.ruleNumbers? "ant" "wall" = some [0] := by
  have hproblems : (compile colony .default).problems = [] := by decide +kernel
  have hperm : colony.sprites.Perm colony.sprites.reverse := (List.reverse_perm colony.sprites).symm
  obtain ⟨hbackwards, hagrees⟩ := agreesByName_compile hproblems hperm
  exact ⟨hproblems, hperm, hbackwards, hagrees, by decide +kernel, by decide +kernel, by decide +kernel⟩

end Ruleset

end SpriteGame
