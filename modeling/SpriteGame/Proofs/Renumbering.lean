import SpriteGame.Proofs.Complete
/-!
# Reading under other numbers

Types are numbers, but nothing depends on which. Where two registries have the same names
under different numbers (`Registry.Renumbers`), all that is read with the one is read with the
other, with the types replaced (`Checked.Akin`), and the one reading has problems if the other
has. Nor does it matter for that in which line something stands.
-/
namespace SpriteGame

/-! ## Checked values that agree -/

namespace Checked

variable {α β γ δ : Type} {g : α → β} {g' : γ → δ}

/-- The one value is made from the other, and both have problems or none has. -/
structure Akin (g : α → β) (x : Checked α) (y : Checked β) : Prop where
  value : y.value = g x.value
  problems : y.problems = [] ↔ x.problems = []

theorem Akin.congr {g' : α → β} {x : Checked α} {y : Checked β} (hx : Akin g x y) (hg : g x.value = g' x.value) :
    Akin g' x y := ⟨hx.value.trans hg, hx.problems⟩

theorem akin_refl (x : Checked α) : Akin id x x := ⟨rfl, .rfl⟩

theorem akin_pure {a : α} {b : β} (hb : b = g a) : Akin g (pure a) (pure b) := ⟨hb, .rfl⟩

theorem akin_problem {a : α} {b : β} (hb : b = g a) (p q : Problem) : Akin g ⟨a, [p], []⟩ ⟨b, [q], []⟩ :=
  ⟨hb, by simp⟩

theorem akin_warn (w w' : Warning) : Akin id (warn w) (warn w') := ⟨rfl, .rfl⟩

theorem akin_report (p q : Problem) : Akin id (report p) (report q) := akin_problem rfl p q

theorem akin_reportAll (l : List α) (f f' : α → Problem) : Akin id (reportAll (l.map f)) (reportAll (l.map f')) :=
  ⟨rfl, by simp [reportAll]⟩

theorem Akin.bind {x : Checked α} {y : Checked β} {k : α → Checked γ} {k' : β → Checked δ} (hx : Akin g x y)
    (hk : Akin g' (k x.value) (k' (g x.value))) : Akin g' (x >>= k) (y >>= k') := by
  rw [← hx.value] at hk
  refine ⟨hk.value, ?_⟩
  rw [problems_bind, problems_bind, List.append_eq_nil_iff, List.append_eq_nil_iff, hx.problems, hk.problems]

/-- What needs a value goes on where there is one, and otherwise without it. -/
theorem Akin.andThen {x : Checked (Option α)} {y : Checked (Option β)} {k : Option α → Checked γ}
    {k' : Option β → Checked δ} (hx : Akin (Option.map g) x y) (hsome : ∀ a, Akin g' (k (some a)) (k' (some (g a))))
    (hnone : Akin g' (k none) (k' none)) : Akin g' (x >>= k) (y >>= k') := by
  refine hx.bind ?_
  cases x.value with
  | none => exact hnone
  | some a => exact hsome a

theorem akin_ite {c c' : Prop} [Decidable c] [Decidable c'] (hc : c' ↔ c) {x₁ x₂ : Checked α} {y₁ y₂ : Checked β}
    (hthen : Akin g x₁ y₁) (helse : Akin g x₂ y₂) : Akin g (if c then x₁ else x₂) (if c' then y₁ else y₂) := by
  simp only [hc]
  split
  · exact hthen
  · exact helse

theorem akin_none : Akin (Option.map g) (pure none) (pure none) := akin_pure rfl

theorem akin_some {a : α} {b : β} (hb : b = g a) : Akin (Option.map g) (pure (some a)) (pure (some b)) :=
  akin_pure (congrArg some hb)

theorem akin_forEach {ι : Type} {x : ι → Checked α} {y : ι → Checked β} {l : List ι} (hxy : ∀ i ∈ l, Akin g (x i) (y i)) :
    Akin (List.map g) (forEach x l) (forEach y l) := by
  refine ⟨?_, ?_⟩
  · rw [value_forEach, value_forEach, List.map_map]
    exact List.map_congr_left fun i hi => (hxy i hi).value
  · rw [problems_forEach, problems_forEach, List.flatMap_eq_nil_iff, List.flatMap_eq_nil_iff]
    exact forall₂_congr fun i hi => (hxy i hi).problems

theorem akin_keepEach {ι : Type} {x : ι → Checked (Option α)} {y : ι → Checked (Option β)} {l : List ι}
    (hxy : ∀ i ∈ l, Akin (Option.map g) (x i) (y i)) : Akin (List.map g) (keepEach x l) (keepEach y l) :=
  (akin_forEach hxy).bind (akin_pure (by simp [List.filterMap_map, List.map_filterMap]))

end Checked

open Checked

/-! ## Renumbering -/

/-- The types of the one registry are those of the other, under the numbers that `f` gives. -/
structure Registry.Renumbers (f : TypeId → TypeId) (r r' : Registry) : Prop where
  resolve : ∀ name, r'.resolve? name = (r.resolve? name).map f
  name : ∀ id, r'.name (f id) = r.name id
  ancestors : ∀ id, r'.ancestors (f id) = (r.ancestors id).map f
  descendants : ∀ id, r'.descendants (f id) = (r.descendants id).map f
  edge : f edge = edge
  injective : Function.Injective f

theorem Registry.renumbers_id (r : Registry) : Renumbers id r r where
  resolve name := by rw [Option.map_id, id]
  name _ := rfl
  ancestors id := by rw [List.map_id]; rfl
  descendants id := by rw [List.map_id]; rfl
  edge := rfl
  injective := Function.injective_id

theorem Registry.Renumbers.eq_edge_iff {f : TypeId → TypeId} {r r' : Registry} (hr : r.Renumbers f r') (id : TypeId) :
    f id = Registry.edge ↔ id = Registry.edge := by
  constructor
  · intro h
    exact hr.injective (h.trans hr.edge.symm)
  · rintro rfl
    exact hr.edge

theorem Registry.Renumbers.parent? {f : TypeId → TypeId} {r r' : Registry} (hr : r.Renumbers f r') (id : TypeId) :
    r'.parent? (f id) = (r.parent? id).map f := by
  unfold Registry.parent?
  rw [hr.ancestors, List.head?_map]

def Effect.renumber (f : TypeId → TypeId) : Effect → Effect
  | killAll type => killAll (f type)
  | killIfHasMore resource limit => killIfHasMore (f resource) limit
  | killIfHasLess resource limit => killIfHasLess (f resource) limit
  | killIfOtherHasMore resource limit => killIfOtherHasMore (f resource) limit
  | undoAll except => undoAll (except.map f)
  | spawn type => spawn (f type)
  | spawnBehind type => spawnBehind (f type)
  | spawnIfHasMore resource limit type => spawnIfHasMore (f resource) limit (f type)
  | transformTo type killSecond => transformTo (f type) killSecond
  | changeResource resource value killResource => changeResource (f resource) value killResource
  | speedToAll type value change => speedToAll (f type) value change
  | e => e

theorem Effect.needsSecond_renumber (f : TypeId → TypeId) (e : Effect) : (e.renumber f).needsSecond = e.needsSecond := by
  cases e <;> rfl

/-- The same rule, written elsewhere. -/
def Interaction.renumber (f : TypeId → TypeId) (definition : InteractionDef) (r : Interaction) : Interaction :=
  { r with first := f r.first, second := f r.second, effect := r.effect.renumber f, definition }

def Condition.renumber (f : TypeId → TypeId) : Condition → Condition
  | spriteCounter type => spriteCounter (f type)
  | multiSpriteCounter types => multiSpriteCounter (types.map f)
  | timeout => timeout

/-- The same termination, written elsewhere. -/
def Termination.renumber (f : TypeId → TypeId) (definition : TerminationDef) (t : Termination) : Termination :=
  { t with condition := t.condition.renumber f, definition }

def Template.renumber (f : TypeId → TypeId) (t : Template) : Template :=
  { t with id := f t.id, ancestors := t.ancestors.map f, target := t.target.map f, ammo := t.ammo.map f }

section

variable {f : TypeId → TypeId} {r r' : Registry} (hr : r.Renumbers f r') {place place' : Place}

/-! ## Parameters -/

include hr in
theorem Registry.Renumbers.akin_resolve (name : String) :
    Akin (Option.map f) (ofExcept (r.resolve name place)) (ofExcept (r'.resolve name place')) := by
  unfold Registry.resolve
  rw [hr.resolve]
  cases r.resolve? name with
  | none => exact akin_problem rfl _ _
  | some id => exact akin_some rfl

namespace Params

variable (params : Params) (key : String)

theorem akin_parsed {α : Type} (read : List Char → Option α) (default : α) :
    Akin id (params.parsed place read key default) (params.parsed place' read key default) := by
  unfold parsed
  split
  · exact akin_refl _
  · split
    · exact akin_refl _
    · exact akin_problem rfl _ _

theorem akin_flag (default : Bool) : Akin id (params.flag place key default) (params.flag place' key default) := by
  unfold flag
  split
  · exact akin_refl _
  · dsimp only
    split
    · exact akin_refl _
    · exact akin_problem rfl _ _

theorem akin_prob : Akin id (params.prob place) (params.prob place') :=
  (params.akin_parsed "prob" _ 1).bind (akin_refl _)

include hr

theorem akin_sprite? : Akin (Option.map f) (params.sprite? place r key) (params.sprite? place' r' key) := by
  unfold sprite?
  split
  · exact akin_none
  · exact hr.akin_resolve _

theorem akin_requiredSprite? :
    Akin (Option.map f) (params.requiredSprite? place r key) (params.requiredSprite? place' r' key) := by
  unfold requiredSprite?
  split
  · exact akin_problem rfl _ _
  · exact hr.akin_resolve _

theorem akin_spriteList : Akin (List.map f) (params.spriteList place r key) (params.spriteList place' r' key) := by
  unfold spriteList
  split
  · exact akin_pure rfl
  · exact akin_keepEach fun _ _ => hr.akin_resolve _

end Params

/-! ## Interactions -/

namespace Effect

include hr

variable (params : Params)

theorem akin_readType {make : TypeId → Effect} (hmake : ∀ type, make (f type) = (make type).renumber f) :
    Akin (Option.map (renumber f)) (readType params place r make) (readType params place' r' make) :=
  (params.akin_requiredSprite? hr "stype").andThen (fun _ => akin_some (hmake _)) akin_none

theorem akin_readLimit {make : TypeId → Int → Effect}
    (hmake : ∀ resource limit, make (f resource) limit = (make resource limit).renumber f) :
    Akin (Option.map (renumber f)) (readLimit params place r make) (readLimit params place' r' make) :=
  (params.akin_requiredSprite? hr "resource").andThen
    (fun _ => (params.akin_parsed "limit" _ 0).bind (akin_some (hmake _ _))) akin_none

omit hr in
theorem akin_readPoints {make : Int → Effect} (hmake : ∀ value, make value = (make value).renumber f) :
    Akin (Option.map (renumber f)) (readPoints params place make) (readPoints params place' make) :=
  (params.akin_parsed "value" _ 1).bind (akin_some (hmake _))

theorem akin_readSpeed (change : SpeedChange) :
    Akin (Option.map (renumber f)) (readSpeed params place r change) (readSpeed params place' r' change) :=
  (params.akin_requiredSprite? hr "stype").andThen
    (fun _ => (params.akin_parsed "value" _ 0.1).bind (akin_some rfl)) akin_none

theorem akin_readParams (kind : EffectKind) :
    Akin (Option.map (renumber f)) (readParams params place r kind) (readParams params place' r' kind) := by
  have hsprite : ∀ key, Akin (Option.map f) (params.requiredSprite? place r key)
      (params.requiredSprite? place' r' key) := params.akin_requiredSprite? hr
  cases kind with
  | killAll | spawn | spawnBehind => exact akin_readType hr params fun _ => rfl
  | killIfHasMore | killIfHasLess | killIfOtherHasMore => exact akin_readLimit hr params fun _ _ => rfl
  | increaseSpeedToAll | decreaseSpeedToAll | setSpeedForAll => exact akin_readSpeed hr params _
  | addHealthPoints | addHealthPointsToMax | subtractHealthPoints => exact akin_readPoints params fun _ => rfl
  | undoAll =>
    refine (params.akin_spriteList hr "notStype").bind (akin_some (congrArg undoAll ?_))
    rw [List.map_flatMap, List.flatMap_map]
    exact List.flatMap_congr fun id _ => hr.descendants id
  | spawnIfHasMore =>
    exact (hsprite "resource").andThen (fun _ => (params.akin_parsed "limit" _ 0).bind
      ((hsprite "stype").andThen (fun _ => akin_some rfl) akin_none)) akin_none
  | transformTo =>
    exact (hsprite "stype").andThen (fun _ => (params.akin_flag "killSecond" false).bind (akin_some rfl)) akin_none
  | changeResource =>
    exact (hsprite "resource").andThen (fun _ => (params.akin_parsed "value" _ 1).bind
      ((params.akin_flag "killResource" false).bind (akin_some rfl))) akin_none
  | collectResource => exact (params.akin_flag "killResource" true).bind (akin_some rfl)
  | attractGaze => exact (params.akin_flag "align" false).bind (akin_some rfl)
  | _ => exact akin_some rfl

theorem akin_read? (keyword : String) :
    Akin (Option.map (renumber f)) (read? params place r keyword) (read? params place' r' keyword) := by
  unfold read?
  split
  · exact akin_problem rfl _ _
  · exact (akin_reportAll _ _ _).bind (akin_readParams hr params _)

end Effect

namespace Interaction

include hr

theorem akin_readBetween {d d' : InteractionDef} (heffect : d'.effect = d.effect) (hparams : d'.params = d.params)
    (first second : TypeId) :
    Akin (Option.map (renumber f d')) (readBetween r d place first second)
      (readBetween r' d' place' (f first) (f second)) := by
  unfold readBetween
  rw [heffect, hparams]
  refine (Effect.akin_read? hr d.params d.effect).andThen (fun e => ?_) akin_none
  refine (d.params.akin_parsed "scoreChange" _ 0).bind (d.params.akin_prob.bind ?_)
  refine akin_ite (and_congr (hr.eq_edge_iff second) (by rw [Effect.needsSecond_renumber])) ?_ (akin_some rfl)
  exact (akin_warn _ _).bind (akin_some rfl)

/-- A rule is read alike under other numbers and from another line. -/
theorem akin_read? (placeholders : Params) (d : InteractionDef) (line : Nat) :
    Akin (Option.map (renumber f { d with params := d.params.decorate placeholders, line }))
      (read? r placeholders d) (read? r' placeholders { d with line }) := by
  unfold read? Registry.resolve
  dsimp only
  rw [hr.resolve, hr.resolve]
  cases r.resolve? d.first with
  | none =>
    cases r.resolve? d.second with
    | none => exact ⟨rfl, by simp⟩
    | some second => exact akin_problem rfl _ _
  | some first =>
    cases r.resolve? d.second with
    | none => exact akin_problem rfl _ _
    | some second =>
      refine akin_ite (hr.eq_edge_iff first) (akin_problem rfl _ _) ?_
      exact akin_readBetween hr (by rfl) (by rfl) first second

theorem akin_reread (placeholders : Params) (d : InteractionDef) :
    Akin (Option.map fun i => i.renumber f i.definition) (read? r placeholders d) (read? r' placeholders d) := by
  refine (akin_read? hr placeholders d d.line).congr ?_
  cases h : (read? r placeholders d).value with
  | none => rfl
  | some i => exact congrArg (fun definition => some (i.renumber f definition)) (renders_read? h).definition.symm

theorem covers_renumber (i : Interaction) (definition : InteractionDef) (a b : TypeId) :
    (i.renumber f definition).covers r' (f a) (f b) = i.covers r a b := by
  have hseconds : (i.renumber f definition).seconds r' = (i.seconds r).map f := by
    unfold seconds renumber
    dsimp only
    by_cases he : i.second = Registry.edge
    · rw [if_pos he, if_pos ((hr.eq_edge_iff _).2 he), List.map_singleton, hr.edge]
    · rw [if_neg he, if_neg fun h => he ((hr.eq_edge_iff _).1 h), hr.descendants]
  unfold covers
  rw [hseconds, Bool.eq_iff_iff]
  simp only [renumber, hr.descendants, Bool.and_eq_true, List.contains_iff_mem, List.mem_map_of_injective hr.injective]

end Interaction

namespace Pairing

variable (rules : List Interaction) (a b : TypeId)

include hr

theorem mem_keys_renumber :
    (f a, f b) ∈ keys r' (rules.map fun i => i.renumber f i.definition) ↔ (a, b) ∈ keys r rules := by
  rw [mem_keys, mem_keys]
  simp only [List.mem_map, exists_exists_and_eq_and, Interaction.covers_renumber hr]

theorem rules_between_renumber :
    (between r' (rules.map fun i => i.renumber f i.definition) (f a, f b)).rules = (between r rules (a, b)).rules := by
  unfold between
  dsimp only
  rw [List.zipIdx_map, List.filter_map, List.map_map]
  simp only [Function.comp_def, Prod.map_fst, Prod.map_snd, id, Interaction.covers_renumber hr]

end Pairing

/-! ## Terminations -/

namespace Termination

variable (params : Params)

theorem akin_readStrict {α : Type} (read : List Char → Option α) (key : String) (entry : Option (List Char))
    (default : α) : Akin (Option.map id) (readStrict place read key entry default)
      (readStrict place' read key entry default) := by
  unfold readStrict
  split
  · exact akin_some rfl
  · split
    · exact akin_some rfl
    · exact akin_problem rfl _ _

include hr

theorem akin_resolveAll (names : List String) :
    Akin (Option.map (List.map f)) (resolveAll place r names) (resolveAll place' r' names) := by
  induction names with
  | nil => exact akin_some rfl
  | cons name names ih =>
    exact (hr.akin_resolve name).andThen (fun _ => ih.andThen (fun _ => akin_some rfl) akin_none) akin_none

theorem akin_readCondition (kind : TerminationKind) :
    Akin (Option.map (Condition.renumber f)) (readCondition params place r kind)
      (readCondition params place' r' kind) := by
  cases kind with
  | spriteCounter => exact (params.akin_requiredSprite? hr "stype").andThen (fun _ => akin_some rfl) akin_none
  | multiSpriteCounter =>
    refine (akin_resolveAll hr _).andThen (fun types => ?_) akin_none
    refine akin_ite (by rw [List.isEmpty_map]) ?_ (akin_some rfl)
    exact (akin_report _ _).bind akin_none
  | timeout => exact akin_some rfl

/-- A termination is read alike under other numbers and from another line. -/
theorem akin_read? (d : TerminationDef) (line : Nat) :
    Akin (Option.map (renumber f { d with line })) (read? r d) (read? r' { d with line }) := by
  have hnumber : ∀ key, Akin (Option.map id) (readNumber d.params (.termination d.kind d.line) key)
      (readNumber d.params (.termination d.kind line) key) := fun key => akin_readStrict _ key _ 0
  have hflag : Akin (Option.map id) (readFlag d.params (.termination d.kind d.line) "win")
      (readFlag d.params (.termination d.kind line) "win") := akin_readStrict _ _ _ false
  unfold read?
  dsimp only
  cases TerminationKind.ofKeyword? d.kind with
  | none =>
    refine (hnumber "limit").andThen (fun limit => ?_) akin_none
    refine (hnumber "scoreChange").andThen (fun score => ?_) akin_none
    refine hflag.andThen (fun win => ?_) akin_none
    exact (akin_report _ _).bind akin_none
  | some kind =>
    refine (akin_reportAll _ _ _).bind ?_
    refine (hnumber "limit").andThen (fun limit => ?_) akin_none
    refine (hnumber "scoreChange").andThen (fun score => ?_) akin_none
    refine hflag.andThen (fun win => ?_) akin_none
    exact (akin_readCondition hr d.params kind).andThen (fun _ => akin_some rfl) akin_none

theorem akin_reread (d : TerminationDef) :
    Akin (Option.map fun t => t.renumber f t.definition) (read? r d) (read? r' d) := by
  refine (akin_read? hr d d.line).congr ?_
  cases h : (read? r d).value with
  | none => rfl
  | some t => exact congrArg (fun definition => some (t.renumber f definition)) (renders_read? h).definition.symm

end Termination

/-! ## Templates -/

namespace Template

include hr

variable (params : Params)

theorem akin_read (type : TypeId) (cls : SpriteClass) :
    Akin (renumber f) (read type cls params r) (read (f type) cls params r') := by
  unfold read
  rw [hr.name, hr.ancestors]
  -- The reader branches on the class, on the greatest distance and on a missing target.
  by_cases hflicker : cls = .flicker <;> cases params.contains "maxDistance" <;>
    cases cls.needsTarget && !params.contains "stype"
  all_goals
    simp only [hflicker, if_true, if_false, Bool.false_eq_true]
    iterate 11 refine (akin_refl _).bind ?_
    refine (params.akin_sprite? hr "stype").bind ?_
    refine (params.akin_sprite? hr "ammo").bind ?_
    iterate 5 refine (akin_refl _).bind ?_
    first
    | exact akin_pure rfl
    | exact (akin_refl _).bind (akin_pure rfl)

theorem akin_build (type : TypeId) (keyword : Option String) (own : Params) (parent : Option Template) :
    Akin (renumber f) (build type keyword own parent r)
      (build (f type) keyword own (parent.map (renumber f)) r') := by
  unfold build
  rw [hr.name]
  cases parent with
  | none => exact (akin_refl _).bind ((akin_refl _).bind (akin_read hr _ type _))
  | some p => exact (akin_refl _).bind ((akin_refl _).bind (akin_read hr _ type _))

end Template

/-! ## The level mapping -/

include hr

namespace Ruleset

theorem akin_resolveNames (symbol : Char) (names : List String) :
    Akin (List.map f) (resolveNames r symbol names) (resolveNames r' symbol names) :=
  akin_keepEach fun name _ => hr.akin_resolve name

theorem problems_resolveMapping_renumber (mapping : SortedMap Char (List String)) :
    (resolveMapping r' mapping).problems = [] ↔ (resolveMapping r mapping).problems = [] := by
  have hentries : Akin (List.map fun e : Char × List TypeId => (e.1, e.2.map f))
      (forEach (fun e => do pure (e.1, ← resolveNames r e.1 e.2)) mapping.entries)
      (forEach (fun e => do pure (e.1, ← resolveNames r' e.1 e.2)) mapping.entries) :=
    akin_forEach fun e _ => (akin_resolveNames hr e.1 e.2).bind (akin_pure rfl)
  unfold resolveMapping
  rw [problems_bind, problems_bind, problems_pure, problems_pure, List.append_nil, List.append_nil]
  exact hentries.problems

theorem levelMapping_renumber (mapping : SortedMap Char (List String)) :
    defaultSymbols.foldl (addDefault r') (resolveMapping r' mapping).value =
      (defaultSymbols.foldl (addDefault r) (resolveMapping r mapping).value).mapValues fun _ types => types.map f := by
  refine SortedMap.ext_get? fun c => ?_
  rw [SortedMap.get?_mapValues, get?_addDefaults, get?_addDefaults, value_resolveMapping, value_resolveMapping,
    SortedMap.get?_mapValues, SortedMap.get?_mapValues, Option.map_or]
  congr 1
  · cases mapping.get? c with
    | none => rfl
    | some names => exact congrArg some (akin_resolveNames hr c names).value
  · cases defaultName? c with
    | none => rfl
    | some name =>
      rw [Option.bind_some, Option.bind_some, hr.resolve]
      cases r.resolve? name <;> rfl

end Ruleset

end

/-! ## Problems of a compilation -/

namespace Description

variable (d : Description)

/-- A rule has no problem among the sprites of a description. -/
def Resolves (rule : InteractionDef) : Prop :=
  (Interaction.read? (Ruleset.declare .new d.walk).value.1 d.placeholders rule).problems = []

def ResolvesTermination (t : TerminationDef) : Prop :=
  (Termination.read? (Ruleset.declare .new d.walk).value.1 t).problems = []

end Description

/-- A description is without a problem if all its parts are, each in the registry of its sprites. -/
theorem Ruleset.problems_compile_eq_nil {d : Description} {settings : Settings} :
    (compile d settings).problems = [] ↔
      let declared := (declare .new d.walk).value
      (declare .new d.walk).problems = [] ∧
      (buildTemplates declared.1 d.placeholders declared.2 #[edgeTemplate declared.1]).problems = [] ∧
      (∀ rule ∈ d.interactions, d.Resolves rule) ∧ (∀ t ∈ d.terminations, d.ResolvesTermination t) ∧
      (resolveMapping declared.1 d.levelMapping).problems = [] := by
  unfold compile
  simp only [problems_bind, problems_pure, problems_keepEach, List.append_eq_nil_iff, List.flatMap_eq_nil_iff,
    and_true]
  rfl

end SpriteGame
