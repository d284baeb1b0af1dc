import SpriteGame.Proofs.Declaration
import SpriteGame.Proofs.Registered
/-!
# Rule sets without a problem

Whatever is left out of a rule set is reported: without a problem all definitions have
their types, templates, rules, conditions and characters (`complete_compile`). Each reader
that can end with nothing then has a problem to show for it (`Checked.Accounted`), so a list
of them keeps every element (`Checked.forall₂_keepEach`).
-/
namespace SpriteGame

/-! ## Readers that account for what is missing -/

namespace Checked

variable {α β : Type}

/-- What is missing has a problem. -/
def Accounted (x : Checked (Option α)) : Prop := x.problems = [] → ∃ a, x.value = some a

theorem accounted_some (a : α) : (pure (some a) : Checked (Option α)).Accounted := fun _ => ⟨a, rfl⟩

theorem accounted_of_problem {x : Checked (Option α)} (h : x.problems ≠ []) : x.Accounted := fun hnil => absurd hnil h

theorem accounted_ofExcept (x : Except Problem α) : (ofExcept x).Accounted := by
  cases x with
  | error p => exact accounted_of_problem (List.cons_ne_nil p [])
  | ok a => exact accounted_some a

/-- What is done before does not matter. -/
theorem Accounted.after {x : Checked α} {f : α → Checked (Option β)} (hf : (f x.value).Accounted) :
    (x >>= f).Accounted := by
  intro h
  rw [problems_bind, List.append_eq_nil_iff] at h
  exact hf h.2

/-- What needs a value that is missing goes missing with it. -/
theorem Accounted.bind {x : Checked (Option α)} {f : Option α → Checked (Option β)} (hx : x.Accounted)
    (hf : ∀ a, (f (some a)).Accounted) : (x >>= f).Accounted := by
  intro h
  rw [problems_bind, List.append_eq_nil_iff] at h
  obtain ⟨a, ha⟩ := hx h.1
  rw [ha] at h
  obtain ⟨b, hb⟩ := hf a h.2
  exact ⟨b, by rw [value_bind, ha, hb]⟩

theorem problems_forEach (f : α → Checked β) (l : List α) :
    (forEach f l).problems = l.flatMap fun a => (f a).problems := by
  induction l with
  | nil => rfl
  | cons a l ih =>
    rw [forEach, problems_bind, problems_bind, problems_pure, ih, List.append_nil, List.flatMap_cons]

theorem problems_keepEach (f : α → Checked (Option β)) (l : List α) :
    (keepEach f l).problems = l.flatMap fun a => (f a).problems := by
  unfold keepEach
  rw [problems_bind, problems_forEach, problems_pure, List.append_nil]

theorem keepEach_of_forall₂ {f : α → Checked (Option β)} {l : List α} {bs : List β}
    (h : List.Forall₂ (fun a b => f a = pure (some b)) l bs) :
    (keepEach f l).value = bs ∧ (keepEach f l).problems = [] := by
  rw [value_keepEach, problems_keepEach]
  induction h with
  | nil => exact ⟨rfl, rfl⟩
  | @cons a b l bs hab _ ih =>
    rw [List.filterMap_cons, List.flatMap_cons, hab, ih.2]
    exact ⟨congrArg (b :: ·) ih.1, rfl⟩

/-- Where all is accounted for, nothing is left out without a problem. -/
theorem forall₂_keepEach {f : α → Checked (Option β)} {l : List α} (hf : ∀ a, (f a).Accounted)
    (h : (keepEach f l).problems = []) : List.Forall₂ (fun a b => (f a).value = some b) l (keepEach f l).value := by
  rw [problems_keepEach] at h
  rw [value_keepEach]
  induction l with
  | nil => exact .nil
  | cons a l ih =>
    rw [List.flatMap_cons, List.append_eq_nil_iff] at h
    obtain ⟨b, hb⟩ := hf a h.1
    simp only [List.filterMap_cons, hb]
    exact .cons hb (ih h.2)

end Checked

open Checked

theorem Params.accounted_requiredSprite? {params : Params} {place : Place} {registry : Registry} {key : String} :
    (params.requiredSprite? place registry key).Accounted := by
  unfold requiredSprite?
  split
  · exact accounted_of_problem (List.cons_ne_nil _ _)
  · exact accounted_ofExcept _

theorem Params.raw?_of_requiredSprite? {params : Params} {place : Place} {registry : Registry} {key : String}
    {type : TypeId} (h : (params.requiredSprite? place registry key).value = some type) :
    ∃ entry, params.raw? key = some entry ∧ registry.resolve? (String.ofList entry) = some type := by
  unfold requiredSprite? at h
  split at h
  · cases h
  · next entry hentry => exact ⟨entry, hentry, Registry.resolve?_of_ofExcept h⟩

/-! ## Effects -/

namespace Effect

variable {params : Params} {place : Place} {registry : Registry}

theorem accounted_readType (make : TypeId → Effect) : (readType params place registry make).Accounted :=
  .bind Params.accounted_requiredSprite? fun _ => accounted_some _

theorem accounted_readLimit (make : TypeId → Int → Effect) : (readLimit params place registry make).Accounted :=
  .bind Params.accounted_requiredSprite? fun _ => .after (accounted_some _)

theorem accounted_readSpeed (change : SpeedChange) : (readSpeed params place registry change).Accounted :=
  .bind Params.accounted_requiredSprite? fun _ => .after (accounted_some _)

theorem accounted_readParams (kind : EffectKind) : (readParams params place registry kind).Accounted := by
  have hrequired : ∀ key, (params.requiredSprite? place registry key).Accounted := fun _ =>
    Params.accounted_requiredSprite?
  cases kind with
  | killAll | spawn | spawnBehind => exact accounted_readType _
  | killIfHasMore | killIfHasLess | killIfOtherHasMore => exact accounted_readLimit _
  | increaseSpeedToAll | decreaseSpeedToAll | setSpeedForAll => exact accounted_readSpeed _
  | addHealthPoints | addHealthPointsToMax | subtractHealthPoints => exact .after (accounted_some _)
  | undoAll | collectResource | attractGaze => exact .after (accounted_some _)
  | spawnIfHasMore =>
    exact .bind (hrequired _) fun _ => .after (.bind (hrequired _) fun _ => accounted_some _)
  | transformTo => exact .bind (hrequired _) fun _ => .after (accounted_some _)
  | changeResource => exact .bind (hrequired _) fun _ => .after (.after (accounted_some _))
  | _ => exact accounted_some _

theorem accounted_read? (keyword : String) : (read? params place registry keyword).Accounted := by
  unfold read?
  split
  · exact accounted_of_problem (List.cons_ne_nil _ _)
  · exact .after (accounted_readParams _)

theorem kind_readType {kind : EffectKind} {make : TypeId → Effect} {e : Effect}
    (h : (readType params place registry make).value = some e) (hmake : ∀ type, (make type).kind = kind) :
    e.kind = kind := by
  obtain ⟨type, -, h⟩ := some_of_bind h rfl
  obtain rfl : make type = e := Option.some.inj h
  exact hmake type

theorem kind_readLimit {kind : EffectKind} {make : TypeId → Int → Effect} {e : Effect}
    (h : (readLimit params place registry make).value = some e) (hmake : ∀ type limit, (make type limit).kind = kind) :
    e.kind = kind := by
  obtain ⟨type, -, h⟩ := some_of_bind h rfl
  obtain rfl : make type _ = e := Option.some.inj h
  exact hmake type _

theorem kind_readSpeed {change : SpeedChange} {e : Effect}
    (h : (readSpeed params place registry change).value = some e) : ∃ type value, e = speedToAll type value change := by
  obtain ⟨type, -, h⟩ := some_of_bind h rfl
  exact ⟨type, _, (Option.some.inj h).symm⟩

/-- An effect is of the kind that its parameters are read for. -/
theorem kind_readParams {kind : EffectKind} {e : Effect} (h : (readParams params place registry kind).value = some e) :
    e.kind = kind := by
  cases kind with
  | killAll | spawn | spawnBehind => exact kind_readType h fun _ => rfl
  | killIfHasMore | killIfHasLess | killIfOtherHasMore => exact kind_readLimit h fun _ _ => rfl
  | increaseSpeedToAll | decreaseSpeedToAll | setSpeedForAll =>
    obtain ⟨type, value, rfl⟩ := kind_readSpeed h
    rfl
  | spawnIfHasMore =>
    obtain ⟨resource, -, h⟩ := some_of_bind h rfl
    simp only [value_bind] at h
    split at h
    · obtain rfl := Option.some.inj h
      rfl
    · cases h
  | transformTo | changeResource =>
    obtain ⟨type, -, h⟩ := some_of_bind h rfl
    obtain rfl := Option.some.inj h
    rfl
  | _ =>
    obtain rfl := Option.some.inj h
    rfl

theorem keyword_read? {keyword : String} {e : Effect} (h : (read? params place registry keyword).value = some e) :
    e.kind.keyword = keyword := by
  unfold read? at h
  split at h
  · cases h
  · next kind hkind =>
    rw [kind_readParams h]
    exact EffectKind.keyword_of_ofKeyword? hkind

end Effect

/-! ## Interactions -/

namespace Interaction

variable {registry : Registry} {placeholders : Params} {d : InteractionDef} {r : Interaction} {place : Place}
  {first second : TypeId}

theorem accounted_readBetween : (readBetween registry d place first second).Accounted := by
  unfold readBetween
  refine .bind (Effect.accounted_read? _) fun e => .after (.after ?_)
  dsimp only
  split
  · exact .after (accounted_some _)
  · exact accounted_some _

theorem accounted_read? (d : InteractionDef) : (read? registry placeholders d).Accounted := by
  unfold read?
  dsimp only
  split
  · split
    · exact accounted_of_problem (List.cons_ne_nil _ _)
    · exact accounted_readBetween
  all_goals exact accounted_of_problem (List.cons_ne_nil _ _)

/-- A rule says what a definition says: it is for the types with the names in it, and has the
effect with the keyword and the parameters in it. -/
structure Renders (registry : Registry) (placeholders : Params) (d : InteractionDef) (r : Interaction) : Prop where
  first : registry.resolve? d.first = some r.first
  second : registry.resolve? d.second = some r.second
  keyword : r.effect.kind.keyword = d.effect
  effect : (Effect.read? (d.params.decorate placeholders) (.interaction d.first d.second d.effect d.line)
    registry d.effect).value = some r.effect
  definition : r.definition = { d with params := d.params.decorate placeholders }

theorem definition_readBetween (h : (readBetween registry d place first second).value = some r) :
    r.definition = d := by
  obtain ⟨e, -, h⟩ := some_of_bind h rfl
  simp only [value_bind] at h
  split at h <;> cases h <;> rfl

theorem renders_read? (h : (read? registry placeholders d).value = some r) : r.Renders registry placeholders d := by
  obtain ⟨hfirst, hsecond⟩ := resolve?_of_read? h
  unfold read? at h
  dsimp only at h
  split at h
  · split at h
    · cases h
    · have heffect := effect_readBetween h
      exact ⟨hfirst, hsecond, Effect.keyword_read? heffect, heffect, definition_readBetween h⟩
  all_goals cases h

end Interaction

/-! ## Terminations -/

namespace Termination

variable {params : Params} {place : Place} {registry : Registry}

theorem accounted_readStrict {α : Type} {read : List Char → Option α} {key : String} {entry : Option (List Char)}
    {default : α} : (readStrict place read key entry default).Accounted := by
  unfold readStrict
  split
  · exact accounted_some default
  · split
    · exact accounted_some _
    · exact accounted_of_problem (List.cons_ne_nil _ _)

theorem accounted_resolveAll (names : List String) : (resolveAll place registry names).Accounted := by
  induction names with
  | nil => exact accounted_some []
  | cons name names ih => exact .bind (accounted_ofExcept _) fun _ => .bind ih fun _ => accounted_some _

theorem accounted_readCondition (kind : TerminationKind) : (readCondition params place registry kind).Accounted := by
  cases kind with
  | spriteCounter => exact .bind Params.accounted_requiredSprite? fun _ => accounted_some _
  | multiSpriteCounter =>
    refine .bind (accounted_resolveAll _) fun types => ?_
    dsimp only
    split
    · exact accounted_of_problem (List.cons_ne_nil _ _)
    · exact accounted_some _
  | timeout => exact accounted_some _

theorem accounted_read? (d : TerminationDef) : (read? registry d).Accounted := by
  unfold read?
  cases TerminationKind.ofKeyword? d.kind with
  | none =>
    refine .bind accounted_readStrict fun _ => .bind accounted_readStrict fun _ =>
      .bind accounted_readStrict fun _ => ?_
    exact accounted_of_problem (List.cons_ne_nil _ _)
  | some kind =>
    exact .after (.bind accounted_readStrict fun _ => .bind accounted_readStrict fun _ =>
      .bind accounted_readStrict fun _ => .bind (accounted_readCondition kind) fun _ => accounted_some _)

/-- The names of the sprites that a condition of a kind is about. -/
def namesOf (params : Params) : TerminationKind → List String
  | .spriteCounter => (params.raw? "stype").toList.map String.ofList
  | .multiSpriteCounter => ((numberedTypes params).filterMap params.raw?).map String.ofList
  | .timeout => []

/-- A condition says what a definition says: it is of the kind in it, and about the types with
the names in it. -/
structure Renders (registry : Registry) (d : TerminationDef) (t : Termination) : Prop where
  kind : t.kind.keyword = d.kind
  types : List.Forall₂ (fun name type => registry.resolve? name = some type) (namesOf d.params t.kind)
    t.condition.types
  definition : t.definition = d

theorem resolve?_of_resolveAll {names : List String} {types : List TypeId}
    (h : (resolveAll place registry names).value = some types) :
    List.Forall₂ (fun name type => registry.resolve? name = some type) names types := by
  induction names generalizing types with
  | nil =>
    obtain rfl := Option.some.inj h
    exact .nil
  | cons name names ih =>
    obtain ⟨type, htype, h⟩ := some_of_bind h rfl
    obtain ⟨rest, hrest, h⟩ := some_of_bind h rfl
    obtain rfl := Option.some.inj h
    exact .cons (Registry.resolve?_of_ofExcept htype) (ih hrest)

theorem renders_readCondition {kind : TerminationKind} {t : Termination}
    (h : (readCondition params place registry kind).value = some t.condition) :
    t.kind = kind ∧
      List.Forall₂ (fun name type => registry.resolve? name = some type) (namesOf params kind) t.condition.types := by
  unfold Termination.kind
  generalize t.condition = c at h
  cases kind with
  | spriteCounter =>
    obtain ⟨type, htype, h⟩ := some_of_bind h rfl
    obtain rfl := Option.some.inj h
    obtain ⟨entry, hentry, htype⟩ := Params.raw?_of_requiredSprite? htype
    refine ⟨rfl, ?_⟩
    rw [namesOf, hentry]
    exact .cons htype .nil
  | multiSpriteCounter =>
    obtain ⟨types, htypes, h⟩ := some_of_bind h rfl
    dsimp only at h
    split at h
    · cases h
    · obtain rfl := Option.some.inj h
      exact ⟨rfl, resolve?_of_resolveAll htypes⟩
  | timeout =>
    obtain rfl := Option.some.inj h
    exact ⟨rfl, .nil⟩

/-- What the parts of a termination are read from, once its kind is known. -/
theorem parts_of_read? {d : TerminationDef} {t : Termination} (h : (read? registry d).value = some t) :
    let place := Place.termination d.kind d.line
    ∃ kind, TerminationKind.ofKeyword? d.kind = some kind ∧
      (readNumber d.params place "limit").value = some t.limit ∧
      (readNumber d.params place "scoreChange").value = some t.score ∧
      (readFlag d.params place "win").value = some t.win ∧
      (readCondition d.params place registry kind).value = some t.condition ∧ t.definition = d := by
  unfold read? at h
  cases hkind : TerminationKind.ofKeyword? d.kind with
  | none =>
    simp only [hkind] at h
    obtain ⟨limit, -, h⟩ := some_of_bind h rfl
    obtain ⟨score, -, h⟩ := some_of_bind h rfl
    obtain ⟨win, -, h⟩ := some_of_bind h rfl
    cases h
  | some kind =>
    simp only [hkind] at h
    rw [value_bind] at h
    obtain ⟨limit, hlimit, h⟩ := some_of_bind h rfl
    obtain ⟨score, hscore, h⟩ := some_of_bind h rfl
    obtain ⟨win, hwin, h⟩ := some_of_bind h rfl
    obtain ⟨condition, hcondition, h⟩ := some_of_bind h rfl
    obtain rfl := Option.some.inj h
    exact ⟨kind, rfl, hlimit, hscore, hwin, hcondition, rfl⟩

theorem renders_read? {d : TerminationDef} {t : Termination} (h : (read? registry d).value = some t) :
    t.Renders registry d := by
  obtain ⟨kind, hkind, -, -, -, hcondition, hdefinition⟩ := parts_of_read? h
  obtain ⟨rfl, htypes⟩ := renders_readCondition hcondition
  exact ⟨TerminationKind.keyword_of_ofKeyword? hkind, htypes, hdefinition⟩

end Termination

/-! ## Level mapping -/

namespace Ruleset

variable {registry : Registry}

theorem forall₂_resolveNames {symbol : Char} {names : List String}
    (h : (resolveNames registry symbol names).problems = []) :
    List.Forall₂ (fun name type => registry.resolve? name = some type) names
      (resolveNames registry symbol names).value :=
  (forall₂_keepEach (fun _ => accounted_ofExcept _) h).imp fun _ _ => Registry.resolve?_of_ofExcept

/-- The names are resolved character by character. -/
theorem value_resolveMapping (mapping : SortedMap Char (List String)) :
    (resolveMapping registry mapping).value =
      mapping.mapValues fun symbol names => (resolveNames registry symbol names).value := by
  unfold resolveMapping
  rw [value_bind, value_pure, value_forEach]
  exact SortedMap.ofList_entries (mapping.mapValues fun symbol names => (resolveNames registry symbol names).value)

theorem problems_resolveMapping (mapping : SortedMap Char (List String)) :
    (resolveMapping registry mapping).problems =
      mapping.entries.flatMap fun e => (resolveNames registry e.1 e.2).problems := by
  unfold resolveMapping
  rw [problems_bind, problems_pure, List.append_nil, problems_forEach]
  refine List.flatMap_congr fun e _ => ?_
  rw [problems_bind, problems_pure, List.append_nil]

theorem problems_resolveNames_of_get? {mapping : SortedMap Char (List String)}
    (h : (resolveMapping registry mapping).problems = []) {symbol : Char} {names : List String}
    (hnames : mapping.get? symbol = some names) : (resolveNames registry symbol names).problems = [] := by
  rw [problems_resolveMapping, List.flatMap_eq_nil_iff] at h
  exact h _ (SortedMap.mem_entries_of_get? hnames)

theorem get?_addDefault (mapping : SortedMap Char (List TypeId)) (entry : Char × String) (c : Char) :
    (addDefault registry mapping entry).get? c =
      (mapping.get? c).or (if c = entry.1 then (registry.resolve? entry.2).map ([·]) else none) := by
  unfold addDefault
  cases hmapped : mapping.get? entry.1 with
  | some types =>
    rw [if_pos (by simp [SortedMap.contains, hmapped])]
    by_cases hc : c = entry.1
    · rw [hc, hmapped, Option.some_or]
    · rw [if_neg hc, Option.or_none]
  | none =>
    rw [if_neg (by simp [SortedMap.contains, hmapped])]
    by_cases hc : c = entry.1
    · rw [hc, hmapped, if_pos rfl, Option.none_or]
      cases registry.resolve? entry.2 with
      | none => exact hmapped
      | some type => exact SortedMap.get?_insert_self ..
    · rw [if_neg hc, Option.or_none]
      cases registry.resolve? entry.2 with
      | none => rfl
      | some type => exact SortedMap.get?_insert_of_ne _ _ hc

/-- The name of the sprite that a character stands for by default. -/
def defaultName? (c : Char) : Option String :=
  if c = 'A' then some "avatar" else if c = 'w' then some "wall" else none

theorem get?_addDefaults (mapping : SortedMap Char (List TypeId)) (c : Char) :
    (defaultSymbols.foldl (addDefault registry) mapping).get? c =
      (mapping.get? c).or (((defaultName? c).bind registry.resolve?).map ([·])) := by
  unfold defaultSymbols defaultName?
  simp only [List.foldl_cons, List.foldl_nil, get?_addDefault, Option.or_assoc]
  by_cases hA : c = 'A'
  · subst hA
    simp
  · by_cases hw : c = 'w' <;> simp [hA, hw]

/-- The characters of compiled rules stand for registered types. -/
theorem type_lt_of_mapped {d : Description} {settings : Settings} {c : Char} {types : List TypeId}
    (h : (compile d settings).value.levelMapping.get? c = some types) :
    ∀ type ∈ types, type < (compile d settings).value.registry.size := by
  have hlevel : (compile d settings).value.levelMapping =
      defaultSymbols.foldl (addDefault (compile d settings).value.registry)
        (resolveMapping (compile d settings).value.registry d.levelMapping).value := rfl
  generalize (compile d settings).value.registry = registry at hlevel ⊢
  rw [hlevel, get?_addDefaults, value_resolveMapping, SortedMap.get?_mapValues, Option.or_eq_some_iff] at h
  intro type htype
  rcases h with h | ⟨-, h⟩
  · obtain ⟨names, -, rfl⟩ := Option.map_eq_some_iff.1 h
    rw [resolveNames, Checked.value_keepEach] at htype
    obtain ⟨name, -, hname⟩ := List.mem_filterMap.1 htype
    exact Registry.resolve?_lt (Registry.resolve?_of_ofExcept hname)
  · obtain ⟨id, hid, rfl⟩ := Option.map_eq_some_iff.1 h
    obtain ⟨name, -, hname⟩ := Option.bind_eq_some_iff.1 hid
    rw [List.mem_singleton.1 htype]
    exact Registry.resolve?_lt hname

/-! ## Rule sets -/

/-- A rule set has all that a description says, and nothing else. -/
structure Complete (r : Ruleset) (d : Description) : Prop where
  types : r.registry.Declares d.walk
  /-- There is one template for each type, at its place and with its name. -/
  templates : r.templates.size = r.registry.size ∧
    ∀ (i : TypeId) t, r.template? i = some t → t.id = i ∧ t.name = r.registry.name i
  interactions : List.Forall₂ (Interaction.Renders r.registry d.placeholders) d.interactions r.interactions.toList
  terminations : List.Forall₂ (Termination.Renders r.registry) d.terminations r.terminations
  /-- A character that is described stands for all sprites that it is mapped to, in their order. -/
  described : ∀ c names, d.levelMapping.get? c = some names → ∃ types, r.levelMapping.get? c = some types ∧
    List.Forall₂ (fun name type => r.registry.resolve? name = some type) names types
  /-- Another character stands for its default, if it has one and there is such a sprite. -/
  defaults : ∀ c, d.levelMapping.get? c = none →
    r.levelMapping.get? c = ((defaultName? c).bind r.registry.resolve?).map ([·])

/-- Without a problem a rule set has all that its description says, and nothing else. -/
theorem complete_compile {d : Description} {settings : Settings} (h : (compile d settings).problems = []) :
    (compile d settings).value.Complete d := by
  unfold compile at h
  simp only [problems_bind, List.append_eq_nil_iff] at h
  obtain ⟨hdeclare, -, hinteractions, hterminations, hmapping, -⟩ := h
  have hregistry : (declare .new d.walk).value.1 = (compile d settings).value.registry := rfl
  rw [hregistry] at hinteractions hterminations hmapping
  have haligned := aligned_compile d settings
  have hnamed : ∀ t ∈ (compile d settings).value.templates, t.name = (compile d settings).value.registry.name t.id :=
    forall_templates_compile d settings fun id keyword own parent => by
      rw [Template.name_build, Template.id_build]
  have hlevel : (compile d settings).value.levelMapping =
      defaultSymbols.foldl (addDefault (compile d settings).value.registry)
        (resolveMapping (compile d settings).value.registry d.levelMapping).value := rfl
  refine ⟨declares_declare hdeclare, ⟨haligned.size, fun i t ht => ?_⟩, ?_, ?_, fun c names hc => ?_, fun c hc => ?_⟩
  · have hid := haligned.inPlace i t ht
    exact ⟨hid, hid ▸ hnamed t (Array.mem_of_getElem? ht)⟩
  · exact (forall₂_keepEach Interaction.accounted_read? hinteractions).imp fun _ _ => Interaction.renders_read?
  · exact (forall₂_keepEach Termination.accounted_read? hterminations).imp fun _ _ => Termination.renders_read?
  · have hproblems := problems_resolveNames_of_get? hmapping hc
    refine ⟨_, ?_, forall₂_resolveNames hproblems⟩
    rw [hlevel, get?_addDefaults, value_resolveMapping, SortedMap.get?_mapValues, hc]
    rfl
  · rw [hlevel, get?_addDefaults, value_resolveMapping, SortedMap.get?_mapValues, hc]
    rfl

/-- Ants are insects, and the queen is an ant. -/
def colony : Description :=
  { Description.empty with
    sprites := [
      ⟨"wall", some "Immovable", .empty, [], 1⟩,
      ⟨"insect", some "RandomNPC", .empty,
        [⟨"ant", none, .empty, [⟨"queen", none, .ofList [("singleton", "True")], [], 4⟩], 3⟩], 2⟩,
      ⟨"avatar", some "MovingAvatar", .empty, [], 5⟩]
    interactions := [
      ⟨"insect", "wall", "stepBack", .empty, 6⟩,
      ⟨"avatar", "queen", "transformTo", .ofList [("stype", "ant")], 7⟩]
    terminations := [⟨"SpriteCounter", .ofList [("stype", "queen")], 8⟩]
    levelMapping := .ofList [('q', ["ant", "queen"])] }

/-- The queen is the fourth type and under the third; `A` stands for the avatar. -/
theorem complete_compile_colony :
    (compile colony .default).problems = [] ∧ (compile colony .default).value.Complete colony ∧
      (compile colony .default).value.registry.parent? 4 = some 3 ∧
      (compile colony .default).value.levelMapping.get? 'A' = some [5] := by
  have hproblems : (compile colony .default).problems = [] := by decide +kernel
  exact ⟨hproblems, complete_compile hproblems, by decide +kernel, by decide +kernel⟩

end Ruleset

end SpriteGame
