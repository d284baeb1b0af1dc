import SpriteGame.Proofs.Declaration
/-!
# What a definition inherits

A definition stands in a chain: itself, the one that it is nested in, and so on up to one that
is not nested (`SpriteDef.Chain`). Templates are built one after the other, each from the own
part of its definition and from the finished template of the enclosing one
(`template_of_walk`). So a parameter has the value that the nearest definition of the chain
gives it, and the class is the nearest one that is written (`inherits_compile`).
-/
namespace SpriteGame

/-! ## Chains -/

/-- A definition of a forest with all that enclose it, from the inside out. -/
inductive SpriteDef.Chain (forest : List SpriteDef) : List SpriteDef → Prop where
  | root {d : SpriteDef} (h : d ∈ forest) : Chain forest [d]
  | nested {c p : SpriteDef} {ps : List SpriteDef} (hp : Chain forest (p :: ps)) (hc : c ∈ p.children) :
    Chain forest (c :: p :: ps)

theorem SpriteDef.mem_walkAll {parent : Option SpriteDef} {d : SpriteDef} {ds : List SpriteDef} (h : d ∈ ds) :
    (d, parent) ∈ walkAll parent ds := by
  induction ds with
  | nil => cases h
  | cons e ds ih =>
    rw [walkAll, walk_eq]
    rcases List.mem_cons.1 h with rfl | h
    · exact List.mem_append_left _ List.mem_cons_self
    · exact List.mem_append_right _ (ih h)

mutual

/-- A walk that visits a definition visits all that are nested in it. -/
theorem SpriteDef.child_mem_walk {c p : SpriteDef} (hc : c ∈ p.children) {q : Option SpriteDef} :
    (parent : Option SpriteDef) → (d : SpriteDef) → (p, q) ∈ walk parent d → (c, some p) ∈ walk parent d
  | parent, ⟨name, keyword, params, children, line⟩, h => by
    rw [walk_eq] at h ⊢
    rcases List.mem_cons.1 h with h | h
    · obtain ⟨rfl, -⟩ := Prod.mk.inj h
      exact List.mem_cons_of_mem _ (mem_walkAll hc)
    · exact List.mem_cons_of_mem _ (child_mem_walkAll hc _ children h)

theorem SpriteDef.child_mem_walkAll {c p : SpriteDef} (hc : c ∈ p.children) {q : Option SpriteDef} :
    (parent : Option SpriteDef) → (ds : List SpriteDef) → (p, q) ∈ walkAll parent ds → (c, some p) ∈ walkAll parent ds
  | _, [], h => by cases h
  | parent, d :: ds, h => by
    rw [walkAll] at h ⊢
    rcases List.mem_append.1 h with h | h
    · exact List.mem_append_left _ (child_mem_walk hc parent d h)
    · exact List.mem_append_right _ (child_mem_walkAll hc parent ds h)

end

mutual

/-- Every definition of a walk stands in a chain. -/
theorem SpriteDef.exists_chain_walk {forest : List SpriteDef} {e : SpriteDef × Option SpriteDef} :
    (parent : Option SpriteDef) → (d : SpriteDef) → (ps : List SpriteDef) → Chain forest (d :: ps) →
      e ∈ walk parent d → ∃ qs, Chain forest (e.1 :: qs)
  | parent, ⟨name, keyword, params, children, line⟩, ps, hd, h => by
    rw [walk_eq] at h
    rcases List.mem_cons.1 h with rfl | h
    · exact ⟨ps, hd⟩
    · exact exists_chain_walkAll _ children _ (fun c hc => .nested hd hc) h

theorem SpriteDef.exists_chain_walkAll {forest : List SpriteDef} {e : SpriteDef × Option SpriteDef} :
    (parent : Option SpriteDef) → (ds ps : List SpriteDef) → (∀ d ∈ ds, Chain forest (d :: ps)) →
      e ∈ walkAll parent ds → ∃ qs, Chain forest (e.1 :: qs)
  | _, [], _, _, h => by cases h
  | parent, d :: ds, ps, hds, h => by
    obtain ⟨hd, hds⟩ := List.forall_mem_cons.1 hds
    rw [walkAll] at h
    rcases List.mem_append.1 h with h | h
    · exact exists_chain_walk parent d ps hd h
    · exact exists_chain_walkAll parent ds ps hds h

end

theorem SpriteDef.exists_chain {d : Description} {e : SpriteDef × Option SpriteDef} (h : e ∈ d.walk) :
    ∃ qs, Chain d.sprites (e.1 :: qs) :=
  exists_chain_walkAll none d.sprites [] (fun _ => .root) h

/-- A definition is visited with the one that it is nested in. -/
theorem SpriteDef.Chain.mem_walk {d : Description} {c : SpriteDef} {ps : List SpriteDef}
    (h : Chain d.sprites (c :: ps)) : (c, ps.head?) ∈ d.walk := by
  generalize hchain : c :: ps = chain at h
  induction h generalizing c ps with
  | root hroot =>
    obtain ⟨rfl, rfl⟩ := List.cons.inj hchain
    exact mem_walkAll hroot
  | nested hp hc ih =>
    obtain ⟨rfl, rfl⟩ := List.cons.inj hchain
    exact child_mem_walkAll hc none d.sprites (ih rfl)

/-! ## Templates without a problem -/

theorem findSome?_cons_or {α β : Type} (f : α → Option β) (a : α) (l : List α) :
    (a :: l).findSome? f = (f a).or (l.findSome? f) := by
  rw [List.findSome?_cons]
  cases f a <;> rfl

/-- The class is the one of a keyword, or another one where there is no keyword. -/
def SpriteClass.Written (keyword : Option String) (otherwise cls : SpriteClass) : Prop :=
  match keyword with
  | some k => ofKeyword? k = some cls
  | none => cls = otherwise

/-- Where there is no keyword, that of the other class counts. -/
theorem SpriteClass.Written.or {keyword above : Option String} {otherwise inherited cls : SpriteClass}
    (h : Written keyword inherited cls) (habove : Written above otherwise inherited) :
    Written (keyword.or above) otherwise cls := by
  cases keyword with
  | some k => exact h
  | none =>
    obtain rfl : cls = inherited := h
    exact habove

namespace Template

theorem written_readClass {name : String} {keyword : Option String} {inherited : SpriteClass}
    (h : (readClass name keyword inherited).problems = []) :
    SpriteClass.Written keyword inherited (readClass name keyword inherited).value := by
  cases keyword with
  | none => rfl
  | some k =>
    unfold readClass at h ⊢
    dsimp only at h ⊢
    cases hk : SpriteClass.ofKeyword? k with
    | none =>
      rw [hk] at h
      cases h
    | some c => exact hk

/-- The class that is inherited from the template of a parent, if there is one. -/
def passedOn (parent : Option Template) : SpriteClass :=
  match parent with
  | some p => p.cls
  | none => .immovable

theorem cls_build {id : TypeId} {keyword : Option String} {own : Params} {parent : Option Template}
    {registry : Registry} (h : (build id keyword own parent registry).problems = []) :
    SpriteClass.Written keyword (passedOn parent) (build id keyword own parent registry).value.cls := by
  unfold build at h ⊢
  simp only [Checked.problems_bind, List.append_eq_nil_iff] at h
  simp only [Checked.value_bind, (fields_read ..).2.2.1]
  exact written_readClass h.1

theorem get?_params_build (id : TypeId) (keyword : Option String) (own : Params) (parent : Option Template)
    (registry : Registry) (key : String) : (build id keyword own parent registry).value.params.get? key =
      (own.get? key).or (parent.bind (·.params.get? key)) := by
  unfold build
  simp only [Checked.value_bind, (fields_read ..).2.2.2.2.1]
  cases parent with
  | none => exact Option.or_none.symm
  | some p => exact SortedMap.get?_override ..

end Template

namespace Ruleset

/-- Without a problem every definition of a walk is declared. -/
theorem definitions_declare {l : List (SpriteDef × Option SpriteDef)} {r : Registry}
    (h : (declare r l).problems = []) : (declare r l).value.2.map (·.2) = l.map (·.1) := by
  induction l generalizing r with
  | nil => rfl
  | cons e l ih =>
    obtain ⟨d, parent⟩ := e
    unfold declare at h ⊢
    cases hname : r.resolve? d.name with
    | some id =>
      simp only [hname] at h
      cases h
    | none =>
      simp only [hname, Checked.problems_bind, List.append_eq_nil_iff] at h
      exact congrArg (d :: ·) (ih h.1)

/-- Definitions are declared in the order of a walk, with the numbers from the first free one on. -/
theorem getElem?_declare {l : List (SpriteDef × Option SpriteDef)} {r : Registry} (h : (declare r l).problems = [])
    {k : Nat} {e : SpriteDef} {parent : Option SpriteDef} (hk : l[k]? = some (e, parent)) :
    (declare r l).value.2[k]? = some (r.size + k, e) := by
  obtain ⟨hids, -⟩ := ids_declare l r
  have hdefinitions := definitions_declare h
  have hlength : (declare r l).value.2.length = l.length := by simpa using congrArg List.length hdefinitions
  have hlt : k < l.length := (List.getElem?_eq_some_iff.1 hk).1
  have hdefinition : ((declare r l).value.2.map (·.2))[k]? = some e := by
    rw [hdefinitions, List.getElem?_map, hk]
    rfl
  have hid : ((declare r l).value.2.map (·.1))[k]? = some (r.size + k) := by
    rw [hids, List.getElem?_range' (hlength ▸ hlt), Nat.one_mul]
  rw [List.getElem?_map, Option.map_eq_some_iff] at hid hdefinition
  obtain ⟨x, hx, hid⟩ := hid
  obtain ⟨y, hy, hdefinition⟩ := hdefinition
  obtain rfl : x = y := Option.some.inj (hx.symm.trans hy)
  rw [hx, ← hid, ← hdefinition]

/-- Templates stay where they are while others are built. -/
theorem kept_buildTemplates (registry : Registry) (placeholders : Params) (l : List (TypeId × SpriteDef))
    {templates : Array Template} {i : Nat} (hi : i < templates.size) :
    (buildTemplates registry placeholders l templates).value[i]? = templates[i]? := by
  induction l generalizing templates with
  | nil => rfl
  | cons e l ih =>
    unfold buildTemplates
    simp only [Checked.value_bind]
    rw [ih (Array.size_push _ ▸ Nat.lt_succ_of_lt hi), Array.getElem?_push_lt hi, Array.getElem?_eq_getElem hi]

/-- The template of a definition that inherits from one of those at hand. -/
def buildOne (registry : Registry) (placeholders : Params) (templates : Array Template) (e : TypeId × SpriteDef) :
    Checked Template :=
  Template.build e.1 e.2.keyword (e.2.params.decorate placeholders)
    (((registry.parent? e.1).filter (· ≠ Registry.edge)).bind (templates[·]?)) registry

theorem buildTemplates_cons (registry : Registry) (placeholders : Params) (e : TypeId × SpriteDef)
    (l : List (TypeId × SpriteDef)) (templates : Array Template) :
    buildTemplates registry placeholders (e :: l) templates =
      buildOne registry placeholders templates e >>= fun t =>
        buildTemplates registry placeholders l (templates.push t) := rfl

/-- A template depends on those of older types only. -/
theorem buildOne_congr {registry : Registry} (hr : registry.WellFormed) (placeholders : Params)
    {templates others : Array Template} {e : TypeId × SpriteDef} (h : ∀ i < e.1, others[i]? = templates[i]?) :
    buildOne registry placeholders others e = buildOne registry placeholders templates e := by
  unfold buildOne
  congr 1
  cases hp : (registry.parent? e.1).filter (· ≠ Registry.edge) with
  | none => rfl
  | some p => exact h p (hr.older (List.mem_of_head? (Option.filter_eq_some_iff.1 hp).1))

/-- Templates are built as if all of them were at hand. -/
theorem spec_buildTemplates {registry : Registry} (hr : registry.WellFormed) (placeholders : Params)
    {l : List (TypeId × SpriteDef)} {templates : Array Template}
    (hl : l.map (·.1) = List.range' templates.size l.length) :
    let built := buildTemplates registry placeholders l templates
    (∀ e ∈ l, built.value[e.1]? = some (buildOne registry placeholders built.value e).value) ∧
      (built.problems = [] ↔ ∀ e ∈ l, (buildOne registry placeholders built.value e).problems = []) := by
  intro built
  induction l generalizing templates with
  | nil => exact ⟨nofun, fun _ => nofun, fun _ => rfl⟩
  | cons e l ih =>
    obtain ⟨hid, hl⟩ := List.cons.inj hl
    replace hid : e.1 = templates.size := hid
    have hone : buildOne registry placeholders built.value e = buildOne registry placeholders templates e :=
      buildOne_congr hr placeholders fun i hi => kept_buildTemplates registry placeholders (e :: l) (hid ▸ hi)
    have hvalue : built.value =
        (buildTemplates registry placeholders l (templates.push (buildOne registry placeholders templates e).value)).value :=
      rfl
    obtain ⟨hbuilt, hproblems⟩ :=
      @ih (templates.push (buildOne registry placeholders templates e).value) (by rwa [Array.size_push])
    rw [List.forall_mem_cons, List.forall_mem_cons, hone]
    refine ⟨⟨?_, hbuilt⟩, ?_⟩
    · rw [hvalue, hid, kept_buildTemplates _ _ _ (Array.size_push _ ▸ Nat.lt_succ_self _)]
      exact Array.getElem?_push_size
    · show (buildTemplates registry placeholders (e :: l) templates).problems = [] ↔ _
      rw [buildTemplates_cons, Checked.problems_bind, List.append_eq_nil_iff]
      exact and_congr_right fun _ => hproblems

variable {d : Description} {settings : Settings}

/-- What is declared without a problem is the walk, each definition with its number in it. -/
theorem mem_declare (h : (declare .new d.walk).problems = []) {id : TypeId} {e : SpriteDef} :
    (id, e) ∈ (declare .new d.walk).value.2 ↔ ∃ k q, id = k + 1 ∧ d.walk[k]? = some (e, q) := by
  have hlength : (declare .new d.walk).value.2.length = d.walk.length := by
    simpa using congrArg List.length (definitions_declare h)
  have hget : ∀ {k : Nat} {e : SpriteDef} {q : Option SpriteDef}, d.walk[k]? = some (e, q) →
      (declare .new d.walk).value.2[k]? = some (k + 1, e) := fun hk => by
    rw [getElem?_declare h hk, Nat.add_comm]
    rfl
  constructor
  · intro hmem
    obtain ⟨k, hk⟩ := List.mem_iff_getElem?.1 hmem
    have hlt : k < d.walk.length := hlength ▸ (List.getElem?_eq_some_iff.1 hk).1
    have hwalk : d.walk[k]? = some (d.walk[k].1, d.walk[k].2) := List.getElem?_eq_getElem hlt
    obtain ⟨rfl, rfl⟩ := Prod.mk.inj (Option.some.inj (hk.symm.trans (hget hwalk)))
    exact ⟨k, _, rfl, hwalk⟩
  · rintro ⟨k, q, rfl, hk⟩
    exact List.mem_of_getElem? (hget hk)

/-- The template of a definition is built from its own part and the template of its parent. -/
theorem templates_of_walk (h : (declare .new d.walk).problems = []) :
    let rules := (compile d settings).value
    let template := fun id (e : SpriteDef) => Template.build id e.keyword (e.params.decorate d.placeholders)
      ((rules.registry.parent? id).bind rules.template?) rules.registry
    (∀ k e q, d.walk[k]? = some (e, q) → rules.template? (k + 1) = some (template (k + 1) e).value) ∧
      ((buildTemplates rules.registry d.placeholders (declare .new d.walk).value.2
          #[edgeTemplate rules.registry]).problems = [] ↔
        ∀ k e q, d.walk[k]? = some (e, q) → (template (k + 1) e).problems = []) := by
  intro rules template
  have htypes : rules.registry.Declares d.walk := declares_declare h
  have hone : ∀ {k e q}, d.walk[k]? = some (e, q) →
      buildOne rules.registry d.placeholders rules.templates (k + 1, e) = template (k + 1) e := by
    intro k e q hk
    unfold buildOne template
    dsimp only
    cases q with
    | none => rw [htypes.roots k e hk]; rfl
    | some p =>
      obtain ⟨j, q, -, -, hq⟩ := htypes.nested k e p hk
      rw [hq]
      rfl
  obtain ⟨hvalues, hproblems⟩ := @spec_buildTemplates _ (wellFormed_compile d settings) d.placeholders _
    #[edgeTemplate rules.registry] (ids_declare d.walk .new).1
  refine ⟨fun k e q hk => ?_, hproblems.trans ⟨fun hall k e q hk => ?_, fun hall => ?_⟩⟩
  · rw [← hone hk]
    exact hvalues _ ((mem_declare h).2 ⟨k, q, rfl, hk⟩)
  · rw [← hone hk]
    exact hall _ ((mem_declare h).2 ⟨k, q, rfl, hk⟩)
  · rintro ⟨id, e⟩ he
    obtain ⟨k, q, rfl, hk⟩ := (mem_declare h).1 he
    exact (congrArg _ (hone hk)).trans (hall k e q hk)

theorem template_of_walk (h : (compile d settings).problems = []) {k : Nat} {e : SpriteDef} {parent : Option SpriteDef}
    (hk : d.walk[k]? = some (e, parent)) :
    let rules := (compile d settings).value
    let template := Template.build (k + 1) e.keyword (e.params.decorate d.placeholders)
      ((rules.registry.parent? (k + 1)).bind rules.template?) rules.registry
    rules.template? (k + 1) = some template.value ∧ template.problems = [] := by
  unfold compile at h
  simp only [Checked.problems_bind, List.append_eq_nil_iff] at h
  obtain ⟨hdeclare, hbuild, -⟩ := h
  obtain ⟨hvalue, hproblems⟩ := @templates_of_walk d settings hdeclare
  exact ⟨hvalue k e parent hk, hproblems.1 hbuild k e parent hk⟩

/-! ## Inheritance -/

/-- A template is that of a definition and has what the chain of the definition says: for a
parameter and for the class the nearest definition that says anything. -/
structure Inherits (rules : Ruleset) (d : Description) (chain : List SpriteDef) (id : TypeId) (t : Template) : Prop where
  type : t.id = id
  params : ∀ key, t.params.get? key =
    (chain.findSome? (·.params.get? key)).map (Params.decorateValue d.placeholders)
  cls : SpriteClass.Written (chain.findSome? (·.keyword)) .immovable t.cls
  /-- The ancestors are the types of the enclosing definitions, from the inside out. -/
  ancestors : t.ancestors.map some = chain.tail.map fun e => rules.registry.resolve? e.name
  lineage : t.ancestors = rules.registry.ancestors id

theorem inherits_root {rules : Ruleset} (hr : rules.registry.WellFormed) {e : SpriteDef} {id : TypeId}
    (hparent : rules.registry.parent? id = none)
    (h : (Template.build id e.keyword (e.params.decorate d.placeholders) none rules.registry).problems = []) :
    rules.Inherits d [e] id
      (Template.build id e.keyword (e.params.decorate d.placeholders) none rules.registry).value where
  type := Template.id_build ..
  params key := by
    rw [Template.get?_params_build, Params.decorate, SortedMap.get?_mapValues, Option.bind_none, Option.or_none,
      findSome?_cons_or, List.findSome?_nil, Option.or_none]
  cls := by
    rw [findSome?_cons_or, List.findSome?_nil, Option.or_none]
    exact Template.cls_build h
  ancestors := by
    rw [Template.ancestors_build, hr.chained, hparent]
    rfl
  lineage := Template.ancestors_build ..

/-- What the own part of a definition leaves out comes from the template of the enclosing one. -/
theorem Inherits.nested {rules : Ruleset} (hr : rules.registry.WellFormed) {e p : SpriteDef} {ps : List SpriteDef}
    {id parent : TypeId} {t : Template} (ht : rules.Inherits d (p :: ps) parent t)
    (hp : rules.registry.resolve? p.name = some parent) (hparent : rules.registry.parent? id = some parent)
    (h : (Template.build id e.keyword (e.params.decorate d.placeholders) (some t) rules.registry).problems = []) :
    rules.Inherits d (e :: p :: ps) id
      (Template.build id e.keyword (e.params.decorate d.placeholders) (some t) rules.registry).value where
  type := Template.id_build ..
  params key := by
    rw [Template.get?_params_build, Params.decorate, SortedMap.get?_mapValues, Option.bind_some, ht.params,
      findSome?_cons_or (·.params.get? key) e, Option.map_or]
  cls := by
    rw [findSome?_cons_or (·.keyword) e]
    exact (Template.cls_build h).or ht.cls
  ancestors := by
    rw [Template.ancestors_build, hr.chained, hparent]
    show some parent :: (rules.registry.ancestors parent).map some = _
    rw [← ht.lineage, ht.ancestors, ← hp]
    rfl
  lineage := Template.ancestors_build ..

/-- Every definition stands in a chain, and its template has what this chain says. -/
theorem inherits_compile (h : (compile d settings).problems = []) :
    let rules := (compile d settings).value
    (∀ e ∈ d.walk, ∃ ps, SpriteDef.Chain d.sprites (e.1 :: ps)) ∧
    ∀ c ps, SpriteDef.Chain d.sprites (c :: ps) → ∃ id t, rules.registry.resolve? c.name = some id ∧
      rules.template? id = some t ∧ rules.Inherits d (c :: ps) id t := by
  intro rules
  have htypes : rules.registry.Declares d.walk := declares_compile h
  have hr : rules.registry.WellFormed := wellFormed_compile d settings
  refine ⟨fun e he => SpriteDef.exists_chain he, fun c ps hchain => ?_⟩
  generalize hcps : c :: ps = chain at hchain
  induction hchain generalizing c ps with
  | @root e he =>
    obtain ⟨rfl, rfl⟩ := List.cons.inj hcps
    obtain ⟨k, hk⟩ := List.mem_iff_getElem?.1 (SpriteDef.Chain.root he).mem_walk
    obtain ⟨htemplate, hproblems⟩ := template_of_walk h hk
    have hparent : rules.registry.parent? (k + 1) = none := htypes.roots k _ hk
    rw [hparent] at htemplate hproblems
    exact ⟨k + 1, _, (htypes.types k _ _ hk).2, htemplate, inherits_root hr hparent hproblems⟩
  | @nested e p qs hp he ih =>
    obtain ⟨rfl, rfl⟩ := List.cons.inj hcps
    obtain ⟨k, hk⟩ := List.mem_iff_getElem?.1 (SpriteDef.Chain.nested hp he).mem_walk
    obtain ⟨htemplate, hproblems⟩ := template_of_walk h hk
    obtain ⟨id, t, hid, ht, hinherits⟩ := ih p qs rfl
    -- The enclosing definition has the type that its name resolves to.
    obtain ⟨j, q, -, hj, hparent⟩ := htypes.nested k _ p hk
    obtain rfl : id = j + 1 := Option.some.inj (hid.symm.trans (htypes.types j p q hj).2)
    have hbuilt : (rules.registry.parent? (k + 1)).bind rules.template? = some t := by
      rw [hparent]
      exact ht
    rw [hbuilt] at htemplate hproblems
    exact ⟨k + 1, _, (htypes.types k _ _ hk).2, htemplate, hinherits.nested hr hid hparent hproblems⟩

/-- Ants are slower than other insects, and the queen is an ant. -/
def swarm : Description :=
  { Description.empty with
    sprites := [
      ⟨"insect", some "RandomNPC", .ofList [("cons", "3"), ("speed", "1")],
        [⟨"ant", none, .ofList [("speed", "SLOW")], [⟨"queen", none, .ofList [("singleton", "True")], [], 3⟩], 2⟩], 1⟩,
      ⟨"avatar", some "MovingAvatar", .empty, [], 4⟩]
    placeholders := .ofList [("SLOW", "0.5")] }

/-- The queen is slow as an ant, and repeats her moves as an insect of her class does. -/
theorem inherits_compile_swarm :
    (compile swarm .default).problems = [] ∧ ∃ t, (compile swarm .default).value.template? 3 = some t ∧
      t.params.get? "singleton" = some "True" ∧ t.params.get? "speed" = some "0.5" ∧
      t.params.get? "cons" = some "3" ∧ t.params.get? "prob" = none ∧ t.cls = .randomNpc ∧ t.ancestors = [2, 1] := by
  have hproblems : (compile swarm .default).problems = [] := by decide +kernel
  obtain ⟨-, hinherits⟩ := inherits_compile hproblems
  have hqueen : SpriteDef.Chain swarm.sprites [⟨"queen", none, .ofList [("singleton", "True")], [], 3⟩, _, _] :=
    .nested (.nested (.root (List.mem_cons_self)) List.mem_cons_self) List.mem_cons_self
  obtain ⟨id, t, hid, ht, hqueen⟩ := hinherits _ _ hqueen
  obtain rfl : 3 = id := Option.some.inj (.trans (by decide +kernel) hid)
  have hclass : SpriteClass.ofKeyword? "RandomNPC" = some t.cls := hqueen.cls
  refine ⟨hproblems, t, ht, ?_, ?_, ?_, ?_, ?_, hqueen.lineage.trans (by decide +kernel)⟩
  · rw [hqueen.params]; decide +kernel
  · rw [hqueen.params]; decide +kernel
  · rw [hqueen.params]; decide +kernel
  · rw [hqueen.params]; decide +kernel
  · exact (Option.some.inj (.trans (by decide +kernel) hclass)).symm

end Ruleset

end SpriteGame
