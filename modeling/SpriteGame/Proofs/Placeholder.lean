import SpriteGame.Ruleset
/-!
# Placeholders

A placeholder is a name for a value. To write the values out instead gives the same rules and
the same report, but for the terminations (`compile_inlined`): these are read as they are
written, so that a placeholder in one of them is taken for the value.
-/
namespace SpriteGame

/-! ## Parameters without placeholders -/

namespace Params

open Text

/-- No entry of a value is a placeholder. -/
def Literal (params placeholders : Params) : Prop :=
  ∀ e ∈ params.entries, ∀ entry ∈ splitAll ',' e.2.toList, placeholders.get? (String.ofList entry) = none

instance (params placeholders : Params) : Decidable (params.Literal placeholders) :=
  inferInstanceAs (Decidable (∀ e ∈ params.entries, _))

theorem decorateValue_of_none {placeholders : Params} {value : String}
    (h : ∀ entry ∈ splitAll ',' value.toList, placeholders.get? (String.ofList entry) = none) :
    decorateValue placeholders value = value := by
  have hentry : ∀ entry ∈ splitAll ',' value.toList, substitute placeholders entry = id entry := by
    intro entry hentry
    unfold substitute
    rw [h entry hentry]
    rfl
  unfold decorateValue
  rw [List.map_congr_left hentry, List.map_id, joinWith_splitAll, String.ofList_toList]

theorem Literal.decorate {params placeholders : Params} (h : params.Literal placeholders) :
    params.decorate placeholders = params := by
  have hentry : ∀ e ∈ params.entries, (e.1, decorateValue placeholders e.2) = id e := fun e he =>
    congrArg (e.1, ·) (decorateValue_of_none (h e he))
  refine SortedMap.eq_of_entries ?_
  calc params.entries.map (fun e => (e.1, decorateValue placeholders e.2))
      = params.entries.map id := List.map_congr_left hentry
    _ = params.entries := List.map_id _

theorem decorate_empty (params : Params) : params.decorate .empty = params :=
  Literal.decorate fun _ _ _ _ => rfl

end Params

/-! ## Writing values out -/

mutual

/-- A definition with the values of placeholders written out, in those nested in it as well. -/
def SpriteDef.inlined (placeholders : Params) : SpriteDef → SpriteDef
  | ⟨name, keyword, params, children, line⟩ =>
    ⟨name, keyword, params.decorate placeholders, SpriteDef.inlinedAll placeholders children, line⟩

def SpriteDef.inlinedAll (placeholders : Params) : List SpriteDef → List SpriteDef
  | [] => []
  | d :: ds => d.inlined placeholders :: SpriteDef.inlinedAll placeholders ds

end

def InteractionDef.inlined (placeholders : Params) (d : InteractionDef) : InteractionDef :=
  { d with params := d.params.decorate placeholders }

def TerminationDef.inlined (placeholders : Params) (d : TerminationDef) : TerminationDef :=
  { d with params := d.params.decorate placeholders }

/-- A description with the values of its placeholders written out everywhere. -/
def Description.inlined (d : Description) : Description :=
  { d with
    sprites := SpriteDef.inlinedAll d.placeholders d.sprites
    interactions := d.interactions.map (InteractionDef.inlined d.placeholders)
    terminations := d.terminations.map (TerminationDef.inlined d.placeholders)
    placeholders := .empty }

theorem TerminationDef.inlined_of_literal {d : TerminationDef} {placeholders : Params}
    (h : d.params.Literal placeholders) : d.inlined placeholders = d := by
  unfold inlined
  rw [h.decorate]

/-! ## Sprites -/

section Sprites

variable (placeholders : Params)

theorem SpriteDef.name_inlined (d : SpriteDef) : (d.inlined placeholders).name = d.name := by
  cases d
  rfl

theorem SpriteDef.keyword_inlined (d : SpriteDef) : (d.inlined placeholders).keyword = d.keyword := by
  cases d
  rfl

theorem SpriteDef.params_inlined (d : SpriteDef) :
    (d.inlined placeholders).params = d.params.decorate placeholders := by
  cases d
  rfl

/-- A visit of a walk with the values written out. -/
def inlinedVisit (e : SpriteDef × Option SpriteDef) : SpriteDef × Option SpriteDef :=
  (e.1.inlined placeholders, e.2.map (SpriteDef.inlined placeholders))

mutual

theorem SpriteDef.walk_inlined (parent : Option SpriteDef) (d : SpriteDef) :
    (d.inlined placeholders).walk (parent.map (inlined placeholders)) =
      (d.walk parent).map (inlinedVisit placeholders) :=
  match d with
  | ⟨name, keyword, params, children, line⟩ => by
    rw [walk, inlined, walk, List.map_cons]
    have hchildren := SpriteDef.walkAll_inlined (some ⟨name, keyword, params, children, line⟩) children
    rw [Option.map_some, inlined] at hchildren
    rw [hchildren]
    rfl

theorem SpriteDef.walkAll_inlined (parent : Option SpriteDef) (ds : List SpriteDef) :
    walkAll (parent.map (inlined placeholders)) (inlinedAll placeholders ds) =
      (walkAll parent ds).map (inlinedVisit placeholders) :=
  match ds with
  | [] => rfl
  | d :: ds => by
    rw [inlinedAll, walkAll, walkAll, List.map_append, SpriteDef.walk_inlined parent d,
      SpriteDef.walkAll_inlined parent ds]

end

namespace Ruleset

/-- Names and nesting stay, and so do the types. -/
theorem declare_inlined (l : List (SpriteDef × Option SpriteDef)) (r : Registry) :
    declare r (l.map (inlinedVisit placeholders)) =
      (fun out => (out.1, out.2.map fun e => (e.1, e.2.inlined placeholders))) <$> declare r l := by
  induction l generalizing r with
  | nil => rfl
  | cons e l ih =>
    obtain ⟨d, parent⟩ := e
    have hparent : (parent.map (SpriteDef.inlined placeholders)).bind (fun p => r.resolve? p.name) =
        parent.bind fun p => r.resolve? p.name := by
      cases parent with
      | none => rfl
      | some p => exact congrArg r.resolve? (SpriteDef.name_inlined placeholders p)
    rw [List.map_cons, inlinedVisit]
    unfold declare
    simp only [SpriteDef.name_inlined]
    cases r.resolve? d.name with
    | some id => simp only [ih, map_bind]
    | none => simp only [hparent, ih, map_bind, map_pure, bind_map_left, List.map_cons]

/-- A template is built from the same parameters, inherited ones included. -/
theorem buildTemplates_inlined (registry : Registry) (l : List (TypeId × SpriteDef)) (templates : Array Template) :
    buildTemplates registry .empty (l.map fun e => (e.1, e.2.inlined placeholders)) templates =
      buildTemplates registry placeholders l templates := by
  induction l generalizing templates with
  | nil => rfl
  | cons e l ih =>
    obtain ⟨id, d⟩ := e
    rw [List.map_cons]
    unfold buildTemplates
    simp only [SpriteDef.keyword_inlined, SpriteDef.params_inlined, Params.decorate_empty, ih]

end Ruleset

end Sprites

/-! ## Rules -/

theorem Interaction.read?_inlined (registry : Registry) (placeholders : Params) (d : InteractionDef) :
    read? registry .empty (d.inlined placeholders) = read? registry placeholders d := by
  unfold read? InteractionDef.inlined
  dsimp only
  rw [Params.decorate_empty]

namespace Checked

variable {α β γ : Type}

theorem keepEach_map (f : β → Checked (Option γ)) (g : α → β) (l : List α) :
    keepEach f (l.map g) = keepEach (fun a => f (g a)) l := by
  have hforEach : forEach f (l.map g) = forEach (fun a => f (g a)) l := by
    induction l with
    | nil => rfl
    | cons a l ih => rw [List.map_cons, forEach, forEach, ih]
  unfold keepEach
  rw [hforEach]

/-- Nothing is warned of. -/
def Silent (x : Checked α) : Prop := x.warnings = []

theorem Silent.bind {x : Checked α} {f : α → Checked β} (hx : x.Silent) (hf : (f x.value).Silent) :
    (x >>= f).Silent := by
  unfold Silent at *
  rw [warnings_bind, hx, hf, List.append_nil]

theorem Silent.bind_option {x : Checked (Option α)} {f : Option α → Checked β} (hx : x.Silent)
    (hsome : ∀ a, (f (some a)).Silent) (hnone : (f none).Silent) : (x >>= f).Silent := by
  refine hx.bind ?_
  cases x.value with
  | none => exact hnone
  | some a => exact hsome a

theorem silent_ofExcept (result : Except Problem α) : (ofExcept result).Silent := by
  cases result <;> rfl

theorem silent_keepEach {f : α → Checked (Option β)} (h : ∀ a, (f a).Silent) (l : List α) : (keepEach f l).Silent := by
  have hforEach : (forEach f l).Silent := by
    induction l with
    | nil => rfl
    | cons a l ih => exact (h a).bind (ih.bind rfl)
  exact hforEach.bind rfl

end Checked

namespace Termination

variable {params : Params} {place : Place} {registry : Registry}

theorem silent_readStrict {α : Type} {read : List Char → Option α} {key : String} {entry : Option (List Char)}
    {default : α} : (readStrict place read key entry default).Silent := by
  unfold readStrict
  split
  · rfl
  · split <;> rfl

theorem silent_resolveAll (names : List String) : (resolveAll place registry names).Silent := by
  induction names with
  | nil => rfl
  | cons name names ih => exact (Checked.silent_ofExcept _).bind_option (fun _ => ih.bind_option (fun _ => rfl) rfl) rfl

theorem silent_readCondition (kind : TerminationKind) : (readCondition params place registry kind).Silent := by
  cases kind with
  | spriteCounter =>
    refine Checked.Silent.bind_option ?_ (fun _ => rfl) rfl
    unfold Params.requiredSprite?
    split
    · rfl
    · exact Checked.silent_ofExcept _
  | multiSpriteCounter =>
    refine (silent_resolveAll _).bind_option (fun types => ?_) rfl
    dsimp only
    split <;> rfl
  | timeout => rfl

theorem silent_read? (d : TerminationDef) : (read? registry d).Silent := by
  unfold read?
  cases TerminationKind.ofKeyword? d.kind with
  | none => exact silent_readStrict.bind_option (fun _ => silent_readStrict.bind_option (fun _ =>
      silent_readStrict.bind_option (fun _ => rfl) rfl) rfl) rfl
  | some kind =>
    refine Checked.Silent.bind rfl (silent_readStrict.bind_option (fun _ => silent_readStrict.bind_option (fun _ =>
      silent_readStrict.bind_option (fun _ => ?_) rfl) rfl) rfl)
    exact (silent_readCondition _).bind_option (fun _ => rfl) rfl

end Termination

namespace Ruleset

variable (d : Description) (settings : Settings)

/-- Only terminations can tell placeholders from values. -/
theorem compile_inlined_eq :
    compile d.inlined settings =
      compile { d with terminations := d.terminations.map (TerminationDef.inlined d.placeholders) } settings := by
  have hwalk : d.inlined.walk = d.walk.map (inlinedVisit d.placeholders) :=
    SpriteDef.walkAll_inlined d.placeholders none d.sprites
  unfold compile
  rw [hwalk, declare_inlined, bind_map_left]
  simp only [Description.inlined, buildTemplates_inlined, Checked.keepEach_map, Interaction.read?_inlined]
  rfl

/-- What becomes of placeholders whose values are written out. The rules are the same but for
the terminations, and so is the report but for what it says of these. Terminations are taken as
they are written, with and without their placeholders. Where they name none, nothing changes
at all. -/
theorem compile_inlined :
    let read := Checked.keepEach (Termination.read? (compile d settings).value.registry)
    let written := read d.terminations
    let inlined := read (d.terminations.map (TerminationDef.inlined d.placeholders))
    (compile d settings).value.terminations = written.value ∧
    (compile d.inlined settings).value = { (compile d settings).value with terminations := inlined.value } ∧
    (∃ before after, (compile d settings).problems = before ++ written.problems ++ after ∧
      (compile d.inlined settings).problems = before ++ inlined.problems ++ after) ∧
    (compile d.inlined settings).warnings = (compile d settings).warnings ∧
    ((∀ t ∈ d.terminations, t.params.Literal d.placeholders) → compile d.inlined settings = compile d settings) := by
  intro read written inlined
  have hread : ∀ registry ts, (Checked.keepEach (Termination.read? registry) ts).warnings = [] := fun _ =>
    Checked.silent_keepEach Termination.silent_read?
  rw [compile_inlined_eq]
  refine ⟨rfl, rfl, ?_, ?_, fun h => ?_⟩
  · simp only [compile, Checked.problems_bind, Checked.problems_pure, List.append_nil, ← List.append_assoc]
    exact ⟨_, _, rfl, rfl⟩
  · simp only [compile, Checked.warnings_bind, Checked.warnings_pure, hread]
    rfl
  · have hsame : ∀ t ∈ d.terminations, t.inlined d.placeholders = id t := fun t ht =>
      TerminationDef.inlined_of_literal (h t ht)
    rw [List.map_congr_left hsame, List.map_id]

/-- Bats of some pace and worth, in a game of a limited time. -/
def paced (limit : String) : Description :=
  { Description.empty with
    sprites := [
      ⟨"bat", some "Missile", .ofList [("speed", "PACE"), ("orientation", "LEFT")], [], 1⟩,
      ⟨"avatar", some "MovingAvatar", .empty, [], 2⟩]
    interactions := [⟨"bat", "EOS", "killSprite", .ofList [("scoreChange", "WORTH")], 3⟩]
    terminations := [⟨"Timeout", .ofList [("limit", limit)], 4⟩]
    placeholders := .ofList [("PACE", "0.5"), ("WORTH", "2"), ("LAST", "30")] }

/-- With a limit that is a number it does not matter whether pace and worth are written out. -/
theorem compile_inlined_paced :
    (paced "30").inlined.interactions ≠ (paced "30").interactions ∧
      compile (paced "30").inlined .default = compile (paced "30") .default := by
  obtain ⟨-, -, -, -, hsame⟩ := compile_inlined (paced "30") .default
  exact ⟨by decide +kernel, hsame (by decide +kernel)⟩

/-- With a placeholder for the limit it does: as it is written, the limit is malformed. -/
theorem compile_tells_placeholder :
    (compile (paced "LAST") .default).problems = [.malformedParameter "limit" "LAST" (.termination "Timeout" 4)] ∧
      (compile (paced "LAST") .default).value.terminations.length = 0 ∧
      (compile (paced "LAST").inlined .default).problems = [] ∧
      (compile (paced "LAST").inlined .default).value.terminations.length = 1 := by
  decide +kernel

end Ruleset

end SpriteGame
