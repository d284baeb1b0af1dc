/-!
# Problems of a game description

A description is never rejected at its first fault: every problem is recorded with
its cause and the place that it concerns, and `Problem.message` is the only place
where problems are put into words. A `Checked` value is a result together with the
problems and warnings found on the way to it, in the order in which they were found.
-/
namespace SpriteGame

/-! ## Causes -/

/-- What is wrong with a single line. -/
inductive LineFault where
  | noInteractionArrow
  | tooFewNames
  | noEffect
  | emptyTermination
  | notKeyValue (token : String)
  | noSpriteArrow
  | badSpriteName (name : String)
  | outsideSection (line : String)
  | badMapping (line : String)
  | badParameter (line : String)
  | edgeFirst
  deriving DecidableEq

/-- The part of a description that a problem concerns. -/
inductive Place where
  | sprite (name : String)
  | interaction (first second effect : String) (line : Nat)
  | termination (kind : String) (line : Nat)
  | mapping (symbol : Char)
  | placeholder (name : String)
  | named (text : String)
  deriving DecidableEq

/-- A problem in a game description or a level. -/
inductive Problem where
  | unknownSprite (name : String) (place : Place)
  | unknownClass (sprite keyword : String)
  | unknownParameter (key : String) (place : Place)
  | malformedParameter (key value : String) (place : Place)
  | missingParameter (key : String) (place : Place)
  | unknownEffect (name : String)
  | unknownTermination (kind : String)
  | duplicateSprite (name : String)
  | undefinedSymbol (symbol : Char)
  | badLine (line : Nat) (fault : LineFault)
  deriving DecidableEq

/-- Something that is allowed but has no effect. -/
inductive Warning where
  | idleAtEdge (effect : String) (place : Place)
  deriving DecidableEq

/-! ## Wording -/

def LineFault.message : LineFault → String
  | noInteractionArrow => "interaction needs `>`"
  | tooFewNames => "interaction needs at least two sprite names"
  | noEffect => "interaction needs an effect"
  | emptyTermination => "empty termination"
  | notKeyValue token => s!"expected key=value, found `{token}`"
  | noSpriteArrow => "sprite definition needs `>`"
  | badSpriteName name => s!"bad sprite name `{name}`"
  | outsideSection line => s!"`{line}` is outside any section"
  | badMapping line => s!"bad level mapping `{line}`"
  | badParameter line => s!"bad parameter definition `{line}`"
  | edgeFirst => "EOS can only be the second sprite of an interaction"

def Place.describe : Place → String
  | sprite name => s!"sprite `{name}`"
  | interaction first second effect line =>
    s!"interaction `{first} {second} > {effect}` on line {line}"
  | termination kind line => s!"termination `{kind}` on line {line}"
  | mapping symbol => s!"level mapping `{symbol}`"
  | placeholder name => s!"parameter `{name}`"
  | named text => text

def Problem.message : Problem → String
  | unknownSprite name place => s!"undefined sprite `{name}` referenced by {place.describe}"
  | unknownClass sprite keyword => s!"unknown sprite class `{keyword}` for sprite `{sprite}`"
  | unknownParameter key place => s!"unknown parameter `{key}` in {place.describe}"
  | malformedParameter key value place =>
    s!"malformed value `{value}` for parameter `{key}` in {place.describe}"
  | missingParameter key place => s!"missing parameter `{key}` in {place.describe}"
  | unknownEffect name => s!"unknown interaction effect `{name}`"
  | unknownTermination kind => s!"unknown termination condition `{kind}`"
  | duplicateSprite name => s!"sprite `{name}` is defined more than once"
  | undefinedSymbol symbol => s!"level symbol `{symbol}` has no mapping"
  | badLine line fault => s!"syntax error on line {line}: {fault.message}"

def Warning.message : Warning → String
  | idleAtEdge effect place => s!"{place.describe}: `{effect}` has no effect at the screen edge"

/-- A computation that succeeds has a first step that does. -/
theorem ok_of_bind {ε α β : Type} {x : Except ε α} {f : α → Except ε β} {b : β} (h : (x >>= f) = .ok b) :
    ∃ a, x = .ok a ∧ f a = .ok b := by
  cases x with
  | error e => cases h
  | ok a => exact ⟨a, rfl, h⟩

/-- A fold of steps that succeed, as long as what holds at the start is kept. -/
theorem foldlM_eq {ε σ α : Type} {step : σ → α → Except ε σ} {next : σ → α → σ} {P : σ → Prop} {l : List α}
    (h : ∀ s, P s → ∀ a ∈ l, step s a = .ok (next s a) ∧ P (next s a)) {s : σ} (hs : P s) :
    l.foldlM step s = .ok (l.foldl next s) ∧ P (l.foldl next s) := by
  induction l generalizing s with
  | nil => exact ⟨rfl, hs⟩
  | cons a l ih =>
    obtain ⟨hstep, hnext⟩ := h s hs a List.mem_cons_self
    rw [List.foldlM_cons, hstep, List.foldl_cons]
    exact ih (fun s hs a ha => h s hs a (List.mem_cons_of_mem _ ha)) hnext

/-! ## Checked values -/

/-- A value with the problems and warnings found while it was made. -/
structure Checked (α : Type) where
  value : α
  problems : List Problem
  warnings : List Warning

namespace Checked

variable {α β : Type}

instance : Monad Checked where
  pure a := ⟨a, [], []⟩
  bind x f :=
    let y := f x.value
    ⟨y.value, x.problems ++ y.problems, x.warnings ++ y.warnings⟩

@[simp] theorem value_pure (a : α) : (pure a : Checked α).value = a := rfl

@[simp] theorem problems_pure (a : α) : (pure a : Checked α).problems = [] := rfl

@[simp] theorem warnings_pure (a : α) : (pure a : Checked α).warnings = [] := rfl

@[simp] theorem value_bind (x : Checked α) (f : α → Checked β) :
    (x >>= f).value = (f x.value).value := rfl

@[simp] theorem value_map (f : α → β) (x : Checked α) : (f <$> x).value = f x.value := rfl

@[simp] theorem problems_bind (x : Checked α) (f : α → Checked β) :
    (x >>= f).problems = x.problems ++ (f x.value).problems := rfl

@[simp] theorem warnings_bind (x : Checked α) (f : α → Checked β) :
    (x >>= f).warnings = x.warnings ++ (f x.value).warnings := rfl

theorem ext {x y : Checked α} (hv : x.value = y.value) (hp : x.problems = y.problems)
    (hw : x.warnings = y.warnings) : x = y := by
  cases x; cases y; simp_all

instance : LawfulMonad Checked :=
  LawfulMonad.mk' Checked (fun _ => ext rfl (List.append_nil _) (List.append_nil _))
    (fun _ _ => ext rfl rfl rfl)
    (fun _ _ _ => ext rfl (List.append_assoc ..) (List.append_assoc ..))

def report (p : Problem) : Checked Unit := ⟨(), [p], []⟩

def reportAll (ps : List Problem) : Checked Unit := ⟨(), ps, []⟩

def warn (w : Warning) : Checked Unit := ⟨(), [], [w]⟩

/-- The result without an error; a problem is recorded and gives `none`. -/
def ofExcept : Except Problem α → Checked (Option α)
  | .ok a => pure (some a)
  | .error p => ⟨none, [p], []⟩

/-- Make a value for each element, in order. -/
def forEach (f : α → Checked β) : List α → Checked (List β)
  | [] => pure []
  | a :: l => do
    let b ← f a
    let bs ← forEach f l
    pure (b :: bs)

theorem value_forEach (f : α → Checked β) (l : List α) :
    (forEach f l).value = l.map fun a => (f a).value := by
  induction l with
  | nil => rfl
  | cons a l ih => simp [forEach, ih]

/-- Make a value for each element, in order, and keep those that there are. -/
def keepEach (f : α → Checked (Option β)) (l : List α) : Checked (List β) := do
  let bs ← forEach f l
  pure (bs.filterMap id)

theorem value_keepEach (f : α → Checked (Option β)) (l : List α) :
    (keepEach f l).value = l.filterMap fun a => (f a).value := by
  unfold keepEach
  rw [value_bind, value_forEach, value_pure, List.filterMap_map]
  rfl

end Checked

end SpriteGame
