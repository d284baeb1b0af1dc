import SpriteGame.Proofs.Frame
/-!
# What effects write

Every effect writes in the same order: it first changes live sprites and then removes
sprites or asks for new ones (`tidy_edits?`). So no edit of it touches a sprite that is
gone, also not one that the same effect has removed (`Tidy.spares`).
-/
namespace SpriteGame

namespace Edit

/-- Whether it changes a sprite, other than by removing it. -/
def isChange : Edit → Bool
  | .change .. => true
  | .kill _ | .spawn _ => false

end Edit

namespace World

/-! ## Edits of live sprites -/

/-- Whether an edit leaves alone what is gone: a changed sprite is alive. -/
def SparesOne (w : World) (e : Edit) : Prop := ∀ key cs, e = .change key cs → w.isAlive key = true

/-- Whether edits made one after the other leave alone what is gone. -/
def Spares (w : World) : List Edit → Prop
  | [] => True
  | e :: es => w.SparesOne e ∧ (w.edit e).Spares es

/-- Sprites that are gone stay as they are. -/
def Freezes (v w : World) : Prop :=
  ∀ key s, v.sprite? key = some s → s.alive = false → w.sprite? key = some s

theorem Freezes.refl (w : World) : w.Freezes w := fun _ _ hs _ => hs

theorem Freezes.trans {u v w : World} (h : u.Freezes v) (h' : v.Freezes w) : u.Freezes w :=
  fun key s hs hgone => h' key s (h key s hs hgone) hgone

theorem freezes_set (w : World) (rng : Random) (pendingScore : Int) :
    w.Freezes { w with rng, pendingScore } := fun _ _ hs _ => hs

theorem freezes_modify {w : World} {key : Key} {f : Sprite → Sprite}
    (h : ∀ s, w.sprite? key = some s → s.alive = false → f s = s) : w.Freezes (w.modify key f) := by
  intro other s hs hgone
  rw [sprite?_modify]
  split
  · next he =>
    subst he
    rw [hs, Option.map_some, h s hs hgone]
  · exact hs

theorem freezes_edit {w : World} {e : Edit} (h : w.SparesOne e) : w.Freezes (w.edit e) := by
  cases e with
  | kill key =>
    refine freezes_modify fun s _ hgone => ?_
    cases s
    simp_all [Sprite.remove]
  | change key cs =>
    refine freezes_modify fun s hs hgone => ?_
    -- There is nothing to show: the changed sprite is alive.
    obtain ⟨t, ht, halive⟩ := isAlive_iff.1 (h key cs rfl)
    rw [hs] at ht
    obtain rfl := Option.some.inj ht
    rw [hgone] at halive
    cases halive
  | spawn r => exact .refl w

theorem isAlive_edit_change (w : World) (key other : Key) (cs : List Sprite.Change) :
    (w.edit (.change key cs)).isAlive other = w.isAlive other := by
  show ((w.modify key (·.changes cs)).sprite? other).any (·.alive) = _
  rw [sprite?_modify]
  unfold isAlive
  split
  · rw [Option.any_map]
    exact congrArg (Option.any · _) (funext fun s => Sprite.alive_changes s cs)
  · rfl

/-- A removed sprite is gone. -/
theorem isAlive_edits_of_kill {w : World} {key : Key} {es : List Edit} (h : .kill key ∈ es) :
    (w.edits es).isAlive key = false := by
  obtain ⟨before, after, rfl⟩ := List.append_of_mem h
  rw [edits_append, edits_cons]
  refine (ensues_edits _ after).gone key ?_
  show (((w.edits before).modify key Sprite.remove).sprite? key).any (·.alive) = false
  rw [sprite?_modify, if_pos rfl]
  cases (w.edits before).sprite? key <;> rfl

/-! ## The order of edits -/

/-- First come changes of live sprites, of some kinds only, then removals and requests. -/
def Tidy (w : World) (kinds : Sprite.Change → Bool) (es : List Edit) : Prop :=
  ∃ changes rest, es = changes ++ rest ∧
    (∀ e ∈ changes, ∃ key cs, e = .change key cs ∧ w.isAlive key = true ∧ ∀ c ∈ cs, kinds c = true) ∧
    ∀ e ∈ rest, e.isChange = false

section Tidy

variable {w : World} {kinds : Sprite.Change → Bool}

theorem tidy_of_rest {es : List Edit} (h : ∀ e ∈ es, e.isChange = false) : w.Tidy kinds es :=
  ⟨[], es, rfl, by simp, h⟩

theorem tidy_cons {key : Key} (hkey : w.isAlive key = true) {cs : List Sprite.Change}
    (hcs : ∀ c ∈ cs, kinds c = true) {es : List Edit} (h : ∀ e ∈ es, e.isChange = false) :
    w.Tidy kinds (.change key cs :: es) := by
  refine ⟨[.change key cs], es, rfl, fun e he => ?_, h⟩
  exact ⟨key, cs, List.mem_singleton.1 he, hkey, hcs⟩

theorem tidy_map {l : List (Key × Sprite)} (h : ∀ e ∈ l, w.isAlive e.1 = true)
    {f : Key × Sprite → List Sprite.Change} (hf : ∀ e, ∀ c ∈ f e, kinds c = true) :
    w.Tidy kinds (l.map fun e => .change e.1 (f e)) := by
  refine ⟨_, [], (List.append_nil _).symm, fun e he => ?_, by simp⟩
  obtain ⟨x, hx, rfl⟩ := List.mem_map.1 he
  exact ⟨x.1, f x, rfl, h x hx, hf x⟩

theorem Tidy.kinds_of_mem {es : List Edit} (h : w.Tidy kinds es) {key : Key} {cs : List Sprite.Change}
    (hmem : .change key cs ∈ es) : ∀ c ∈ cs, kinds c = true := by
  obtain ⟨changes, rest, rfl, hchanges, hrest⟩ := h
  rcases List.mem_append.1 hmem with hmem | hmem
  · obtain ⟨key', cs', he, -, hcs⟩ := hchanges _ hmem
    obtain ⟨rfl, rfl⟩ := Edit.change.inj he
    exact hcs
  · cases hrest _ hmem

theorem spares_of_rest {es : List Edit} (h : ∀ e ∈ es, e.isChange = false) (w : World) : w.Spares es := by
  induction es generalizing w with
  | nil => trivial
  | cons e es ih =>
    refine ⟨fun key cs he => ?_, ih (fun e' he' => h e' (List.mem_cons_of_mem e he')) _⟩
    subst he
    cases h _ List.mem_cons_self

theorem Tidy.spares {es : List Edit} (h : w.Tidy kinds es) : w.Spares es := by
  obtain ⟨changes, rest, rfl, hchanges, hrest⟩ := h
  induction changes generalizing w with
  | nil => exact spares_of_rest hrest w
  | cons e changes ih =>
    obtain ⟨key, cs, rfl, hkey, -⟩ := hchanges e List.mem_cons_self
    refine ⟨fun key' cs' he => ?_, ih fun e' he' => ?_⟩
    · obtain ⟨rfl, -⟩ := Edit.change.inj he
      exact hkey
    · -- A change neither removes a sprite nor brings one back.
      obtain ⟨key', cs', rfl, hkey', hcs'⟩ := hchanges e' (List.mem_cons_of_mem _ he')
      exact ⟨key', cs', rfl, (isAlive_edit_change ..).trans hkey', hcs'⟩

end Tidy

end World

/-! ## The changes and the order of an effect -/

namespace Effect

/-- Whether an effect makes changes of a kind. -/
def makes : Effect → Sprite.Change → Bool
  | stepBack, .stepBack | undoAll _, .stepBack => true
  | collectResource _, .gain .. | changeResource .., .gain .. => true
  | addHealthPoints _, .setHealth _ | subtractHealthPoints _, .setHealth _ => true
  | addHealthPointsToMax _, .setHealth _ | addHealthPointsToMax _, .setMaxHealth _ => true
  | reverseDirection, .face _ | flipDirection, .face _ => true
  | turnAround, .stepBack | turnAround, .shift _ | turnAround, .face _ => true
  | attractGaze _, .face _ | attractGaze _, .place .. => true
  | speedToAll .., .setSpeed _ => true
  | teleportToExit, .place .. | teleportToExit, .settle => true
  | wrapAround, .place .. | wrapAround, .settle => true
  | bounceForward, .drive .. => true
  | pullWithIt, .shift _ => true
  | _, _ => false

theorem certain_eq_some {w : World} {es fs : List Edit} {rng : Random} :
    certain w es = some (fs, rng) ↔ es = fs ∧ w.rng = rng := by
  simp [certain]

theorem provided_eq_some {w : World} {condition : Bool} {es fs : List Edit} {rng : Random} :
    provided w condition es = some (fs, rng) ↔ condition = true ∧ es = fs ∧ w.rng = rng := by
  unfold provided
  split <;> simp_all [certain]

theorem isChange_killOther (asked : Bool) (second : Option Key) :
    ∀ e ∈ killOther asked second, e.isChange = false := by
  unfold killOther
  cases asked <;> cases second <;> simp [Edit.isChange]

theorem tidy_alone {w : World} {key : Key} {s : Sprite} {second : Option Key} {e : Effect} {es : List Edit}
    {rng : Random} (hkey : w.isAlive key = true) (h : e.alone w key s second = some (es, rng)) :
    w.Tidy e.makes es := by
  have hother := isChange_killOther
  cases e <;> simp only [alone, certain_eq_some, provided_eq_some, Option.some.injEq, Prod.mk.injEq,
    reduceCtorEq] at h
  -- What only removes sprites or asks for them.
  case killSprite | spawn | cloneSprite =>
    obtain ⟨rfl, -⟩ := h
    exact World.tidy_of_rest (by simp [Edit.isChange])
  case killAll type =>
    obtain ⟨rfl, -⟩ := h
    refine World.tidy_of_rest fun e he => ?_
    obtain ⟨x, -, rfl⟩ := List.mem_map.1 he
    rfl
  case killIfHasMore | killIfHasLess | spawnIfHasMore =>
    obtain ⟨-, rfl, -⟩ := h
    exact World.tidy_of_rest (by simp [Edit.isChange])
  case killBoth =>
    obtain ⟨rfl, -⟩ := h
    exact World.tidy_of_rest (List.forall_mem_cons.2 ⟨rfl, hother true second⟩)
  case transformTo type killSecond =>
    obtain ⟨rfl, -⟩ := h
    exact World.tidy_of_rest
      (List.forall_mem_cons.2 ⟨rfl, List.forall_mem_cons.2 ⟨rfl, hother killSecond second⟩⟩)
  -- What changes many sprites.
  case undoAll except =>
    obtain ⟨rfl, -⟩ := h
    have hlive : ∀ f, ∀ e ∈ w.live.filter f, w.isAlive e.1 = true :=
      fun f e he => World.isAlive_of_mem_live (List.mem_filter.1 he).1
    exact World.tidy_map (hlive _) fun e => by simp [makes]
  case speedToAll type value change =>
    obtain ⟨rfl, -⟩ := h
    have hlive : ∀ e ∈ w.liveIn type, w.isAlive e.1 = true := fun e he => World.isAlive_of_mem_liveIn he
    exact @World.tidy_map w _ _ hlive (fun e => [.setSpeed (change.apply e.2.speed value)])
      fun e => by simp [makes]
  -- What changes the first side.
  case changeResource resource value killResource =>
    obtain ⟨rfl, -⟩ := h
    exact World.tidy_cons hkey (by simp [makes]) (hother killResource second)
  case subtractHealthPoints value =>
    obtain ⟨rfl, -⟩ := h
    refine World.tidy_cons hkey (by simp [makes]) ?_
    split <;> simp [Edit.isChange]
  all_goals
    obtain ⟨rfl, -⟩ := h
    exact World.tidy_cons hkey (by simp [makes]) (by simp)

theorem tidy_between {w : World} {key other : Key} {s o : Sprite} {e : Effect} {es : List Edit} {rng : Random}
    (hkey : w.isAlive key = true) (hother : w.isAlive other = true)
    (h : e.between w key s other o = some (es, rng)) : w.Tidy e.makes es := by
  cases e <;> simp only [between, certain_eq_some, provided_eq_some, reduceCtorEq] at h
  case killIfOtherHasMore | killIfFromAbove =>
    obtain ⟨-, rfl, -⟩ := h
    exact World.tidy_of_rest (by simp [Edit.isChange])
  case spawnBehind =>
    obtain ⟨rfl, -⟩ := h
    exact World.tidy_of_rest (by simp [Edit.isChange])
  case teleportToExit =>
    split at h
    · cases h
      exact World.tidy_cons hkey (by simp [makes]) (by simp)
    · cases h
  case collectResource killResource =>
    split at h
    · cases h
    · rw [provided_eq_some] at h
      obtain ⟨-, rfl, -⟩ := h
      -- It is the second side that gets something, and the first one that goes.
      refine World.tidy_cons hother (by simp [makes]) ?_
      cases killResource <;> simp [Edit.isChange]
  case attractGaze inLine =>
    obtain ⟨-, rfl, -⟩ := h
    have halign : ∀ c, c = align o.facing o.rect s → (attractGaze inLine).makes c = true := by
      rintro c rfl
      unfold align
      split <;> rfl
    refine World.tidy_cons hkey (List.forall_mem_cons.2 ⟨rfl, ?_⟩) (by simp)
    cases inLine with
    | false => simp
    | true => exact fun c hc => halign c (List.mem_singleton.1 hc)
  case bounceForward =>
    split at h
    · cases h
    · rw [provided_eq_some] at h
      obtain ⟨-, rfl, -⟩ := h
      exact World.tidy_cons hkey (by simp [makes]) (by simp)
  case pullWithIt =>
    obtain ⟨rfl, -⟩ := h
    exact World.tidy_cons hkey (by simp [makes]) (by simp)

/-- An effect acts on the first side alone, or on both. -/
theorem edits?_eq_some {e : Effect} {w : World} {key : Key} {second : Option Key} {result : List Edit × Random} :
    e.edits? w (some key) second = some result ↔ ∃ s, w.sprite? key = some s ∧
      if e.needsSecond then
        ∃ other o, second = some other ∧ w.sprite? other = some o ∧ e.between w key s other o = some result
      else e.alone w key s second = some result := by
  unfold edits?
  simp only [Option.bind_eq_bind, Option.bind_some, Option.bind_eq_some_iff]
  refine exists_congr fun s => and_congr_right fun _ => ?_
  split
  · simp only [Option.bind_eq_some_iff]
    exact ⟨fun ⟨other, ho, o, hs, h⟩ => ⟨other, o, ho, hs, h⟩, fun ⟨other, o, ho, hs, h⟩ => ⟨other, ho, o, hs, h⟩⟩
  · exact Iff.rfl

theorem apply_of_none {e : Effect} {w : World} {first second : Option Key}
    (h : e.edits? w first second = none) : e.apply w first second = (false, w) := by
  unfold apply
  rw [h]

theorem apply_of_some {e : Effect} {w : World} {first second : Option Key} {es : List Edit} {rng : Random}
    (h : e.edits? w first second = some (es, rng)) :
    e.apply w first second = (true, { w with rng }.edits es) := by
  unfold apply
  rw [h]

/-- An effect leaves the world as it is or carries its edits out. -/
theorem apply_cases (e : Effect) (w : World) (first second : Option Key) :
    (e.apply w first second).2 = w ∨
      ∃ es rng, e.edits? w first second = some (es, rng) ∧
        (e.apply w first second).2 = { w with rng }.edits es := by
  cases h : e.edits? w first second with
  | none => exact .inl (by rw [apply_of_none h])
  | some result => exact .inr ⟨result.1, result.2, rfl, by rw [apply_of_some h]⟩

/-- An effect first changes what is alive and then removes sprites or asks for them. -/
theorem tidy_edits? {e : Effect} {w : World} {c : Collision} {es : List Edit} {rng : Random}
    (hc : c.holds w = true) (h : e.edits? w (some c.first) c.second = some (es, rng)) : w.Tidy e.makes es := by
  rw [Collision.holds_iff] at hc
  obtain ⟨s, -, h⟩ := edits?_eq_some.1 h
  split at h
  · obtain ⟨other, o, hsecond, -, h⟩ := h
    exact tidy_between hc.1 (hc.2 other hsecond) h
  · exact tidy_alone hc.1 h

/-! ## Effects that remove the first side -/

/-- Whether the first side is removed whenever the effect comes about. -/
def endsFirst : Effect → Bool
  | killSprite | killBoth | killIfHasMore .. | killIfHasLess .. | killIfOtherHasMore .. | killIfFromAbove
  | transformTo .. | collectResource true => true
  | _ => false

theorem kill_mem_edits? {e : Effect} (he : e.endsFirst = true) {w : World} {key : Key} {second : Option Key}
    {es : List Edit} {rng : Random} (h : e.edits? w (some key) second = some (es, rng)) : .kill key ∈ es := by
  obtain ⟨s, -, h⟩ := edits?_eq_some.1 h
  cases e with
  | killIfOtherHasMore | killIfFromAbove =>
    obtain ⟨other, o, -, -, h⟩ := h
    obtain ⟨-, rfl, -⟩ := provided_eq_some.1 h
    exact List.mem_cons_self
  | collectResource killResource =>
    obtain ⟨other, o, -, -, h⟩ := h
    cases killResource with
    | false => cases he
    | true =>
      unfold between at h
      dsimp only at h
      split at h
      · cases h
      · obtain ⟨-, rfl, -⟩ := provided_eq_some.1 h
        simp
  | killIfHasMore | killIfHasLess =>
    obtain ⟨-, rfl, -⟩ := provided_eq_some.1 h
    exact List.mem_cons_self
  | killSprite | killBoth | transformTo =>
    obtain ⟨rfl, -⟩ := certain_eq_some.1 h
    exact List.mem_cons_self
  | _ => cases he

/-! ## Effects that ask for sprites -/

/-- The type that an effect makes sprites of, if it names one. -/
def made? : Effect → Option TypeId
  | spawn type | spawnBehind type | spawnIfHasMore _ _ type | transformTo type _ => some type
  | _ => none

/-- What an effect on a sprite asks for: a sprite of the type that it names, another one like
the first, or one that takes its place. -/
inductive Asks : Effect → Sprite → SpawnRequest → Prop
  | plain {e : Effect} {s : Sprite} {type : TypeId} {center : Vec} : e.made? = some type → Asks e s (.plain type center)
  | clone {s : Sprite} : Asks cloneSprite s (.facingTo s.type s.rect.center s.facing)
  | successor {s : Sprite} {type : TypeId} {killSecond : Bool} :
      Asks (transformTo type killSecond) s (successor type s)

variable {w : World} {key other : Key} {s o : Sprite} {second : Option Key} {e : Effect} {es : List Edit}
  {rng : Random} {r : SpawnRequest}

theorem asks_of_mem_alone (hes : e.alone w key s second = some (es, rng)) (hr : .spawn r ∈ es) : e.Asks s r := by
  have hother : ∀ asked, Edit.spawn r ∉ killOther asked second := by
    intro asked
    cases asked <;> cases second <;> simp [killOther]
  cases e <;> simp only [alone, certain_eq_some, provided_eq_some, Option.some.injEq, Prod.mk.injEq,
    reduceCtorEq] at hes
  case spawn =>
    obtain ⟨rfl, -⟩ := hes
    obtain rfl := Edit.spawn.inj (List.mem_singleton.1 hr)
    exact .plain rfl
  case spawnIfHasMore =>
    obtain ⟨-, rfl, -⟩ := hes
    obtain rfl := Edit.spawn.inj (List.mem_singleton.1 hr)
    exact .plain rfl
  case cloneSprite =>
    obtain ⟨rfl, -⟩ := hes
    obtain rfl := Edit.spawn.inj (List.mem_singleton.1 hr)
    exact .clone
  case transformTo type killSecond =>
    obtain ⟨rfl, -⟩ := hes
    obtain rfl : r = Effect.successor type s := by simpa [hother] using hr
    exact .successor
  -- All others only change sprites or remove them.
  case killIfHasMore | killIfHasLess =>
    obtain ⟨-, rfl, -⟩ := hes
    simp at hr
  case subtractHealthPoints value =>
    obtain ⟨rfl, -⟩ := hes
    split at hr <;> simp at hr
  all_goals
    obtain ⟨rfl, -⟩ := hes
    simp [hother] at hr

theorem asks_of_mem_between (hes : e.between w key s other o = some (es, rng)) (hr : .spawn r ∈ es) : e.Asks s r := by
  cases e <;> simp only [between, certain_eq_some, provided_eq_some, reduceCtorEq] at hes
  case spawnBehind type =>
    obtain ⟨rfl, -⟩ := hes
    obtain rfl := Edit.spawn.inj (List.mem_singleton.1 hr)
    exact .plain rfl
  case killIfOtherHasMore | killIfFromAbove | attractGaze =>
    obtain ⟨-, rfl, -⟩ := hes
    simp at hr
  case teleportToExit =>
    split at hes
    · cases hes
      simp at hr
    · cases hes
  case collectResource killResource =>
    split at hes
    · cases hes
    · rw [provided_eq_some] at hes
      obtain ⟨-, rfl, -⟩ := hes
      cases killResource <;> simp at hr
  case bounceForward =>
    split at hes
    · cases hes
    · rw [provided_eq_some] at hes
      obtain ⟨-, rfl, -⟩ := hes
      simp at hr
  case pullWithIt =>
    obtain ⟨rfl, -⟩ := hes
    simp at hr

theorem asks_of_mem_edits? (hes : e.edits? w (some key) second = some (es, rng)) (hr : .spawn r ∈ es) :
    ∃ s, w.sprite? key = some s ∧ e.Asks s r := by
  obtain ⟨s, hs, hes⟩ := edits?_eq_some.1 hes
  split at hes
  · obtain ⟨other, o, -, -, hes⟩ := hes
    exact ⟨s, hs, asks_of_mem_between hes hr⟩
  · exact ⟨s, hs, asks_of_mem_alone hes hr⟩

/-- The type of what is asked for is the one that the effect names, or that of the sprite. -/
theorem Asks.made_or_type (h : e.Asks s r) : e.made? = some r.type ∨ r.type = s.type := by
  cases h with
  | plain hmade => exact .inl hmade
  | clone => exact .inr rfl
  | successor => exact .inl rfl

end Effect

end SpriteGame
