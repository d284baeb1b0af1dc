import SpriteGame.Proofs.Effects
import SpriteGame.Proofs.Encounter
/-!
# Effects step by step

`Effect.routine` carries an effect out in steps that look at the world, draw and write one
after the other, and that break off where the effect does not come about. What has been done
by then stays done, so nothing but the order of the steps keeps half an effect from the world:
every effect looks first, draws when all that it needs is there, and from then on does not
break off (`safe_routine`). Taken together the steps are what the effect does at once
(`routine_eq`).
-/
namespace SpriteGame

/-- Steps on the world that may break off; what has been done by then stays done. -/
def Routine (α : Type) : Type := World → Option α × World

namespace Routine

variable {α β : Type}

instance : Monad Routine where
  pure a w := (some a, w)
  bind p f w :=
    match p w with
    | (some a, w) => f a w
    | (none, w) => (none, w)

/-! ## Steps -/

/-- Look something up; without it the routine breaks off. -/
def find (f : World → Option α) : Routine α := fun w => (f w, w)

def ask (f : World → α) : Routine α := fun w => (some (f w), w)

/-- Break off unless a condition holds. -/
def require (condition : Bool) : Routine Unit := find fun _ => if condition then some () else none

def draw (head : α) (tail : List α) : Routine α := fun w =>
  (some (w.rng.pick head tail).1, { w with rng := (w.rng.pick head tail).2 })

def write (e : Edit) : Routine Unit := fun w => (some (), w.edit e)

/-- Change a sprite by what it is when its turn comes. -/
def alter (key : Key) (f : Sprite → List Sprite.Change) : Routine Unit := fun w =>
  (some (), w.modify key fun s => s.changes (f s))

/-- Do the same for every element of a list, one after the other. -/
def each (f : α → Routine Unit) : List α → Routine Unit
  | [] => pure ()
  | a :: l => do
    f a
    each f l

theorem bind_of_some {p : Routine α} {w v : World} {a : α} (h : p w = (some a, v)) (f : α → Routine β) :
    (p >>= f) w = f a v := by
  show (match p w with | (some a, w) => f a w | (none, w) => (none, w)) = _
  rw [h]

theorem bind_of_none {p : Routine α} {w v : World} (h : p w = (none, v)) (f : α → Routine β) :
    (p >>= f) w = (none, v) := by
  show (match p w with | (some a, w) => f a w | (none, w) => (none, w)) = _
  rw [h]

theorem each_write (f : α → Edit) (l : List α) (w : World) :
    each (fun a => write (f a)) l w = (some (), w.edits (l.map f)) := by
  induction l generalizing w with
  | nil => rfl
  | cons a l ih => exact ih (w.edit (f a))

/-! ## Routines that leave no half of their work -/

/-- It changes nothing. -/
def Still (p : Routine α) : Prop := ∀ w, (p w).2 = w

/-- It does not break off. -/
def Steady (p : Routine α) : Prop := ∀ w, ∃ a, (p w).1 = some a

/-- If it breaks off it has changed nothing. -/
def Safe (p : Routine α) : Prop := ∀ w, (p w).1 = none → (p w).2 = w

theorem Still.safe {p : Routine α} (hp : Still p) : Safe p := fun w _ => hp w

theorem still_find (f : World → Option α) : Still (find f) := fun _ => rfl

theorem still_ask (f : World → α) : Still (ask f) := fun _ => rfl

theorem still_require (condition : Bool) : Still (require condition) := fun _ => rfl

theorem steady_pure (a : α) : Steady (pure a) := fun _ => ⟨a, rfl⟩

theorem steady_ask (f : World → α) : Steady (ask f) := fun w => ⟨f w, rfl⟩

theorem steady_draw (head : α) (tail : List α) : Steady (draw head tail) := fun w => ⟨(w.rng.pick head tail).1, rfl⟩

theorem steady_write (e : Edit) : Steady (write e) := fun _ => ⟨(), rfl⟩

theorem steady_alter (key : Key) (f : Sprite → List Sprite.Change) : Steady (alter key f) := fun _ => ⟨(), rfl⟩

theorem Steady.bind {p : Routine α} {f : α → Routine β} (hp : Steady p) (hf : ∀ a, Steady (f a)) :
    Steady (p >>= f) := by
  intro w
  obtain ⟨a, ha⟩ := hp w
  rw [bind_of_some (Prod.ext ha rfl)]
  exact hf a _

theorem Steady.ite {p q : Routine α} {c : Prop} [Decidable c] (hp : Steady p) (hq : Steady q) :
    Steady (if c then p else q) := by
  split
  · exact hp
  · exact hq

theorem steady_each {f : α → Routine Unit} (hf : ∀ a, Steady (f a)) (l : List α) : Steady (each f l) := by
  induction l with
  | nil => exact steady_pure ()
  | cons a l ih => exact (hf a).bind fun _ => ih

theorem Steady.safe {p : Routine α} (hp : Steady p) : Safe p := by
  intro w hnone
  obtain ⟨a, ha⟩ := hp w
  rw [ha] at hnone
  cases hnone

/-- Looking first does no harm. -/
theorem Still.bind {p : Routine α} {f : α → Routine β} (hp : Still p) (hf : ∀ a, Safe (f a)) : Safe (p >>= f) := by
  intro w hnone
  cases hresult : (p w).1 with
  | none => rw [bind_of_none (Prod.ext hresult (hp w))]
  | some a =>
    rw [bind_of_some (Prod.ext hresult (hp w))] at hnone ⊢
    exact hf a w hnone

end Routine

namespace World

/-- No key is listed twice. -/
theorem nodup_liveIn (w : World) (hr : w.rules.registry.WellFormed) (type : TypeId) :
    ((w.liveIn type).map (·.1)).Nodup :=
  w.nodup_flatMap_liveOf ((hr.ascending type).imp Nat.ne_of_lt)

end World

/-! ## Effects -/

namespace Effect

open Routine

/-- Go to one of several exits, if there is one. -/
def leave (key : Key) : List Rect → Routine Unit
  | [] => find fun _ => none
  | exit :: exits => do
    let target ← draw exit exits
    alter key fun s => [.place (centered s.rect target.center).x (centered s.rect target.center).y]
    alter key fun _ => [.settle]

/-- The steps of an effect on the sprite of a key, with a second side if there is one. -/
def steps (key : Key) (second : Option Key) : Effect → Routine Unit
  | killSprite => write (.kill key)
  | killBoth => do
    write (.kill key)
    each (fun k => write (.kill k)) second.toList
  | killAll type => do
    let live ← ask (·.liveIn type)
    each (fun e => write (.kill e.1)) live
  | killIfHasMore resource limit => do
    let s ← find (·.sprite? key)
    require (limit ≤ s.resource resource)
    write (.kill key)
  | killIfHasLess resource limit => do
    let s ← find (·.sprite? key)
    require (s.resource resource ≤ limit)
    write (.kill key)
  | killIfOtherHasMore resource limit => do
    let otherKey ← find fun _ => second
    let other ← find (·.sprite? otherKey)
    require (limit ≤ other.resource resource)
    write (.kill key)
  | killIfFromAbove => do
    let otherKey ← find fun _ => second
    let s ← find (·.sprite? key)
    let other ← find (·.sprite? otherKey)
    require (comesFromAbove s other)
    write (.kill key)
  | stepBack => alter key fun _ => [.stepBack]
  | undoAll except => do
    let live ← ask (·.live)
    each (fun e => alter e.1 fun _ => [.stepBack]) (live.filter fun (k, _) => !except.contains k.type)
  | spawn type => do
    let s ← find (·.sprite? key)
    write (.spawn (.plain type s.rect.center))
  | spawnBehind type => do
    let otherKey ← find fun _ => second
    let other ← find (·.sprite? otherKey)
    write (.spawn (.plain type other.lastRect.center))
  | spawnIfHasMore resource limit type => do
    let s ← find (·.sprite? key)
    require (limit ≤ s.resource resource)
    write (.spawn (.plain type s.rect.center))
  | cloneSprite => do
    let s ← find (·.sprite? key)
    write (.spawn (.facingTo s.type s.rect.center s.facing))
  | transformTo type killSecond => do
    let s ← find (·.sprite? key)
    write (.kill key)
    write (.spawn (successor type s))
    if killSecond then each (fun k => write (.kill k)) second.toList else pure ()
  | teleportToExit => do
    let otherKey ← find fun _ => second
    let t ← find (·.rules.template? otherKey.type)
    let type ← find fun _ => t.target
    let exits ← ask (·.liveIn type)
    leave key (exits.map (·.2.rect))
  | collectResource killResource => do
    let otherKey ← find fun _ => second
    let t ← find (·.rules.template? key.type)
    require (t.role = .resource)
    let other ← find (·.sprite? otherKey)
    require (other.resource key.type + t.resourceValue ≤ t.resourceLimit)
    alter otherKey fun _ => [.gain key.type t.resourceValue t.resourceLimit]
    if killResource then write (.kill key) else pure ()
  | changeResource resource value killResource => do
    let limit ← ask (·.rules.resourceLimit resource)
    alter key fun _ => [.gain resource value limit]
    if killResource then each (fun k => write (.kill k)) second.toList else pure ()
  | addHealthPoints value => alter key fun s => [.setHealth (min (s.health + value) s.maxHealth)]
  | addHealthPointsToMax value => do
    alter key fun s => [.setHealth (s.health + value)]
    alter key fun s => [.setMaxHealth (max s.maxHealth s.health)]
  | subtractHealthPoints value => do
    alter key fun s => [.setHealth (s.health - value)]
    let dead ← ask fun w => (w.sprite? key).any fun s => s.health ≤ 0
    if dead then write (.kill key) else pure ()
  | reverseDirection => alter key fun s => [.face (-s.facing)]
  | flipDirection => do
    let h ← draw Heading.up [.left, .down, .right]
    alter key fun _ => [.face h.toVec]
  | turnAround => do
    alter key fun _ => [.stepBack]
    let block ← ask (·.blockSize)
    alter key fun s => [.shift ((Heading.down.toVec.scale block).scale (Single.max s.speed 1))]
    alter key fun s => [.face (-s.facing)]
  | attractGaze inLine => do
    let otherKey ← find fun _ => second
    let other ← find (·.sprite? otherKey)
    let s ← find (·.sprite? key)
    require (s.oriented && other.oriented)
    alter key fun _ => [.face other.facing]
    if inLine then alter key fun s => [align s.facing other.rect s] else pure ()
  | speedToAll type value change => do
    let live ← ask (·.liveIn type)
    each (fun e => alter e.1 fun s => [.setSpeed (change.apply s.speed value)]) live
  | wrapAround => do
    let bounds ← ask (·.bounds)
    alter key fun s => [.place (wrapped bounds s.rect).x (wrapped bounds s.rect).y]
    alter key fun _ => [.settle]
  | bounceForward => do
    let otherKey ← find fun _ => second
    let other ← find (·.sprite? otherKey)
    require (!other.displacement.snap.isZero)
    let t ← find (·.rules.template? key.type)
    let block ← ask (·.blockSize)
    alter key fun _ => [.drive t.physics other.displacement.snap (some (Single.max other.speed 1)) 0 block]
  | pullWithIt => do
    let otherKey ← find fun _ => second
    let other ← find (·.sprite? otherKey)
    alter key fun _ => [.shift other.displacement]

/-- Carry an effect out on two sides. -/
def routine (e : Effect) (first second : Option Key) : Routine Unit := do
  let key ← find fun _ => first
  require (!(e.needsSecond && second.isNone))
  e.steps key second

theorem steady_killSecond (asked : Bool) (second : Option Key) :
    Steady (if asked then each (fun k => write (.kill k)) second.toList else pure ()) :=
  .ite (steady_each (fun _ => steady_write _) _) (steady_pure ())

/-- The draw comes when there is an exit to go to. -/
theorem safe_leave (key : Key) (exits : List Rect) : Safe (leave key exits) := by
  cases exits with
  | nil => exact Still.safe (still_find _)
  | cons exit exits =>
    exact ((steady_draw _ _).bind fun target => (steady_alter _ _).bind fun _ => steady_alter _ _).safe

/-- An effect that breaks off has changed nothing. -/
theorem safe_routine (e : Effect) (first second : Option Key) : Safe (e.routine first second) := by
  refine (still_find _).bind fun key => (still_require _).bind fun _ => ?_
  unfold steps
  have hkill : Steady (write (.kill key)) := steady_write _
  cases e with
  | killSprite => exact hkill.safe
  | killBoth => exact (hkill.bind fun _ => steady_each (fun _ => steady_write _) _).safe
  | killAll => exact ((steady_ask _).bind fun live => steady_each (fun _ => steady_write _) live).safe
  | killIfHasMore | killIfHasLess =>
    exact (still_find _).bind fun s => (still_require _).bind fun _ => hkill.safe
  | killIfOtherHasMore =>
    exact (still_find _).bind fun otherKey => (still_find _).bind fun other =>
      (still_require _).bind fun _ => hkill.safe
  | killIfFromAbove =>
    exact (still_find _).bind fun otherKey => (still_find _).bind fun s => (still_find _).bind fun other =>
      (still_require _).bind fun _ => hkill.safe
  | stepBack | addHealthPoints | reverseDirection => exact (steady_alter _ _).safe
  | undoAll | speedToAll => exact ((steady_ask _).bind fun live => steady_each (fun _ => steady_alter _ _) _).safe
  | spawn | cloneSprite => exact (still_find _).bind fun s => (steady_write _).safe
  | spawnBehind => exact (still_find _).bind fun otherKey => (still_find _).bind fun other => (steady_write _).safe
  | spawnIfHasMore => exact (still_find _).bind fun s => (still_require _).bind fun _ => (steady_write _).safe
  | transformTo type killSecond =>
    exact (still_find _).bind fun s =>
      (hkill.bind fun _ => (steady_write _).bind fun _ => steady_killSecond killSecond second).safe
  | teleportToExit =>
    exact (still_find _).bind fun otherKey => (still_find _).bind fun t => (still_find _).bind fun type =>
      (still_ask _).bind fun exits => safe_leave key _
  | collectResource killResource =>
    exact (still_find _).bind fun otherKey => (still_find _).bind fun t => (still_require _).bind fun _ =>
      (still_find _).bind fun other => (still_require _).bind fun _ =>
        ((steady_alter _ _).bind fun _ => .ite hkill (steady_pure ())).safe
  | changeResource resource value killResource =>
    exact ((steady_ask _).bind fun limit => (steady_alter _ _).bind fun _ =>
      steady_killSecond killResource second).safe
  | addHealthPointsToMax => exact ((steady_alter _ _).bind fun _ => steady_alter _ _).safe
  | subtractHealthPoints =>
    exact ((steady_alter _ _).bind fun _ => (steady_ask _).bind fun dead => .ite hkill (steady_pure ())).safe
  | flipDirection => exact ((steady_draw _ _).bind fun h => steady_alter _ _).safe
  | turnAround =>
    exact ((steady_alter _ _).bind fun _ => (steady_ask _).bind fun block => (steady_alter _ _).bind fun _ =>
      steady_alter _ _).safe
  | attractGaze inLine =>
    exact (still_find _).bind fun otherKey => (still_find _).bind fun other => (still_find _).bind fun s =>
      (still_require _).bind fun _ => ((steady_alter _ _).bind fun _ => .ite (steady_alter _ _) (steady_pure ())).safe
  | wrapAround => exact ((steady_ask _).bind fun bounds => (steady_alter _ _).bind fun _ => steady_alter _ _).safe
  | bounceForward =>
    exact (still_find _).bind fun otherKey => (still_find _).bind fun other => (still_require _).bind fun _ =>
      (still_find _).bind fun t => ((steady_ask _).bind fun block => steady_alter _ _).safe
  | pullWithIt => exact (still_find _).bind fun otherKey => (still_find _).bind fun other => (steady_alter _ _).safe

/-! ## The steps taken together -/

section Outcome

variable {w : World} {key : Key} {s : Sprite}

/-- What comes of an effect in a world, from what it writes there. -/
def outcome (w : World) : Option (List Edit × Random) → Option Unit × World
  | none => (none, w)
  | some (es, rng) => (some (), { w with rng }.edits es)

theorem find_bind {α : Type} {f : World → Option α} {a : α} (h : f w = some a) (p : α → Routine Unit) :
    (find f >>= p) w = p a w :=
  bind_of_some (show find f w = (some a, w) from Prod.ext h rfl) p

theorem find_bind_of_none {α : Type} {f : World → Option α} (h : f w = none) (p : α → Routine Unit) :
    (find f >>= p) w = (none, w) :=
  bind_of_none (show find f w = (none, w) from Prod.ext h rfl) p

/-- On a condition, what is written after it. -/
theorem require_bind {condition : Bool} {p : Unit → Routine Unit} {es : List Edit}
    (h : p () w = (some (), w.edits es)) : (require condition >>= p) w = outcome w (provided w condition es) := by
  cases condition with
  | false => rfl
  | true => exact h

theorem write_kill (asked : Bool) (key : Key) (w : World) :
    (if asked then write (.kill key) else pure () : Routine Unit) w =
      (some (), w.edits (if asked then [.kill key] else [])) := by
  cases asked <;> rfl

theorem each_killSecond (asked : Bool) (second : Option Key) (w : World) :
    (if asked then each (fun k => write (.kill k)) second.toList else pure () : Routine Unit) w =
      (some (), w.edits (killOther asked second)) := by
  cases asked with
  | false => rfl
  | true => cases second <;> rfl

/-- Changes that depend on the sprite are those of the sprite that the key finds. -/
theorem modify_changes (hs : w.sprite? key = some s) (f : Sprite → List Sprite.Change) :
    (w.modify key fun t => t.changes (f t)) = w.edit (.change key (f s)) :=
  World.modify_congr fun t ht => by rw [Option.some.inj (hs.symm.trans ht)]

/-- Each change of one sprite after the other is one change of it. -/
theorem modify_changes_twice (hs : w.sprite? key = some s) (f g : Sprite → List Sprite.Change) :
    ((w.modify key fun t => t.changes (f t)).modify key fun t => t.changes (g t)) =
      w.edit (.change key (f s ++ g (s.changes (f s)))) := by
  rw [World.modify_modify]
  refine World.modify_congr fun t ht => ?_
  obtain rfl : s = t := Option.some.inj (hs.symm.trans ht)
  exact (Sprite.changes_append ..).symm

/-- Live sprites have keys of their own, so what one of them is does not depend on whose
turn came before. -/
theorem each_alter {l : List (Key × Sprite)} (hkeys : (l.map (·.1)).Nodup) (f : Sprite → List Sprite.Change)
    {w : World} (hl : ∀ e ∈ l, w.sprite? e.1 = some e.2) :
    each (fun e => alter e.1 f) l w = (some (), w.edits (l.map fun e => .change e.1 (f e.2))) := by
  induction l generalizing w with
  | nil => rfl
  | cons e l ih =>
    obtain ⟨he, hl⟩ := List.forall_mem_cons.1 hl
    obtain ⟨hnot, hkeys⟩ := List.nodup_cons.1 hkeys
    have hhead : alter e.1 f w = (some (), w.edit (.change e.1 (f e.2))) :=
      congrArg (Prod.mk (some ())) (modify_changes he f)
    have hrest : ∀ x ∈ l, (w.edit (.change e.1 (f e.2))).sprite? x.1 = some x.2 := fun x hx => by
      have hne : e.1 ≠ x.1 := fun heq => hnot (List.mem_map.2 ⟨x, hx, heq.symm⟩)
      exact (World.sprite?_modify ..).trans ((if_neg hne).trans (hl x hx))
    exact (bind_of_some hhead _).trans (ih hkeys hrest)

theorem steps_alone (hr : w.rules.registry.WellFormed) (hs : w.sprite? key = some s) (second : Option Key)
    {e : Effect} (he : e.needsSecond = false) : e.steps key second w = outcome w (e.alone w key s second) := by
  cases e with
  | killSprite | stepBack => rfl
  | killBoth => cases second <;> rfl
  | killAll type => exact each_write (fun x : Key × Sprite => .kill x.1) (w.liveIn type) w
  | undoAll except => exact each_write (fun x : Key × Sprite => .change x.1 [.stepBack]) _ w
  | killIfHasMore | killIfHasLess | spawnIfHasMore => exact (find_bind hs _).trans (require_bind rfl)
  | spawn | cloneSprite => exact find_bind hs _
  | transformTo type killSecond =>
    exact (find_bind hs _).trans (each_killSecond killSecond second _)
  | changeResource resource value killResource => exact each_killSecond killResource second _
  | addHealthPoints | reverseDirection => exact congrArg (Prod.mk (some ())) (modify_changes hs _)
  | addHealthPointsToMax | wrapAround => exact congrArg (Prod.mk (some ())) (modify_changes_twice hs _ _)
  | turnAround =>
    have hback := modify_changes_twice hs (fun _ => [.stepBack])
      fun t => [.shift ((Heading.down.toVec.scale w.blockSize).scale (Single.max t.speed 1))]
    have hturned := congrArg (World.modify · key fun t => t.changes [.face (-t.facing)]) hback
    exact congrArg (Prod.mk (some ())) (hturned.trans (modify_changes_twice hs (fun _ => _) _))
  | subtractHealthPoints value =>
    have hhurt : w.modify key (fun t => t.changes [.setHealth (t.health - value)]) =
        w.edit (.change key [.setHealth (s.health - value)]) := modify_changes hs _
    have hdead : ((w.edit (.change key [.setHealth (s.health - value)])).sprite? key).any (fun t => t.health ≤ 0) =
        decide (s.health - value ≤ 0) := by
      rw [World.edit, World.sprite?_modify, if_pos rfl, hs]
      rfl
    show (if ((w.modify key fun t => t.changes [.setHealth (t.health - value)]).sprite? key).any (fun t => t.health ≤ 0)
      then write (.kill key) else pure () : Routine Unit) (w.modify key fun t => t.changes [.setHealth (t.health - value)]) = _
    rw [hhurt, hdead, write_kill, alone]
    simp only [decide_eq_true_eq]
    rfl
  | flipDirection => rfl
  | speedToAll type value change => exact each_alter (w.nodup_liveIn hr type) _ fun x => World.sprite?_of_mem_liveIn
  | _ => cases he

theorem steps_between {other : Key} {o : Sprite} (hs : w.sprite? key = some s) (ho : w.sprite? other = some o)
    {e : Effect} (he : e.needsSecond = true) :
    e.steps key (some other) w = outcome w (e.between w key s other o) := by
  have hsecond : ∀ p : Key → Routine Unit, (find (fun _ => some other) >>= p) w = p other w := find_bind rfl
  have hother : ∀ p : Sprite → Routine Unit, (find (·.sprite? other) >>= p) w = p o w := find_bind ho
  cases e with
  | killIfOtherHasMore => exact (hsecond _).trans ((hother _).trans (require_bind rfl))
  | killIfFromAbove => exact (hsecond _).trans ((find_bind hs _).trans ((hother _).trans (require_bind rfl)))
  | spawnBehind | pullWithIt => exact (hsecond _).trans (hother _)
  | teleportToExit =>
    refine (hsecond _).trans ?_
    rw [between]
    cases ht : w.rules.template? other.type with
    | none => exact find_bind_of_none ht _
    | some t =>
      refine (find_bind ht _).trans ?_
      cases htarget : t.target with
      | none =>
        rw [Option.bind_some, htarget]
        rfl
      | some type =>
        rw [Option.bind_some, htarget, Option.map_some]
        show leave key ((w.liveIn type).map (·.2.rect)) w = _
        cases w.liveIn type with
        | nil => rfl
        | cons e es =>
          exact congrArg (Prod.mk (some ()))
            (modify_changes_twice (w := { w with rng := (w.rng.pick e.2.rect (es.map (·.2.rect))).2 }) hs _ _)
  | collectResource killResource =>
    refine (hsecond _).trans ?_
    rw [between]
    cases ht : w.rules.template? key.type with
    | none => exact find_bind_of_none ht _
    | some t =>
      refine (find_bind ht _).trans ?_
      by_cases hrole : t.role = .resource
      · simp only [hrole, decide_true, Bool.true_and]
        exact (hother _).trans (require_bind (write_kill killResource key _))
      · simp only [hrole, decide_false, Bool.false_and]
        rfl
  | attractGaze inLine =>
    refine (hsecond _).trans ((hother _).trans ((find_bind hs _).trans (require_bind ?_)))
    cases inLine with
    | false => exact congrArg (Prod.mk (some ())) (modify_changes hs _)
    | true => exact congrArg (Prod.mk (some ())) (modify_changes_twice hs _ _)
  | bounceForward =>
    refine (hsecond _).trans ((hother _).trans ?_)
    rw [between]
    cases ht : w.rules.template? key.type with
    | none =>
      cases hdir : !o.displacement.snap.isZero with
      | false => rfl
      | true => exact (find_bind (f := fun _ => some ()) rfl _).trans (find_bind_of_none ht _)
    | some t => exact require_bind (find_bind ht _)
  | _ => cases he

/-- The steps of an effect come to what it writes at once. -/
theorem routine_eq (hr : w.rules.registry.WellFormed) {first second : Option Key}
    (hsides : ∀ key, first = some key ∨ second = some key → ∃ s, w.sprite? key = some s) (e : Effect) :
    e.routine first second w = outcome w (e.edits? w first second) := by
  cases first with
  | none => rfl
  | some key =>
    obtain ⟨s, hs⟩ := hsides key (.inl rfl)
    have hfirst : e.routine (some key) second w =
        (require (!(e.needsSecond && second.isNone)) >>= fun _ => e.steps key second) w := rfl
    rw [hfirst, edits?]
    simp only [Option.bind_eq_bind, Option.bind_some, hs]
    cases hneeds : e.needsSecond with
    | false => exact steps_alone hr hs second hneeds
    | true =>
      cases second with
      | none => rfl
      | some other =>
        obtain ⟨o, ho⟩ := hsides other (.inr rfl)
        simp only [if_true, Option.bind_some, ho]
        exact steps_between hs ho hneeds

theorem apply_eq_outcome (e : Effect) (w : World) (first second : Option Key) :
    e.apply w first second =
      ((outcome w (e.edits? w first second)).1.isSome, (outcome w (e.edits? w first second)).2) := by
  unfold apply
  cases e.edits? w first second <;> rfl

end Outcome

/-- Without a side that it needs an effect does not come about. -/
theorem edits?_of_missing {e : Effect} {first second : Option Key} (w : World)
    (h : first = none ∨ second = none ∧ e.needsSecond = true) : e.edits? w first second = none := by
  obtain rfl | ⟨rfl, hneeds⟩ := h
  · rfl
  · cases first with
    | none => rfl
    | some key =>
      refine Option.eq_none_iff_forall_ne_some.2 fun result hsome => ?_
      obtain ⟨s, -, hboth⟩ := edits?_eq_some.1 hsome
      rw [if_pos hneeds] at hboth
      obtain ⟨other, o, hnone, -⟩ := hboth
      cases hnone

/-- An effect that does not come about changes nothing, and without a side that it needs it does
not come about. That is not because it writes all at once: its steps, carried out one after the
other with nothing taken back, do the same, and where they break off they have done nothing. -/
theorem refused_unchanged (e : Effect) (w : World) (first second : Option Key) :
    ((e.apply w first second).1 = false → (e.apply w first second).2 = w) ∧
    (first = none ∨ second = none ∧ e.needsSecond = true → (e.apply w first second).1 = false) ∧
    ((e.routine first second w).1 = none → (e.routine first second w).2 = w) ∧
    (w.rules.registry.WellFormed → (∀ key, first = some key ∨ second = some key → ∃ s, w.sprite? key = some s) →
      e.apply w first second = ((e.routine first second w).1.isSome, (e.routine first second w).2)) := by
  refine ⟨fun hrefused => ?_, fun hmissing => ?_, safe_routine e first second w, fun hr hsides => ?_⟩
  · cases hedits : e.edits? w first second with
    | none => rw [apply_of_none hedits]
    | some result => rw [apply_of_some hedits] at hrefused; cases hrefused
  · rw [apply_of_none (edits?_of_missing w hmissing)]
  · rw [routine_eq hr hsides, apply_eq_outcome]

/-- On the hoard the avatar holds too few gems to die of them, is on nothing that could pull it and
cannot itself be collected: each time the world stays as it is. -/
theorem refused_unchanged_hoard :
    ∃ start, World.build (Ruleset.compile World.hoard .default).value "m g" 7 = .ok start ∧
      ((killIfHasMore 1 5).apply start (some ⟨2, 0⟩) (some ⟨1, 0⟩)).2 = start ∧
      (pullWithIt.apply start (some ⟨2, 0⟩) none).1 = false ∧
      ((collectResource true).routine (some ⟨2, 0⟩) (some ⟨1, 0⟩) start).2 = start ∧
      ((killIfHasMore 1 5).routine (some ⟨2, 0⟩) (some ⟨1, 0⟩) start).1 = none := by
  obtain ⟨start, h, hcheck⟩ := @World.exists_start (Ruleset.compile World.hoard .default).value "m g" 7
    (fun w : World => decide (((killIfHasMore 1 5).apply w (some ⟨2, 0⟩) (some ⟨1, 0⟩)).1 = false ∧
      ((collectResource true).routine (some ⟨2, 0⟩) (some ⟨1, 0⟩) w).1 = none ∧
      (w.sprite? ⟨2, 0⟩).isSome = true ∧ (w.sprite? ⟨1, 0⟩).isSome = true))
    (by decide +kernel)
  obtain ⟨happly, hroutine, hfirst, hsecond⟩ := of_decide_eq_true hcheck
  obtain ⟨hsame, -, -, hsteps⟩ := refused_unchanged (killIfHasMore 1 5) start (some ⟨2, 0⟩) (some ⟨1, 0⟩)
  obtain ⟨-, hmissing, -, -⟩ := refused_unchanged pullWithIt start (some ⟨2, 0⟩) none
  obtain ⟨-, -, hsafe, -⟩ := refused_unchanged (collectResource true) start (some ⟨2, 0⟩) (some ⟨1, 0⟩)
  refine ⟨start, h, hsame happly, hmissing (.inr ⟨rfl, rfl⟩), hsafe hroutine, ?_⟩
  have hr : start.rules.registry.WellFormed :=
    (World.Reachable.start h).rules ▸ Ruleset.wellFormed_compile World.hoard .default
  have heq := hsteps hr fun key hkey => by
    obtain hkey | hkey := hkey <;> obtain rfl := Option.some.inj hkey
    · exact Option.isSome_iff_exists.1 hfirst
    · exact Option.isSome_iff_exists.1 hsecond
  have hnone := (congrArg Prod.fst heq).symm.trans happly
  exact Option.isNone_iff_eq_none.1 (Option.isSome_eq_false_iff.1 hnone)

end Effect

end SpriteGame
