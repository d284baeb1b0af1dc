import SpriteGame.Proofs.Compilation
import SpriteGame.Proofs.Identity
import SpriteGame.Proofs.Motion
/-!
# Steps back as a barrier

In a game without effects that displace sprites the second half of a tick either leaves
a sprite where it went or puts it back to where it started (`Recoil`). A sprite that has
gone into a fixed one, or off the screen, collides there, and if a rule for the collision
steps it back for certain it ends where it started. So nobody gets in (`barrier`).
-/
namespace SpriteGame

/-! ## Effects that do not displace -/

/-- Whether it puts a sprite elsewhere than back to where the tick started. -/
def Effect.displaces : Effect → Bool
  | teleportToExit | turnAround | attractGaze _ | wrapAround | bounceForward | pullWithIt => true
  | _ => false

/-- Whether it leaves a sprite in its place or where it started. -/
def Sprite.Change.recoils : Sprite.Change → Bool
  | .coast .. | .drive .. | .shift _ | .place .. | .settle => false
  | _ => true

/-- A sprite is in its place or where it started. -/
def Sprite.Recoil (s t : Sprite) : Prop := t.lastRect = s.lastRect ∧ (t.rect = s.rect ∨ t.rect = s.lastRect)

theorem Sprite.Recoil.trans {s t u : Sprite} (h : s.Recoil t) (h' : t.Recoil u) : s.Recoil u := by
  refine ⟨h'.1.trans h.1, ?_⟩
  rcases h'.2 with hu | hu
  · rw [hu]
    exact h.2
  · exact .inr (hu.trans h.1)

theorem Sprite.recoil_change {c : Change} (h : c.recoils = true) (s : Sprite) : s.Recoil (s.change c) := by
  cases c with
  | stepBack => exact ⟨rfl, .inr rfl⟩
  | coast | drive | shift | place | settle => cases h
  | _ => exact ⟨rfl, .inl rfl⟩

theorem ageing_recoil : Ageing fun _ s t => s.Recoil t where
  refl _ _ := ⟨rfl, .inl rfl⟩
  trans h h' := h.trans h'
  remove _ _ := ⟨rfl, .inl rfl⟩

namespace Effect

theorem recoils_of_makes {e : Effect} (he : e.displaces = false) {c : Sprite.Change} (hc : e.makes c = true) :
    c.recoils = true := by
  cases c with
  | coast | drive | shift | place | settle =>
    -- Only effects that displace make such a change.
    cases e with
    | teleportToExit | turnAround | attractGaze | wrapAround | bounceForward | pullWithIt => cases he
    | _ => cases hc
  | _ => rfl

theorem each_recoil_apply {e : Effect} (he : e.displaces = false) {w : World} {c : Collision}
    (hc : c.holds w = true) :
    w.Each (fun _ s t => s.Recoil t) (e.apply w (some c.first) c.second).2 :=
  World.each_apply ageing_recoil (fun _ hmakes _ s => Sprite.recoil_change (recoils_of_makes he hmakes) s) hc

end Effect

/-! ## Steps back -/

/-- Whether a certain step back is among the rules for a pair of types. -/
def Ruleset.Repels (r : Ruleset) (first second : TypeId) : Prop :=
  ∃ p, r.pair? first second = some p ∧ ∃ i ∈ p.rules, ∃ rule, r.interactions[i]? = some rule ∧
    rule.effect = .stepBack ∧ ¬ rule.prob < 1

instance (r : Ruleset) (first second : TypeId) : Decidable (r.Repels first second) :=
  decidable_of_iff ((r.pair? first second).any (fun p => p.rules.any fun i =>
      r.interactions[i]?.any fun rule => rule.effect = .stepBack && !(rule.prob < 1)) = true) <| by
    unfold Ruleset.Repels
    simp [Option.any_eq_true]

theorem Ruleset.pair?_eq_some {r : Ruleset} {first second : TypeId} {p : Pairing}
    (h : r.pair? first second = some p) :
    p.first = first ∧ p.second = second ∧ ∃ index : Nat, r.dispatch[index]? = some p := by
  have hsides := Array.find?_some h
  rw [Bool.and_eq_true, decide_eq_true_eq, decide_eq_true_eq] at hsides
  exact ⟨hsides.1, hsides.2, Array.getElem?_of_mem (Array.mem_of_find?_eq_some h)⟩

namespace World

/-- A certain step back for a collision whose sides are there is made. -/
theorem sprite?_fireEntry_stepBack {w : World} {c : Collision} {rule : Interaction} (heffect : rule.effect = .stepBack)
    (hprob : ¬ rule.prob < 1) (hholds : c.holds w = true) {s : Sprite} (hs : w.sprite? c.first = some s) :
    (w.fireEntry (c, rule)).sprite? c.first = some s.stepBack := by
  have hedits : Effect.stepBack.edits? w (some c.first) c.second = some ([.change c.first [.stepBack]], w.rng) :=
    Effect.edits?_eq_some.2 ⟨s, hs, rfl⟩
  have hmade : (w.modify c.first (·.changes [.stepBack])).sprite? c.first = some s.stepBack := by
    rw [sprite?_modify, if_pos rfl, hs]
    rfl
  unfold fireEntry fireRule applyRule
  rw [if_pos hholds, Random.chance_of_not_lt hprob, heffect]
  dsimp only
  rw [if_pos rfl, Effect.apply_of_some hedits]
  exact hmade

/-- If a certain step back is to fire for a collision, and its sides are there to the end,
then its first side ends where it started the tick. -/
theorem rect_of_stepBack {w : World} (hmild : ∀ rule ∈ w.rules.interactions, rule.effect.displaces = false)
    {cs : List Collision} {c : Collision} {rule : Interaction} (hmem : (c, rule) ∈ w.agenda cs)
    (heffect : rule.effect = .stepBack) (hprob : ¬ rule.prob < 1) (hholds : c.holds (w.fireAll cs) = true)
    {s t : Sprite} (hs : w.sprite? c.first = some s) (ht : (w.fireAll cs).sprite? c.first = some t) :
    t.rect = s.lastRect := by
  have heach : ∀ es : List Entry, (∀ e ∈ es, e ∈ w.agenda cs) → ∀ v : World,
      v.Each (fun _ s t => s.Recoil t) (es.foldl fireEntry v) := fun es hes v =>
    (firing_each ageing_recoil).foldl_fireEntry
      (fun e he u hu => Effect.each_recoil_apply (hmild e.2 (mem_interactions_of_mem_agenda (hes e he))) hu) v
  rw [fireAll_eq] at hholds ht
  obtain ⟨before, after, hsplit⟩ := List.append_of_mem hmem
  rw [hsplit, List.foldl_append, List.foldl_cons] at hholds ht
  have hbefore : ∀ e ∈ before, e ∈ w.agenda cs := fun e he => by simp [hsplit, he]
  have hafter : ∀ e ∈ after, e ∈ w.agenda cs := fun e he => by simp [hsplit, he]
  -- Up to the rule the start of the tick is kept, and with the rule the sprite is back there.
  obtain ⟨u, hu, hsu⟩ := heach before hbefore w c.first s hs
  generalize before.foldl fireEntry w = v at hholds ht hu
  have hthere : c.holds v = true :=
    ((ensues_fireRule v c rule).trans (ensues_foldl_fireEntry _ after)).holds hholds
  have hback := sprite?_fireEntry_stepBack heffect hprob hthere hu
  obtain ⟨t', ht', hut⟩ := heach after hafter _ c.first _ hback
  rw [ht] at ht'
  obtain rfl := Option.some.inj ht'
  rcases hut.2 with h | h <;> rw [h]
  · exact hsu.1
  · exact hsu.1

/-! ## One tick -/

section Tick

variable {w : World} (action : Action)
  (hsettled : w.Settled) (horiented : w.All fun type s => w.rules.Fixed type → s.oriented = false)
  (hmild : ∀ rule ∈ w.rules.interactions, rule.effect.displaces = false)

theorem resolved_eq (w : World) (action : Action) :
    w.resolved action = (w.moved action).fireAll (w.moved action).detect := rfl

theorem rules_moved (w : World) (action : Action) : (w.moved action).rules = w.rules :=
  (ensues_moved w action).rules

theorem bounds_moved (w : World) (action : Action) : (w.moved action).bounds = w.bounds :=
  (ensues_moved w action).bounds

/-- Who is there at the end of the second half is live at its start. -/
theorem mem_liveOf_moved {w : World} {action : Action} {key : Key} (halive : (w.resolved action).isAlive key = true)
    {m : Sprite} (hm : (w.moved action).sprite? key = some m) : (key, m) ∈ (w.moved action).liveOf key.type := by
  rw [resolved_eq] at halive
  obtain ⟨u, hu, hualive⟩ := isAlive_iff.1 ((ensues_fireAll (w.moved action) _).isAlive halive)
  rw [hm] at hu
  obtain rfl := Option.some.inj hu
  exact mem_liveOf.2 ⟨rfl, hm, hualive⟩

include horiented hmild in
/-- A sprite ends a tick where it went or where it started. -/
theorem rect_resolved {key : Key} {s s' : Sprite} (hs : w.sprite? key = some s)
    (hs' : (w.resolved action).sprite? key = some s') :
    ∃ m, (w.moved action).sprite? key = some m ∧ m.lastRect = s.rect ∧
      (w.rules.Fixed key.type → m.rect = s.rect) ∧ (s'.rect = m.rect ∨ s'.rect = s.rect) := by
  obtain ⟨m, hm, hstart, hfixed⟩ := each_moved horiented action key s hs
  have heach : (w.moved action).Each (fun _ s t => s.Recoil t) (w.resolved action) := by
    rw [resolved_eq]
    refine (firing_each ageing_recoil).fireAll (fun rule hrule v c hc => ?_) _
    rw [rules_moved] at hrule
    exact Effect.each_recoil_apply (hmild rule hrule) hc
  obtain ⟨t, ht, hrecoil⟩ := heach key m hm
  rw [hs'] at ht
  obtain rfl := Option.some.inj ht
  refine ⟨m, hm, hstart, hfixed, ?_⟩
  rw [← hstart]
  exact hrecoil.2

include hmild in
/-- A first side of a pair that repels it, and that collides, ends where it started. -/
theorem rect_of_repels {a b : TypeId} (hrepels : w.rules.Repels a b) :
    ∃ index p, w.rules.dispatch[index]? = some p ∧ p.first = a ∧ p.second = b ∧
      ∀ c : Collision, c.pairing = index → c ∈ (w.moved action).detect → c.holds (w.resolved action) = true →
        ∀ m s', (w.moved action).sprite? c.first = some m → (w.resolved action).sprite? c.first = some s' →
          s'.rect = m.lastRect := by
  obtain ⟨p, hp, i, hi, rule, hrule, heffect, hprob⟩ := hrepels
  obtain ⟨hfirst, hsecond, index, hindex⟩ := Ruleset.pair?_eq_some hp
  refine ⟨index, p, hindex, hfirst, hsecond, fun c hpairing hc hholds m s' hm hs' => ?_⟩
  subst hpairing
  rw [resolved_eq] at hholds hs'
  rw [← rules_moved w action] at hindex hrule hmild
  have hfor : rule ∈ (w.moved action).rulesFor c := mem_rulesFor.2 ⟨p, hindex, i, hi, hrule⟩
  have hmem : (c, rule) ∈ (w.moved action).agenda (w.moved action).detect :=
    List.mem_flatMap.2 ⟨c, hc, List.mem_map.2 ⟨rule, hfor, rfl⟩⟩
  exact rect_of_stepBack hmild hmem heffect hprob hholds hm hs'

include hsettled horiented hmild

/-- Who is repelled by fixed sprites gets into none of them. -/
theorem not_intersects_step {a b : TypeId} (hrepels : w.rules.Repels a b) (hb : b ≠ Registry.edge)
    (hfixed : w.rules.Fixed b) {s o s' o' : Sprite} (hs : s ∈ w.group a) (ho : o ∈ w.group b) (hne : s.id ≠ o.id)
    (hapart : s.rect.intersects o.rect = false) (hs' : s' ∈ (w.step action).group a)
    (ho' : o' ∈ (w.step action).group b) (hid : s'.id = s.id) (hid' : o'.id = o.id) :
    s'.rect.intersects o'.rect = false := by
  obtain ⟨k, rfl, hk, hk', hsalive⟩ := hsettled.exists_key hs hs' hid
  obtain ⟨l, rfl, hl, hl', hoalive⟩ := hsettled.exists_key ho ho' hid'
  obtain ⟨m, hm, hstart, -, hend⟩ := rect_resolved action horiented hmild hk hk'
  obtain ⟨n, hn, -, hstays, hend'⟩ := rect_resolved action horiented hmild hl hl'
  have hn' : n.rect = o.rect := hstays hfixed
  have ho'' : o'.rect = o.rect := by
    rcases hend' with h | h
    · exact h.trans hn'
    · exact h
  rw [ho'']
  cases hmeet : m.rect.intersects n.rect with
  | false =>
    -- They have not met, so it does not matter whether the sprite is put back.
    rcases hend with h | h <;> rw [h]
    · rwa [hn'] at hmeet
    · exact hapart
  | true =>
    -- They have met, so the step back is made.
    obtain ⟨index, p, hp, hfirst, hsecond, hback⟩ := rect_of_repels action hmild hrepels
    have hsaved : (w.resolved action).isAlive k = true := isAlive_iff.2 ⟨s', hk', hsalive⟩
    have hosaved : (w.resolved action).isAlive l = true := isAlive_iff.2 ⟨o', hl', hoalive⟩
    have hkl : l ≠ k := by
      rintro rfl
      rw [hk] at hl
      exact hne (congrArg Sprite.id (Option.some.inj hl))
    have hc : (⟨index, k, some l⟩ : Collision) ∈ (w.moved action).detect := by
      rw [← rules_moved w action] at hp
      refine mem_detect.2 ⟨p, hp, (mem_collisionsOf (hsecond ▸ hb)).2 ⟨rfl, m, l, n, rfl, ?_⟩⟩
      rw [hfirst, hsecond]
      exact ⟨mem_liveOf_moved hsaved hm, mem_liveOf_moved hosaved hn, hkl, hmeet⟩
    have hholds : (⟨index, k, some l⟩ : Collision).holds (w.resolved action) = true :=
      Collision.holds_iff.2 ⟨hsaved, fun key hkey => Option.some.inj hkey ▸ hosaved⟩
    rw [hback ⟨index, k, some l⟩ rfl hc hholds m s' hm hk', hstart]
    exact hapart

/-- Who is repelled by the screen edge stays on the screen. -/
theorem contains_step {a : TypeId} (hrepels : w.rules.Repels a Registry.edge) {s s' : Sprite}
    (hs : s ∈ w.group a) (hinside : w.bounds.contains s.rect = true) (hs' : s' ∈ (w.step action).group a)
    (hid : s'.id = s.id) : (w.step action).bounds.contains s'.rect = true := by
  obtain ⟨k, rfl, hk, hk', halive⟩ := hsettled.exists_key hs hs' hid
  obtain ⟨m, hm, hstart, -, hend⟩ := rect_resolved action horiented hmild hk hk'
  rw [bounds_step]
  cases hstays : w.bounds.contains m.rect with
  | true =>
    rcases hend with h | h <;> rw [h]
    · exact hstays
    · exact hinside
  | false =>
    -- It has left the screen, so the step back is made.
    obtain ⟨index, p, hp, hfirst, hsecond, hback⟩ := rect_of_repels action hmild hrepels
    have hsaved : (w.resolved action).isAlive k = true := isAlive_iff.2 ⟨s', hk', halive⟩
    have hc : (⟨index, k, none⟩ : Collision) ∈ (w.moved action).detect := by
      rw [← rules_moved w action] at hp
      refine mem_detect.2 ⟨p, hp, (mem_collisionsOf_edge hsecond).2 ⟨rfl, rfl, m, ?_⟩⟩
      rw [hfirst, bounds_moved]
      exact ⟨mem_liveOf_moved hsaved hm, hstays⟩
    have hholds : (⟨index, k, none⟩ : Collision).holds (w.resolved action) = true :=
      Collision.holds_iff.2 ⟨hsaved, fun key hkey => nomatch hkey⟩
    rw [hback ⟨index, k, none⟩ rfl hc hholds m s' hm hk', hstart]
    exact hinside

end Tick

/-- Certain steps back are a barrier, in a game without effects that displace sprites. In a
tick of an episode who is repelled by a fixed type gets into no sprite of it that they
were not in, and who is repelled by the screen edge does not leave the screen. -/
theorem barrier {d : Description} {settings : Settings} {w : World}
    (hreach : Reachable (Ruleset.compile d settings).value w)
    (hmild : ∀ rule ∈ (Ruleset.compile d settings).value.interactions, rule.effect.displaces = false)
    (hon : w.outcome.isOver = false) (action : Action) :
    ∃ v, w.advance action = .ok v ∧
      (∀ a b, (Ruleset.compile d settings).value.Repels a b → b ≠ Registry.edge →
        (Ruleset.compile d settings).value.Fixed b →
        ∀ s ∈ w.group a, ∀ o ∈ w.group b, s.id ≠ o.id → s.rect.intersects o.rect = false →
        ∀ s' ∈ v.group a, ∀ o' ∈ v.group b, s'.id = s.id → o'.id = o.id →
          s'.rect.intersects o'.rect = false) ∧
      ∀ a, (Ruleset.compile d settings).value.Repels a Registry.edge →
        ∀ s ∈ w.group a, w.bounds.contains s.rect = true →
        ∀ s' ∈ v.group a, s'.id = s.id → v.bounds.contains s'.rect = true := by
  have hrules : w.rules = (Ruleset.compile d settings).value := hreach.rules
  have hsettled : w.Settled := hreach.settled (Ruleset.aligned_compile d settings)
  have horiented := hreach.all (Ruleset.lasting_oriented _)
  rw [← hrules] at hmild horiented
  refine ⟨w.step action, advance_eq_ok_iff.2 ⟨hon, rfl⟩, ?_, ?_⟩ <;> rw [← hrules]
  · intro a b hrepels hb hfixed s hs o ho hne hapart s' hs' o' ho' hid hid'
    exact not_intersects_step action hsettled horiented hmild hrepels hb hfixed hs ho hne hapart hs' ho' hid hid'
  · intro a hrepels s hs hinside s' hs' hid
    exact contains_step action hsettled horiented hmild hrepels hs hinside hs' hid

/-- In the corridor the avatar walks left into a wall. It does not get in, and stays on the
screen. -/
theorem barrier_corridor :
    ∃ start v, build (Ruleset.compile corridor .default).value "wA w" 7 = .ok start ∧
      start.advance .left = .ok v ∧ ∃ s ∈ start.group 2, ∃ o ∈ start.group 1, ∃ s' ∈ v.group 2, ∃ o' ∈ v.group 1,
        s'.id = s.id ∧ o'.id = o.id ∧ s'.rect.intersects o'.rect = false ∧ v.bounds.contains s'.rect = true := by
  obtain ⟨start, hbuild, hcheck⟩ := @exists_start_corridor
    (fun w => !w.outcome.isOver && decide (∃ s ∈ w.group 2, ∃ o ∈ w.group 1, s.id ≠ o.id ∧
      s.rect.intersects o.rect = false ∧ w.bounds.contains s.rect = true ∧
      ∃ s' ∈ (w.step .left).group 2, ∃ o' ∈ (w.step .left).group 1, s'.id = s.id ∧ o'.id = o.id))
    (by decide +kernel)
  rw [Bool.and_eq_true, Bool.not_eq_true', decide_eq_true_eq] at hcheck
  obtain ⟨hon, s, hs, o, ho, hne, hapart, hinside, s', hs', o', ho', hid, hid'⟩ := hcheck
  obtain ⟨v, hadv, hwall, hedge⟩ := barrier (.start hbuild) (by decide +kernel) hon .left
  obtain ⟨-, hv⟩ := advance_eq_ok_iff.1 hadv
  rw [hv] at hs' ho'
  refine ⟨start, v, hbuild, hadv, s, hs, o, ho, s', hs', o', ho', hid, hid', ?_, ?_⟩
  · exact hwall 2 1 (by decide +kernel) (by decide) (by decide +kernel) s hs o ho hne hapart s' hs' o' ho' hid hid'
  · exact hedge 2 (by decide +kernel) s hs hinside s' hs' hid

end World

end SpriteGame
