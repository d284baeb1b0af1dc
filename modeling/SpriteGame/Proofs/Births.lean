import Mathlib.Data.List.Induction
import SpriteGame.Proofs.Singleton
/-!
# What requests bring about

Requests are met one after the other, and each looks at what the ones before it have left. Yet
which of them come about can be said beforehand: all but those for a singleton that is there or
was asked for before, `Ruleset.granted`. These are given ids in their order, and every group
grows by the sprites of its type (`group_foldl_instantiate_eq`). So the end of a tick loses and
doubles nothing: `commit_population`.
-/
namespace SpriteGame

namespace Ruleset

variable {rules : Ruleset} {present : TypeId → Bool} {type : TypeId} {rs : List SpawnRequest}

/-! ## Requests that come about -/

/-- Whether there is to be one sprite of a type only. -/
def isSingleton (rules : Ruleset) (type : TypeId) : Bool := (rules.template? type).any (·.singleton)

/-- Whether a request comes about after others, where `present` tells the types of which there
was a live sprite before them. -/
def grants (rules : Ruleset) (present : TypeId → Bool) (before : List SpawnRequest) (r : SpawnRequest) : Bool :=
  !(rules.isSingleton r.type && (present r.type || before.any (·.type = r.type)))

/-- The requests of a list that come about, in their order. -/
def granted (rules : Ruleset) (present : TypeId → Bool) (rs : List SpawnRequest) : List SpawnRequest :=
  (rs.zipIdx.filter fun q => rules.grants present (rs.take q.2) q.1).map (·.1)

theorem isSingleton_eq {t : Template} (ht : rules.template? type = some t) : rules.isSingleton type = t.singleton := by
  rw [isSingleton, ht]
  rfl

theorem granted_concat (rs : List SpawnRequest) (r : SpawnRequest) :
    rules.granted present (rs ++ [r]) =
      rules.granted present rs ++ if rules.grants present rs r then [r] else [] := by
  have hbefore : (rs.zipIdx.filter fun q => rules.grants present ((rs ++ [r]).take q.2) q.1) =
      rs.zipIdx.filter fun q => rules.grants present (rs.take q.2) q.1 := by
    refine List.filter_congr fun q hq => ?_
    rw [List.take_append_of_le_length (Nat.le_of_lt (List.snd_lt_of_mem_zipIdx hq))]
  have hlast : (rs ++ [r]).take rs.length = rs := List.take_left
  unfold granted
  rw [List.zipIdx_append, List.filter_append, List.map_append, hbefore, Nat.zero_add, List.zipIdx_singleton,
    List.filter_cons, hlast, List.filter_nil]
  split <;> rfl

/-- If there was none of a type before, there is one just if one was asked for. -/
theorem any_granted (habsent : present type = false) :
    (rules.granted present rs).any (·.type = type) = rs.any (·.type = type) := by
  induction rs using List.reverseRecOn with
  | nil => rfl
  | append_singleton rs r ih =>
    rw [granted_concat, List.any_append, List.any_append, ih]
    by_cases htype : r.type = type
    · -- If the request is passed over, then there was another one before it.
      cases hbefore : rs.any (·.type = type) with
      | true => simp
      | false => simp [grants, htype, habsent, hbefore]
    · split <;> simp [htype]

/-- What comes about of one type: every request for it, but of a singleton none or the first. -/
theorem filter_granted (rules : Ruleset) (present : TypeId → Bool) (type : TypeId) (rs : List SpawnRequest) :
    (rules.granted present rs).filter (·.type = type) =
      if rules.isSingleton type then
        if present type then [] else (rs.filter (·.type = type)).take 1
      else rs.filter (·.type = type) := by
  induction rs using List.reverseRecOn with
  | nil => simp [granted]
  | append_singleton rs r ih =>
    rw [granted_concat, List.filter_append, List.filter_append, ih]
    by_cases htype : r.type = type
    · cases hsingle : rules.isSingleton type with
      | false => simp [grants, htype, hsingle]
      | true =>
        cases hpresent : present type with
        | true => simp [grants, htype, hsingle, hpresent]
        | false =>
          -- The first request for a singleton that is not there is the one before which there is none.
          cases hfirst : rs.filter (·.type = type) with
          | nil =>
            have hbefore : rs.any (·.type = type) = false := by
              simpa [List.filter_eq_nil_iff] using hfirst
            simp [grants, htype, hsingle, hpresent, hbefore]
          | cons q qs =>
            have hbefore : rs.any (·.type = type) = true := by
              rw [List.any_eq_true]
              exact ⟨q, List.mem_filter.1 (hfirst ▸ List.mem_cons_self)⟩
            simp [grants, htype, hsingle, hpresent, hbefore]
    · have hnone : (if rules.grants present rs r then [r] else []).filter (fun q => decide (q.type = type)) = [] := by
        split <;> simp [htype]
      rw [hnone, List.filter_cons, decide_eq_false htype, List.filter_nil, List.append_nil]
      simp

theorem granted_sublist (rules : Ruleset) (present : TypeId → Bool) (rs : List SpawnRequest) :
    (rules.granted present rs).Sublist rs := by
  have hall : rs.zipIdx.map (·.1) = rs := List.zipIdx_map_fst ..
  have hsome : (rules.granted present rs).Sublist (rs.zipIdx.map (·.1)) := List.filter_sublist.map _
  rwa [hall] at hsome

end Ruleset

/-! ## What requests make -/

/-- A sprite is as a request asks, and like the template of its type in what is left open. -/
structure SpawnRequest.Meets (r : SpawnRequest) (block : Float32) (t : Template) (s : Sprite) : Prop where
  type : s.type = t.id
  alive : s.alive = true
  rect : s.rect = .around r.center (block * t.footprint)
  lastRect : s.lastRect = s.rect
  facing : s.facing = r.facing.getD t.facing
  speed : s.speed = t.speed
  resources : s.resources = r.resources.getD .empty
  health : s.health = r.health.getD t.health
  maxHealth : s.maxHealth = t.maxHealth

theorem SpawnRequest.meets_make (r : SpawnRequest) (id : Nat) (block : Float32) (t : Template) :
    r.Meets block t (r.make id block t) := by
  obtain ⟨type, center, facing, resources, health⟩ := r
  cases facing <;> exact ⟨rfl, rfl, rfl, rfl, rfl, rfl, rfl, rfl, rfl⟩

namespace World

variable {w : World}

/-- Whether there is a live sprite of exactly a type. -/
def present (w : World) (type : TypeId) : Bool := (w.group type).any (·.alive)

/-- The requests of a list that come about, with the ids of what they make. -/
def births (w : World) (rs : List SpawnRequest) : List (SpawnRequest × Nat) :=
  (w.rules.granted w.present rs).zipIdx w.nextId

/-- What requests make of a type. -/
def newcomers (block : Float32) (births : List (SpawnRequest × Nat)) (type : TypeId) (t : Template) : List Sprite :=
  (births.filter (·.1.type = type)).map fun b => b.1.make b.2 block t

theorem births_concat (w : World) (rs : List SpawnRequest) (r : SpawnRequest) :
    w.births (rs ++ [r]) =
      w.births rs ++ if w.rules.grants w.present rs r then [(r, w.nextId + (w.births rs).length)] else [] := by
  unfold births
  rw [Ruleset.granted_concat, List.zipIdx_append, List.length_zipIdx]
  split <;> rfl

theorem length_births (w : World) (rs : List SpawnRequest) :
    (w.births rs).length = (w.rules.granted w.present rs).length :=
  List.length_zipIdx

theorem newcomers_append (block : Float32) (bs cs : List (SpawnRequest × Nat)) (type : TypeId) (t : Template) :
    newcomers block (bs ++ cs) type t = newcomers block bs type t ++ newcomers block cs type t := by
  rw [newcomers, List.filter_append, List.map_append, newcomers, newcomers]

theorem any_newcomers (w : World) (rs : List SpawnRequest) (type : TypeId) (t : Template) :
    (newcomers w.blockSize (w.births rs) type t).any (·.alive) =
      (w.rules.granted w.present rs).any (·.type = type) := by
  have hrequests : (w.births rs).map (·.1) = w.rules.granted w.present rs := List.zipIdx_map_fst ..
  rw [← hrequests, newcomers, List.any_map, List.any_filter, List.any_map]
  refine congrArg (w.births rs).any (funext fun b => ?_)
  simp [b.1.alive_make]

/-- When the turn of a request comes, it finds what those before it have left. -/
theorem admits_foldl_instantiate {rs : List SpawnRequest} {r : SpawnRequest} {t : Template}
    (ht : w.rules.template? r.type = some t)
    (hgroup : (rs.foldl instantiate w).group r.type =
      w.group r.type ++ newcomers w.blockSize (w.births rs) r.type t) :
    (rs.foldl instantiate w).admits t r.type = w.rules.grants w.present rs r := by
  rw [admits, hgroup, List.any_append, any_newcomers, Ruleset.grants, Ruleset.isSingleton_eq ht, ← present]
  cases hpresent : w.present r.type with
  | true => rw [Bool.true_or, Bool.true_or]
  | false => rw [Ruleset.any_granted hpresent]

/-- Groups grow by what the requests make that come about, and ids are given in that order. -/
theorem group_foldl_instantiate_eq (hrules : w.rules.Aligned) (hsize : w.groups.size = w.rules.registry.size)
    {rs : List SpawnRequest} (hrs : ∀ r ∈ rs, r.type < w.rules.registry.size) :
    (rs.foldl instantiate w).nextId = w.nextId + (w.births rs).length ∧
    ∀ type t, w.rules.template? type = some t →
      (rs.foldl instantiate w).group type = w.group type ++ newcomers w.blockSize (w.births rs) type t := by
  induction rs using List.reverseRecOn with
  | nil => exact ⟨rfl, fun type t _ => (List.append_nil _).symm⟩
  | append_singleton rs r ih =>
    obtain ⟨hnext, hgroups⟩ := ih fun q hq => hrs q (List.mem_append_left _ hq)
    have hgrown := extends_foldl_instantiate rs w
    have hlt : r.type < w.rules.registry.size := hrs r (List.mem_append_right _ List.mem_cons_self)
    obtain ⟨t, ht⟩ := hrules.exists_template hlt
    have hadmits := admits_foldl_instantiate ht (hgroups r.type t ht)
    have hstep : (rs ++ [r]).foldl instantiate w = (rs.foldl instantiate w).instantiate r := by
      rw [List.foldl_append, List.foldl_cons, List.foldl_nil]
    rw [hstep, births_concat, instantiate, hgrown.rules, ht]
    dsimp only
    rw [hadmits]
    cases w.rules.grants w.present rs r with
    | false => simpa using ⟨hnext, hgroups⟩
    | true =>
      have hblock : (rs.foldl instantiate w).blockSize = w.blockSize := congrArg Ruleset.blockSize hgrown.rules
      refine ⟨?_, fun type u hu => ?_⟩
      · simp [create, hnext, Nat.add_assoc]
      · rw [if_pos rfl, if_pos rfl, group_create _ (hgrown.size ▸ hsize ▸ hlt), hgroups type u hu, newcomers_append,
          hblock, hnext]
        split
        · next htype =>
          subst htype
          obtain rfl : t = u := Option.some.inj (ht.symm.trans hu)
          simp [newcomers]
        · next htype => simp [newcomers, Ne.symm htype]

/-! ## The end of a tick -/

theorem present_settle (w : World) (type : TypeId) : w.settle.present type = w.present type := by
  rw [present, group_settle, List.any_filter]
  exact congrArg (w.group type).any (funext fun s => Bool.and_self _)

theorem births_settle (w : World) (rs : List SpawnRequest) : w.settle.births rs = w.births rs := by
  have hpresent : w.settle.present = w.present := funext w.present_settle
  rw [births, hpresent]
  rfl

/-- The end of a tick loses nothing and doubles nothing. Every group keeps its live sprites as
they are and then gets what the requests for its type make, in their order: all of them, but for
a singleton none if it is there and else the first. The ids of what is made follow each other
over all types, the requests are gone, the score is banked, and the rest stays as it is. -/
theorem commit_population (hrules : w.rules.Aligned) (hsize : w.groups.size = w.rules.registry.size)
    (hspawns : ∀ r ∈ w.spawns, r.type < w.rules.registry.size) :
    let births := w.births w.spawns
    w.commit =
      { w with
        groups := w.commit.groups
        nextId := w.nextId + births.length
        spawns := []
        score := w.score + w.pendingScore
        pendingScore := 0 } ∧
    w.commit.groups.size = w.groups.size ∧
    (births.map (·.1)).Sublist w.spawns ∧
    births.map (·.2) = List.range' w.nextId births.length ∧
    ∀ type t, w.rules.template? type = some t →
      w.commit.group type =
        (w.group type).filter (·.alive) ++
          (births.filter (·.1.type = type)).map (fun b => b.1.make b.2 w.blockSize t) ∧
      (∀ (r : SpawnRequest) id, (r.make id w.blockSize t).id = id ∧ r.Meets w.blockSize t (r.make id w.blockSize t)) ∧
      (births.map (·.1)).filter (·.type = type) =
        if t.singleton then
          if (w.group type).any (·.alive) then [] else (w.spawns.filter (·.type = type)).take 1
        else w.spawns.filter (·.type = type) := by
  intro births
  have hrequests : births.map (·.1) = w.rules.granted w.present w.spawns := List.zipIdx_map_fst ..
  obtain ⟨hnext, hgroups⟩ := group_foldl_instantiate_eq (w := w.settle) hrules (Array.size_map.trans hsize) hspawns
  replace hnext : w.commit.nextId = w.nextId + births.length := by
    rw [births_settle] at hnext
    exact hnext
  refine ⟨?_, (extends_commit w).size.trans Array.size_map, ?_, ?_, fun type t ht => ⟨?_, fun r id => ?_, ?_⟩⟩
  · have hframe := frame_foldl_instantiate
      (f := fun v => { v with groups := w.commit.groups, nextId := w.commit.nextId }) (fun _ _ _ => rfl) w.spawns w.settle
    rw [← hnext]
    exact hframe
  · rw [hrequests]
    exact w.rules.granted_sublist w.present w.spawns
  · rw [w.length_births w.spawns]
    exact List.zipIdx_map_snd ..
  · have hgroup := hgroups type t ht
    rw [births_settle, group_settle] at hgroup
    exact hgroup
  · exact ⟨congrArg Prod.fst (r.tag_make ..), r.meets_make ..⟩
  · rw [hrequests, Ruleset.filter_granted, Ruleset.isSingleton_eq ht]
    rfl

/-- When the king of the throne has met the avatar, two nests ask for another one. -/
theorem commit_population_throne :
    ∃ start, build (Ruleset.compile throne .default).value "kkA nn" 7 = .ok start ∧
      let w := (start.run [.left]).resolved .left
      w.spawns.length = 2 ∧ (w.births w.spawns).length = 1 ∧ w.commit.nextId = w.nextId + 1 ∧ w.commit.spawns = [] ∧
      ∃ t, w.commit.group 1 = (w.births w.spawns).map fun b => b.1.make b.2 w.blockSize t := by
  obtain ⟨start, h, hcheck⟩ := @exists_start (Ruleset.compile throne .default).value "kkA nn" 7
    (fun start : World => let w := (start.run [.left]).resolved .left
      decide (w.groups.size = w.rules.registry.size ∧ (∀ r ∈ w.spawns, r.type < w.rules.registry.size) ∧
        w.spawns.length = 2 ∧ (w.births w.spawns).length = 1 ∧ (w.group 1).filter (·.alive) = [] ∧
        (∀ b ∈ w.births w.spawns, b.1.type = 1) ∧ (w.rules.template? 1).isSome = true)) (by decide +kernel)
  obtain ⟨hsize, hspawns, htwo, hone, hgone, hkings, htemplate⟩ := of_decide_eq_true hcheck
  have hrules : ((start.run [.left]).resolved .left).rules.Aligned := by
    rw [(ensues_resolved _ _).rules, rules_counted, ((Reachable.start h).run [.left]).rules]
    exact Ruleset.aligned_compile throne .default
  obtain ⟨t, ht⟩ := Option.isSome_iff_exists.1 htemplate
  obtain ⟨hcommit, -, -, -, hgroups⟩ := commit_population hrules hsize hspawns
  obtain ⟨hgroup, -, -⟩ := hgroups 1 t ht
  have hall : ∀ b ∈ births _ _, decide (b.1.type = 1) = true := fun b hb => decide_eq_true (hkings b hb)
  rw [hgone, List.nil_append, List.filter_eq_self.2 hall] at hgroup
  have hnext := congrArg World.nextId hcommit
  rw [hone] at hnext
  exact ⟨start, h, htwo, hone, hnext, congrArg World.spawns hcommit, t, hgroup⟩

end World

end SpriteGame
