import SpriteGame.Proofs.Episode
/-!
# Ids

Between two ticks every group holds live sprites of its type, nothing waits to be
created or counted, and ids tell sprites apart: `Settled` is kept by every tick and so
holds of every world of an episode. No id is ever given twice, since ids are given in
ascending order: `Follows v w` says that whoever has an old id in `w` had it in `v`.
-/
namespace SpriteGame

namespace World

/-! ## Settled worlds -/

/-- The ids of all sprites. -/
def ids (w : World) : List Nat :=
  (List.range w.groups.size).flatMap fun type => (w.group type).map (·.id)

/-- What holds of the groups and counters of a world between two ticks. -/
structure Settled (w : World) : Prop where
  /-- There is one group for each type. -/
  size : w.groups.size = w.rules.registry.size
  typed : ∀ type, ∀ s ∈ w.group type, s.type = type ∧ s.alive = true
  spawns : w.spawns = []
  pendingScore : w.pendingScore = 0
  ascending : ∀ type, ((w.group type).map (·.id)).Pairwise (· < ·)
  /-- Groups share no ids. -/
  apart : ∀ a b, ∀ s ∈ w.group a, ∀ t ∈ w.group b, s.id = t.id → a = b
  below : ∀ type, ∀ s ∈ w.group type, s.id < w.nextId

theorem group_of_size_le (w : World) {type : TypeId} (h : w.groups.size ≤ type) : w.group type = [] := by
  unfold group
  rw [Array.getElem?_eq_none h]
  rfl

theorem lt_size_of_mem_group {w : World} {type : TypeId} {s : Sprite} (hs : s ∈ w.group type) :
    type < w.groups.size := by
  refine Nat.lt_of_not_le fun hle => ?_
  rw [group_of_size_le w hle] at hs
  cases hs

theorem mem_ids {w : World} {n : Nat} : n ∈ w.ids ↔ ∃ type, ∃ s ∈ w.group type, s.id = n := by
  unfold ids
  rw [List.mem_flatMap]
  constructor
  · rintro ⟨type, -, hn⟩
    exact ⟨type, List.mem_map.1 hn⟩
  · rintro ⟨type, s, hs, hn⟩
    exact ⟨type, List.mem_range.2 (lt_size_of_mem_group hs), List.mem_map.2 ⟨s, hs, hn⟩⟩

theorem Settled.nodup_ids {w : World} (h : w.Settled) : w.ids.Nodup := by
  unfold ids List.Nodup
  rw [List.pairwise_flatMap]
  refine ⟨fun type _ => (h.ascending type).imp Nat.ne_of_lt, ?_⟩
  refine List.nodup_range.imp fun {a b} hab n hn m hm hnm => hab ?_
  obtain ⟨s, hs, rfl⟩ := List.mem_map.1 hn
  obtain ⟨t, ht, rfl⟩ := List.mem_map.1 hm
  exact h.apart a b s hs t ht hnm

/-- In a group of a settled world an id finds one sprite. -/
theorem Settled.eq_of_id {w : World} (h : w.Settled) {type : TypeId} {s t : Sprite} (hs : s ∈ w.group type)
    (ht : t ∈ w.group type) (hid : s.id = t.id) : s = t := by
  have hinj : (w.group type).Pairwise fun a b => a.id ≠ b.id :=
    (List.pairwise_map.1 (h.ascending type)).imp Nat.ne_of_lt
  obtain ⟨i, hi, rfl⟩ := List.mem_iff_getElem.1 hs
  obtain ⟨j, hj, rfl⟩ := List.mem_iff_getElem.1 ht
  rcases Nat.lt_trichotomy i j with hij | rfl | hij
  · exact absurd hid (List.pairwise_iff_getElem.1 hinj i j hi hj hij)
  · rfl
  · exact absurd hid.symm (List.pairwise_iff_getElem.1 hinj j i hj hi hij)

/-! ## What keeps worlds settled -/

theorem settled_bare (rules : Ruleset) (seed : UInt64) (bounds : Rect) : (bare rules seed bounds).Settled where
  size := Array.size_replicate
  typed type s hs := by rw [group_bare] at hs; cases hs
  spawns := rfl
  pendingScore := rfl
  ascending type := by rw [group_bare]; exact .nil
  apart a b s hs := by rw [group_bare] at hs; cases hs
  below type s hs := by rw [group_bare] at hs; cases hs

/-- A new sprite has an id above all others. -/
theorem Settled.create {w : World} (h : w.Settled) {type : TypeId} (hlt : type < w.rules.registry.size)
    {s : Sprite} (htag : s.tag = (w.nextId, type)) (halive : s.alive = true) :
    (w.create type s).Settled := by
  obtain ⟨hid, htype⟩ := Prod.mk.inj htag
  refine { h with size := (size_create ..).trans h.size, typed := ?_, ascending := ?_, apart := ?_, below := ?_ }
  · intro other t ht
    rcases mem_group_create ht with ht | ⟨rfl, rfl⟩
    · exact h.typed other t ht
    · exact ⟨htype, halive⟩
  · intro other
    rw [group_create w (h.size ▸ hlt)]
    split
    · -- The new id comes last, and all others are below it.
      rw [List.map_append, List.pairwise_append]
      refine ⟨h.ascending other, List.pairwise_singleton .., fun n hn m hm => ?_⟩
      obtain ⟨t, ht, rfl⟩ := List.mem_map.1 hn
      have hm : m = s.id := List.mem_singleton.1 hm
      rw [hm, hid]
      exact h.below other t ht
    · exact h.ascending other
  · intro a b t ht u hu htu
    rcases mem_group_create ht with ht' | ⟨ha, rfl⟩ <;> rcases mem_group_create hu with hu' | ⟨hb, rfl⟩
    · exact h.apart a b t ht' u hu' htu
    · exact absurd (htu.trans hid) (Nat.ne_of_lt (h.below a t ht'))
    · exact absurd (htu.symm.trans hid) (Nat.ne_of_lt (h.below b u hu'))
    · exact ha.trans hb.symm
  · intro other t ht
    rcases mem_group_create ht with ht | ⟨-, rfl⟩
    · exact Nat.lt_succ_of_lt (h.below other t ht)
    · exact hid ▸ Nat.lt_succ_self _

theorem Settled.instantiate {w : World} (h : w.Settled) (hrules : w.rules.Aligned) (r : SpawnRequest) :
    (w.instantiate r).Settled := by
  rcases instantiate_cases w r with hw | ⟨t, ht, hw⟩ <;> rw [hw]
  · exact h
  · refine h.create (hrules.lt_size ht) ?_ (r.alive_make ..)
    rw [r.tag_make, hrules.inPlace r.type t ht]

theorem Settled.foldl_instantiate (rs : List SpawnRequest) {w : World} (h : w.Settled) (hrules : w.rules.Aligned) :
    (rs.foldl World.instantiate w).Settled := by
  induction rs generalizing w with
  | nil => exact h
  | cons r rs ih => exact ih (h.instantiate hrules r) ((extends_instantiate w r).rules ▸ hrules)

/-- Whoever is in a group at a later moment of a tick was there at an earlier one. -/
theorem Ensues.exists_tag {v w : World} (h : v.Ensues w) {type : TypeId} {s : Sprite} (hs : s ∈ w.group type) :
    ∃ t ∈ v.group type, t.tag = s.tag := by
  have hmem : s.tag ∈ (w.group type).map Sprite.tag := List.mem_map_of_mem hs
  rw [h.tags] at hmem
  exact List.mem_map.1 hmem

theorem Ensues.ids {v w : World} (h : v.Ensues w) (type : TypeId) :
    (w.group type).map (·.id) = (v.group type).map (·.id) := by
  have hids : ∀ u : World, (u.group type).map (·.id) = ((u.group type).map Sprite.tag).map Prod.fst :=
    fun u => by rw [List.map_map]; rfl
  rw [hids, hids, h.tags]

/-- Dropping what is removed brings a tick back to a settled world. -/
theorem Settled.settle {v w : World} (h : v.Settled) (h' : v.Ensues w) : w.settle.Settled := by
  have hmem : ∀ type s, s ∈ w.settle.group type →
      s.alive = true ∧ ∃ t ∈ v.group type, t.id = s.id ∧ t.type = s.type := by
    intro type s hs
    rw [group_settle] at hs
    obtain ⟨hs, halive⟩ := List.mem_filter.1 hs
    obtain ⟨t, ht, htag⟩ := h'.exists_tag hs
    exact ⟨halive, t, ht, (Prod.mk.inj htag).1, (Prod.mk.inj htag).2⟩
  refine { size := ?_, typed := ?_, spawns := rfl, pendingScore := rfl, ascending := ?_, apart := ?_, below := ?_ }
  · rw [rules_settle, h'.rules, ← h.size, ← h'.size]
    exact Array.size_map
  · intro type s hs
    obtain ⟨halive, t, ht, -, htype⟩ := hmem type s hs
    exact ⟨htype ▸ (h.typed type t ht).1, halive⟩
  · intro type
    rw [group_settle]
    refine ((h.ascending type).sublist ?_)
    rw [← h'.ids type]
    exact List.filter_sublist.map _
  · intro a b s hs t ht hst
    obtain ⟨-, s', hs', hid, -⟩ := hmem a s hs
    obtain ⟨-, t', ht', hid', -⟩ := hmem b t ht
    exact h.apart a b s' hs' t' ht' (hid.trans (hst.trans hid'.symm))
  · intro type s hs
    obtain ⟨-, t, ht, hid, -⟩ := hmem type s hs
    rw [nextId_settle, h'.nextId, ← hid]
    exact h.below type t ht

theorem Settled.judge {w : World} (h : w.Settled) : w.judge.Settled := by
  obtain ⟨outcome, score, hw⟩ := judge_eq w
  rw [hw]
  exact { h with }

theorem Settled.step {w : World} (h : w.Settled) (hrules : w.rules.Aligned) (action : Action) :
    (w.step action).Settled := by
  have hcounted : (w.counted action).Settled := { h with }
  have hsettle : (w.resolved action).settle.Settled := hcounted.settle (ensues_resolved w action)
  refine (hsettle.foldl_instantiate (w.resolved action).spawns ?_).judge
  rw [rules_settle, (ensues_resolved w action).rules, rules_counted]
  exact hrules

theorem Reachable.settled {rules : Ruleset} (hrules : rules.Aligned) {w : World} (h : Reachable rules w) :
    w.Settled := by
  induction h with
  | start h =>
    obtain ⟨bounds, requests, rfl⟩ := eq_of_build h
    exact { (settled_bare rules _ bounds).foldl_instantiate requests hrules with }
  | tick hw hadv ih =>
    obtain ⟨-, rfl⟩ := advance_eq_ok_iff.1 hadv
    exact ih.step (hw.rules ▸ hrules) _

/-- A sprite with an id that a settled world knows has come through the tick by its key. -/
theorem Settled.exists_key {w : World} (h : w.Settled) {action : Action} {type : TypeId} {s s' : Sprite}
    (hs : s ∈ w.group type) (hs' : s' ∈ (w.step action).group type) (hid : s'.id = s.id) :
    ∃ key, key.type = type ∧ w.sprite? key = some s ∧ (w.resolved action).sprite? key = some s' ∧
      s'.alive = true := by
  obtain ⟨hmem, halive⟩ := mem_group_step hs' (hid ▸ h.below type s hs)
  obtain ⟨index, hindex⟩ := mem_group_iff.1 hmem
  have htag := (ensues_resolved w action).tag_sprite? ⟨type, index⟩
  rw [hindex, Option.map_some] at htag
  obtain ⟨t, ht, htag⟩ := Option.map_eq_some_iff.1 htag.symm
  have hts : t = s := h.eq_of_id (mem_group_iff.2 ⟨index, ht⟩) hs ((Prod.mk.inj htag).1.trans hid)
  subst hts
  exact ⟨⟨type, index⟩, rfl, ht, hindex, halive⟩

/-! ## Old ids -/

/-- An id that was in use, or used up, is not given to anyone else. -/
structure Follows (v w : World) : Prop where
  nextId : v.nextId ≤ w.nextId
  old : ∀ type, ∀ s ∈ w.group type, s.id < v.nextId → ∃ t ∈ v.group type, t.id = s.id

theorem Follows.refl (w : World) : w.Follows w := ⟨Nat.le_refl _, fun _ s hs _ => ⟨s, hs, rfl⟩⟩

theorem Follows.trans {u v w : World} (h : u.Follows v) (h' : v.Follows w) : u.Follows w := by
  refine ⟨Nat.le_trans h.nextId h'.nextId, fun type s hs hid => ?_⟩
  obtain ⟨t, ht, hts⟩ := h'.old type s hs (Nat.lt_of_lt_of_le hid h.nextId)
  obtain ⟨r, hr, hrt⟩ := h.old type t ht (hts ▸ hid)
  exact ⟨r, hr, hrt.trans hts⟩

theorem follows_step (w : World) (action : Action) : w.Follows (w.step action) := by
  refine ⟨nextId_le_step w action, fun type s hs hid => ?_⟩
  obtain ⟨t, ht, htag⟩ := (ensues_resolved w action).exists_tag (mem_group_step hs hid).1
  exact ⟨t, ht, (Prod.mk.inj htag).1⟩

theorem follows_run (w : World) (actions : List Action) : w.Follows (w.run actions) := by
  induction actions generalizing w with
  | nil => exact .refl w
  | cons action actions ih =>
    refine .trans ?_ (ih (w.attempt action))
    rcases attempt_cases w action with hw | hadv
    · rw [hw]
      exact .refl w
    · obtain ⟨-, hw⟩ := advance_eq_ok_iff.1 hadv
      rw [← hw]
      exact follows_step w action

/-- What an old id finds after more ticks it found before, in the same group. -/
theorem Follows.mem_ids {v w : World} (h : v.Follows w) {n : Nat} (hn : n ∈ w.ids) (hold : n < v.nextId) :
    n ∈ v.ids := by
  obtain ⟨type, s, hs, rfl⟩ := World.mem_ids.1 hn
  obtain ⟨t, ht, hts⟩ := h.old type s hs hold
  exact World.mem_ids.2 ⟨type, t, ht, hts⟩

theorem Settled.lt_of_mem_ids {w : World} (h : w.Settled) {n : Nat} (hn : n ∈ w.ids) : n < w.nextId := by
  obtain ⟨type, s, hs, rfl⟩ := World.mem_ids.1 hn
  exact h.below type s hs

/-- An id stays with its type. -/
theorem Settled.type_of_id {v w : World} (h : v.Settled) (h' : v.Follows w) {a b : TypeId} {s t : Sprite}
    (hs : s ∈ v.group a) (ht : t ∈ w.group b) (hid : s.id = t.id) : a = b := by
  -- The later sprite has an old id, so its group had the id at the earlier moment.
  obtain ⟨r, hr, hrt⟩ := h'.old b t ht (hid ▸ h.below a s hs)
  exact h.apart a b s hs r hr (hid.trans hrt.symm)

/-- Ids over a run, from any moment of it to any later ones. The world is settled and its
ids are distinct. An id stays with its type, one that is gone does not come back, and
none is given twice. -/
theorem ids_run {d : Description} {settings : Settings} {level : String} {seed : UInt64} {start : World}
    (h : build (Ruleset.compile d settings).value level seed = .ok start)
    (before between after : List Action) :
    let u := start.run before
    let v := u.run between
    let w := v.run after
    w.rules = (Ruleset.compile d settings).value ∧ w.Settled ∧ w.ids.Nodup ∧
    (∀ a b, ∀ s ∈ u.group a, ∀ t ∈ w.group b, s.id = t.id → a = b) ∧
    (∀ n ∈ u.ids, n ∉ v.ids → n ∉ w.ids) ∧
    (∀ n ∈ w.ids, n < u.nextId → n ∈ u.ids) := by
  intro u v w
  have haligned := Ruleset.aligned_compile d settings
  have hureach : Reachable _ u := (Reachable.start h).run before
  have hwreach : Reachable _ w := (hureach.run between).run after
  have hu : u.Settled := hureach.settled haligned
  have hw : w.Settled := hwreach.settled haligned
  have huv : u.Follows v := follows_run u between
  have hvw : v.Follows w := follows_run v after
  refine ⟨hwreach.rules, hw, hw.nodup_ids, ?_, ?_, ?_⟩
  · intro a b s hs t ht hid
    exact hu.type_of_id (huv.trans hvw) hs ht hid
  · intro n hn hgone hback
    have hold : n < v.nextId := Nat.lt_of_lt_of_le (hu.lt_of_mem_ids hn) huv.nextId
    exact hgone (hvw.mem_ids hback hold)
  · intro n hn hold
    exact (huv.trans hvw).mem_ids hn hold

/-- In the corridor the ids are distinct after three ticks. -/
theorem ids_run_corridor :
    ∃ start, build (Ruleset.compile corridor .default).value "wA w" 7 = .ok start ∧
      (((start.run [.right]).run [.up]).run [.left]).ids.Nodup := by
  obtain ⟨start, h, -⟩ := @exists_start_corridor (fun _ => true) (by decide +kernel)
  exact ⟨start, h, (ids_run h [.right] [.up] [.left]).2.2.1⟩

end World

end SpriteGame
