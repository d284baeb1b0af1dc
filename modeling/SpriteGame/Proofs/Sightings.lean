import Mathlib.Data.List.Perm.Basic
import SpriteGame.Proofs.Identity
import SpriteGame.Proofs.TotalOrder
/-!
# What is seen of a world

The observations of all roles together are the live sprites, each of them once
(`perm_sightings`). Those of a role are one list for each type that has any (`positionsByRole_eq`),
and a list is sorted by distance, where sprites that are equally far away stay in the order in
which they came into being (`filter_mergeSort_of_ties`).
-/
namespace SpriteGame

/-! ## Stable sorting -/

/-- Among elements none of which must come before another one, sorting changes nothing. -/
theorem filter_mergeSort_of_ties {α : Type} {le : α → α → Bool}
    (htrans : ∀ a b c, le a b = true → le b c = true → le a c = true)
    (htotal : ∀ a b, (le a b || le b a) = true) {p : α → Bool}
    (hties : ∀ a b, p a = true → p b = true → le a b = true) (l : List α) :
    (l.mergeSort le).filter p = l.filter p := by
  have hsorted : (l.filter p).Pairwise fun a b => le a b = true :=
    List.pairwise_of_forall_mem_list fun a ha b hb => hties a b (List.mem_filter.1 ha).2 (List.mem_filter.1 hb).2
  have hsub : (l.filter p).Sublist ((l.mergeSort le).filter p) := by
    have := (List.sublist_mergeSort htrans htotal hsorted List.filter_sublist).filter p
    simpa only [List.filter_filter, Bool.and_self] using this
  have hlength := ((List.mergeSort_perm l le).filter p).length_eq
  exact (hsub.eq_of_length hlength.symm).symm

namespace Observation

/-- What is said of a sprite of a type that is observed from a point of reference. -/
structure Shows (o : Observation) (reference : Option Vec) (type : TypeId) (s : Sprite) : Prop where
  type : o.type = type
  id : o.id = s.id
  position : o.position = s.rect.topLeft
  rect : o.rect = s.rect
  distance : ∀ p, reference = some p → o.distanceSq = s.rect.topLeft.distanceSq p
  unreferred : reference = none → o.distanceSq = 0

/-- The closer one comes first, and of two that are equally far away the older one. -/
def Before (a b : Observation) : Prop :=
  Single.Precedes a.distanceSq b.distanceSq ∨ a.distanceSq = b.distanceSq ∧ a.id < b.id

theorem shows_iff {o : Observation} {reference : Option Vec} {s : Sprite} :
    o.Shows reference s.type s ↔ o = ofSprite reference s := by
  constructor
  · intro h
    have hdistance : o.distanceSq = (ofSprite reference s).distanceSq := by
      cases hreference : reference with
      | none => exact h.unreferred hreference
      | some p => exact h.distance p hreference
    obtain ⟨type, id, position, rect, distanceSq⟩ := o
    obtain ⟨rfl, rfl, rfl, rfl, -, -⟩ := h
    exact congrArg _ hdistance
  · rintro rfl
    exact ⟨rfl, rfl, rfl, rfl, fun p hp => hp ▸ rfl, fun hnone => hnone ▸ rfl⟩

theorem closer_trans (a b c : Observation) (hab : closer a b = true) (hbc : closer b c = true) :
    closer a c = true :=
  decide_eq_true ((of_decide_eq_true hab).trans (of_decide_eq_true hbc))

theorem closer_total (a b : Observation) : (closer a b || closer b a) = true := by
  rcases le_total (rank a.distanceSq) (rank b.distanceSq) with h | h
  · rw [closer, decide_eq_true h, Bool.true_or]
  · rw [Bool.or_comm, closer, decide_eq_true h, Bool.true_or]

/-- Observations in the order of ids are sorted into the order of distances and, among equals, of ids. -/
theorem pairwise_mergeSort_before {l : List Observation} (hl : l.Pairwise fun a b => a.id < b.id) :
    (l.mergeSort closer).Pairwise Before := by
  have hsorted := List.pairwise_mergeSort closer_trans closer_total l
  rw [List.pairwise_iff_forall_sublist] at hl hsorted ⊢
  intro a b hab
  have hle : rank a.distanceSq ≤ rank b.distanceSq := of_decide_eq_true (hsorted hab)
  rcases hle.lt_or_eq with hlt | heq
  · exact .inl (Single.rank_lt_iff.1 hlt)
  · -- The two are among equals, which are as they were before.
    let ties : Observation → Bool := fun o => rank o.distanceSq = rank a.distanceSq
    have hties : (l.mergeSort closer).filter ties = l.filter ties :=
      filter_mergeSort_of_ties closer_trans closer_total (fun c d hc hd =>
        decide_eq_true ((of_decide_eq_true hc).trans (of_decide_eq_true hd).symm).le) l
    have hpair : [a, b].Sublist (l.filter ties) := by
      rw [← hties]
      simpa [ties, heq] using hab.filter ties
    exact .inr ⟨Single.rank_injective heq, hl (hpair.trans List.filter_sublist)⟩

end Observation

/-! ## Roles -/

theorem Ruleset.hasRole_iff {r : Ruleset} {type : TypeId} {role : Role} :
    r.hasRole type role = true ↔ ∃ t, r.template? type = some t ∧ t.role = role := by
  unfold hasRole
  rw [Option.any_eq_true]
  simp only [decide_eq_true_eq]

/-- Every type has one of the roles. -/
theorem Ruleset.perm_roles {r : Ruleset} {types : List TypeId}
    (htypes : ∀ type ∈ types, ∃ t, r.template? type = some t) (hnodup : types.Nodup) : (Role.all.flatMap fun role => types.filter (r.hasRole · role)).Perm types := by
  have hroles : Role.all.Nodup := by decide
  have hnodup' : (Role.all.flatMap fun role => types.filter (r.hasRole · role)).Nodup := by
    refine List.pairwise_flatMap.2 ⟨fun role _ => hnodup.filter _, hroles.imp fun hne type ha type' hb => ?_⟩
    rintro rfl
    refine hne ?_
    obtain ⟨t, ht, hrole⟩ := hasRole_iff.1 (List.mem_filter.1 ha).2
    obtain ⟨u, hu, hrole'⟩ := hasRole_iff.1 (List.mem_filter.1 hb).2
    rw [← hrole, ← hrole', Option.some.inj (ht.symm.trans hu)]
  refine (List.perm_ext_iff_of_nodup hnodup' hnodup).2 fun type => ?_
  rw [List.mem_flatMap]
  constructor
  · rintro ⟨role, -, hmem⟩
    exact (List.mem_filter.1 hmem).1
  · intro htype
    obtain ⟨t, ht⟩ := htypes type htype
    exact ⟨t.role, by cases t.role <;> decide, List.mem_filter.2 ⟨htype, hasRole_iff.2 ⟨t, ht, rfl⟩⟩⟩

namespace World

/-! ## The list of a type -/

theorem map_snd_liveOf (w : World) (type : TypeId) : (w.liveOf type).map (·.2) = (w.group type).filter (·.alive) := by
  have hsprites : (w.group type).zipIdx.map (·.1) = w.group type := List.zipIdx_map_fst ..
  conv_rhs => rw [← hsprites, List.filter_map]
  unfold liveOf
  rw [List.map_map]
  rfl

theorem mem_group_of_mem_liveOf {w : World} {type : TypeId} {e : Key × Sprite} (he : e ∈ w.liveOf type) :
    e.2 ∈ w.group type := by
  have hmem : e.2 ∈ (w.liveOf type).map (·.2) := List.mem_map_of_mem he
  rw [map_snd_liveOf] at hmem
  exact (List.mem_filter.1 hmem).1

theorem perm_observe (w : World) (reference : Option Vec) (type : TypeId) :
    (w.observe reference type).Perm ((w.liveOf type).map fun e => .ofSprite reference e.2) :=
  List.mergeSort_perm ..

/-- The types with a role that have live sprites. -/
def seenTypes (w : World) (role : Role) : List TypeId :=
  ((List.range w.groups.size).filter (w.rules.hasRole · role)).filter fun type => !(w.liveOf type).isEmpty

theorem positionsByRole_eq (w : World) (role : Role) (reference : Option Vec) :
    w.positionsByRole role reference = (w.seenTypes role).map (w.observe reference) := by
  have hempty : ∀ type, (w.observe reference type).isEmpty = (w.liveOf type).isEmpty := fun type => by
    rw [(w.perm_observe reference type).isEmpty_eq, List.isEmpty_map]
  unfold positionsByRole seenTypes
  rw [List.filter_map]
  simp only [Function.comp_def, hempty]

/-! ## All lists together -/

theorem flatten_positionsByRole (w : World) (role : Role) (reference : Option Vec) :
    (w.positionsByRole role reference).flatten =
      ((List.range w.groups.size).filter (w.rules.hasRole · role)).flatMap (w.observe reference) := by
  unfold positionsByRole
  rw [List.flatten_filter_not_isEmpty, List.flatMap_def]

theorem mem_seenTypes {w : World} {role : Role} {type : TypeId} :
    type ∈ w.seenTypes role ↔ w.rules.hasRole type role = true ∧ ∃ s ∈ w.group type, s.alive = true := by
  have hlive : (w.liveOf type).isEmpty = false ↔ ∃ s ∈ w.group type, s.alive = true := by
    rw [← List.isEmpty_map (f := (·.2)), map_snd_liveOf, List.isEmpty_eq_false_iff_exists_mem]
    simp only [List.mem_filter]
  unfold seenTypes
  rw [List.mem_filter, List.mem_filter, List.mem_range, Bool.not_eq_true', hlive]
  constructor
  · rintro ⟨⟨-, hrole⟩, hlive⟩
    exact ⟨hrole, hlive⟩
  · rintro ⟨hrole, s, hs, halive⟩
    exact ⟨⟨lt_size_of_mem_group hs, hrole⟩, s, hs, halive⟩

theorem mem_sightings {w : World} {role : Role} {reference : Option Vec} {o : Observation} :
    o ∈ (w.positionsByRole role reference).flatten ↔
      ∃ key s, w.sprite? key = some s ∧ s.alive = true ∧ w.rules.hasRole key.type role = true ∧
        o = .ofSprite reference s := by
  rw [flatten_positionsByRole, List.mem_flatMap]
  constructor
  · rintro ⟨type, htype, ho⟩
    obtain ⟨⟨key, s⟩, he, rfl⟩ := List.mem_map.1 ((w.perm_observe reference type).mem_iff.1 ho)
    obtain ⟨rfl, hs, halive⟩ := mem_liveOf.1 he
    exact ⟨key, s, hs, halive, (List.mem_filter.1 htype).2, rfl⟩
  · rintro ⟨key, s, hs, halive, hrole, rfl⟩
    have hlt : key.type < w.groups.size := lt_size_of_mem_group (mem_group_iff.2 ⟨key.index, hs⟩)
    have ho : Observation.ofSprite reference s ∈ (w.liveOf key.type).map fun e => .ofSprite reference e.2 :=
      List.mem_map_of_mem (mem_liveOf.2 ⟨rfl, hs, halive⟩)
    exact ⟨key.type, List.mem_filter.2 ⟨List.mem_range.2 hlt, hrole⟩, (w.perm_observe ..).mem_iff.2 ho⟩

/-- The observations of all roles are the live sprites. -/
theorem perm_sightings {w : World} (htemplates : ∀ type < w.groups.size, ∃ t, w.rules.template? type = some t)
    (reference : Option Vec) :
    (Role.all.flatMap fun role => (w.positionsByRole role reference).flatten).Perm
      (w.live.map fun e => .ofSprite reference e.2) := by
  calc Role.all.flatMap fun role => (w.positionsByRole role reference).flatten
    _ = (Role.all.flatMap fun role => (List.range w.groups.size).filter (w.rules.hasRole · role)).flatMap
          (w.observe reference) := by simp only [flatten_positionsByRole, List.flatMap_assoc]
    List.Perm _ ((List.range w.groups.size).flatMap (w.observe reference)) :=
      (Ruleset.perm_roles (fun type htype => htemplates type (List.mem_range.1 htype)) List.nodup_range).flatMap_right _
    List.Perm _ ((List.range w.groups.size).flatMap fun type => (w.liveOf type).map fun e => .ofSprite reference e.2) :=
      List.Perm.flatMap_left _ fun type _ => w.perm_observe reference type
    _ = w.live.map fun e => .ofSprite reference e.2 := List.map_flatMap.symm

/-! ## Between two ticks and after single edits -/

/-- The list of a type: its live sprites, the closest first and of equals the older first. -/
structure Lists (w : World) (reference : Option Vec) (type : TypeId) (l : List Observation) : Prop where
  nonempty : l ≠ []
  complete : l.Perm (((w.group type).filter (·.alive)).map (.ofSprite reference))
  ordered : l.Pairwise Observation.Before
  /-- Without a point of reference the list is in the order of creation. -/
  creation : reference = none → l = ((w.group type).filter (·.alive)).map (.ofSprite reference)

section Later

variable {v w : World} (hv : v.Settled) (h : v.Ensues w)
include hv h

theorem Settled.type_of_later {type : TypeId} {s : Sprite} (hs : s ∈ w.group type) : s.type = type := by
  obtain ⟨t, ht, htag⟩ := h.exists_tag hs
  exact (Prod.mk.inj htag).2 ▸ (hv.typed type t ht).1

theorem Settled.ascending_later (type : TypeId) :
    ((w.group type).filter (·.alive)).Pairwise fun s t => s.id < t.id := by
  have hids : ((w.group type).map (·.id)).Pairwise (· < ·) := h.ids type ▸ hv.ascending type
  exact (List.pairwise_map.1 hids).filter _

/-- Ids tell live sprites apart. -/
theorem Settled.nodup_live_ids : (w.live.map (·.2.id)).Nodup := by
  refine List.pairwise_map.2 (List.pairwise_flatMap.2 ⟨fun type _ => ?_, ?_⟩)
  · have hids := hv.ascending_later h type
    rw [← map_snd_liveOf] at hids
    exact (List.pairwise_map.1 hids).imp Nat.ne_of_lt
  · refine List.nodup_range.imp fun {a b} hne e he e' he' hid => hne ?_
    obtain ⟨s, hs, htag⟩ := h.exists_tag (mem_group_of_mem_liveOf he)
    obtain ⟨t, ht, htag'⟩ := h.exists_tag (mem_group_of_mem_liveOf he')
    exact hv.apart a b s hs t ht ((Prod.mk.inj htag).1.trans (hid.trans (Prod.mk.inj htag').1.symm))

theorem Settled.lists (reference : Option Vec) {type : TypeId} (hlive : w.liveOf type ≠ []) :
    w.Lists reference type (w.observe reference type) := by
  have hshown : (w.liveOf type).map (fun e => Observation.ofSprite reference e.2) =
      ((w.group type).filter (·.alive)).map (.ofSprite reference) := by
    rw [← map_snd_liveOf, List.map_map]
    rfl
  have hperm := w.perm_observe reference type
  refine { nonempty := fun hnil => ?_, complete := hshown ▸ hperm, ordered := ?_, creation := fun hnone => ?_ }
  · rw [hnil, List.nil_perm, List.map_eq_nil_iff] at hperm
    exact hlive hperm
  · unfold observe
    refine Observation.pairwise_mergeSort_before ?_
    rw [hshown]
    exact List.pairwise_map.2 (hv.ascending_later h type)
  · unfold observe
    rw [hshown]
    refine List.mergeSort_of_pairwise (List.pairwise_map.2 (List.pairwise_of_forall fun s t => ?_))
    subst hnone
    exact decide_eq_true (le_refl _)

end Later

/-- The observations of all roles together are the live sprites of a world, and ids tell them apart.
A sprite is seen among those of the role of its type, as it is. For one role there is one list for
each type that has live sprites, in the order of types, and a list has the sprites of the type,
sorted by distance and then by age. Single edits of a world of an episode do not change that. -/
theorem sightings_exact {d : Description} {settings : Settings} {mapping : SortedMap Char (List TypeId)} {v w : World}
    (hv : Reachable { (Ruleset.compile d settings).value with levelMapping := mapping } v) (h : v.Ensues w)
    (reference : Option Vec) :
    let seen := Role.all.flatMap fun role => (w.positionsByRole role reference).flatten
    seen.Perm (w.live.map fun e => .ofSprite reference e.2) ∧ (seen.map (·.id)).Nodup ∧
    (∀ role o, o ∈ (w.positionsByRole role reference).flatten ↔ ∃ key s t, w.sprite? key = some s ∧
      s.alive = true ∧ w.rules.template? key.type = some t ∧ t.role = role ∧ o.Shows reference key.type s) ∧
    ∀ role, ∃ types : List TypeId, types.Pairwise (· < ·) ∧
      (∀ type, type ∈ types ↔
        (∃ t, w.rules.template? type = some t ∧ t.role = role) ∧ ∃ s ∈ w.group type, s.alive = true) ∧
      List.Forall₂ (w.Lists reference) types (w.positionsByRole role reference) := by
  intro seen
  have haligned : Ruleset.Aligned { (Ruleset.compile d settings).value with levelMapping := mapping } :=
    { Ruleset.aligned_compile d settings with }
  have hsettled : v.Settled := hv.settled haligned
  have hrules : w.rules = { (Ruleset.compile d settings).value with levelMapping := mapping } := h.rules.trans hv.rules
  have htemplates : ∀ type < w.groups.size, ∃ t, w.rules.template? type = some t := by
    intro type htype
    rw [h.size, hsettled.size, ← h.rules, hrules] at htype
    rw [hrules]
    exact haligned.exists_template htype
  have hperm : seen.Perm (w.live.map fun e => .ofSprite reference e.2) := perm_sightings htemplates reference
  refine ⟨hperm, ?_, fun role o => ?_, fun role => ⟨w.seenTypes role, ?_, fun type => ?_, ?_⟩⟩
  · rw [(hperm.map (·.id)).nodup_iff, List.map_map]
    exact hsettled.nodup_live_ids h
  · have htype : ∀ {key s}, w.sprite? key = some s → s.type = key.type := fun {key s} hs =>
      hsettled.type_of_later h (mem_group_iff.2 ⟨key.index, hs⟩)
    rw [mem_sightings]
    constructor
    · rintro ⟨key, s, hs, halive, hrole, ho⟩
      obtain ⟨t, ht, hrole⟩ := Ruleset.hasRole_iff.1 hrole
      exact ⟨key, s, t, hs, halive, ht, hrole, htype hs ▸ Observation.shows_iff.2 ho⟩
    · rintro ⟨key, s, t, hs, halive, ht, hrole, hshows⟩
      have ho : o = .ofSprite reference s := Observation.shows_iff.1 (htype hs ▸ hshows)
      exact ⟨key, s, hs, halive, Ruleset.hasRole_iff.2 ⟨t, ht, hrole⟩, ho⟩
  · exact (List.pairwise_lt_range.filter _).filter _
  · rw [mem_seenTypes, Ruleset.hasRole_iff]
  · rw [positionsByRole_eq, List.forall₂_map_right_iff, List.forall₂_same]
    intro type htype
    refine hsettled.lists h reference fun hnil => ?_
    have := (List.mem_filter.1 htype).2
    rw [hnil] at this
    cases this

/-- A gem of the errand in the first row, seen from a distance. -/
def gemAt (id : Nat) (x distanceSq : Float32) : Observation := ⟨1, id, ⟨x, 0⟩, ⟨x, 0, 10, 10⟩, distanceSq⟩

/-- What can be checked of the start: the gems, and who is there without the second of them. -/
def gemsCheck (w : World) : Bool :=
  w.seenTypes .resource = [1] &&
    (w.liveOf 1).map (fun e => Observation.ofSprite (some ⟨30, 0⟩) e.2) =
      [gemAt 1 0 900, gemAt 2 20 100, gemAt 4 40 100] &&
    (w.kill ⟨1, 1⟩).live.map (·.2.id) = [1, 4, 3]

/-- The avatar has a gem on either side, and the older one is listed first; the one farther away is
the last. When a gem is gone, the others and the avatar are seen. -/
theorem sightings_exact_errand :
    ∃ start, build (Ruleset.compile errand .default).value "g gAg" 7 = .ok start ∧
      start.positionsByRole .resource (some ⟨30, 0⟩) = [[gemAt 2 20 100, gemAt 4 40 100, gemAt 1 0 900]] ∧
      let w := start.kill ⟨1, 1⟩
      let seen := Role.all.flatMap fun role => (w.positionsByRole role none).flatten
      start.Ensues w ∧ (seen.map (·.id)).Nodup ∧ (seen.map (·.id)).Perm [1, 4, 3] := by
  obtain ⟨start, hbuild, hcheck⟩ := @exists_start (Ruleset.compile errand .default).value "g gAg" 7 gemsCheck
    (by decide +kernel)
  simp only [gemsCheck, Bool.and_eq_true, decide_eq_true_eq] at hcheck
  obtain ⟨⟨htypes, hgems⟩, hlive⟩ := hcheck
  have hsort : [gemAt 1 0 900, gemAt 2 20 100, gemAt 4 40 100].mergeSort Observation.closer =
      [gemAt 2 20 100, gemAt 4 40 100, gemAt 1 0 900] := by
    have hfirst : Observation.closer (gemAt 1 0 900) (gemAt 2 20 100) = false := by decide +kernel
    have hlast : Observation.closer (gemAt 1 0 900) (gemAt 4 40 100) = false := by decide +kernel
    have htie : Observation.closer (gemAt 2 20 100) (gemAt 4 40 100) = true := by decide +kernel
    simp [List.mergeSort, List.MergeSort.Internal.splitInTwo, List.splitAt, List.splitAt.go, hfirst, hlast, htie]
  have hensues : start.Ensues (start.kill ⟨1, 1⟩) := ensues_edit start (.kill ⟨1, 1⟩)
  obtain ⟨hperm, hnodup, -⟩ := sightings_exact (.start hbuild) hensues none
  refine ⟨start, hbuild, ?_, hensues, hnodup, ?_⟩
  · rw [positionsByRole_eq, htypes, List.map_singleton, observe, hgems, hsort]
  · have hids := hperm.map (·.id)
    rw [List.map_map] at hids
    exact hids.trans (.of_eq hlive)

end World

end SpriteGame
