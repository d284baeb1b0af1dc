import SpriteGame.Tick.Advance
/-!
# What is found in a world

Which sprites the look-ups list and which collisions are detected. What is listed is
alive and found by its key, so all sides of a detected collision are there
(`holds_of_mem_detect`); what overlaps or leaves the screen is detected.
-/
namespace SpriteGame

theorem Collision.holds_iff {c : Collision} {w : World} :
    c.holds w = true ↔ w.isAlive c.first = true ∧ ∀ key, c.second = some key → w.isAlive key = true := by
  unfold holds
  rw [Bool.and_eq_true]
  refine and_congr_right fun _ => ?_
  cases c.second <;> simp

namespace World

/-! ## Live sprites -/

theorem mem_liveOf {w : World} {type : TypeId} {key : Key} {s : Sprite} :
    (key, s) ∈ w.liveOf type ↔ key.type = type ∧ w.sprite? key = some s ∧ s.alive = true := by
  unfold liveOf
  rw [List.mem_map]
  constructor
  · rintro ⟨⟨t, i⟩, ht, he⟩
    obtain ⟨rfl, rfl⟩ := Prod.mk.inj he
    obtain ⟨ht, halive⟩ := List.mem_filter.1 ht
    exact ⟨rfl, (sprite?_eq ..).trans (List.mk_mem_zipIdx_iff_getElem?.1 ht), halive⟩
  · rintro ⟨rfl, hs, halive⟩
    rw [sprite?_eq] at hs
    exact ⟨(s, key.index), List.mem_filter.2 ⟨List.mk_mem_zipIdx_iff_getElem?.2 hs, halive⟩, rfl⟩

theorem pairwise_zipIdx {α : Type} (l : List α) : l.zipIdx.Pairwise fun a b => a.2 < b.2 := by
  have hplaces : (l.zipIdx.map Prod.snd).Pairwise (· < ·) := by
    rw [List.zipIdx_map_snd]
    exact List.pairwise_lt_range'
  exact List.pairwise_map.1 hplaces

theorem pairwise_liveOf (w : World) (type : TypeId) :
    (w.liveOf type).Pairwise fun a b => a.1.index < b.1.index :=
  List.pairwise_map.2 ((pairwise_zipIdx _).filter _)

/-- Among the live sprites of different types no key is listed twice. -/
theorem nodup_flatMap_liveOf (w : World) {types : List TypeId} (h : types.Nodup) :
    ((types.flatMap w.liveOf).map (·.1)).Nodup := by
  refine List.pairwise_map.2 (List.pairwise_flatMap.2 ⟨fun type _ => ?_, ?_⟩)
  · exact (w.pairwise_liveOf type).imp fun h heq => Nat.ne_of_lt h (congrArg Key.index heq)
  · refine h.imp fun h x hx y hy heq => h ?_
    rw [← (mem_liveOf.1 hx).1, ← (mem_liveOf.1 hy).1, heq]

theorem nodup_live (w : World) : (w.live.map (·.1)).Nodup := w.nodup_flatMap_liveOf List.nodup_range

theorem isAlive_iff {w : World} {key : Key} :
    w.isAlive key = true ↔ ∃ s, w.sprite? key = some s ∧ s.alive = true := by
  unfold isAlive
  cases w.sprite? key with
  | none => simp
  | some s => simp

theorem isAlive_of_mem_liveOf {w : World} {type : TypeId} {e : Key × Sprite} (h : e ∈ w.liveOf type) :
    w.isAlive e.1 = true := by
  obtain ⟨-, hs, halive⟩ := mem_liveOf.1 h
  exact isAlive_iff.2 ⟨e.2, hs, halive⟩

theorem sprite?_of_mem_liveIn {w : World} {type : TypeId} {e : Key × Sprite} (h : e ∈ w.liveIn type) :
    w.sprite? e.1 = some e.2 := by
  obtain ⟨a, -, he⟩ := List.mem_flatMap.1 h
  exact (mem_liveOf.1 he).2.1

theorem isAlive_of_mem_liveIn {w : World} {type : TypeId} {e : Key × Sprite} (h : e ∈ w.liveIn type) :
    w.isAlive e.1 = true := by
  obtain ⟨a, -, he⟩ := List.mem_flatMap.1 h
  exact isAlive_of_mem_liveOf he

theorem mem_live {w : World} {key : Key} {s : Sprite} :
    (key, s) ∈ w.live ↔ w.sprite? key = some s ∧ s.alive = true := by
  unfold live
  simp only [List.mem_flatMap, List.mem_range, mem_liveOf]
  constructor
  · rintro ⟨type, -, -, hs, halive⟩
    exact ⟨hs, halive⟩
  · rintro ⟨hs, halive⟩
    refine ⟨key.type, Nat.lt_of_not_le fun hle => ?_, rfl, hs, halive⟩
    simp [sprite?, Array.getElem?_eq_none hle] at hs

theorem isAlive_of_mem_live {w : World} {e : Key × Sprite} (h : e ∈ w.live) : w.isAlive e.1 = true := by
  obtain ⟨hs, halive⟩ := mem_live.1 h
  exact isAlive_iff.2 ⟨e.2, hs, halive⟩

/-! ## Collisions -/

theorem pairing_of_mem_collisionsOf {w : World} {i : Nat} {p : Pairing} {c : Collision} (h : c ∈ w.collisionsOf i p) :
    c.pairing = i := by
  unfold collisionsOf at h
  split at h
  · obtain ⟨e, -, rfl⟩ := List.mem_map.1 h
    rfl
  · obtain ⟨e, -, hc⟩ := List.mem_flatMap.1 h
    obtain ⟨o, -, rfl⟩ := List.mem_map.1 hc
    rfl

theorem mem_detect {w : World} {c : Collision} :
    c ∈ w.detect ↔ ∃ p, w.rules.dispatch[c.pairing]? = some p ∧ c ∈ w.collisionsOf c.pairing p := by
  unfold detect
  rw [List.mem_flatMap]
  constructor
  · rintro ⟨⟨p, i⟩, hp, hc⟩
    obtain rfl : c.pairing = i := pairing_of_mem_collisionsOf hc
    exact ⟨p, Array.getElem?_toList ▸ List.mk_mem_zipIdx_iff_getElem?.1 hp, hc⟩
  · rintro ⟨p, hp, hc⟩
    exact ⟨(p, c.pairing), List.mk_mem_zipIdx_iff_getElem?.2 (Array.getElem?_toList.trans hp), hc⟩

theorem mem_collisionsOf_edge {w : World} {i : Nat} {p : Pairing} (h : p.second = Registry.edge) {c : Collision} :
    c ∈ w.collisionsOf i p ↔ c.pairing = i ∧ c.second = none ∧
      ∃ s, (c.first, s) ∈ w.liveOf p.first ∧ w.bounds.contains s.rect = false := by
  unfold collisionsOf outside
  rw [if_pos h, List.mem_map]
  constructor
  · rintro ⟨⟨k, s⟩, hs, rfl⟩
    obtain ⟨hs, hout⟩ := List.mem_filter.1 hs
    exact ⟨rfl, rfl, s, hs, by simpa using hout⟩
  · rintro ⟨rfl, hsecond, s, hs, hout⟩
    refine ⟨(c.first, s), List.mem_filter.2 ⟨hs, by simpa using hout⟩, ?_⟩
    rw [← hsecond]

theorem mem_collisionsOf {w : World} {i : Nat} {p : Pairing} (h : p.second ≠ Registry.edge) {c : Collision} :
    c ∈ w.collisionsOf i p ↔ c.pairing = i ∧ ∃ s other o, c.second = some other ∧
      (c.first, s) ∈ w.liveOf p.first ∧ (other, o) ∈ w.liveOf p.second ∧ other ≠ c.first ∧
      s.rect.intersects o.rect = true := by
  unfold collisionsOf overlapping
  rw [if_neg h, List.mem_flatMap]
  constructor
  · rintro ⟨⟨k, s⟩, hs, hc⟩
    obtain ⟨⟨other, o⟩, ho, rfl⟩ := List.mem_map.1 hc
    obtain ⟨ho, hmeet⟩ := List.mem_filter.1 ho
    rw [Bool.and_eq_true, decide_eq_true_eq] at hmeet
    exact ⟨rfl, s, other, o, rfl, hs, ho, hmeet.1, hmeet.2⟩
  · rintro ⟨rfl, s, other, o, hsecond, hs, ho, hne, hmeet⟩
    refine ⟨(c.first, s), hs, List.mem_map.2 ⟨(other, o), List.mem_filter.2 ⟨ho, ?_⟩, ?_⟩⟩
    · rw [Bool.and_eq_true, decide_eq_true_eq]
      exact ⟨hne, hmeet⟩
    · dsimp only
      rw [← hsecond]

/-- The sides of a detected collision are alive. -/
theorem holds_of_mem_detect {w : World} {c : Collision} (h : c ∈ w.detect) : c.holds w = true := by
  obtain ⟨p, -, hc⟩ := mem_detect.1 h
  rw [Collision.holds_iff]
  by_cases he : p.second = Registry.edge
  · obtain ⟨-, hsecond, s, hs, -⟩ := (mem_collisionsOf_edge he).1 hc
    refine ⟨isAlive_of_mem_liveOf hs, fun key hkey => ?_⟩
    rw [hsecond] at hkey
    cases hkey
  · obtain ⟨-, s, other, o, hsecond, hs, ho, -, -⟩ := (mem_collisionsOf he).1 hc
    refine ⟨isAlive_of_mem_liveOf hs, fun key hkey => ?_⟩
    obtain rfl := Option.some.inj (hsecond.symm.trans hkey)
    exact isAlive_of_mem_liveOf ho

end World

end SpriteGame
