import Mathlib.Data.List.Chain
import SpriteGame.Proofs.Effects
/-!
# The second half of a tick, moment by moment

The rules of a tick fire one after the other, and each effect is made edit by edit.
`moments` lists every world on the way. From one moment to the next there is one edit,
which leaves alone what is gone, or a draw or a score (`Moment.Next`). Hence
`moments_fireAll`: once a sprite is removed nothing changes it any more and no rule is
applied to it.
-/
namespace SpriteGame

/-- Whether a sprite is a side of a collision. -/
def Collision.Involves (c : Collision) (key : Key) : Prop := c.first = key ∨ c.second = some key

/-- A moment of the second half of a tick. -/
structure Moment where
  world : World
  /-- The rule whose effect is applied at this moment. -/
  opens : Option Entry

namespace World

/-! ## The moments of a list of rules -/

/-- The moments of making edits. -/
def editMoments (w : World) : List Edit → List Moment
  | [] => [⟨w, none⟩]
  | e :: es => ⟨w, none⟩ :: (w.edit e).editMoments es

/-- The moments of applying the effect of a rule. -/
def effectMoments (w : World) (e : Entry) : List Moment :=
  ⟨w, some e⟩ ::
    match e.2.effect.edits? w (some e.1.first) e.1.second with
    | none => []
    | some (es, rng) => { w with rng }.editMoments es

/-- The moments of firing a rule. -/
def ruleMoments (w : World) (e : Entry) : List Moment :=
  let (happens, rng) := w.rng.chance e.2.prob
  ⟨w, none⟩ :: if e.1.holds w && happens then { w with rng }.effectMoments e else []

/-- The moments of firing rules, one after the other. -/
def moments (w : World) : List Entry → List Moment
  | [] => [⟨w, none⟩]
  | e :: es => w.ruleMoments e ++ (w.fireEntry e).moments es

/-- What firing a rule comes to: its moments, and the world at the end. -/
inductive Fires (w : World) (e : Entry) : List Moment → World → Prop
  /-- A side is gone, or chance decides against the rule. -/
  | idle (rng : Random) : Fires w e [⟨w, none⟩] { w with rng }
  /-- The effect does not come about. -/
  | vain {rng : Random} : e.1.holds w = true →
      e.2.effect.edits? { w with rng } (some e.1.first) e.1.second = none →
      Fires w e [⟨w, none⟩, ⟨{ w with rng }, some e⟩] { w with rng }
  /-- The effect makes its edits, and the rule scores. -/
  | done {rng rng' : Random} {es : List Edit} (pendingScore : Int) : e.1.holds w = true →
      e.2.effect.edits? { w with rng } (some e.1.first) e.1.second = some (es, rng') →
      Fires w e (⟨w, none⟩ :: ⟨{ w with rng }, some e⟩ :: { w with rng := rng' }.editMoments es)
        { { w with rng := rng' }.edits es with pendingScore }

theorem fires (w : World) (e : Entry) : w.Fires e (w.ruleMoments e) (w.fireEntry e) := by
  unfold ruleMoments fireEntry fireRule applyRule effectMoments
  cases hholds : e.1.holds w with
  | false => exact .idle w.rng
  | true =>
    cases w.rng.chance e.2.prob with
    | mk happens rng =>
      cases happens with
      | false => exact .idle rng
      | true =>
        dsimp only
        cases hedits : e.2.effect.edits? { w with rng } (some e.1.first) e.1.second with
        | none =>
          rw [Effect.apply_of_none hedits]
          exact .vain hholds hedits
        | some result =>
          obtain ⟨es, rng'⟩ := result
          rw [Effect.apply_of_some hedits]
          exact .done _ hholds hedits

/-! ## From moment to moment -/

end World

/-- Between two moments there is one edit, of what is alive, or a draw or a score. -/
def Moment.Next (a b : Moment) : Prop :=
  (∃ e, a.world.SparesOne e ∧ b.world = a.world.edit e) ∨
    ∃ rng pendingScore, b.world = { a.world with rng, pendingScore }

/-- What lasts from one moment to a later one. -/
structure Moment.Lasts (a b : Moment) : Prop where
  ensues : a.world.Ensues b.world
  freezes : a.world.Freezes b.world

instance : Trans Moment.Lasts Moment.Lasts Moment.Lasts where
  trans h h' := ⟨h.ensues.trans h'.ensues, h.freezes.trans h'.freezes⟩

theorem Moment.Next.lasts {a b : Moment} (h : a.Next b) : a.Lasts b := by
  rcases h with ⟨e, he, hb⟩ | ⟨rng, pendingScore, hb⟩
  · refine ⟨?_, ?_⟩ <;> rw [hb]
    · exact World.ensues_edit _ e
    · exact World.freezes_edit he
  · refine ⟨?_, ?_⟩ <;> rw [hb]
    · exact World.ensues_set _ rng pendingScore
    · exact World.freezes_set _ rng pendingScore

namespace World

theorem head?_editMoments (w : World) (es : List Edit) : (w.editMoments es).head? = some ⟨w, none⟩ := by
  cases es <;> rfl

theorem getLast?_editMoments (w : World) (es : List Edit) :
    (w.editMoments es).getLast? = some ⟨w.edits es, none⟩ := by
  induction es generalizing w with
  | nil => rfl
  | cons e es ih =>
    unfold editMoments
    rw [List.getLast?_cons, ih]
    rfl

theorem isChain_editMoments {w : World} {es : List Edit} (h : w.Spares es) :
    (w.editMoments es).IsChain Moment.Next := by
  induction es generalizing w with
  | nil => exact .singleton _
  | cons e es ih =>
    refine (ih h.2).cons fun m hm => ?_
    rw [head?_editMoments] at hm
    obtain rfl := Option.some.inj hm
    exact .inl ⟨e, h.1, rfl⟩

theorem Fires.head? {w v : World} {e : Entry} {ms : List Moment} (h : w.Fires e ms v) :
    ms.head? = some ⟨w, none⟩ := by
  cases h <;> rfl

theorem Fires.isChain {w v : World} {e : Entry} {ms : List Moment} (h : w.Fires e ms v) :
    ms.IsChain Moment.Next := by
  have hdraw : ∀ rng, Moment.Next ⟨w, none⟩ ⟨{ w with rng }, some e⟩ :=
    fun rng => .inr ⟨rng, w.pendingScore, rfl⟩
  cases h with
  | idle => exact .singleton _
  | vain => exact .cons_cons (hdraw _) (.singleton _)
  | @done rng rng' es _ hholds hedits =>
    -- Who is alive does not depend on the generator.
    have htidy : ({ w with rng := rng' } : World).Tidy e.2.effect.makes es :=
      @Effect.tidy_edits? _ { w with rng } _ _ _ hholds hedits
    refine .cons_cons (hdraw rng) ((isChain_editMoments htidy.spares).cons fun m hm => ?_)
    rw [head?_editMoments] at hm
    obtain rfl := Option.some.inj hm
    exact .inr ⟨rng', w.pendingScore, rfl⟩

/-- From its last moment it is one step to the world at the end. -/
theorem Fires.next {w v : World} {e : Entry} {ms : List Moment} (h : w.Fires e ms v) {m : Moment}
    (hm : m ∈ ms.getLast?) : m.Next ⟨v, none⟩ := by
  cases h with
  | idle rng =>
    obtain rfl := Option.some.inj hm
    exact .inr ⟨rng, w.pendingScore, rfl⟩
  | @vain rng =>
    obtain rfl := Option.some.inj hm
    exact .inr ⟨rng, w.pendingScore, rfl⟩
  | done pendingScore =>
    rw [List.getLast?_cons, List.getLast?_cons, getLast?_editMoments] at hm
    obtain rfl := Option.some.inj hm
    exact .inr ⟨_, pendingScore, rfl⟩

theorem head?_moments (w : World) (es : List Entry) : (w.moments es).head? = some ⟨w, none⟩ := by
  cases es with
  | nil => rfl
  | cons e es =>
    unfold moments
    rw [List.head?_append, (fires w e).head?]
    rfl

theorem getLast?_moments (w : World) (es : List Entry) :
    (w.moments es).getLast? = some ⟨es.foldl fireEntry w, none⟩ := by
  induction es generalizing w with
  | nil => rfl
  | cons e es ih =>
    unfold moments
    rw [List.getLast?_append, ih]
    rfl

theorem isChain_moments (w : World) (es : List Entry) : (w.moments es).IsChain Moment.Next := by
  induction es generalizing w with
  | nil => exact .singleton _
  | cons e es ih =>
    refine (fires w e).isChain.append (ih _) fun m hm n hn => ?_
    rw [head?_moments] at hn
    obtain rfl := Option.some.inj hn
    exact (fires w e).next hm

theorem pairwise_moments (w : World) (es : List Entry) : (w.moments es).Pairwise Moment.Lasts :=
  ((isChain_moments w es).imp fun _ _ => Moment.Next.lasts).pairwise

/-- Every moment comes after the first. -/
theorem ensues_of_mem_moments {w : World} {es : List Entry} {m : Moment} (hm : m ∈ w.moments es) :
    w.Ensues m.world := by
  have hpair := pairwise_moments w es
  have hhead := head?_moments w es
  cases hms : w.moments es with
  | nil => rw [hms] at hm; cases hm
  | cons first rest =>
    rw [hms] at hm hpair hhead
    obtain rfl := Option.some.inj hhead
    rcases List.mem_cons.1 hm with rfl | hm
    · exact .refl _
    · exact ((List.pairwise_cons.1 hpair).1 m hm).ensues

/-! ## The rules that are applied -/

end World

/-- Whether a sprite is the first side of an effect that removes it and comes about. -/
def Moment.Ends (m : Moment) (key : Key) : Prop :=
  ∃ e : Entry, m.opens = some e ∧ e.1.first = key ∧ e.2.effect.endsFirst = true ∧
    (e.2.effect.apply m.world (some e.1.first) e.1.second).1 = true

/-- What one moment says of a later one: what is gone is no side of a rule that is
applied. -/
structure Moment.Precedes (a b : Moment) : Prop extends a.Lasts b where
  spared : ∀ key, a.world.isAlive key = false → ∀ e, b.opens = some e → ¬ e.1.Involves key
  ended : ∀ key, a.Ends key → ∀ e, b.opens = some e → ¬ e.1.Involves key

theorem Collision.isAlive_of_involves {c : Collision} {w : World} (h : c.holds w = true) {key : Key}
    (hkey : c.Involves key) : w.isAlive key = true := by
  rw [holds_iff] at h
  rcases hkey with rfl | hkey
  · exact h.1
  · exact h.2 key hkey

namespace World

theorem opens_editMoments {w : World} {es : List Edit} {m : Moment} (hm : m ∈ w.editMoments es) :
    m.opens = none := by
  induction es generalizing w with
  | nil =>
    rw [List.mem_singleton.1 hm]
  | cons e es ih =>
    rcases List.mem_cons.1 hm with rfl | hm
    · rfl
    · exact ih hm

/-- At most one moment of a rule is that of its application: the second one, if its sides
are there. -/
theorem Fires.opens {w v : World} {e o : Entry} {ms : List Moment} (h : w.Fires e ms v) {m : Moment} (hm : m ∈ ms)
    (ho : m.opens = some o) : o = e ∧ e.1.holds w = true ∧ ∃ rng, m.world = { w with rng } := by
  cases h with
  | idle =>
    rw [List.mem_singleton.1 hm] at ho
    cases ho
  | @vain rng hholds =>
    rcases List.mem_cons.1 hm with rfl | hm
    · cases ho
    · obtain rfl := List.mem_singleton.1 hm
      exact ⟨(Option.some.inj ho).symm, hholds, rng, rfl⟩
  | @done rng _ _ _ hholds =>
    rcases List.mem_cons.1 hm with rfl | hm
    · cases ho
    rcases List.mem_cons.1 hm with rfl | hm
    · exact ⟨(Option.some.inj ho).symm, hholds, rng, rfl⟩
    · rw [opens_editMoments hm] at ho
      cases ho

theorem Fires.pairwise_opens {w v : World} {e : Entry} {ms : List Moment} (h : w.Fires e ms v) :
    ms.Pairwise fun a b => a.opens = none ∨ b.opens = none := by
  cases h with
  | idle => exact List.pairwise_singleton ..
  | vain => exact .cons (fun _ _ => .inl rfl) (List.pairwise_singleton ..)
  | done =>
    refine .cons (fun _ _ => .inl rfl) (.cons (fun b hb => .inr (opens_editMoments hb)) ?_)
    exact List.pairwise_of_forall_mem_list fun a ha b hb => .inl (opens_editMoments ha)

/-- A side that the effect removes is gone at the end. -/
theorem Fires.isAlive_of_ends {w v : World} {e : Entry} {ms : List Moment} (h : w.Fires e ms v) {m : Moment}
    (hm : m ∈ ms) {key : Key} (hkey : m.Ends key) : v.isAlive key = false := by
  obtain ⟨o, ho, rfl, hends, hdone⟩ := hkey
  cases h with
  | idle =>
    rw [List.mem_singleton.1 hm] at ho
    cases ho
  | vain _ hedits =>
    rcases List.mem_cons.1 hm with rfl | hm
    · cases ho
    · -- The effect does not come about.
      obtain rfl := List.mem_singleton.1 hm
      obtain rfl := Option.some.inj ho
      rw [Effect.apply_of_none hedits] at hdone
      cases hdone
  | done pendingScore _ hedits =>
    rcases List.mem_cons.1 hm with rfl | hm
    · cases ho
    rcases List.mem_cons.1 hm with rfl | hm
    · obtain rfl := Option.some.inj ho
      exact isAlive_edits_of_kill (Effect.kill_mem_edits? hends hedits)
    · rw [opens_editMoments hm] at ho
      cases ho

/-- The sides of a rule that is applied are there. -/
theorem holds_moments {w : World} {es : List Entry} {m : Moment} (hm : m ∈ w.moments es) {e : Entry}
    (he : m.opens = some e) : e.1.holds m.world = true := by
  induction es generalizing w with
  | nil =>
    rw [List.mem_singleton.1 hm] at he
    cases he
  | cons e' es ih =>
    rcases List.mem_append.1 hm with hm | hm
    · obtain ⟨rfl, hholds, rng, hw⟩ := (fires w e').opens hm he
      rw [hw]
      exact hholds
    · exact ih hm

/-- Who is removed by an effect that comes about is no side of a rule that is applied after
it: the effect's own rule is applied just once, and when it has fired the side is gone. -/
theorem pairwise_ended_moments (w : World) (es : List Entry) :
    (w.moments es).Pairwise fun a b => ∀ key, a.Ends key → ∀ e, b.opens = some e → ¬ e.1.Involves key := by
  induction es generalizing w with
  | nil => exact List.pairwise_singleton ..
  | cons e es ih =>
    refine List.pairwise_append.2 ⟨?_, ih _, ?_⟩
    · -- Two moments of one rule: only one of them can be that of its application.
      refine (fires w e).pairwise_opens.imp fun h key hkey o ho => ?_
      obtain ⟨o', ho', -⟩ := hkey
      rcases h with h | h
      · rw [h] at ho'
        cases ho'
      · rw [h] at ho
        cases ho
    · -- A moment of the rule and one of a later rule.
      intro a ha b hb key hkey o ho hinvolves
      have hgone : b.world.isAlive key = false :=
        (ensues_of_mem_moments hb).gone key ((fires w e).isAlive_of_ends ha hkey)
      have halive : b.world.isAlive key = true :=
        Collision.isAlive_of_involves (holds_moments hb ho) hinvolves
      rw [hgone] at halive
      cases halive

/-- Removal in the second half of a tick. All sides of the detected collisions are there.
Rules fire in a list of moments from the world `w` to the one when all have fired, edit by
edit. Between an earlier moment and a later one sprites keep their places, a removed one
does not come back nor change, and the rest of the world stays but for the requests that
are added (`Ensues`, `Freezes`). A rule is applied only while its sides are there: never
again to a sprite that is gone, that has been collected or transformed. -/
theorem moments_fireAll (w : World) (cs : List Collision) :
    (∀ c ∈ w.detect, c.holds w = true) ∧
    (w.moments (w.agenda cs)).head? = some ⟨w, none⟩ ∧
    (w.moments (w.agenda cs)).getLast? = some ⟨w.fireAll cs, none⟩ ∧
    (w.moments (w.agenda cs)).IsChain Moment.Next ∧
    (∀ m ∈ w.moments (w.agenda cs), ∀ e, m.opens = some e → e.1.holds m.world = true) ∧
    (w.moments (w.agenda cs)).Pairwise Moment.Precedes := by
  refine ⟨fun c => holds_of_mem_detect, head?_moments .., ?_, isChain_moments .., fun m hm e => holds_moments hm, ?_⟩
  · rw [getLast?_moments, fireAll_eq]
  · have hboth := (pairwise_moments w (w.agenda cs)).and (pairwise_ended_moments w (w.agenda cs))
    refine hboth.imp_of_mem fun {a b} _ hb h => { h.1 with spared := fun key hkey e he hinvolves => ?_, ended := h.2 }
    have halive : b.world.isAlive key = true :=
      Collision.isAlive_of_involves (holds_moments hb he) hinvolves
    rw [h.1.ensues.gone key hkey] at halive
    cases halive

end World

end SpriteGame
