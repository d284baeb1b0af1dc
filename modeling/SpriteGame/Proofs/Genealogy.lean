import SpriteGame.Proofs.Declaration
/-!
# The history of a registry

Names are registered one after the other, known ones again among them, each under none or
under a type that an earlier registration gave (`Grounded`). After any such history names and
types find each other, the way up from a type ends after its ancestors, and the descendants
that are kept are those whose way up comes by (`Orderly`). Later registrations add types and
leave those that are there as they are (`Extends`), and a name that is registered again has the
type that it has (`register_run`).
-/
namespace SpriteGame.Registry

/-! ## Histories -/

/-- A name to register, and the type to register it under. -/
structure Enrolment where
  name : String
  parent : Option TypeId
  deriving DecidableEq

/-- Register names one after the other: the types that this gives, and the registry after it. -/
def enrol (r : Registry) : List Enrolment → List TypeId × Registry
  | [] => ([], r)
  | e :: l =>
    let (id, r) := r.register e.name e.parent
    let (ids, r) := enrol r l
    (id :: ids, r)

/-- Every parent is a type that is known to begin with or that an earlier registration gave. -/
def Grounded (r : Registry) (known : List TypeId) : List Enrolment → Prop
  | [] => True
  | e :: l =>
    (∀ p ∈ e.parent, p ∈ known) ∧
      Grounded (r.register e.name e.parent).2 (known ++ [(r.register e.name e.parent).1]) l

instance decidableGrounded :
    (l : List Enrolment) → (r : Registry) → (known : List TypeId) → Decidable (r.Grounded known l)
  | [], _, _ => .isTrue trivial
  | _ :: l, _, _ => @instDecidableAnd _ _ inferInstance (decidableGrounded l _ _)

theorem snd_enrol_append (r : Registry) (l m : List Enrolment) :
    (r.enrol (l ++ m)).2 = ((r.enrol l).2.enrol m).2 := by
  induction l generalizing r with
  | nil => rfl
  | cons e l ih => exact ih _

/-- The types that the first part of a history gives are known in the rest of it. -/
theorem grounded_append {r : Registry} {known : List TypeId} {l m : List Enrolment} :
    r.Grounded known (l ++ m) ↔
      r.Grounded known l ∧ (r.enrol l).2.Grounded (known ++ (r.enrol l).1) m := by
  induction l generalizing r known with
  | nil => simp [Grounded, enrol]
  | cons e l ih =>
    simp only [List.cons_append, List.nil_append, Grounded, ih, enrol, and_assoc, List.append_assoc]

/-! ## What a registration leaves alone -/

/-- One registry has all types of another one, with the same names, parents and ancestors. -/
structure Extends (r s : Registry) : Prop where
  size : r.size ≤ s.size
  name : ∀ id < r.size, s.name id = r.name id
  resolve? : ∀ name id, r.resolve? name = some id → s.resolve? name = some id
  parent? : ∀ id < r.size, s.parent? id = r.parent? id
  ancestors : ∀ id < r.size, s.ancestors id = r.ancestors id

theorem Extends.refl (r : Registry) : r.Extends r :=
  ⟨Nat.le_refl _, fun _ _ => rfl, fun _ _ h => h, fun _ _ => rfl, fun _ _ => rfl⟩

theorem Extends.trans {r s t : Registry} (h : r.Extends s) (h' : s.Extends t) : r.Extends t where
  size := Nat.le_trans h.size h'.size
  name id hid := (h'.name id (Nat.lt_of_lt_of_le hid h.size)).trans (h.name id hid)
  resolve? name id hid := h'.resolve? name id (h.resolve? name id hid)
  parent? id hid := (h'.parent? id (Nat.lt_of_lt_of_le hid h.size)).trans (h.parent? id hid)
  ancestors id hid := (h'.ancestors id (Nat.lt_of_lt_of_le hid h.size)).trans (h.ancestors id hid)

theorem name_eq {r : Registry} {id : TypeId} (hid : id < r.size) : r.names[id]? = some (r.name id) := by
  have hlt : id < r.names.length := hid.trans_eq r.length_names.symm
  have hname : r.names[id]? = some r.names[id] := List.getElem?_eq_getElem hlt
  rw [name_of_getElem? hname, hname]

section Step

variable {r : Registry} (hr : r.WellFormed) {name : String} (h : r.resolve? name = none) (parent : Option TypeId)
include hr h

theorem name_register {id : TypeId} (hid : id < r.size) : (r.register name parent).2.name id = r.name id := by
  refine name_of_getElem? ?_
  rw [names_register hr h, List.getElem?_append_left (hid.trans_eq r.length_names.symm), name_eq hid]

theorem resolve?_register {other : String} {id : TypeId} (hother : r.resolve? other = some id) :
    (r.register name parent).2.resolve? other = some id := by
  rw [resolve?_eq] at hother
  rw [resolve?_eq, names_register hr h, List.findIdx?_append, hother, Option.some_or]

/-- The new type is the last one, with the name and the parent that it is registered with. -/
theorem name_register_new : (r.register name parent).2.name r.size = name := by
  refine name_of_getElem? ?_
  rw [names_register hr h, ← r.length_names, List.getElem?_concat_length]

theorem parent?_register_new : (r.register name parent).2.parent? r.size = parent := by
  rw [parent?, ancestors_register h parent (hr.nodup_lineage parent), if_pos rfl]
  cases parent <;> rfl

theorem resolve?_register_new : (r.register name parent).2.resolve? name = some r.size := by
  have hnew : r.names.findIdx? (· = name) = none := (r.resolve?_eq name).symm.trans h
  rw [resolve?_eq, names_register hr h, List.findIdx?_append, hnew, Option.none_or, ← r.length_names]
  simp

end Step

theorem extends_register {r : Registry} (hr : r.WellFormed) (name : String) (parent : Option TypeId) :
    r.Extends (r.register name parent).2 := by
  cases h : r.resolve? name with
  | some id =>
    rw [register_of_known h]
    exact Extends.refl r
  | none =>
    have hancestors : ∀ id < r.size, (r.register name parent).2.ancestors id = r.ancestors id := fun id hid => by
      rw [ancestors_register h parent (hr.nodup_lineage parent), if_neg (Nat.ne_of_lt hid)]
    exact {
      size := (size_register h parent).symm ▸ Nat.le_succ _
      name := fun _ => name_register hr h parent
      resolve? := fun _ _ => resolve?_register hr h parent
      parent? := fun id hid => congrArg List.head? (hancestors id hid)
      ancestors := hancestors }

/-- Registering a name finds its type, the old one or a new one. -/
theorem resolve?_register_self {r : Registry} (hr : r.WellFormed) (name : String) (parent : Option TypeId) :
    (r.register name parent).2.resolve? name = some (r.register name parent).1 := by
  cases h : r.resolve? name with
  | some id =>
    rw [register_of_known h]
    exact h
  | none =>
    rw [fst_register h]
    exact resolve?_register_new hr h parent

/-! ## What holds after every history -/

/-- What every registration keeps: the chains are in order, no name has two types, the screen
edge has its name, and the types that are known are registered. -/
structure Kept (r : Registry) (known : List TypeId) : Prop where
  wellFormed : r.WellFormed
  nodup : r.names.Nodup
  edge : r.resolve? edgeName = some edge
  known : ∀ id ∈ known, id < r.size

theorem kept_new : Kept .new [edge] :=
  ⟨wellFormed_new, by decide, by simp [resolve?, new, edge], by decide⟩

section Run

variable {r : Registry} {known : List TypeId} (hr : r.Kept known)
include hr

theorem Kept.register {name : String} {parent : Option TypeId} (hp : ∀ p ∈ parent, p ∈ known) :
    (r.register name parent).2.Kept (known ++ [(r.register name parent).1]) where
  wellFormed := wellFormed_register hr.wellFormed name fun p hmem => hr.known p (hp p hmem)
  nodup := nodup_register hr.wellFormed hr.nodup name parent
  edge := (extends_register hr.wellFormed name parent).resolve? _ _ hr.edge
  known id hid := by
    rcases List.mem_append.1 hid with hid | hid
    · exact Nat.lt_of_lt_of_le (hr.known id hid) (extends_register hr.wellFormed name parent).size
    · rw [List.mem_singleton.1 hid]
      exact resolve?_lt (resolve?_register_self hr.wellFormed name parent)

theorem Kept.enrol {l : List Enrolment} (hl : r.Grounded known l) :
    (r.enrol l).2.Kept (known ++ (r.enrol l).1) := by
  induction l generalizing r known with
  | nil => simpa [Registry.enrol] using hr
  | cons e l ih =>
    -- What the first registration gives is known in the rest.
    obtain ⟨hparent, hl⟩ := hl
    have hrest := ih (hr.register hparent) hl
    rwa [List.append_assoc, List.singleton_append] at hrest

theorem extends_enrol {l : List Enrolment} (hl : r.Grounded known l) : r.Extends (r.enrol l).2 := by
  induction l generalizing r known with
  | nil => exact Extends.refl r
  | cons e l ih => exact (extends_register hr.wellFormed _ _).trans (ih (hr.register hl.1) hl.2)

/-- A registration gives the type that its name has from then on. -/
theorem ids_enrol {l : List Enrolment} (hl : r.Grounded known l) :
    (r.enrol l).1.map some = l.map fun e => (r.enrol l).2.resolve? e.name := by
  induction l generalizing r known with
  | nil => rfl
  | cons e l ih =>
    obtain ⟨hparent, hl⟩ := hl
    have hrest : (r.register e.name e.parent).2.Kept _ := hr.register hparent
    have hfound := resolve?_register_self hr.wellFormed e.name e.parent
    -- The rest of the history leaves the type of the first name alone.
    exact List.cons_eq_cons.2 ⟨((extends_enrol hrest hl).resolve? _ _ hfound).symm, ih hrest hl⟩

end Run

/-! ## The way up -/

/-- Going up from a type, from parent to parent, comes to an end after these types. -/
inductive Climb (r : Registry) : TypeId → List TypeId → Prop where
  | root {id : TypeId} (h : r.parent? id = none) : Climb r id []
  | up {id p : TypeId} {chain : List TypeId} (h : r.parent? id = some p) (hp : Climb r p chain) :
    Climb r id (p :: chain)

/-- There is one way up. -/
theorem Climb.eq {r : Registry} {id : TypeId} {chain other : List TypeId} (h : r.Climb id chain)
    (h' : r.Climb id other) : chain = other := by
  induction h generalizing other with
  | root hroot =>
    cases h' with
    | root => rfl
    | up hup => cases hroot.symm.trans hup
  | up hup _ ih =>
    cases h' with
    | root hroot => cases hroot.symm.trans hup
    | up hup' hp' =>
      obtain rfl := Option.some.inj (hup.symm.trans hup')
      rw [ih hp']

section Orderly

variable {r : Registry} (hr : r.WellFormed)
include hr

theorem WellFormed.parent?_lt {id p : TypeId} (h : r.parent? id = some p) : p < id ∧ id < r.size := by
  have hmem : p ∈ r.ancestors id := List.mem_of_head? h
  refine ⟨hr.older hmem, Nat.lt_of_not_le fun hle => ?_⟩
  rw [ancestors_of_size_le hle] at hmem
  cases hmem

/-- The way up is that through the ancestors: it ends since parents are older. -/
theorem WellFormed.climb (id : TypeId) : r.Climb id (r.ancestors id) := by
  induction id using Nat.strong_induction_on with
  | _ id ih =>
    rw [hr.chained id]
    cases h : r.parent? id with
    | none => exact .root h
    | some p => exact .up h (ih p (hr.parent?_lt h).1)

end Orderly

/-- Names and types find each other, and the types are a forest in which children are younger
than parents, with the ancestors and the descendants of each type as it has them. -/
structure Orderly (r : Registry) : Prop where
  resolve?_name : ∀ id < r.size, r.resolve? (r.name id) = some id
  name_of_resolve? : ∀ name id, r.resolve? name = some id → id < r.size ∧ r.name id = name
  edge : r.resolve? edgeName = some edge ∧ r.name edge = edgeName
  parent?_lt : ∀ id p, r.parent? id = some p → p < id ∧ id < r.size
  /-- The way up from a type ends, and it is that through the ancestors. -/
  climb : ∀ id chain, r.Climb id chain ↔ chain = r.ancestors id
  falling : ∀ id, (r.ancestors id).Pairwise (· > ·)
  nodup : ∀ id, (r.ancestors id).Nodup
  head? : ∀ id, (r.ancestors id).head? = r.parent? id
  /-- The descendants of a type are itself and those that have it among their ancestors, -/
  mem_descendants : ∀ a < r.size, ∀ d, d ∈ r.descendants a ↔ d = a ∨ a ∈ r.ancestors d
  isA : ∀ a < r.size, ∀ d, r.isA d a = true ↔ d = a ∨ a ∈ r.ancestors d
  /-- each of them once. -/
  ascending : ∀ a, (r.descendants a).Pairwise (· < ·)

theorem Kept.orderly {r : Registry} {known : List TypeId} (hr : r.Kept known) : r.Orderly where
  resolve?_name _ := resolve?_name_of_nodup hr.nodup
  name_of_resolve? _ _ h := ⟨resolve?_lt h, Registry.name_of_resolve? h⟩
  edge := ⟨hr.edge, Registry.name_of_resolve? hr.edge⟩
  parent?_lt _ _ := hr.wellFormed.parent?_lt
  climb id chain := by
    constructor
    · exact fun h => h.eq (hr.wellFormed.climb id)
    · rintro rfl
      exact hr.wellFormed.climb id
  falling id := (List.pairwise_cons.1 (hr.wellFormed.falling id)).2
  nodup id := (List.pairwise_cons.1 (hr.wellFormed.falling id)).2.imp Nat.ne_of_gt
  head? _ := rfl
  mem_descendants _ ha _ := hr.wellFormed.mem_descendants ha
  isA _ ha _ := by rw [isA, List.contains_iff_mem, hr.wellFormed.mem_descendants ha]
  ascending := hr.wellFormed.ascending

/-- What registering a name does. -/
structure Registers (r : Registry) : Prop where
  /-- A known name, under whatever parent, has the type that it has, and nothing changes. -/
  known : ∀ name old, r.resolve? name = some old → ∀ parent, r.register name parent = (old, r)
  /-- An unknown one gets the next type, with this name and this parent. -/
  unknown : ∀ name, r.resolve? name = none → ∀ parent, (∀ p ∈ parent, p < r.size) →
    let s := (r.register name parent).2
    (r.register name parent).1 = r.size ∧ s.size = r.size + 1 ∧ s.name r.size = name ∧ s.parent? r.size = parent

theorem WellFormed.registers {r : Registry} (hr : r.WellFormed) : r.Registers where
  known _ _ h parent := register_of_known h parent
  unknown _ h parent _ :=
    ⟨fst_register h parent, size_register h parent, name_register_new hr h parent, parent?_register_new hr h parent⟩

/-- A registry is orderly after every history, its types are those that the registrations gave,
and it stays part of what comes of it. -/
theorem register_run {l later : List Enrolment} (h : Grounded .new [edge] (l ++ later)) :
    let r := (enrol .new l).2
    r.Orderly ∧
      (enrol .new l).1.map some = l.map (fun e => r.resolve? e.name) ∧
      r.Registers ∧ r.Extends (enrol .new (l ++ later)).2 := by
  intro r
  obtain ⟨hl, hlater⟩ := grounded_append.1 h
  have hr : r.Kept ([edge] ++ (enrol .new l).1) := kept_new.enrol hl
  refine ⟨hr.orderly, ids_enrol kept_new hl, hr.wellFormed.registers, ?_⟩
  rw [snd_enrol_append]
  exact extends_enrol hr hlater

/-- Ghosts are characters, characters and the avatar move; characters are registered twice. -/
def kin : List Enrolment :=
  [⟨"moving", none⟩, ⟨"npc", some 1⟩, ⟨"ghost", some 2⟩, ⟨"npc", none⟩, ⟨"avatar", some 1⟩]

/-- The way up from the ghosts ends after what moves, also when there is a ghost of its own later. -/
theorem register_run_kin :
    Grounded .new [edge] (kin ++ [⟨"blinky", some 3⟩]) ∧ (enrol .new kin).1 = [1, 2, 3, 2, 4] ∧
      let r := (enrol .new kin).2
      let s := (enrol .new (kin ++ [⟨"blinky", some 3⟩])).2
      r.Climb 3 [2, 1] ∧ (∀ d, d ∈ r.descendants 2 ↔ d = 2 ∨ 2 ∈ r.ancestors d) ∧ r.descendants 1 = [1, 2, 3, 4] ∧
        r.register "ghost" none = (3, r) ∧ s.resolve? "ghost" = some 3 ∧ s.ancestors 3 = [2, 1] ∧
        s.descendants 3 = [3, 5] := by
  have hgrounded : Grounded .new [edge] (kin ++ [⟨"blinky", some 3⟩]) := by decide +kernel
  obtain ⟨horderly, -, hregisters, hextends⟩ := register_run hgrounded
  have hancestors : (enrol .new kin).2.ancestors 3 = [2, 1] := by decide +kernel
  have hghost : (enrol .new kin).2.resolve? "ghost" = some 3 := by decide +kernel
  have hsize : (enrol .new kin).2.size = 5 := by decide +kernel
  refine ⟨hgrounded, by decide +kernel, (horderly.climb 3 _).2 hancestors.symm,
    horderly.mem_descendants 2 (by rw [hsize]; decide), by decide +kernel, hregisters.known _ _ hghost none,
    hextends.resolve? _ _ hghost, ?_, by decide +kernel⟩
  rw [hextends.ancestors 3 (by rw [hsize]; decide), hancestors]

end SpriteGame.Registry
