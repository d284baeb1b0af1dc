import SpriteGame.Proofs.Complete
/-!
# Numbered types

Which parameters a termination takes is decided by one test, which of them name the types that
are counted by another. They agree for the kinds that take at most one type. Where several are
counted, every name that begins with `stype` is taken, but a type is read only where a number
follows (`heeds_read?`): the other parameters go by unread and unreported.
-/
namespace SpriteGame

namespace TerminationKind

/-- The number in the name of a parameter, which the types are ordered by. -/
def number? (key : String) : Option Nat := (numbering? key).bind (Numeral.unsigned? Numeral.wordMax)

/-- A parameter that is taken for a type. -/
def beginsType (key : String) : Bool := (numbering? key).isSome

/-- A parameter that a type is read from. -/
def isNumbered (key : String) : Bool := (number? key).isSome

theorem beginsType_of_isNumbered {key : String} (h : isNumbered key) : beginsType key := by
  unfold isNumbered number? at h
  unfold beginsType
  cases hn : numbering? key with
  | none => rw [hn] at h; exact h
  | some _ => rfl

end TerminationKind

namespace Termination

open Checked TerminationKind

variable {params : Params} {place : Place} {registry : Registry}

/-! ## The parameters of the types -/

/-- The parameters that the types of a condition are read from, in the order of the types. -/
def typeKeys (params : Params) : TerminationKind → List String
  | .spriteCounter => ["stype"]
  | .multiSpriteCounter => numberedTypes params
  | .timeout => []

/-- A parameter names a type by its first entry. -/
def Names (registry : Registry) (params : Params) (key : String) (type : TypeId) : Prop :=
  ∃ entry, params.raw? key = some entry ∧ registry.resolve? (String.ofList entry) = some type

theorem map_filterMap_number (keys : List String) :
    (keys.filterMap fun key => (number? key).map (·, key)).map (·.2) = keys.filter isNumbered := by
  induction keys with
  | nil => rfl
  | cons key keys ih =>
    cases hkey : number? key with
    | none => simp [isNumbered, hkey, ih]
    | some n => simp [isNumbered, hkey, ih]

/-- Whatever their order, these are all parameters with a number. -/
theorem numberedTypes_perm (params : Params) : (numberedTypes params).Perm (params.keys.filter isNumbered) :=
  map_filterMap_number params.keys ▸ (List.mergeSort_perm _ _).map _

theorem exists_raw? {key : String} (h : key ∈ params.keys) : ∃ entry, params.raw? key = some entry := by
  obtain ⟨value, hvalue⟩ := SortedMap.exists_get?_of_mem_keys h
  exact ⟨Params.firstEntry value, by rw [Params.raw?, hvalue, Option.map_some]⟩

/-- Types that are read from the values of parameters are each named by one. -/
theorem forall₂_names {keys : List String} {types : List TypeId} (hkeys : ∀ key ∈ keys, key ∈ params.keys)
    (h : List.Forall₂ (fun name type => registry.resolve? name = some type)
      ((keys.filterMap params.raw?).map String.ofList) types) :
    List.Forall₂ (Names registry params) keys types := by
  induction keys generalizing types with
  | nil =>
    cases h
    exact .nil
  | cons key keys ih =>
    obtain ⟨hkey, hkeys⟩ := List.forall_mem_cons.1 hkeys
    obtain ⟨entry, hentry⟩ := exists_raw? hkey
    rw [List.filterMap_cons_some hentry, List.map_cons] at h
    cases h with
    | cons htype htypes => exact .cons ⟨entry, hentry, htype⟩ (ih hkeys htypes)

/-- A condition has one type for each parameter that types are read from. -/
theorem names_readCondition {kind : TerminationKind} {t : Termination}
    (h : (readCondition params place registry kind).value = some t.condition) :
    List.Forall₂ (Names registry params) (typeKeys params kind) t.condition.types := by
  cases kind with
  | spriteCounter =>
    obtain ⟨type, htype, h⟩ := some_of_bind h rfl
    rw [← Option.some.inj h]
    exact .cons (Params.raw?_of_requiredSprite? htype) .nil
  | multiSpriteCounter =>
    refine forall₂_names (fun key hkey => ?_) (renders_readCondition h).2
    exact List.mem_of_mem_filter ((numberedTypes_perm params).mem_iff.1 hkey)
  | timeout =>
    rw [← Option.some.inj h]
    exact .nil

/-! ## What is taken -/

theorem value_readStrict {α : Type} (read : List Char → Option α) (key : String) (entry : Option (List Char))
    (default : α) : (readStrict place read key entry default).value = entry.elim (some default) read := by
  cases entry with
  | none => rfl
  | some entry =>
    unfold readStrict
    cases hread : read entry <;> simp [hread]

/-- A parameter that a kind takes is common to all, or names a type, or only begins like one that does. -/
theorem accepts_cases {kind : TerminationKind} {key : String} (hkey : key ∈ params.keys) (h : kind.accepts key) :
    key ∈ commonParams ∨ key ∈ typeKeys params kind ∨
      kind = .multiSpriteCounter ∧ beginsType key ∧ ¬ isNumbered key := by
  unfold accepts at h
  rcases Bool.or_eq_true_iff.1 h with h | h
  · exact .inl (List.contains_iff_mem.1 h)
  · refine .inr ?_
    cases kind with
    | spriteCounter => exact .inl (List.mem_singleton.2 (beq_iff_eq.1 h))
    | multiSpriteCounter =>
      by_cases hnumber : isNumbered key
      · exact .inl ((numberedTypes_perm params).mem_iff.2 (List.mem_filter.2 ⟨hkey, hnumber⟩))
      · exact .inr ⟨rfl, h, hnumber⟩
    | timeout => cases h

theorem accepts_of_problems {d : TerminationDef} {kind : TerminationKind}
    (hkind : TerminationKind.ofKeyword? d.kind = some kind) (h : (read? registry d).problems = []) :
    ∀ key ∈ d.params.keys, kind.accepts key := by
  unfold read? at h
  simp only [hkind, problems_bind, List.append_eq_nil_iff] at h
  have hunknown := List.filter_eq_nil_iff.1 (List.map_eq_nil_iff.1 h.1)
  exact fun key hkey => by simpa using hunknown key hkey

/-- Only if all parameters that begin like a type have a number there are as many types. -/
theorem length_numberedTypes_iff (params : Params) :
    (numberedTypes params).length = (params.keys.filter beginsType).length ↔
      ∀ key ∈ params.keys, beginsType key → isNumbered key := by
  have hboth : params.keys.filter isNumbered = (params.keys.filter beginsType).filter isNumbered := by
    rw [List.filter_filter]
    refine List.filter_congr fun key _ => ?_
    cases hkey : isNumbered key with
    | false => rfl
    | true => rw [beginsType_of_isNumbered hkey, Bool.and_self]
  rw [(numberedTypes_perm params).length_eq, hboth, List.length_filter_eq_length_iff]
  simp only [List.mem_filter, and_imp]

/-- What becomes of the parameters of a definition in the termination that is read from it. -/
structure Heeds (registry : Registry) (d : TerminationDef) (t : Termination) : Prop where
  kind : t.kind.keyword = d.kind
  limit : (d.params.raw? "limit").elim (some 0) (Numeral.signed? Numeral.longMax) = some t.limit
  score : (d.params.raw? "scoreChange").elim (some 0) (Numeral.signed? Numeral.longMax) = some t.score
  win : ((d.params.raw? "win").map Text.lower).elim (some false) Params.flag? = some t.win
  /-- There is one type for each parameter that types are read from, and it has the name in it. -/
  types : List.Forall₂ (Names registry d.params) (typeKeys d.params t.kind) t.condition.types
  /-- All other parameters are those of every kind; but where several types are counted there
  may be some that begin like a type and have no number. -/
  keys : ∀ key ∈ d.params.keys, key ∈ commonParams ∨ key ∈ typeKeys d.params t.kind ∨
    t.kind = .multiSpriteCounter ∧ beginsType key ∧ ¬ isNumbered key
  /-- The types of several are read from the parameters with a number. -/
  numbered : t.kind = .multiSpriteCounter → (typeKeys d.params t.kind).Perm (d.params.keys.filter isNumbered)
  /-- So there is a type for each parameter that begins like one just if all of them have a number. -/
  all : t.kind = .multiSpriteCounter →
    (t.condition.types.length = (d.params.keys.filter beginsType).length ↔
      ∀ key ∈ d.params.keys, beginsType key → isNumbered key)

/-- A definition without a problem gives a termination. What it has is read from the parameters
of the definition, and all of them are read, but for those of a count of several types that
begin like a type and have no number: these are passed over. -/
theorem heeds_read? {d : TerminationDef} (h : (read? registry d).problems = []) :
    ∃ t, (read? registry d).value = some t ∧ t.Heeds registry d := by
  obtain ⟨t, ht⟩ := accounted_read? d h
  obtain ⟨kind, hkind, hlimit, hscore, hwin, hcondition, -⟩ := parts_of_read? ht
  obtain ⟨rfl, -⟩ := renders_readCondition hcondition
  have htypes := names_readCondition hcondition
  refine ⟨t, ht, keyword_of_ofKeyword? hkind, ?_, ?_, ?_, htypes, fun key hkey => ?_, fun hmulti => ?_,
    fun hmulti => ?_⟩
  · rw [← hlimit, readNumber, value_readStrict]
  · rw [← hscore, readNumber, value_readStrict]
  · rw [← hwin, readFlag, value_readStrict]
  · exact accepts_cases hkey (accepts_of_problems hkind h key hkey)
  · rw [hmulti]
    exact numberedTypes_perm d.params
  · rw [← htypes.length_eq, hmulti]
    exact length_numberedTypes_iff d.params

/-- Avatars have type 1 and gems type 2. -/
def treasury : Registry := ((Registry.new.register "avatar" none).2.register "gem" none).2

/-- Avatars and gems are counted. -/
def census : TerminationDef :=
  ⟨"MultiSpriteCounter", .ofList [("stype2", "gem"), ("stype10", "avatar"), ("limit", "1"), ("win", "True")], 1⟩

theorem numberedTypes_census : numberedTypes census.params = ["stype2", "stype10"] := by
  have hnumbers : (census.params.keys.filterMap fun key => (number? key).map (·, key)) =
      [(10, "stype10"), (2, "stype2")] := by decide +kernel
  unfold number? at hnumbers
  rw [numberedTypes, hnumbers]
  simp [List.mergeSort, List.MergeSort.Internal.splitInTwo]

theorem read?_census : read? treasury census = pure (some ⟨.multiSpriteCounter [2, 1], 1, true, 0, census⟩) := by
  have hcondition : readCondition census.params (.termination census.kind census.line) treasury .multiSpriteCounter =
      pure (some (.multiSpriteCounter [2, 1])) := by
    unfold readCondition
    simp only [numberedTypes_census]
    exact Checked.ext (by decide +kernel) (by decide +kernel) (by decide +kernel)
  unfold read?
  rw [show ofKeyword? census.kind = some .multiSpriteCounter by decide +kernel]
  simp only [hcondition]
  exact Checked.ext (by decide +kernel) (by decide +kernel) (by decide +kernel)

/-- The gems come first, since theirs is the lower number. -/
theorem heeds_read?_census :
    (read? treasury census).problems = [] ∧
      ∃ t, (read? treasury census).value = some t ∧ t.Heeds treasury census ∧ t.condition.types = [2, 1] := by
  have hproblems : (read? treasury census).problems = [] := by rw [read?_census, problems_pure]
  obtain ⟨t, ht, hheeds⟩ := heeds_read? hproblems
  have hsame := ht
  rw [read?_census, value_pure, Option.some.injEq] at hsame
  exact ⟨hproblems, t, ht, hheeds, hsame ▸ rfl⟩

/-- A parameter without a number is not reported, and its type is not counted. -/
theorem read?_passes_over :
    let d : TerminationDef :=
      ⟨"MultiSpriteCounter", .ofList [("stype1", "avatar"), ("stype", "gem"), ("limit", "0")], 1⟩
    (read? treasury d).problems = [] ∧
      (read? treasury d).value.map (fun t => t.condition) = some (.multiSpriteCounter [1]) ∧
      d.params.keys.filter beginsType = ["stype", "stype1"] ∧
      d.params.raw? "stype" = some "gem".toList ∧ treasury.resolve? "gem" = some 2 := by
  decide +kernel

end Termination

end SpriteGame
