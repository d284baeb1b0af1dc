import Mathlib.Data.List.Basic
import SpriteGame.Game.Parameter
import SpriteGame.Proofs.Words
/-!
# Entries

A value lists an entry for each player. An entry that names a placeholder gives way to the
placeholder's value, which may list entries itself: each of them counts from then on, and the
entries behind it move back (`decorate_entries`). A value keeps its number of entries, and every
entry its place, exactly when no placeholder in it lists more than one.
-/
namespace SpriteGame.Params

open Text

/-- The entries that a value lists. -/
def entriesOf (value : String) : List (List Char) := splitAll ',' value.toList

def commas (value : String) : Nat := value.toList.count ','

/-- No placeholder that a value names lists more than one entry. -/
def Scalar (placeholders : Params) (value : String) : Prop :=
  ∀ entry ∈ entriesOf value, ∀ v ∈ placeholders.get? (String.ofList entry), ',' ∉ v.toList

variable (placeholders : Params) (value : String)

theorem length_entriesOf : (entriesOf value).length = commas value + 1 := length_splitAll ',' value.toList

theorem substituted_ne_nil : (entriesOf value).map (substitute placeholders) ≠ [] :=
  fun h => splitAll_ne_nil ',' value.toList (List.map_eq_nil_iff.1 h)

/-- A decorated value lists what is listed by the substitutes. -/
theorem entriesOf_decorateValue :
    entriesOf (decorateValue placeholders value) =
      (entriesOf value).flatMap fun entry => splitAll ',' (substitute placeholders entry) := by
  have hsplit := @splitAll_joinWith ',' _ (substituted_ne_nil placeholders value)
  rw [List.flatMap_map] at hsplit
  rwa [entriesOf, decorateValue, String.toList_ofList]

/-- The commas of the substitutes are added to those of the value. -/
theorem commas_decorateValue :
    commas (decorateValue placeholders value) =
      commas value + ((entriesOf value).flatMap (substitute placeholders)).count ',' := by
  have hcount := @count_joinWith ',' _ (substituted_ne_nil placeholders value)
  rw [← List.flatMap_def, List.length_map, length_entriesOf] at hcount
  rw [commas, decorateValue, String.toList_ofList]
  exact Nat.succ.inj (hcount.trans (by omega))

variable {placeholders value}

/-- What is not substituted has no comma to begin with. -/
theorem scalar_iff :
    Scalar placeholders value ↔ ∀ entry ∈ entriesOf value, ',' ∉ substitute placeholders entry := by
  refine forall₂_congr fun entry hentry => ?_
  rw [substitute]
  cases placeholders.get? (String.ofList entry) with
  | none => exact iff_of_true nofun (not_mem_of_mem_splitAll hentry)
  | some v => simp

theorem Scalar.entriesOf_eq (h : Scalar placeholders value) :
    entriesOf (decorateValue placeholders value) = (entriesOf value).map (substitute placeholders) := by
  have hentry : ∀ entry ∈ entriesOf value,
      splitAll ',' (substitute placeholders entry) = [substitute placeholders entry] := fun entry hentry =>
    splitAll_of_not_mem (scalar_iff.1 h entry hentry)
  rw [entriesOf_decorateValue, List.flatMap_congr hentry, ← List.map_eq_flatMap]

theorem scalar_iff_commas : Scalar placeholders value ↔ commas (decorateValue placeholders value) = commas value := by
  rw [commas_decorateValue, Nat.add_eq_left, List.count_eq_zero, List.mem_flatMap, scalar_iff]
  simp only [not_exists, not_and]

/-- Decorating keeps the keys of parameters and decorates each value. A value lists afterwards, in
order, what the substitutes of its entries list, and has their commas over and above its own. The
number of its commas stays the same if and only if no placeholder named in it has one, and then,
and only then, the substitute of each entry stands in the entry's place. -/
theorem decorate_entries (params placeholders : Params) :
    (params.decorate placeholders).keys = params.keys ∧
    (∀ key, (params.decorate placeholders).get? key = (params.get? key).map (decorateValue placeholders)) ∧
    ∀ value,
      let decorated := decorateValue placeholders value
      entriesOf decorated = (entriesOf value).flatMap (fun entry => splitAll ',' (substitute placeholders entry)) ∧
      commas decorated = commas value + ((entriesOf value).flatMap (substitute placeholders)).count ',' ∧
      (commas decorated = commas value ↔ Scalar placeholders value) ∧
      (entriesOf decorated = (entriesOf value).map (substitute placeholders) ↔ Scalar placeholders value) := by
  refine ⟨List.map_map, fun key => SortedMap.get?_mapValues .., fun value => ?_⟩
  refine ⟨entriesOf_decorateValue placeholders value, commas_decorateValue placeholders value,
    scalar_iff_commas.symm, fun heq => ?_, Scalar.entriesOf_eq⟩
  -- As many entries mean as many commas.
  have hlength := congrArg List.length heq
  rw [List.length_map, length_entriesOf, length_entriesOf] at hlength
  exact scalar_iff_commas.2 (Nat.succ.inj hlength)

/-- Two players, the first of whom has the placeholder of a value for two: the value lists three
entries, and the second is not that of the second player. -/
theorem decorate_adds_entry :
    let placeholders : Params := .ofList [("P", "1,2"), ("Q", "3")]
    let decorated : Params := decorate (.ofList [("speed", "P,Q")]) placeholders
    decorated.get? "speed" = some "1,2,3" ∧
      commas "1,2,3" ≠ commas "P,Q" ∧
      (entriesOf "P,Q")[1]? = some ['Q'] ∧ placeholders.get? "Q" = some "3" ∧
      (entriesOf "1,2,3")[1]? = some ['2'] := by
  decide +kernel

end SpriteGame.Params
