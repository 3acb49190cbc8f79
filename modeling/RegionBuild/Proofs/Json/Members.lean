import Mathlib.Data.List.Forall2
import Mathlib.Data.List.Nodup
import RegionBuild.Json.Printer

/-!
# Values and their members

Values can be compared, so that what is read from a text can be computed and checked.

An object in which every key occurs once stays so when a value is put under a key: a key that
is there keeps its place, and a new one goes to the end.

The text of an object depends on its values only through their texts.
-/

namespace RegionBuild.Json

mutual

/-- Whether two values are the same. -/
def same : Json → Json → Bool
  | .null, .null => true
  | .bool left, .bool right => left == right
  | .int left, .int right => left == right
  | .float left, .float right => left == right
  | .str left, .str right => left == right
  | .arr left, .arr right => sameItems left right
  | .obj left, .obj right => sameMembers left right
  | _, _ => false

/-- Whether items are the same one by one. -/
def sameItems : List Json → List Json → Bool
  | [], [] => true
  | left :: lefts, right :: rights => same left right && sameItems lefts rights
  | _, _ => false

/-- Whether members are the same one by one. -/
def sameMembers : List (List CodePoint × Json) → List (List CodePoint × Json) → Bool
  | [], [] => true
  | (key, left) :: lefts, (other, right) :: rights =>
    key == other && same left right && sameMembers lefts rights
  | _, _ => false

end

mutual

/-- Values are found the same exactly if they are. -/
theorem same_iff (left right : Json) : same left right = true ↔ left = right := by
  cases left <;> cases right <;> simp [same, sameItems_iff, sameMembers_iff]

theorem sameItems_iff (left right : List Json) : sameItems left right = true ↔ left = right := by
  cases left <;> cases right <;> simp [sameItems, same_iff, sameItems_iff]

theorem sameMembers_iff (left right : List (List CodePoint × Json)) :
    sameMembers left right = true ↔ left = right := by
  cases left <;> cases right <;>
    simp [sameMembers, same_iff, sameMembers_iff, Prod.ext_iff, and_assoc]

end

instance : DecidableEq Json := fun left right => decidable_of_iff _ (same_iff left right)

variable {key : List CodePoint} {members : List (List CodePoint × Json)}

/-- A value under a new key goes to the end. -/
theorem put_of_notMem (new : key ∉ members.map Prod.fst) (value : Json) :
    put key value members = members ++ [(key, value)] := by
  induction members with
  | nil => rfl
  | cons member rest inductionHypothesis =>
    rw [List.map_cons, List.mem_cons, not_or] at new
    rw [put, if_neg (Ne.symm new.1), inductionHypothesis new.2, List.cons_append]

/-- The keys stay as they are when a value is put under one of them. -/
theorem keys_put_of_mem (old : key ∈ members.map Prod.fst) (value : Json) :
    (put key value members).map Prod.fst = members.map Prod.fst := by
  induction members with
  | nil => cases old
  | cons member rest inductionHypothesis =>
    rw [put]
    by_cases here : member.1 = key
    · rw [if_pos here, List.map_cons, List.map_cons, here]
    · rw [if_neg here, List.map_cons, List.map_cons,
        inductionHypothesis ((List.mem_cons.mp old).resolve_left (Ne.symm here))]

/-- Every key still occurs once. -/
theorem nodup_put (distinct : (members.map Prod.fst).Nodup) (key : List CodePoint) (value : Json) :
    ((put key value members).map Prod.fst).Nodup := by
  by_cases old : key ∈ members.map Prod.fst
  · rw [keys_put_of_mem old]
    exact distinct
  · rw [put_of_notMem old, List.map_append, List.map_singleton, ← List.concat_eq_append]
    exact distinct.concat old

/-- What is among the members after a value is put under a key. -/
theorem mem_put {value : Json} {member : List CodePoint × Json}
    (listed : member ∈ put key value members) : member = (key, value) ∨ member ∈ members := by
  induction members with
  | nil => exact Or.inl (List.mem_singleton.mp listed)
  | cons first rest inductionHypothesis =>
    rw [put] at listed
    split at listed
    · exact (List.mem_cons.mp listed).imp_right (List.mem_cons_of_mem first)
    · rcases List.mem_cons.mp listed with rfl | later
      · exact Or.inr List.mem_cons_self
      · exact (inductionHypothesis later).imp_right (List.mem_cons_of_mem first)

/-- A key is looked up member by member. -/
theorem get?_cons (key : List CodePoint) (member : List CodePoint × Json)
    (rest : List (List CodePoint × Json)) :
    get? key (member :: rest) = if member.1 = key then some member.2 else get? key rest := by
  by_cases here : member.1 = key <;> simp [get?, here]

/-- What is found under a key is among the members. -/
theorem mem_of_get? {value : Json} (found : get? key members = some value) :
    (key, value) ∈ members := by
  obtain ⟨⟨other, content⟩, first, rfl⟩ := Option.map_eq_some_iff.mp found
  have isKey : other = key := by simpa using List.find?_some first
  exact isKey ▸ List.mem_of_find?_eq_some first

/-- A put value is what is found under its key, and under the others is what was there. -/
theorem get?_put (other key : List CodePoint) (value : Json)
    (members : List (List CodePoint × Json)) :
    get? other (put key value members) =
      if other = key then some value else get? other members := by
  induction members with
  | nil =>
    rw [put, get?_cons]
    exact if_congr eq_comm rfl rfl
  | cons member rest inductionHypothesis =>
    rw [put]
    by_cases here : member.1 = key
    · rw [if_pos here, get?_cons, get?_cons, here]
      by_cases same : other = key
      · rw [if_pos same, if_pos same.symm]
      · rw [if_neg same, if_neg (Ne.symm same), if_neg (Ne.symm same)]
    · rw [if_neg here, get?_cons, inductionHypothesis, get?_cons]
      by_cases same : other = key
      · rw [if_pos same, if_pos same, if_neg (same ▸ here)]
      · rw [if_neg same, if_neg same]

/-- Members with one key whose values have one text. The values may differ. -/
def SameText (left right : List CodePoint × Json) : Prop :=
  left.1 = right.1 ∧ write left.2 = write right.2

/-- Values with one text that are put under a key leave members with one text. -/
theorem SameText.put {left right : List (List CodePoint × Json)} {value other : Json}
    (same : List.Forall₂ SameText left right) (key : List CodePoint)
    (text : write value = write other) :
    List.Forall₂ SameText (Json.put key value left) (Json.put key other right) := by
  induction same with
  | nil => exact .cons ⟨rfl, text⟩ .nil
  | @cons first second _ _ own rest inductionHypothesis =>
    rw [Json.put, Json.put, ← own.1]
    by_cases here : first.1 = key
    · rw [if_pos here, if_pos here]
      exact .cons ⟨rfl, text⟩ rest
    · rw [if_neg here, if_neg here]
      exact .cons own inductionHypothesis

/-- Members with one text after the first one are written as one text. -/
theorem SameText.writeMembers_eq {left right : List (List CodePoint × Json)}
    (same : List.Forall₂ SameText left right) : writeMembers left = writeMembers right := by
  induction same with
  | nil => rfl
  | cons own _ inductionHypothesis =>
    rw [writeMembers, writeMembers, own.1, own.2, inductionHypothesis]

/-- So objects of such members are written as one text. -/
theorem SameText.write_eq {left right : List (List CodePoint × Json)}
    (same : List.Forall₂ SameText left right) : write (.obj left) = write (.obj right) := by
  cases same with
  | nil => rfl
  | cons own rest => rw [write, write, own.1, own.2, writeMembers_eq rest]

end RegionBuild.Json
