import RegionBuild.Cache
import RegionBuild.Proofs.Text.Numerals

/-!
# Keys tell files apart

A key strings the paths and times of files together with colons and escapes nothing.
Numerals hold no colon, so a path can be taken for more than one file only if a numeral
stands in it after a colon, up to the next colon or its end. Among paths without one
equal keys come from the same paths with the same times in the same order. Any path
with one has a list of files that shares its key with another list.

Whatever the paths are, a key changes when times do, and when files are added to a list
or removed from it. It need not change when the files are put into another order.
-/

namespace RegionBuild

namespace Text

/-- A text has one first colon. -/
theorem firstColon_unique {front front' after after' : Text} (plain : ':' ∉ front)
    (plain' : ':' ∉ front') (same : front ++ ':' :: after = front' ++ ':' :: after') :
    front = front' ∧ after = after' := by
  have bounded : ∀ text other rest rest' : Text, ':' ∉ text →
      text ++ ':' :: rest = other ++ ':' :: rest' → text.length ≤ other.length := by
    intro text other rest rest' colonFree equal
    refine Nat.le_of_not_lt fun exceeds => colonFree ?_
    have place := congrArg (fun whole => whole[other.length]?) equal
    simp only [List.getElem?_append_left exceeds, List.getElem?_append_right (Nat.le_refl _),
      Nat.sub_self, List.getElem?_cons_zero] at place
    exact List.mem_of_getElem? place
  have size : front.length = front'.length :=
    Nat.le_antisymm (bounded _ _ _ _ plain same) (bounded _ _ _ _ plain' same.symm)
  obtain ⟨fronts, afters⟩ := List.append_inj same size
  exact ⟨fronts, (List.cons.inj afters).2⟩

/-- What starts before a colon without a colon of its own starts whatever else stands
before one, up to a colon or its end. -/
theorem starts_of_colon {text other rest rest' : Text} (plain : ':' ∉ text)
    (same : text ++ ':' :: rest = other ++ ':' :: rest') :
    ∃ more, other = text ++ more ∧ (more = [] ∨ ∃ after, more = ':' :: after) := by
  rcases List.append_eq_append_iff.mp same with ⟨more, longer, tail⟩ | ⟨more, longer, tail⟩
  · refine ⟨more, longer, ?_⟩
    cases more with
    | nil => exact Or.inl rfl
    | cons char after => exact Or.inr ⟨after, by rw [(List.cons.inj tail).1]⟩
  · cases more with
    | nil => exact ⟨[], by rw [longer]; simp, Or.inl rfl⟩
    | cons char after =>
      obtain ⟨rfl, _⟩ := List.cons.inj tail
      apply absurd _ plain
      simp [longer]

end Text

namespace Cache

/-- The key of a file and those after it. -/
theorem keyOf_cons (file : Text × Int) (rest : List (Text × Int)) :
    keyOf (file :: rest) = file.1 ++ ':' :: (Text.ofInt file.2 ++ ':' :: keyOf rest) := by
  simp [keyOf, keyPart]

/-- A path in which a numeral stands after a colon, up to the next colon or the end. It
can be read as the end of one file's part of a key and the start of another's. -/
def Stamped (path : Text) : Prop :=
  ∃ front time rest, path = front ++ ':' :: (Text.ofInt time ++ rest) ∧
    (rest = [] ∨ ∃ more, rest = ':' :: more)

/-- A path without a colon is not stamped. -/
theorem not_stamped_of_plain {path : Text} (plain : ':' ∉ path) : ¬ Stamped path := by
  rintro ⟨front, time, rest, rfl, _⟩
  apply plain
  simp

/-- Where a key starts with a path, no longer path can be read instead unless that one is
stamped. -/
theorem path_of_keyOf_cons {path path' : Text} {time time' : Int} {rest rest' : Text}
    (unstamped : ¬ Stamped path')
    (same : path ++ ':' :: (Text.ofInt time ++ ':' :: rest) =
      path' ++ ':' :: (Text.ofInt time' ++ ':' :: rest'))
    {more : Text} (longer : path' = path ++ more) : more = [] := by
  subst longer
  rw [List.append_assoc] at same
  have after := List.append_cancel_left same
  cases more with
  | nil => rfl
  | cons char more =>
    obtain ⟨rfl, numeral⟩ := List.cons.inj after
    obtain ⟨tail, rfl, ends⟩ := Text.starts_of_colon (Text.colon_notMem_ofInt time) numeral
    exact absurd ⟨path, time, tail, rfl, ends⟩ unstamped

/-- Keys of files whose paths are not stamped tell them apart.

Induct over the files of one key. Of the two first paths neither can be longer than the
other, and after them come the times, which end at the next colon. -/
theorem keyOf_injective_of_unstamped (files files' : List (Text × Int))
    (unstamped : ∀ file ∈ files, ¬ Stamped file.1)
    (unstamped' : ∀ file ∈ files', ¬ Stamped file.1) (same : keyOf files = keyOf files') :
    files = files' := by
  induction files generalizing files' with
  | nil =>
    cases files' with
    | nil => rfl
    | cons file' rest' =>
      rw [keyOf_cons] at same
      simp [keyOf] at same
  | cons file rest inductionHypothesis =>
    cases files' with
    | nil =>
      rw [keyOf_cons] at same
      simp [keyOf] at same
    | cons file' rest' =>
      rw [keyOf_cons, keyOf_cons] at same
      have paths : file.1 = file'.1 := by
        rcases List.append_eq_append_iff.mp same with ⟨more, longer, _⟩ | ⟨more, longer, _⟩
        · have none := path_of_keyOf_cons (unstamped' file' List.mem_cons_self) same longer
          rw [longer, none, List.append_nil]
        · have none := path_of_keyOf_cons (unstamped file List.mem_cons_self) same.symm longer
          rw [longer, none, List.append_nil]
      rw [paths] at same
      obtain ⟨times, afterTimes⟩ := Text.firstColon_unique (Text.colon_notMem_ofInt _)
        (Text.colon_notMem_ofInt _) (List.cons.inj (List.append_cancel_left same)).2
      have rests := inductionHypothesis rest'
        (fun other inside => unstamped other (List.mem_cons_of_mem _ inside))
        (fun other inside => unstamped' other (List.mem_cons_of_mem _ inside)) afterTimes
      rw [rests, Prod.ext paths (Text.ofInt_injective _ _ times)]

/-- In particular those of files whose paths hold no colon. -/
theorem keyOf_injective (files files' : List (Text × Int))
    (plain : ∀ file ∈ files, ':' ∉ file.1) (plain' : ∀ file ∈ files', ':' ∉ file.1)
    (same : keyOf files = keyOf files') : files = files' :=
  keyOf_injective_of_unstamped files files'
    (fun file listed => not_stamped_of_plain (plain file listed))
    (fun file listed => not_stamped_of_plain (plain' file listed)) same

/-- Keys of the same paths, whatever they hold, tell the times apart. -/
theorem keyOf_injective_of_paths (files files' : List (Text × Int))
    (paths : files.map Prod.fst = files'.map Prod.fst) (same : keyOf files = keyOf files') :
    files = files' := by
  induction files generalizing files' with
  | nil => exact (List.map_eq_nil_iff.mp paths.symm).symm
  | cons file rest inductionHypothesis =>
    cases files' with
    | nil => cases paths
    | cons file' rest' =>
      obtain ⟨path, paths⟩ := List.cons.inj paths
      rw [keyOf_cons, keyOf_cons, path] at same
      obtain ⟨time, later⟩ := Text.firstColon_unique (Text.colon_notMem_ofInt _)
        (Text.colon_notMem_ofInt _) (List.cons.inj (List.append_cancel_left same)).2
      rw [inductionHypothesis rest' paths later, Prod.ext path (Text.ofInt_injective _ _ time)]

/-- With fewer files the key is shorter. -/
theorem length_keyOf_of_sublist {fewer files : List (Text × Int)} (removed : fewer.Sublist files) :
    fewer = files ∨ (keyOf fewer).length < (keyOf files).length := by
  induction removed with
  | slnil => exact Or.inl rfl
  | cons file _ inductionHypothesis =>
    apply Or.inr
    rw [keyOf_cons]
    rcases inductionHypothesis with rfl | shorter
    · simp only [List.length_append, List.length_cons]
      omega
    · simp only [List.length_append, List.length_cons]
      omega
  | cons_cons file _ inductionHypothesis =>
    rcases inductionHypothesis with rfl | shorter
    · exact Or.inl rfl
    · apply Or.inr
      simp only [keyOf_cons, List.length_append, List.length_cons]
      omega

/-- A stamped path is in a list of files that has its key in common with another list.
What stands before the numeral is then a path and the numeral its time. If nothing
follows the numeral, the rest is made up by files whose paths are numerals. -/
theorem exists_keyOf_eq_of_stamped {path : Text} (stamped : Stamped path) :
    ∃ files files', path ∈ files.map Prod.fst ∧ files ≠ files' ∧ keyOf files = keyOf files' := by
  obtain ⟨front, time, rest, rfl, rfl | ⟨more, rfl⟩⟩ := stamped
  · refine ⟨[(front ++ ':' :: (Text.ofInt time ++ []), 0), (['1', ':', '2'], 3)],
      [(front, time), (['0'], 1), (['2'], 3)], by simp, ?_, ?_⟩
    · intro same
      cases congrArg List.length same
    · simp only [keyOf_cons]
      simp [show Text.ofInt 0 = ['0'] from rfl, show Text.ofInt 1 = ['1'] from rfl]
  · refine ⟨[(front ++ ':' :: (Text.ofInt time ++ ':' :: more), 0)],
      [(front, time), (more, 0)], by simp, ?_, ?_⟩
    · intro same
      cases congrArg List.length same
    · simp [keyOf_cons]

/-- How far keys tell files apart. Two lists of files without a stamped path have the same
key only if they are equal. The same holds, whatever the paths, of two lists that differ
in times alone, and of a list and one with files added to it. Every stamped path is in a
list that shares its key with another. -/
theorem keyOf_tells_apart (files files' : List (Text × Int)) :
    ((∀ file ∈ files ++ files', ¬ Stamped file.1) → keyOf files = keyOf files' →
        files = files') ∧
      (files.map Prod.fst = files'.map Prod.fst → keyOf files = keyOf files' →
        files = files') ∧
      (files.Sublist files' → keyOf files = keyOf files' → files = files') ∧
      ∀ path, Stamped path → ∃ one other : List (Text × Int),
        path ∈ one.map Prod.fst ∧ one ≠ other ∧ keyOf one = keyOf other := by
  refine ⟨?_, keyOf_injective_of_paths files files', ?_,
    fun path stamped => exists_keyOf_eq_of_stamped stamped⟩
  · intro unstamped same
    apply keyOf_injective_of_unstamped files files' _ _ same
    · intro file listed
      exact unstamped file (List.mem_append_left files' listed)
    · intro file listed
      exact unstamped file (List.mem_append_right files listed)
  · intro removed same
    rcases length_keyOf_of_sublist removed with whole | shorter
    · exact whole
    · rw [same] at shorter
      exact absurd shorter (Nat.lt_irrefl _)

/-- Two files, one of them with a colon in its name: in another order they have another
key. -/
theorem keyOf_tells_apart_colon :
    ¬ Stamped "/a:b".toList ∧ ¬ Stamped "/a".toList ∧
      keyOf [("/a:b".toList, 1), ("/a".toList, 1)] ≠
        keyOf [("/a".toList, 1), ("/a:b".toList, 1)] := by
  have unstamped : ¬ Stamped "/a:b".toList := by
    rintro ⟨front, time, rest, whole, _⟩
    have plain : ':' ∉ front := by
      intro inside
      have twice := congrArg (List.count ':') whole
      have once := List.count_pos_iff.mpr inside
      rw [List.count_append, List.count_cons_self, show List.count ':' "/a:b".toList = 1 from rfl]
        at twice
      omega
    obtain ⟨_, after⟩ := Text.firstColon_unique (show ':' ∉ "/a".toList by decide) plain whole
    obtain ⟨first, digits, numeral⟩ := List.exists_cons_of_ne_nil (Text.ofInt_ne_nil time)
    rw [numeral] at after
    have letter : 'b' = first := (List.cons.inj after).1
    have digit : first ∈ Text.ofInt time := numeral ▸ List.mem_cons_self
    exact absurd (Text.isDigit_or_sign_of_mem_ofInt digit) (by rw [← letter]; decide)
  have plain : ¬ Stamped "/a".toList := not_stamped_of_plain (by decide)
  refine ⟨unstamped, plain, fun same => ?_⟩
  have equal := (keyOf_tells_apart [("/a:b".toList, 1), ("/a".toList, 1)]
    [("/a".toList, 1), ("/a:b".toList, 1)]).1 ?_ same
  · exact absurd equal (by decide)
  · intro file listed
    simp only [List.cons_append, List.nil_append, List.mem_cons, List.not_mem_nil, or_false]
      at listed
    rcases listed with rfl | rfl | rfl | rfl
    · exact unstamped
    · exact plain
    · exact plain
    · exact unstamped

/-- Two files that have the same key in either order. One path is the other one twice
with a time in between. -/
theorem keyOf_reordered :
    [("/a".toList, (1 : Int)), ("/a:1:/a".toList, 1)].Perm
        [("/a:1:/a".toList, 1), ("/a".toList, 1)] ∧
      [("/a".toList, (1 : Int)), ("/a:1:/a".toList, 1)] ≠
        [("/a:1:/a".toList, 1), ("/a".toList, 1)] ∧
      keyOf [("/a".toList, 1), ("/a:1:/a".toList, 1)] =
        keyOf [("/a:1:/a".toList, 1), ("/a".toList, 1)] := by
  decide

end Cache

end RegionBuild
