import Mathlib.Data.Nat.Digits.Lemmas
import RegionBuild.Proofs.Json.RoundTrip

/-!
# What was read

Whatever the reader accepts can be written and read again: its integers have no more digits
than can be read, its strings no loose surrogate pairs, its objects every key once, and
nothing is nested deeper than can be read.
-/

namespace RegionBuild

/-- A decimal digit of any script has a value below ten. -/
theorem Text.digitValue?_lt {char : Char} {digit : Nat} (value : digitValue? char = some digit) :
    digit < 10 := by
  rw [digitValue?] at value
  split at value
  · split at value
    · next isDigit =>
      cases value
      simp only [Char.isDigit, Bool.and_eq_true, decide_eq_true_eq] at isDigit
      have bound : char.toNat ≤ 57 := isDigit.2
      omega
    · cases value
  · obtain ⟨range, _, rfl⟩ := Option.map_eq_some_iff.mp value
    exact Nat.mod_lt _ (by decide)

namespace Numeral

/-- So many digits have a value below that power of ten. -/
theorem value_lt {digits : List Nat} (small : ∀ digit ∈ digits, digit < 10) :
    value digits < 10 ^ digits.length := by
  have bound : ∀ start, digits.foldl (fun sum digit => 10 * sum + digit) start <
      (start + 1) * 10 ^ digits.length := by
    induction digits with
    | nil =>
      intro start
      simp
    | cons digit rest inductionHypothesis =>
      intro start
      have first := small digit List.mem_cons_self
      have others := inductionHypothesis
        (fun each listed => small each (List.mem_cons_of_mem _ listed)) (10 * start + digit)
      calc rest.foldl (fun sum digit => 10 * sum + digit) (10 * start + digit)
          < (10 * start + digit + 1) * 10 ^ rest.length := others
        _ ≤ ((start + 1) * 10) * 10 ^ rest.length := Nat.mul_le_mul_right _ (by omega)
        _ = (start + 1) * 10 ^ (digit :: rest).length := by
          rw [List.length_cons, Nat.pow_succ', Nat.mul_assoc]
  simpa [value] using bound 0

/-- A number that was read from digits can be read from its own. -/
theorem length_of_ofDigits {digits : Text} {number : Nat} (read : ofDigits digits = .ok number) :
    (Text.ofNat number).length ≤ digitLimit := by
  rw [ofDigits] at read
  split at read
  · cases read
  · next short =>
    cases read
    rw [Text.ofNat, Nat.length_toDigits_le_iff (by decide) (by decide)]
    calc value (digits.filterMap Text.digitValue?)
        < 10 ^ (digits.filterMap Text.digitValue?).length := value_lt fun digit listed => by
          obtain ⟨char, _, found⟩ := List.mem_filterMap.mp listed
          exact Text.digitValue?_lt found
      _ ≤ 10 ^ digitLimit := Nat.pow_le_pow_right (by decide)
          (Nat.le_trans (List.length_filterMap_le _ _) (Nat.le_of_not_lt short))

end Numeral

namespace Json

/-- A number that was read can be read again. -/
theorem readable_of_number {negative : Bool} {text rest : Text} {value : Json}
    (read : number? negative text = some (.ok value, rest)) (depth : Nat) :
    Readable depth value := by
  rw [number?] at read
  obtain ⟨⟨whole, after⟩, _, same⟩ := Option.map_eq_some_iff.mp read
  dsimp only at same
  split at same
  · split at same
    · next number digits =>
      cases same
      apply Readable.int
      have short := Numeral.length_of_ofDigits digits
      cases negative <;> simpa using short
    · cases same
  · cases same
    exact .float _

/-- A word that was read can be read again. -/
theorem readable_of_word {text rest : Text} {value : Json}
    (read : word? text = some (value, rest)) (depth : Nat) : Readable depth value := by
  obtain ⟨⟨word, other⟩, listed, found⟩ := List.exists_of_findSome?_eq_some read
  dsimp only at found
  split at found
  · cases found
    simp only [words, List.mem_cons, Prod.mk.injEq, List.not_mem_nil, or_false] at listed
    rcases listed with ⟨_, rfl⟩ | ⟨_, rfl⟩ | ⟨_, rfl⟩ | ⟨_, rfl⟩ | ⟨_, rfl⟩ | ⟨_, rfl⟩
    all_goals constructor
  · cases found

theorem readable_of_scalar {text rest : Text} {value : Json}
    (read : readScalar text = .ok (value, rest)) (depth : Nat) : Readable depth value := by
  unfold readScalar at read
  split at read
  · next found =>
    cases read
    exact readable_of_word found depth
  · dsimp only at read
    split at read
    · cases read
    · next outcome _ found =>
      cases outcome with
      | error fault => cases read
      | ok number =>
        cases read
        split at found
        · exact readable_of_number found depth
        · exact readable_of_number found depth

/-- Members that can stand in a readable object. -/
structure Orderly (depth : Nat) (members : List (List CodePoint × Json)) : Prop where
  keys : ∀ member ∈ members, Joined member.1
  values : ∀ member ∈ members, Readable depth member.2
  distinct : (members.map Prod.fst).Nodup

/-- They stay so when a readable value is put under a key. -/
theorem Orderly.put {depth : Nat} {members : List (List CodePoint × Json)}
    (orderly : Orderly depth members) {key : List CodePoint} {value : Json} (joined : Joined key)
    (readable : Readable depth value) : Orderly depth (put key value members) where
  keys member listed := by
    rcases mem_put listed with rfl | old
    · exact joined
    · exact orderly.keys member old
  values member listed := by
    rcases mem_put listed with rfl | old
    · exact readable
    · exact orderly.values member old
  distinct := nodup_put orderly.distinct key value

mutual

/-- A value that was read can be read again. -/
theorem readable_of_readValue {fuel depth : Nat} {text rest : Text} {value : Json}
    (read : readValue fuel depth text = .ok (value, rest)) : Readable depth value := by
  cases fuel with
  | zero => cases read
  | succ fuel =>
    unfold readValue at read
    dsimp only at read
    split at read
    · obtain ⟨⟨codes, after⟩, found, same⟩ := bind_eq_ok.mp read
      cases same
      exact .str (joined_of_readString found).1
    · split at read
      · cases read
      · split at read
        · cases read
          exact .arr (by simp)
        · obtain ⟨⟨items, after⟩, found, same⟩ := bind_eq_ok.mp read
          cases same
          exact .arr (readable_of_readItems found)
    · split at read
      · cases read
      · split at read
        · cases read
          exact .obj (by simp) (by simp) (by simp)
        · obtain ⟨⟨members, after⟩, found, same⟩ := bind_eq_ok.mp read
          cases same
          have orderly := orderly_of_readMembers ⟨by simp, by simp, by simp⟩ found
          exact .obj orderly.keys orderly.values orderly.distinct
    · exact readable_of_scalar read depth

theorem readable_of_readItems {fuel depth : Nat} {text rest : Text} {items : List Json}
    (read : readItems fuel depth text = .ok (items, rest)) :
    ∀ item ∈ items, Readable depth item := by
  cases fuel with
  | zero => cases read
  | succ fuel =>
    unfold readItems at read
    obtain ⟨⟨item, after⟩, found, next⟩ := bind_eq_ok.mp read
    have first := readable_of_readValue found
    dsimp only at next
    split at next
    · cases next
      simpa using first
    · obtain ⟨⟨others, beyond⟩, more, same⟩ := bind_eq_ok.mp next
      cases same
      exact List.forall_mem_cons.mpr ⟨first, readable_of_readItems more⟩
    · cases next

theorem orderly_of_readMembers {fuel depth : Nat} {before members : List (List CodePoint × Json)}
    {text rest : Text} (orderly : Orderly depth before)
    (read : readMembers fuel depth before text = .ok (members, rest)) : Orderly depth members := by
  cases fuel with
  | zero => cases read
  | succ fuel =>
    unfold readMembers at read
    split at read
    · obtain ⟨⟨key, after⟩, named, next⟩ := bind_eq_ok.mp read
      have joined := (joined_of_readString named).1
      dsimp only at next
      split at next
      · obtain ⟨⟨value, beyond⟩, found, last⟩ := bind_eq_ok.mp next
        have grown := orderly.put joined (readable_of_readValue found)
        dsimp only at last
        split at last
        · cases last
          exact grown
        · exact orderly_of_readMembers grown last
        · cases last
      · cases next
    · cases read

end

/-- Whatever a text denotes can be written and read again. -/
theorem readable_of_parse {text : Text} {value : Json} (read : parse text = .ok value) :
    Readable nestingLimit value := by
  rw [parse] at read
  split at read
  · next all =>
    cases read
    rw [readAll] at all
    split at all
    · cases all
    · obtain ⟨⟨found, after⟩, first, last⟩ := bind_eq_ok.mp all
      dsimp only at last
      split at last
      · cases last
        exact readable_of_readValue first
      · cases last
  all_goals cases read

/-- So can the members of the object that a text denotes. -/
theorem orderly_of_parse {text : Text} {members : List (List CodePoint × Json)}
    (read : parse text = .ok (.obj members)) : Orderly (nestingLimit - 1) members := by
  generalize deep : nestingLimit = depth
  have readable := readable_of_parse read
  rw [deep] at readable
  cases readable with
  | obj keys values distinct => exact ⟨keys, values, distinct⟩

/-- Members that can stand in an object are read back from the object's text. -/
theorem parse_write_obj {members : List (List CodePoint × Json)}
    (orderly : Orderly (nestingLimit - 1) members) :
    parse (write (.obj members)) = .ok (.obj (asReadMembers members)) :=
  parse_write (.obj orderly.keys orderly.values orderly.distinct)

/-- Strings can be items of an array that is a member. -/
theorem readable_strings {strings : List (List CodePoint)}
    (joined : ∀ codes ∈ strings, Joined codes) :
    Readable (nestingLimit - 1) (.arr (strings.map .str)) := by
  apply Readable.arr
  intro item listed
  obtain ⟨codes, inside, rfl⟩ := List.mem_map.mp listed
  exact .str (joined codes inside)

end Json

end RegionBuild
