import RegionBuild.Proofs.Json.Members
import RegionBuild.Proofs.Json.Numbers
import RegionBuild.Proofs.Json.Strings

/-!
# Reading what was written

Every value that was ever read can be written and read again, and comes back as it was:
strings and integers of any length that can be read, objects with their members in order,
everything nested as deep as can be read. Only doubles come back as whatever their shortest
text is read as.
-/

namespace RegionBuild.Json

/-- The double that is read from the text of a double. -/
def doubleRead (number : Decimal.Binary64) : Decimal.Binary64 :=
  match readScalar (writeFloat number) with
  | .ok (.float value, _) => value
  | _ => number

mutual

/-- A value with every double as it is read from its text. -/
def asRead : Json → Json
  | .float number => .float (doubleRead number)
  | .arr items => .arr (asReadItems items)
  | .obj members => .obj (asReadMembers members)
  | value => value

/-- Items with every double as it is read from its text. -/
def asReadItems : List Json → List Json
  | [] => []
  | item :: items => asRead item :: asReadItems items

/-- Members with every double as it is read from its text. -/
def asReadMembers : List (List CodePoint × Json) → List (List CodePoint × Json)
  | [] => []
  | (key, value) :: members => (key, asRead value) :: asReadMembers members

end

mutual

/-- Whether there is no double in a value. -/
def floatless : Json → Bool
  | .float _ => false
  | .arr items => floatlessItems items
  | .obj members => floatlessMembers members
  | _ => true

/-- Whether there is no double in items. -/
def floatlessItems : List Json → Bool
  | [] => true
  | item :: items => floatless item && floatlessItems items

/-- Whether there is no double in members. -/
def floatlessMembers : List (List CodePoint × Json) → Bool
  | [] => true
  | (_, value) :: members => floatless value && floatlessMembers members

end

mutual

/-- A value without doubles comes back as it was. -/
theorem asRead_of_floatless (value : Json) (doubleless : floatless value = true) :
    asRead value = value := by
  cases value with
  | null => rfl
  | bool value => rfl
  | int value => rfl
  | float value => cases doubleless
  | str codes => rfl
  | arr items => exact congrArg Json.arr (asReadItems_of_floatless items doubleless)
  | obj members => exact congrArg Json.obj (asReadMembers_of_floatless members doubleless)

theorem asReadItems_of_floatless (items : List Json) (doubleless : floatlessItems items = true) :
    asReadItems items = items := by
  cases items with
  | nil => rfl
  | cons item rest =>
    obtain ⟨first, others⟩ := Bool.and_eq_true_iff.mp doubleless
    rw [asReadItems, asRead_of_floatless item first, asReadItems_of_floatless rest others]

theorem asReadMembers_of_floatless (members : List (List CodePoint × Json))
    (doubleless : floatlessMembers members = true) : asReadMembers members = members := by
  cases members with
  | nil => rfl
  | cons member rest =>
    obtain ⟨first, others⟩ := Bool.and_eq_true_iff.mp doubleless
    rw [asReadMembers, asRead_of_floatless member.2 first, asReadMembers_of_floatless rest others]

end

/-- There is no double in items if there is none in any of them. -/
theorem floatlessItems_iff {items : List Json} :
    floatlessItems items = true ↔ ∀ item ∈ items, floatless item = true := by
  induction items with
  | nil => simp [floatlessItems]
  | cons item rest inductionHypothesis =>
    rw [floatlessItems, Bool.and_eq_true_iff, inductionHypothesis, List.forall_mem_cons]

/-- What is found under a key is read as it is by itself. -/
theorem get?_asReadMembers (key : List CodePoint) (members : List (List CodePoint × Json)) :
    get? key (asReadMembers members) = (get? key members).map asRead := by
  induction members with
  | nil => rfl
  | cons member rest inductionHypothesis =>
    rw [asReadMembers, get?_cons, get?_cons, inductionHypothesis]
    split <;> rfl

/-- There is no double in an array of strings. -/
theorem floatless_strings (strings : List (List CodePoint)) :
    floatless (.arr (strings.map .str)) = true := by
  rw [floatless, floatlessItems_iff]
  intro item listed
  obtain ⟨codes, _, rfl⟩ := List.mem_map.mp listed
  rfl

/-- A double is read back from its text. -/
theorem readScalar_writeFloat (number : Decimal.Binary64) {rest : Text} (ends : Ends rest) :
    readScalar (writeFloat number ++ rest) = .ok (.float (doubleRead number), rest) := by
  obtain ⟨value, read⟩ := exists_readScalar_writeFloat number
  have alone := read [] (by simp [Ends])
  rw [List.append_nil] at alone
  rw [read rest ends, doubleRead, alone]

/-- The values that can be written and read again, inside so many more arrays and objects:
integers that have no more digits than can be read, strings without loose surrogate pairs,
and objects in which every key occurs once. -/
inductive Readable : Nat → Json → Prop where
  | null {depth : Nat} : Readable depth .null
  | bool {depth : Nat} (value : Bool) : Readable depth (.bool value)
  | int {depth : Nat} {number : Int} :
      (Text.ofNat number.natAbs).length ≤ Numeral.digitLimit → Readable depth (.int number)
  | float {depth : Nat} (number : Decimal.Binary64) : Readable depth (.float number)
  | str {depth : Nat} {codes : List CodePoint} : Joined codes → Readable depth (.str codes)
  | arr {depth : Nat} {items : List Json} : (∀ item ∈ items, Readable depth item) →
      Readable (depth + 1) (.arr items)
  | obj {depth : Nat} {members : List (List CodePoint × Json)} :
      (∀ member ∈ members, Joined member.1) → (∀ member ∈ members, Readable depth member.2) →
      (members.map Prod.fst).Nodup → Readable (depth + 1) (.obj members)

/-- The characters that start no scalar: gaps, quotes, brackets, and a byte order mark. -/
def structural : List Char := [' ', '\t', '\n', '\r', '"', '[', ']', '{', '}', '\uFEFF']

/-- What is read as a scalar does not start with one of these. -/
theorem scalar_starts {text : Text} {result : Json × Text} (read : readScalar text = .ok result) :
    ∃ first more, text = first :: more ∧ first ∉ structural := by
  cases text with
  | nil => cases read
  | cons first more =>
    refine ⟨first, more, rfl, fun listed => ?_⟩
    have wordless : word? (first :: more) = none := by
      simp only [structural, List.mem_cons, List.not_mem_nil, or_false] at listed
      rcases listed with rfl | rfl | rfl | rfl | rfl | rfl | rfl | rfl | rfl | rfl <;> rfl
    have numberless : number? false (first :: more) = none := by
      simp only [structural, List.mem_cons, List.not_mem_nil, or_false] at listed
      rcases listed with rfl | rfl | rfl | rfl | rfl | rfl | rfl | rfl | rfl | rfl <;> rfl
    rw [readScalar, wordless] at read
    · dsimp only at read
      rw [numberless] at read
      cases read
    · rintro rest ⟨⟩
      revert listed
      decide

/-- A scalar is read as a value. -/
theorem readValue_of_scalar {text : Text} {result : Json × Text}
    (read : readScalar text = .ok result) (fuel depth : Nat) :
    readValue (fuel + 1) depth text = .ok result := by
  obtain ⟨first, more, rfl, plain⟩ := scalar_starts read
  rw [readValue]
  · exact read
  all_goals
    rintro _ ⟨⟩
    revert plain
    decide

/-- Nothing is skipped before a character that is no gap. -/
theorem skipGap_cons {first : Char} (solid : isGap first = false) (more : Text) :
    skipGap (first :: more) = first :: more := by
  simp [skipGap, solid]

/-- How the text of a value starts: with no gap, no closing bracket and no mark. -/
structure Starts (text : Text) (first : Char) (more : Text) : Prop where
  text : text = first :: more
  solid : isGap first = false
  inside : first ≠ ']'
  unmarked : first ≠ '\uFEFF'

/-- A scalar's text starts so. -/
theorem starts_of_scalar {text : Text} {result : Json × Text}
    (read : readScalar text = .ok result) : ∃ first more, Starts text first more := by
  obtain ⟨first, more, rfl, plain⟩ := scalar_starts read
  simp only [structural, List.mem_cons, List.not_mem_nil, or_false, not_or] at plain
  refine ⟨first, more, rfl, ?_, by tauto, by tauto⟩
  simp only [isGap, Bool.or_eq_false_iff, beq_eq_false_iff_ne]
  tauto

/-- Every text of a value that can be read starts so. -/
theorem Readable.starts {depth : Nat} {value : Json} (readable : Readable depth value) :
    ∃ first more, Starts (write value) first more := by
  have closed : Ends [] := by simp [Ends]
  cases readable with
  | null => exact ⟨'n', _, rfl, rfl, by decide, by decide⟩
  | bool value => cases value <;> exact ⟨_, _, rfl, rfl, by decide, by decide⟩
  | int short =>
    have read := readScalar_ofInt short closed
    rw [List.append_nil] at read
    exact starts_of_scalar read
  | float number =>
    have read := readScalar_writeFloat number closed
    rw [List.append_nil] at read
    exact starts_of_scalar read
  | str joined => exact ⟨'"', _, rfl, rfl, by decide, by decide⟩
  | @arr _ items sound => cases items <;> exact ⟨'[', _, rfl, rfl, by decide, by decide⟩
  | @obj _ members keys values distinct =>
    cases members <;> exact ⟨'{', _, rfl, rfl, by decide, by decide⟩

/-- A value is read back from its text whatever follows, given as many steps as twice the
length of all that is read. -/
def ReadsBack (depth : Nat) (value : Json) : Prop :=
  ∀ fuel rest, Ends rest → 2 * (write value ++ rest).length ≤ fuel →
    readValue fuel depth (write value ++ rest) = .ok (asRead value, rest)

/-- A scalar is read back. -/
theorem readsBack_of_scalar {depth : Nat} {value : Json}
    (read : ∀ rest, Ends rest → readScalar (write value ++ rest) = .ok (asRead value, rest)) :
    ReadsBack depth value := by
  intro fuel rest ends enough
  obtain ⟨first, more, text, _⟩ := scalar_starts (read rest ends)
  rw [text, List.length_cons] at enough
  obtain ⟨less, rfl⟩ : ∃ less, fuel = less + 1 := ⟨fuel - 1, by omega⟩
  exact readValue_of_scalar (read rest ends) less depth

/-- A string is read back. -/
theorem readsBack_str {depth : Nat} {codes : List CodePoint} (joined : Joined codes) :
    ReadsBack depth (.str codes) := by
  intro fuel rest ends enough
  obtain ⟨body, text, read⟩ := readString_writeString joined rest (writeString codes ++ rest).length
  change readValue fuel depth (writeString codes ++ rest) = _
  rw [write, text, List.length_cons] at enough
  obtain ⟨less, rfl⟩ : ∃ less, fuel = less + 1 := ⟨fuel - 1, by omega⟩
  rw [text] at read ⊢
  rw [readValue, read]
  rfl

/-- Items that are read back one by one are read back together. -/
theorem readItems_write {depth : Nat} {item : Json} {items : List Json}
    (starts : ∀ each ∈ item :: items, ∃ first more, Starts (write each) first more)
    (back : ∀ each ∈ item :: items, ReadsBack depth each) (fuel : Nat) (rest : Text)
    (enough : 2 * (write item ++ (writeItems items ++ rest)).length + 1 ≤ fuel) :
    readItems fuel depth (write item ++ (writeItems items ++ rest)) =
      .ok (asReadItems (item :: items), rest) := by
  induction items generalizing item fuel with
  | nil =>
    obtain ⟨less, rfl⟩ : ∃ less, fuel = less + 1 := ⟨fuel - 1, by omega⟩
    have read := back item List.mem_cons_self less (']' :: rest) (by simp [Ends]) (by
      simp only [writeItems, List.cons_append, List.nil_append] at enough
      omega)
    simp only [readItems, writeItems, List.cons_append, List.nil_append, read]
    rfl
  | cons second others inductionHypothesis =>
    obtain ⟨less, rfl⟩ : ∃ less, fuel = less + 1 := ⟨fuel - 1, by omega⟩
    have later : ∀ each ∈ second :: others, each ∈ item :: second :: others :=
      fun each listed => List.mem_cons_of_mem item listed
    simp only [writeItems, List.cons_append, List.append_assoc] at enough ⊢
    have read := back item List.mem_cons_self less
      (',' :: ' ' :: (write second ++ (writeItems others ++ rest))) (by simp [Ends]) (by omega)
    have more := inductionHypothesis (fun each listed => starts each (later each listed))
      (fun each listed => back each (later each listed)) less (by
        simp only [List.length_append, List.length_cons] at enough ⊢
        omega)
    obtain ⟨first, text, started⟩ := starts second (later second List.mem_cons_self)
    have gap : skipGap (' ' :: (write second ++ (writeItems others ++ rest))) =
        write second ++ (writeItems others ++ rest) := by
      rw [started.text]
      exact skipGap_cons started.solid _
    rw [readItems, read]
    change (readItems less depth (skipGap (' ' :: _)) >>= fun found =>
      pure (asRead item :: found.1, found.2)) = _
    rw [gap, more]
    rfl

/-- What is read of one member, given what its value is read as: its key, its value, and then
either the end or the members after a comma. -/
theorem readMembers_cons {depth : Nat} {key : List CodePoint} {value : Json}
    {before : List (List CodePoint × Json)} (joined : Joined key)
    (starts : ∃ first more, Starts (write value) first more) (back : ReadsBack depth value)
    (new : key ∉ before.map Prod.fst) {fuel : Nat} {rest : Text} (ends : Ends rest)
    (enough : 2 * (writeString key ++ ':' :: ' ' :: (write value ++ rest)).length ≤ fuel) :
    (∀ after, rest = '}' :: after →
      readMembers (fuel + 1) depth before
        (writeString key ++ ':' :: ' ' :: (write value ++ rest)) =
          .ok (before ++ [(key, asRead value)], after)) ∧
    (∀ after, rest = ',' :: after →
      readMembers (fuel + 1) depth before
        (writeString key ++ ':' :: ' ' :: (write value ++ rest)) =
          readMembers fuel depth (before ++ [(key, asRead value)]) (skipGap after)) := by
  have read := back fuel rest ends (by
    simp only [List.length_append, List.length_cons] at enough ⊢
    omega)
  obtain ⟨first, more, started⟩ := starts
  have gap : skipGap (' ' :: (write value ++ rest)) = write value ++ rest := by
    rw [started.text]
    exact skipGap_cons started.solid _
  obtain ⟨body, text, named⟩ := readString_writeString joined
    (':' :: ' ' :: (write value ++ rest))
    (writeString key ++ ':' :: ' ' :: (write value ++ rest)).length
  rw [text] at named ⊢
  constructor
  · rintro after rfl
    rw [readMembers, named]
    change (readValue fuel depth (skipGap (' ' :: _)) >>= _) = _
    rw [gap, read, ← put_of_notMem new]
    rfl
  · rintro after rfl
    rw [readMembers, named]
    change (readValue fuel depth (skipGap (' ' :: _)) >>= _) = _
    rw [gap, read, ← put_of_notMem new]
    rfl

/-- Members that are read back one by one under different keys are read back together, after
those read before. -/
theorem readMembers_write {depth : Nat} {key : List CodePoint} {value : Json}
    {members before : List (List CodePoint × Json)}
    (keys : ∀ member ∈ (key, value) :: members, Joined member.1)
    (starts : ∀ member ∈ (key, value) :: members, ∃ first more, Starts (write member.2) first more)
    (back : ∀ member ∈ (key, value) :: members, ReadsBack depth member.2)
    (distinct : (before.map Prod.fst ++ ((key, value) :: members).map Prod.fst).Nodup)
    (fuel : Nat) (rest : Text)
    (enough : 2 * (writeString key ++
      ':' :: ' ' :: (write value ++ (writeMembers members ++ rest))).length + 1 ≤ fuel) :
    readMembers fuel depth before
        (writeString key ++ ':' :: ' ' :: (write value ++ (writeMembers members ++ rest))) =
      .ok (before ++ asReadMembers ((key, value) :: members), rest) := by
  have first : (key, value) ∈ (key, value) :: members := List.mem_cons_self
  have new : key ∉ before.map Prod.fst := fun old =>
    (List.nodup_append.mp distinct).2.2 key old key List.mem_cons_self rfl
  obtain ⟨less, rfl⟩ : ∃ less, fuel = less + 1 := ⟨fuel - 1, by omega⟩
  have step := @readMembers_cons depth key value before (keys _ first) (starts _ first)
    (back _ first) new less (writeMembers members ++ rest)
  cases members with
  | nil => exact (step (by simp [Ends, writeMembers]) (by omega)).1 rest rfl
  | cons second others =>
    have later : ∀ member ∈ second :: others, member ∈ (key, value) :: second :: others :=
      fun member listed => List.mem_cons_of_mem _ listed
    have more := @readMembers_write depth second.1 second.2 others
      (before ++ [(key, asRead value)]) (fun member listed => keys member (later member listed))
      (fun member listed => starts member (later member listed))
      (fun member listed => back member (later member listed)) (by simpa using distinct) less rest
      (by
        simp only [writeMembers, List.length_append, List.length_cons] at enough ⊢
        omega)
    rw [List.append_assoc] at more
    rw [(step (by simp [Ends, writeMembers]) (by omega)).2 (' ' :: (writeString second.1 ++
      ':' :: ' ' :: (write second.2 ++ (writeMembers others ++ rest)))) (by simp [writeMembers])]
    exact more

/-- An array of items that are read back is read back. -/
theorem readsBack_arr {depth : Nat} {items : List Json}
    (starts : ∀ item ∈ items, ∃ first more, Starts (write item) first more)
    (back : ∀ item ∈ items, ReadsBack depth item) : ReadsBack (depth + 1) (.arr items) := by
  intro fuel rest ends enough
  obtain ⟨less, rfl⟩ : ∃ less, fuel = less + 1 := by
    refine ⟨fuel - 1, ?_⟩
    cases items <;> simp only [write, List.cons_append, List.length_cons] at enough <;> omega
  cases items with
  | nil => rfl
  | cons item others =>
    obtain ⟨first, more, started⟩ := starts item List.mem_cons_self
    have read := readItems_write starts back less rest (by
      simp only [write, List.length_append, List.length_cons] at enough ⊢
      omega)
    rw [write, List.cons_append, List.cons_append, List.append_assoc]
    rw [started.text, List.cons_append] at read ⊢
    rw [readValue, skipGap_cons started.solid]
    split
    · next closing =>
      cases closing
      exact absurd rfl started.inside
    · rw [read]
      rfl

/-- An object of members that are read back is read back. -/
theorem readsBack_obj {depth : Nat} {members : List (List CodePoint × Json)}
    (keys : ∀ member ∈ members, Joined member.1)
    (starts : ∀ member ∈ members, ∃ first more, Starts (write member.2) first more)
    (back : ∀ member ∈ members, ReadsBack depth member.2)
    (distinct : (members.map Prod.fst).Nodup) : ReadsBack (depth + 1) (.obj members) := by
  intro fuel rest ends enough
  obtain ⟨less, rfl⟩ : ∃ less, fuel = less + 1 := by
    refine ⟨fuel - 1, ?_⟩
    cases members <;> simp only [write, List.cons_append, List.length_cons] at enough <;> omega
  cases members with
  | nil => rfl
  | cons member others =>
    obtain ⟨key, value⟩ := member
    have read := @readMembers_write depth key value others [] keys starts back distinct less rest
      (by
        simp only [write, List.length_append, List.length_cons] at enough ⊢
        omega)
    simp only [write, List.cons_append, List.append_assoc]
    exact congrArg (· >>= fun found => pure (Json.obj found.1, found.2)) read

/-- Every readable value is read back from its text. -/
theorem Readable.readsBack {depth : Nat} {value : Json} (readable : Readable depth value) :
    ReadsBack depth value := by
  induction readable with
  | null =>
    exact readsBack_of_scalar fun rest _ => by simp [write, readScalar, word?, words, asRead]
  | bool value =>
    cases value <;>
      exact readsBack_of_scalar fun rest _ => by simp [write, readScalar, word?, words, asRead]
  | int short => exact readsBack_of_scalar fun rest ends => readScalar_ofInt short ends
  | float number => exact readsBack_of_scalar fun rest ends => readScalar_writeFloat number ends
  | str joined => exact readsBack_str joined
  | arr sound back => exact readsBack_arr (fun item listed => (sound item listed).starts) back
  | obj keys sound distinct back =>
    exact readsBack_obj keys (fun member listed => (sound member listed).starts) back distinct

/-- What is written is read back. -/
theorem parse_write {value : Json} (readable : Readable nestingLimit value) :
    parse (write value) = .ok (asRead value) := by
  obtain ⟨first, more, started⟩ := readable.starts
  have read := readable.readsBack (2 * (write value).length + 2) [] (by simp [Ends]) (by simp)
  rw [List.append_nil] at read
  have unmarked : (write value).head? ≠ some '\uFEFF' := by
    rw [started.text, List.head?_cons, ne_eq, Option.some.injEq]
    exact started.unmarked
  have start : skipGap (write value) = write value := by
    rw [started.text]
    exact skipGap_cons started.solid more
  have all : readAll (write value) = .ok (asRead value) := by
    rw [readAll, if_neg unmarked, start]
    dsimp only
    rw [read]
    rfl
  rw [parse, all]

end RegionBuild.Json
