import RegionBuild.Proofs.Text.Search

/-!
# Removing the rest of a line

Of a text that contains a marker, everything from the marker's first occurrence to the end
of its line is removed. What ends the line stays: a line feed, with a carriage return
before it, or a carriage return at the end of the text.

Search and cuts are made on bytes. The cuts never fall inside a character, because the
marker is found where it first occurs as a text and because line ends are bytes that stand
for themselves. But the last byte of the line is decoded alone, to see whether it is a
carriage return. If the line ends with a character of several bytes this is the last of
them, and nothing is removed at all.
-/

namespace RegionBuild.Text

/-- How a line ends and what follows it. A carriage return before a line feed or at the end
of the text is no part of the line. -/
inductive LineEnds : Text → Text → Text → Prop where
  | feed {line after : Text} : line.getLast? ≠ some '\r' → LineEnds line ['\n'] after
  | returnFeed {line after : Text} : LineEnds line ['\r', '\n'] after
  | textEnd {line : Text} : line.getLast? ≠ some '\r' → LineEnds line [] []
  | returnEnd {line : Text} : LineEnds line ['\r'] []

/-- The parts of a text around the first occurrence of a marker: what stands before it, the
rest of its line, what ends the line, and what follows. -/
structure MarkedLine (text marker before rest ending after : Text) : Prop where
  whole : text = before ++ (marker ++ (rest ++ (ending ++ after)))
  first : First marker before (rest ++ (ending ++ after))
  oneLine : '\n' ∉ rest
  ends : LineEnds rest ending after

/-- The bytes of a line contain no line feed. -/
theorem ne_lineFeed_of_mem {line : Text} (oneLine : '\n' ∉ line) {byte : UInt8}
    (inside : byte ∈ Utf8.encode line) : (byte != lineFeed) = true := by
  rw [bne_iff_ne]
  rintro rfl
  obtain ⟨char, listed, bytes⟩ := List.mem_flatMap.mp inside
  obtain ⟨_, value⟩ := Utf8.encodeChar_of_ascii bytes (by decide)
  have feed : char = '\n' := Char.toNat_inj.mp value
  exact oneLine (feed ▸ listed)

/-- What the removal gives where the marker is found. The line is taken with its carriage
return here, and its last byte decides. -/
theorem removeLineFrom_of_find {marker before line tail : Text} {last : Char}
    (found : find? (Utf8.encode marker) (Utf8.encode (before ++ (line ++ tail))) =
      some (Utf8.encode before).length)
    (oneLine : '\n' ∉ line) (ends : line.getLast? = some last)
    (next : tail = [] ∨ tail.head? = some '\n') :
    removeLineFrom (before ++ (line ++ tail)) marker =
      if last.toNat < 0x80 then .ok (before ++ if last = '\r' then '\r' :: tail else tail)
      else .error ⟨0, [Utf8.lastByte last], .start⟩ := by
  have inside : ∀ byte ∈ Utf8.encode line, (byte != lineFeed) = true :=
    fun byte => ne_lineFeed_of_mem oneLine
  have stops : (Utf8.encode tail).takeWhile (· != lineFeed) = [] ∧
      (Utf8.encode tail).dropWhile (· != lineFeed) = Utf8.encode tail := by
    rcases next with rfl | feed
    · exact ⟨rfl, rfl⟩
    · obtain ⟨after, rfl⟩ := List.head?_eq_some_iff.mp feed
      exact ⟨rfl, rfl⟩
  unfold removeLineFrom
  simp only [found]
  rw [Utf8.encode_append, List.drop_left, List.take_left, Utf8.encode_append,
    List.takeWhile_append_of_pos inside, List.dropWhile_append_of_pos inside, stops.1, stops.2,
    List.append_nil, Utf8.getLast?_encode ends, Utf8.decode_encode]
  simp only [Utf8.decode_lastByte]
  split
  · by_cases returned : last = '\r'
    · -- The carriage return is put in front of the rest again, which makes a text of it.
      subst returned
      have kept := Utf8.decode_encode ('\r' :: tail)
      change (Utf8.decode (Utf8.encode ('\r' :: tail)) >>= fun after => .ok (before ++ after)) = _
      rw [kept]
      rfl
    · have other : ([last] == ['\r']) = false := by simpa using returned
      change (Utf8.decode (if [last] == ['\r'] then carriageReturn :: Utf8.encode tail
        else Utf8.encode tail) >>= fun after => .ok (before ++ after)) = _
      rw [other, if_neg returned, if_neg (by decide), Utf8.decode_encode]
      rfl
  · rfl

/-- Everything divides into a line, what ends it and what follows. -/
theorem exists_lineEnds (text : Text) :
    ∃ line ending after, text = line ++ (ending ++ after) ∧ '\n' ∉ line ∧
      LineEnds line ending after := by
  have split : text = text.takeWhile (· != '\n') ++ text.dropWhile (· != '\n') :=
    List.takeWhile_append_dropWhile.symm
  have oneLine : '\n' ∉ text.takeWhile (· != '\n') := by
    intro inside
    have other := List.all_eq_true.mp List.all_takeWhile _ inside
    exact absurd other (by decide)
  have feed : ∀ char, (text.dropWhile (· != '\n')).head? = some char → char = '\n' := by
    intro char starts
    have stopped := List.head?_dropWhile_not (· != '\n') text
    rw [starts] at stopped
    simpa using stopped
  generalize text.takeWhile (· != '\n') = line at split oneLine
  generalize text.dropWhile (· != '\n') = tail at split feed
  by_cases returned : line.getLast? = some '\r'
  · obtain ⟨front, rfl⟩ := List.getLast?_eq_some_iff.mp returned
    have shorter : '\n' ∉ front := fun inside => oneLine (List.mem_append_left _ inside)
    cases tail with
    | nil => exact ⟨front, ['\r'], [], by simpa using split, shorter, .returnEnd⟩
    | cons char after =>
      obtain rfl := feed char rfl
      exact ⟨front, ['\r', '\n'], after, by simpa using split, shorter, .returnFeed⟩
  · cases tail with
    | nil => exact ⟨line, [], [], by simpa using split, oneLine, .textEnd returned⟩
    | cons char after =>
      obtain rfl := feed char rfl
      exact ⟨line, ['\n'], after, split, oneLine, .feed returned⟩

/-- A marker without carriage returns does not end a line with one. -/
theorem getLast?_append_ne {marker rest : Text} (noReturn : '\r' ∉ marker)
    (noReturn' : rest.getLast? ≠ some '\r') : (marker ++ rest).getLast? ≠ some '\r' := by
  rw [List.getLast?_append]
  cases last : rest.getLast? with
  | some char => rwa [last] at noReturn'
  | none =>
    intro ends
    exact noReturn (List.mem_of_getLast? ends)

/-- What is removed of a text with a marker in it. If the line ends with a carriage return
or its last character is one byte, everything up to the end of the line goes. -/
theorem MarkedLine.removeLineFrom {text marker before rest ending after : Text} {last : Char}
    (marked : MarkedLine text marker before rest ending after) (nonempty : marker ≠ [])
    (noReturn : '\r' ∉ marker) (noFeed : '\n' ∉ marker)
    (ends : (marker ++ rest).getLast? = some last) :
    removeLineFrom text marker =
      if ending.head? = some '\r' ∨ last.toNat < 0x80 then .ok (before ++ (ending ++ after))
      else .error ⟨0, [Utf8.lastByte last], .start⟩ := by
  have found := (find?_eq_some_iff _ _ _).mpr (marked.first.encode nonempty)
  rw [← Utf8.encode_append, ← Utf8.encode_append, ← marked.whole] at found
  have oneLine : '\n' ∉ marker ++ rest := by
    rw [List.mem_append]
    exact not_or.mpr ⟨noFeed, marked.oneLine⟩
  have plain : ∀ tail : Text, text = before ++ (marker ++ (rest ++ tail)) →
      tail = [] ∨ tail.head? = some '\n' → rest.getLast? ≠ some '\r' →
        Text.removeLineFrom text marker =
          if last.toNat < 0x80 then .ok (before ++ tail)
          else .error ⟨0, [Utf8.lastByte last], .start⟩ := by
    intro tail whole next unreturned
    have other : last ≠ '\r' := by
      rintro rfl
      exact getLast?_append_ne noReturn unreturned ends
    have line : text = before ++ ((marker ++ rest) ++ tail) := by rw [whole, List.append_assoc]
    rw [line] at found ⊢
    rw [removeLineFrom_of_find found oneLine ends next, if_neg other]
  have returned : ∀ tail : Text, text = before ++ (marker ++ (rest ++ '\r' :: tail)) →
      tail = [] ∨ tail.head? = some '\n' →
        Text.removeLineFrom text marker = .ok (before ++ '\r' :: tail) := by
    intro tail whole next
    have line : text = before ++ ((marker ++ rest ++ ['\r']) ++ tail) := by
      rw [whole]
      simp
    have oneLine' : '\n' ∉ marker ++ rest ++ ['\r'] := by
      rw [List.mem_append]
      exact not_or.mpr ⟨oneLine, by decide⟩
    rw [line] at found ⊢
    exact removeLineFrom_of_find found oneLine' List.getLast?_concat next
  have whole := marked.whole
  cases marked.ends with
  | feed unreturned => simpa using plain _ whole (Or.inr rfl) unreturned
  | textEnd unreturned => simpa using plain _ whole (Or.inl rfl) unreturned
  | returnFeed => exact returned _ whole (Or.inr rfl)
  | returnEnd => exact returned _ whole (Or.inl rfl)

/-- The removal of a marker and the rest of its line. A text without the marker comes back
as it is. Otherwise the text divides around the marker's first occurrence, and the marker
and the rest of its line are removed, unless the line ends with a character of several
bytes and no carriage return follows: then the last of these bytes is refused. -/
theorem removeLineFrom_marked (text marker : Text) (nonempty : marker ≠ [])
    (noReturn : '\r' ∉ marker) (noFeed : '\n' ∉ marker) :
    (¬ marker <:+: text → removeLineFrom text marker = .ok text) ∧
      (marker <:+: text → ∃ before rest ending after,
        MarkedLine text marker before rest ending after) ∧
      ∀ before rest ending after last, MarkedLine text marker before rest ending after →
        (marker ++ rest).getLast? = some last →
          removeLineFrom text marker =
            if ending.head? = some '\r' ∨ last.toNat < 0x80 then .ok (before ++ (ending ++ after))
            else .error ⟨0, [Utf8.lastByte last], .start⟩ := by
  refine ⟨?_, ?_, ?_⟩
  · intro absent
    have none : find? (Utf8.encode marker) (Utf8.encode text) = none := by
      rw [← Option.not_isSome_iff_eq_none, find?_isSome_iff, Utf8.encode_infix_iff]
      exact absent
    simp only [removeLineFrom, none]
  · intro occurs
    obtain ⟨before, behind, rfl, first⟩ := exists_first occurs
    obtain ⟨rest, ending, after, rfl, oneLine, ends⟩ := exists_lineEnds behind
    exact ⟨before, rest, ending, after, rfl, first, oneLine, ends⟩
  · intro before rest ending after last marked ends
    exact marked.removeLineFrom nonempty noReturn noFeed ends

/-- A marker in the middle of a text, on a line that ends with a character of two bytes and
a carriage return, and one on a line that ends with that character alone. -/
theorem removeLineFrom_marked_accents :
    MarkedLine "é;m=é\r\nm=".toList "m=".toList "é;".toList "é".toList "\r\n".toList
        "m=".toList ∧
      removeLineFrom "é;m=é\r\nm=".toList "m=".toList = .ok "é;\r\nm=".toList ∧
      MarkedLine "é;m=é".toList "m=".toList "é;".toList "é".toList [] [] ∧
      removeLineFrom "é;m=é".toList "m=".toList = .error ⟨0, [0xA9], .start⟩ := by
  have returned : MarkedLine "é;m=é\r\nm=".toList "m=".toList "é;".toList "é".toList
      "\r\n".toList "m=".toList :=
    ⟨rfl, (find?_eq_some_iff _ _ _).mp (by decide), by decide, .returnFeed⟩
  have plain : MarkedLine "é;m=é".toList "m=".toList "é;".toList "é".toList [] [] :=
    ⟨rfl, (find?_eq_some_iff _ _ _).mp (by decide), by decide, .textEnd (by decide)⟩
  obtain ⟨_, _, removed⟩ := removeLineFrom_marked "é;m=é\r\nm=".toList "m=".toList (by decide)
    (by decide) (by decide)
  obtain ⟨_, _, refused⟩ := removeLineFrom_marked "é;m=é".toList "m=".toList (by decide)
    (by decide) (by decide)
  exact ⟨returned, removed _ _ _ _ 'é' returned rfl, plain, refused _ _ _ _ 'é' plain rfl⟩

/-- A line that ends with a character of two bytes is not removed. -/
theorem removeLineFrom_refuses :
    MarkedLine "m=é\n".toList "m=".toList [] "é".toList "\n".toList [] ∧
      removeLineFrom "m=é\n".toList "m=".toList = .error ⟨0, [0xA9], .start⟩ := by
  constructor
  · exact ⟨rfl, fun _ _ _ => Nat.zero_le _, by decide, .feed (by decide)⟩
  · rfl

end RegionBuild.Text
