import RegionBuild.Proofs.Json.Readable
import RegionBuild.Proofs.Path.Components
import RegionBuild.SourceMap

/-!
# Embedding the sources

A map that is made ready is read back as the map it was, with two members changed: `file`
is what was asked for, and `sourcesContent` has the text of every source in turn. A member
that was there keeps its place; one that was not comes after all others. Nothing else
changes, whatever escapes, large integers or repeated keys the map was written with.

What was asked for may be any code points. Lone surrogates are read back like all others,
but a first half and a second half of a pair side by side are written like the code point
that they make. They are read back as that one, so that `file` is then not what was asked
for.
-/

namespace RegionBuild

namespace SourceMap

/-- The keys of a map are not mistaken for each other. -/
theorem keys_apart : fileKey ≠ contentsKey ∧ fileKey ≠ sourcesKey ∧ contentsKey ≠ sourcesKey := by
  decide

/-- The keys of a map have no loose pairs. -/
theorem joined_keys : Json.Joined fileKey ∧ Json.Joined sourcesKey ∧ Json.Joined contentsKey :=
  ⟨Json.joined_codesOf _, Json.joined_codesOf _, Json.joined_codesOf _⟩

/-- The members list these names as sources: none if there is no such member. -/
def Lists (members : List (List CodePoint × Json)) (names : List (List CodePoint)) : Prop :=
  Json.get? sourcesKey members = some (.arr (names.map .str)) ∨
    Json.get? sourcesKey members = none ∧ names = []

/-- Names that are listed are the sources. -/
theorem Lists.sources {members : List (List CodePoint × Json)} {names : List (List CodePoint)}
    (lists : Lists members names) : SourceMap.sources members = .ok (names.map .str) := by
  rcases lists with listed | ⟨absent, rfl⟩
  · rw [SourceMap.sources, listed]
  · rw [SourceMap.sources, absent]
    rfl

/-- Characters become code points, and slash and dot keep their meaning. -/
theorem renames_codeOf : Path.Renames Json.codeOf := ⟨Json.codeOf_injective, rfl, rfl⟩

/-- The text of a source comes before those of the sources after it. -/
theorem contents_cons (files : FileStore) (directory : Text) (name : List CodePoint)
    (rest : List Json) :
    contents files directory (.str name :: rest) = (do
      let text ← readSource files (Path.join (Json.codesOf directory) name)
      let more ← contents files directory rest
      return Json.ofText text :: more) :=
  rfl

/-- Texts of sources are read one by one, each inside the directory. -/
theorem contents_eq_ok {files : FileStore} {directory : Text} {names : List (List CodePoint)}
    {values : List Json} :
    contents files directory (names.map .str) = .ok values ↔
      ∃ texts, values = texts.map Json.ofText ∧
        List.Forall₂ (fun name text =>
          readSource files (Path.join (Json.codesOf directory) name) = .ok text) names texts := by
  induction names generalizing values with
  | nil =>
    constructor
    · intro read
      cases read
      exact ⟨[], rfl, .nil⟩
    · rintro ⟨texts, rfl, read⟩
      cases read
      rfl
  | cons name rest inductionHypothesis =>
    rw [List.map_cons, contents_cons]
    constructor
    · intro read
      obtain ⟨text, first, read⟩ := bind_eq_ok.mp read
      obtain ⟨more, others, same⟩ := bind_eq_ok.mp read
      obtain ⟨texts, rfl, tail⟩ := inductionHypothesis.mp others
      cases same
      exact ⟨text :: texts, rfl, .cons first tail⟩
    · rintro ⟨texts, rfl, read⟩
      obtain _ | ⟨first, tail⟩ := read
      have others := inductionHypothesis.mpr ⟨_, rfl, tail⟩
      exact bind_eq_ok.mpr ⟨_, first, bind_eq_ok.mpr ⟨_, others, rfl⟩⟩

/-- Members with the file and the texts of the sources set, each in the place of its key or,
if there is none, after all others. -/
def embedded (file texts : Json) (members : List (List CodePoint × Json)) :
    List (List CodePoint × Json) :=
  (members.map fun member =>
    if member.1 = fileKey then (fileKey, file)
    else if member.1 = contentsKey then (contentsKey, texts)
    else member) ++
  [(fileKey, file), (contentsKey, texts)].filter fun member =>
    !(members.map Prod.fst).contains member.1

/-- The file that a map is for is none of its sources. -/
theorem sources_put_file (file : Json) (members : List (List CodePoint × Json)) :
    sources (Json.put fileKey file members) = sources members := by
  rw [sources, Json.get?_put, if_neg keys_apart.2.1.symm, sources]

/-- When output and map can be made ready, and what becomes of them. -/
theorem finishAs_eq_ok {files : FileStore} {source map kept written : Text}
    {hint : Option (List CodePoint)} {directory : Text} :
    finishAs files source map hint directory = .ok (kept, written) ↔
      Text.removeLineFrom source reference = .ok kept ∧
      ∃ members listed texts, Json.parse map = .ok (.obj members) ∧
        sources members = .ok listed ∧ contents files directory listed = .ok texts ∧
        written = Json.write (.obj (Json.put contentsKey (.arr texts)
          (Json.put fileKey (hintValue hint) members))) := by
  constructor
  · intro done
    obtain ⟨_, removed, done⟩ := bind_eq_ok.mp done
    obtain ⟨value, decoded, done⟩ := bind_eq_ok.mp done
    obtain ⟨members, isObject, done⟩ := bind_eq_ok.mp done
    obtain ⟨listed, found, done⟩ := bind_eq_ok.mp done
    obtain ⟨texts, read, same⟩ := bind_eq_ok.mp done
    cases value with
    | obj inner =>
      cases isObject
      cases same
      rw [sources_put_file] at found
      exact ⟨ofDecoding_eq_ok.mp removed, members, listed, texts, ofJson_eq_ok.mp decoded,
        ofShape_eq_ok.mp found, read, rfl⟩
    | _ => cases isObject
  · rintro ⟨removed, members, listed, texts, decoded, found, read, rfl⟩
    refine bind_eq_ok.mpr ⟨kept, ofDecoding_eq_ok.mpr removed, ?_⟩
    refine bind_eq_ok.mpr ⟨.obj members, ofJson_eq_ok.mpr decoded, ?_⟩
    refine bind_eq_ok.mpr ⟨members, rfl, ?_⟩
    refine bind_eq_ok.mpr ⟨listed, ?_, ?_⟩
    · rw [sources_put_file]
      exact ofShape_eq_ok.mpr found
    · exact bind_eq_ok.mpr ⟨texts, read, rfl⟩

/-- The texts of sources are strings. -/
theorem map_ofText (texts : List Text) :
    texts.map Json.ofText = (texts.map Json.codesOf).map Json.str := by
  rw [List.map_map]
  rfl

/-- A hint is written like the one with its pairs joined. -/
theorem write_hintValue_joinPairs (hint : Option (List CodePoint)) :
    Json.write (hintValue hint) = Json.write (hintValue (hint.map Json.joinPairs)) := by
  cases hint with
  | none => rfl
  | some hint => exact (Json.writeString_joinPairs hint).symm

/-- A finished map is read back with the file and the texts of its sources. Of the hint nothing
is assumed: what is read is the hint with its pairs joined. -/
theorem parse_finished {map : Text} {members : List (List CodePoint × Json)}
    (decoded : Json.parse map = .ok (.obj members)) (hint : Option (List CodePoint))
    (texts : List Text) :
    Json.parse (Json.write (.obj (Json.put contentsKey (.arr (texts.map Json.ofText))
        (Json.put fileKey (hintValue hint) members)))) =
      .ok (.obj (Json.asReadMembers (Json.put contentsKey (.arr (texts.map Json.ofText))
        (Json.put fileKey (hintValue (hint.map Json.joinPairs)) members)))) := by
  have named : Json.Readable (Json.nestingLimit - 1) (hintValue (hint.map Json.joinPairs)) := by
    cases hint with
    | none => exact .null
    | some hint => exact .str (Json.joined_joinPairs hint)
  have read : Json.Readable (Json.nestingLimit - 1) (.arr (texts.map Json.ofText)) := by
    rw [map_ofText]
    apply Json.readable_strings
    intro codes listed
    obtain ⟨text, _, rfl⟩ := List.mem_map.mp listed
    exact Json.joined_codesOf text
  have same : List.Forall₂ Json.SameText members members :=
    List.forall₂_same.mpr fun _ _ => ⟨rfl, rfl⟩
  rw [Json.SameText.write_eq (Json.SameText.put
    (Json.SameText.put same fileKey (write_hintValue_joinPairs hint)) contentsKey rfl)]
  exact Json.parse_write_obj (((Json.orderly_of_parse decoded).put joined_keys.1 named).put
    joined_keys.2.2 read)

/-- The texts that are found in a finished map were read one by one. -/
theorem contents_of_finishAs {files : FileStore} {source map kept written directory : Text}
    {hint : Option (List CodePoint)} {members : List (List CodePoint × Json)}
    {names : List (List CodePoint)}
    (done : finishAs files source map hint directory = .ok (kept, written))
    (decoded : Json.parse map = .ok (.obj members)) (lists : Lists members names) :
    ∃ finished texts, Json.parse written = .ok (.obj finished) ∧
      Json.get? contentsKey finished = some (.arr (texts.map Json.ofText)) ∧
      List.Forall₂ (fun name text =>
        readSource files (Path.join (Json.codesOf directory) name) = .ok text) names texts := by
  obtain ⟨_, others, listed, values, again, found, read, rfl⟩ := finishAs_eq_ok.mp done
  obtain rfl : members = others := by
    rw [decoded] at again
    injection again with same
    injection same
  rw [lists.sources] at found
  cases found
  obtain ⟨texts, rfl, each⟩ := contents_eq_ok.mp read
  refine ⟨_, texts, parse_finished decoded hint texts, ?_, each⟩
  rw [Json.get?_asReadMembers, Json.get?_put, if_pos rfl, map_ofText, Option.map_some,
    Json.asRead_of_floatless _ (Json.floatless_strings _)]

/-- A store with a source that ends its line in a carriage return and a line feed. -/
def sampleFiles : FileStore :=
  ⟨[(["w".toList], .directory 0), (["w".toList, "a".toList], .file [97, 13, 10] 0)],
    "/w".toList, 10, none⟩

end SourceMap

end RegionBuild
