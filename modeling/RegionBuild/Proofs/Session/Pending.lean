import RegionBuild.Proofs.Session.Failure
import RegionBuild.Proofs.Session.SourceMap

/-!
# What is pending

The pending unit is given up when it is finalized and when a source of another package
comes, whether or not these calls succeed. Between two such calls it only grows, by the
scratch copies that were registered. So the calls of a run and their answers say what is
pending, and the sources of one unit are all of one package.

The package of a session is that of the last source that was to be transpiled. It outlives
finalizing, and sources that opted out do not count.
-/

namespace RegionBuild

variable {κ : Type}

/-- A call in a run. A source is registered at a moment when the session has some package,
with some answer; or the unit is finalized, with whatever answer. -/
inductive Event where
  | added (source : Source) (current : Option Text) (answer : Except Fault (Option Text))
  | finalized
deriving DecidableEq

namespace Event

/-- Whether a call gives up what was pending before. -/
def startsUnit : Event → Bool
  | .added source current _ => source.transpile && decide (source.package ≠ current)
  | .finalized => true

/-- The path of the scratch copy that a call returned. -/
def copy? : Event → Option Text
  | .added source _ (.ok copy) => if source.transpile then copy else none
  | _ => none

/-- The package of a source that is to be transpiled. -/
def package? : Event → Option (Option Text)
  | .added source _ _ => if source.transpile then some source.package else none
  | .finalized => none

end Event

/-- The calls from the last one on that gave up what was pending, or else all of them. -/
def currentUnit : List Event → List Event
  | [] => []
  | event :: rest => if rest.any Event.startsUnit then currentUnit rest else event :: rest

/-- The package of the last source that was to be transpiled, or else that of the start. -/
def lastPackage (start : Option Text) (calls : List Event) : Option Text :=
  (calls.filterMap Event.package?).getLast?.getD start

/-- One more call joins the current unit or starts another. -/
theorem currentUnit_append (calls : List Event) (event : Event) :
    currentUnit (calls ++ [event]) =
      if event.startsUnit then [event] else currentUnit calls ++ [event] := by
  induction calls with
  | nil => simp [currentUnit]
  | cons first rest inductionHypothesis =>
    rw [List.cons_append, currentUnit, inductionHypothesis, List.any_append, currentUnit]
    cases starts : event.startsUnit with
    | true => simp [starts]
    | false =>
      cases rest.any Event.startsUnit <;> simp [starts]

/-- One more call is the last one that can set the package. -/
theorem lastPackage_append (start : Option Text) (calls : List Event) (event : Event) :
    lastPackage start (calls ++ [event]) = event.package?.getD (lastPackage start calls) := by
  rw [lastPackage, List.filterMap_append]
  cases set : event.package? with
  | none => simp [set, lastPackage]
  | some package => simp [set]

namespace Build

/-- The call that is made when something happens to a build. -/
def event? (build : Build κ) : Act → Option Event
  | .change _ => none
  | .add source => some (.added source build.session.package (build.add source).1)
  | .finalize _ _ _ => some .finalized

/-- The calls of a run. -/
def calls (compiler : Compiler κ) (build : Build κ) : List Act → List Event
  | [] => []
  | act :: rest => (build.event? act).toList ++ calls compiler (build.act compiler act) rest

/-- The calls of a longer run. -/
theorem calls_append (compiler : Compiler κ) (build : Build κ) (acts : List Act) (act : Act) :
    build.calls compiler (acts ++ [act]) =
      build.calls compiler acts ++ ((build.run compiler acts).event? act).toList := by
  induction acts generalizing build with
  | nil => simp [calls, run]
  | cons first rest inductionHypothesis =>
    rw [List.cons_append, calls, calls, inductionHypothesis, List.append_assoc]
    rfl

end Build

/-- A session after some calls: the unit is what was returned since the last call that gave up
what was pending, all of it for the session's package, which is that of the last source. -/
structure Session.Follows (session : Session) (start : Option Text) (calls : List Event) :
    Prop where
  paths : session.paths = (currentUnit calls).filterMap Event.copy?
  package : session.package = lastPackage start calls
  single : ∀ event ∈ currentUnit calls, ∀ package, event.package? = some package →
    package = session.package

namespace Session.Follows

variable {session : Session} {start : Option Text} {calls : List Event}

/-- At the start nothing is pending. -/
theorem nil (fresh : session.paths = []) : session.Follows session.package [] where
  paths := fresh
  package := rfl
  single := by simp [currentUnit]

/-- A source that opted out changes nothing. -/
theorem skipped (follows : session.Follows start calls) {source : Source}
    (skips : source.transpile = false) (answer : Except Fault (Option Text)) :
    session.Follows start (calls ++ [.added source session.package answer]) := by
  have unit : currentUnit (calls ++ [.added source session.package answer]) =
      currentUnit calls ++ [.added source session.package answer] := by
    rw [currentUnit_append]
    simp [Event.startsUnit, skips]
  have unset : (Event.added source session.package answer).package? = none := by
    simp [Event.package?, skips]
  constructor
  · rw [unit, follows.paths]
    cases answer <;> simp [Event.copy?, skips]
  · rw [lastPackage_append, unset, follows.package]
    rfl
  · rw [unit]
    intro event listed package set
    rcases List.mem_append.mp listed with earlier | last
    · exact follows.single event earlier package set
    · rw [List.mem_singleton.mp last, unset] at set
      cases set

/-- Finalizing leaves nothing pending, but the package stays. -/
theorem finalized (follows : session.Follows start calls) :
    Session.Follows { session with paths := [] } start (calls ++ [.finalized]) := by
  have unit : currentUnit (calls ++ [.finalized]) = [.finalized] := currentUnit_append _ _
  constructor
  · rw [unit]
    rfl
  · rw [lastPackage_append]
    exact follows.package
  · rw [unit]
    intro event listed package set
    rw [List.mem_singleton.mp listed] at set
    cases set

/-- A source that is copied or not. What was pending for another package is given up first. -/
theorem registered (follows : session.Follows start calls) {source : Source}
    (transpiled : source.transpile = true) (outcome : Except Fault Text) :
    (session.register source.package outcome).Follows start
      (calls ++ [.added source session.package (some <$> outcome)]) := by
  have set : (Event.added source session.package (some <$> outcome)).package? =
      some source.package := by
    simp [Event.package?, transpiled]
  have unit : currentUnit (calls ++ [.added source session.package (some <$> outcome)]) =
      (if source.package = session.package then currentUnit calls else []) ++
        [.added source session.package (some <$> outcome)] := by
    rw [currentUnit_append]
    by_cases same : source.package = session.package <;>
      simp [Event.startsUnit, transpiled, same]
  have copies : [Event.added source session.package (some <$> outcome)].filterMap Event.copy? =
      outcome.toOption.toList := by
    cases outcome <;> simp [Event.copy?, transpiled, Functor.map, Except.map, Except.toOption]
  constructor
  · rw [session.register_paths, unit, List.filterMap_append, copies, follows.paths]
    split <;> rfl
  · rw [lastPackage_append, set, session.register_package]
    rfl
  · rw [unit, session.register_package]
    intro event listed other named
    rcases List.mem_append.mp listed with earlier | last
    · split at earlier
      · next same => exact (follows.single event earlier other named).trans same.symm
      · cases earlier
    · rw [List.mem_singleton.mp last, set] at named
      exact (Option.some.inj named).symm

end Session.Follows

namespace Build

/-- Whatever happens, the session follows the calls. -/
theorem follows_act {build : Build κ} {start : Option Text} {calls : List Event}
    (follows : build.session.Follows start calls) (compiler : Compiler κ) (act : Act) :
    (build.act compiler act).session.Follows start (calls ++ (build.event? act).toList) := by
  cases act with
  | change files =>
    rw [event?, Option.toList_none, List.append_nil]
    exact follows
  | add source =>
    cases transpiled : source.transpile with
    | true =>
      obtain ⟨bench, _, _, added⟩ := build.add_eq source transpiled
      rw [Build.act, event?, added]
      exact follows.registered transpiled _
    | false =>
      obtain ⟨bench, _, _, skips⟩ := build.add_skipped transpiled
      rw [Build.act, event?, skips]
      exact follows.skipped transpiled _
  | finalize architecture hint input =>
    rw [Build.act, build.finalize_eq compiler architecture hint input _ rfl]
    exact follows.finalized

/-- The unit follows the calls of a whole run, whatever the compiler does.

Induct over the acts from the end, where the list of calls grows. -/
theorem follows_run (start : Build κ) (fresh : start.session.paths = []) (compiler : Compiler κ)
    (acts : List Act) :
    (start.run compiler acts).session.Follows start.session.package
      (start.calls compiler acts) := by
  induction acts using List.reverseRecOn with
  | nil => exact Session.Follows.nil fresh
  | append_singleton front act inductionHypothesis =>
    rw [calls_append]
    have longer : start.run compiler (front ++ [act]) =
        (start.run compiler front).act compiler act := by
      rw [run, List.foldl_append]
      rfl
    rw [longer]
    exact follows_act inductionHypothesis compiler act

/-- At every point of a run in which sources are registered and units finalized, successfully
or not, and files change in any way, the pending paths are those that were returned since
the last call that gave up what was pending. The package is that of the last source to be
transpiled, and all sources of the unit are of this package. The unit is what finalizing asks
the cache for, and a source that opted out changes nothing but what is printed. -/
theorem pending_returned (start : Build κ) (fresh : start.session.paths = [])
    (compiler : Compiler κ) (acts : List Act) (build : Build κ)
    (ran : build = start.run compiler acts) :
    build.session.paths =
        (currentUnit (start.calls compiler acts)).filterMap Event.copy? ∧
      build.session.package = lastPackage start.session.package (start.calls compiler acts) ∧
      (∀ source current answer,
        .added source current answer ∈ currentUnit (start.calls compiler acts) →
          source.transpile = true → source.package = build.session.package) ∧
      (∀ architecture hint input,
        (build.finalize compiler architecture hint input).2.cache =
          (build.cache.get compiler architecture
            ((currentUnit (start.calls compiler acts)).filterMap Event.copy?) hint
            build.bench).2.1) ∧
      ∀ source : Source, source.transpile = false →
        ∃ bench : Bench κ, build.add source = (.ok none, { build with bench }) ∧
          bench.files = build.bench.files ∧ bench.tools = build.bench.tools := by
  subst ran
  have follows := start.follows_run fresh compiler acts
  refine ⟨follows.paths, follows.package, ?_, ?_, ?_⟩
  · intro source current answer listed transpiled
    apply follows.single _ listed
    simp [Event.package?, transpiled]
  · intro architecture hint input
    rw [← follows.paths, finalize_eq _ compiler architecture hint input _ rfl]
  · intro source skips
    obtain ⟨bench, files, tools, added⟩ := (start.run compiler acts).add_skipped skips
    exact ⟨bench, added, files, tools⟩

/-- The sample's file as a source of a package. -/
def sampleOf (package : Char) : Source := { sampleSource with package := some [package] }

/-- The sample's file is registered for one package. Then one for another package is missing,
and the file is registered for that package twice, with one between that opted out. -/
def sampleCalls : List Act :=
  [.add (sampleOf 'p'), .add { sampleOf 'q' with path := "/w/b".toList }, .add (sampleOf 'q'),
    .add { sampleOf 'r' with transpile := false }, .add (sampleOf 'q')]

/-- What is pending then is the copy for the second package, twice. The missing file gave up
the unit of the first. -/
theorem pending_returned_twice :
    sample.session.paths = [] ∧
      (currentUnit (sample.calls Recorder.compile sampleCalls)).length = 4 ∧
      (sample.run Recorder.compile sampleCalls).session.paths =
        ["/w/t/web/w/a".toList, "/w/t/web/w/a".toList] ∧
      (sample.run Recorder.compile sampleCalls).session.package = some ['q'] := by
  obtain ⟨paths, package, _⟩ :=
    pending_returned sample rfl Recorder.compile sampleCalls _ rfl
  refine ⟨rfl, by rfl, ?_, ?_⟩
  · rw [paths]
    rfl
  · rw [package]
    rfl

end Build

end RegionBuild
