import RegionBuild.Region.Draft
import RegionBuild.Region.Tracker

/-!
# One pass over a source text

Outside regions the scan waits for a prologue, the client's before the server's.
The prologue itself is taken back from the draft. Inside a region every
character is followed by the tracker; it stays in the draft exactly if the
region is of the kind that is kept. The closing brace is taken back as well.
-/

namespace RegionBuild.Region

/-- For which class of architectures a region is meant. -/
inductive Kind where
  | client
  | server
deriving DecidableEq, Repr

/-- How messages name the state of being inside a region. -/
def Kind.label : Kind → String
  | .client => "InClientBlock"
  | .server => "InServerBlock"

/-- What opens the regions, and whether literals inside them are followed. -/
structure Rules where
  client : Text
  server : Text
  stringAware : Bool
deriving DecidableEq, Repr

/-- The literal that opens a region of a kind. -/
def Rules.prologue (rules : Rules) : Kind → Text
  | .client => rules.client
  | .server => rules.server

/-- The kind of region that the last character read opens. -/
def Rules.opened? (rules : Rules) (tracker : Tracker) : Option Kind :=
  if tracker.completes rules.client then some .client
  else if tracker.completes rules.server then some .server
  else none

/-- A region that is open: its kind and where its prologue starts. -/
structure OpenRegion where
  kind : Kind
  start : Nat
deriving DecidableEq, Repr

/-- What happened at some character of a scan. -/
inductive Event where
  /-- A region was entered; its prologue starts at the position. -/
  | entered (kind : Kind) (start : Nat)
  /-- The open region was left. -/
  | left (kind : Kind)
deriving DecidableEq, Repr

/-- The state of a scan between two characters. Events are in reverse. -/
structure Scan where
  tracker : Tracker
  draft : Draft
  region : Option OpenRegion
  events : List Event

namespace Scan

/-- The state before the first character. -/
def start : Scan where
  tracker := .start
  draft := .empty
  region := none
  events := []

/-- Enter a region whose prologue was just completed. -/
def openRegion (rules : Rules) (scan : Scan) (kind : Kind) : Scan :=
  let size := (rules.prologue kind).length
  let start := scan.tracker.consumed.size - size
  { tracker := scan.tracker.openRegion
    draft := scan.draft.drop size
    region := some ⟨kind, start⟩
    events := .entered kind start :: scan.events }

/-- Leave the open region at its closing brace. -/
def closeRegion (scan : Scan) (kind : Kind) : Scan :=
  { tracker := scan.tracker.closeRegion
    draft := scan.draft.drop 1
    region := none
    events := .left kind :: scan.events }

/-- Read one character. -/
def step (rules : Rules) (kept : Kind) (scan : Scan) (char : Char) : Scan :=
  let read := { scan with
    tracker := scan.tracker.push char
    draft := scan.draft.pushChar char }
  match scan.region with
  | none =>
    match rules.opened? read.tracker with
    | some kind => read.openRegion rules kind
    | none => read
  | some region =>
    let (tracker, closed) := read.tracker.advance rules.stringAware char
    let followed := { read with tracker }
    if closed then followed.closeRegion region.kind
    else if region.kind = kept then followed
    else { followed with draft := followed.draft.drop 1 }

/-- Read a text from a state on. -/
def run (rules : Rules) (kept : Kind) (scan : Scan) (source : Text) : Scan :=
  source.foldl (step rules kept) scan

end Scan

/-- The text after a full scan, or the region that is still open at its end. -/
def scan (rules : Rules) (kept : Kind) (source : Text) : Except OpenRegion Text :=
  let final := Scan.start.run rules kept source
  match final.region with
  | none => .ok final.draft.toText
  | some region => .error region

end RegionBuild.Region
