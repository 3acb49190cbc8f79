import RegionBuild.Architecture
import RegionBuild.Region.Scan
import RegionBuild.Text.Lines
import RegionBuild.Text.Search

/-!
# Pruning a source for an architecture

A source may wrap code in regions opened by one of two prologues. Pruning for an
architecture keeps the bodies of the regions meant for it, without prologue and
closing brace, and drops the other regions. Everything outside is copied.

A pruner is a configuration only, so one pruner serves any number of sources and
architectures. Its prologues are non-empty and differ.
-/

namespace RegionBuild

open Region

/-- What may be chosen about pruning. -/
structure PrunerOptions where
  clientPrologue : Text := "if (Meteor.isClient) \x7b".toList
  serverPrologue : Text := "if (Meteor.isServer) \x7b".toList
  serverArchitecture : Text := Architecture.defaultServer
  bypassRoots : List Text := ["client".toList, "server".toList]
  stringAware : Bool := true
  verbosity : Int := 0
deriving DecidableEq, Repr

/-- Why options are refused. -/
inductive PrunerFault where
  /-- One of the prologues is empty. -/
  | emptyPrologue
  /-- The prologues are the same. -/
  | equalPrologues (prologue : Text)
deriving DecidableEq, Repr

/-- The wording of a fault. -/
def PrunerFault.message : PrunerFault → String
  | .emptyPrologue => "Conditional region prologues must not be empty"
  | .equalPrologues prologue =>
    s!"Client and server prologues are both '{String.ofList prologue}'"

/-- Accepted options. -/
structure Pruner where
  options : PrunerOptions
  client_ne_nil : options.clientPrologue ≠ []
  server_ne_nil : options.serverPrologue ≠ []
  client_ne_server : options.clientPrologue ≠ options.serverPrologue

/-- A region that is never closed: the source's logical path, the line on which
the region opens, and its kind. -/
structure Unterminated where
  path : Text
  line : Nat
  kind : Kind
deriving DecidableEq, Repr

/-- The wording of an unterminated region. -/
def Unterminated.message (fault : Unterminated) : String :=
  s!"{String.ofList fault.path}:{fault.line}: {fault.kind.label} region opened here is never closed"

/-- The result of pruning and the lines to print on the way. -/
structure Pruned where
  outcome : Except Unterminated Text
  notices : List String

namespace Pruner

/-- Accept options, unless a prologue is empty or both are the same. -/
def ofOptions (options : PrunerOptions) : Except PrunerFault Pruner :=
  if client : options.clientPrologue = [] then .error .emptyPrologue
  else if server : options.serverPrologue = [] then .error .emptyPrologue
  else if same : options.clientPrologue = options.serverPrologue then
    .error (.equalPrologues options.clientPrologue)
  else .ok ⟨options, client, server, same⟩

/-- The rules by which the pruner scans. -/
def rules (pruner : Pruner) : Rules where
  client := pruner.options.clientPrologue
  server := pruner.options.serverPrologue
  stringAware := pruner.options.stringAware

/-- Sources under one of the bypass roots are specific to an architecture already. -/
def bypasses (pruner : Pruner) (path : Text) : Bool :=
  match Text.splitOn '/' path with
  | [] => false
  | first :: _ => pruner.options.bypassRoots.contains first

/-- Server regions are kept for the server architecture and client regions for
every other one. -/
def kept (pruner : Pruner) (architecture : Text) : Kind :=
  if Architecture.isServerClass architecture pruner.options.serverArchitecture then .server
  else .client

/-- Whether the source mentions a prologue at all. Without one there is nothing
to scan. -/
def mentionsRegion (pruner : Pruner) (source : Text) : Bool :=
  Text.containsAny source [pruner.options.clientPrologue, pruner.options.serverPrologue]

/-- The scan of a source, with the line on which an unterminated region opens. -/
def scanned (pruner : Pruner) (source path architecture : Text) : Except Unterminated Text :=
  match scan pruner.rules (pruner.kept architecture) source with
  | .ok text => .ok text
  | .error region => .error ⟨path, Text.lineAt source region.start, region.kind⟩

/-- The source with the regions not meant for the architecture removed. -/
def process (pruner : Pruner) (source path architecture : Text) : Except Unterminated Text :=
  if pruner.bypasses path then .ok source
  else if !pruner.mentionsRegion source then .ok source
  else pruner.scanned source path architecture

/-- The line that reports an event of the scan. -/
def eventNotice (source path : Text) : Event → String
  | .entered kind start =>
    s!"{String.ofList path}:{Text.lineAt source start}: entering {kind.label}"
  | .left kind => s!"{String.ofList path}: leaving {kind.label}"

/-- The lines printed while a source is pruned, by verbosity. -/
def notices (pruner : Pruner) (source path architecture : Text) : List String :=
  let verbosity := pruner.options.verbosity
  if pruner.bypasses path then
    if 5 ≤ verbosity then
      [s!"{String.ofList path}: placed under an architecture root, not scanned"]
    else []
  else if !pruner.mentionsRegion source then []
  else
    let kind := pruner.kept architecture
    let heading :=
      if 4 ≤ verbosity then
        [s!"Pruning {String.ofList path} for {String.ofList architecture} (keeping {kind.label})"]
      else []
    let events :=
      if 6 ≤ verbosity then
        let final := Scan.start.run pruner.rules kind source
        final.events.reverse.map (eventNotice source path)
      else []
    heading ++ events

/-- Prune a source, with what is printed meanwhile. -/
def prune (pruner : Pruner) (source path architecture : Text) : Pruned where
  outcome := pruner.process source path architecture
  notices := pruner.notices source path architecture

end Pruner

end RegionBuild
