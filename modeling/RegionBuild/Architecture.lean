import RegionBuild.Text.Basic

/-!
# Architectures

An architecture id is a dotted text such as `os.linux.x86_64` or `web.browser`.
Exactly one id is server class, `os` unless another is chosen; every other id,
refinements of the server id included, is client class. The language tier is
looser: the server id and all its refinements compile for the modern runtime.
-/

namespace RegionBuild.Architecture

/-- The server id when none is chosen. -/
def defaultServer : Text := ['o', 's']

/-- Whether an id is the pattern itself or the pattern followed by a dot and more. -/
def refines (architecture pattern : Text) : Bool :=
  pattern.isPrefixOf architecture &&
    match architecture.drop pattern.length with
    | [] => true
    | next :: _ => next == '.'

/-- Only the server id itself is server class. -/
def isServerClass (architecture server : Text) : Bool := architecture == server

/-- The language level that the compiler is asked to emit. -/
inductive Tier where
  /-- The modern runtime of the server family. -/
  | elevated
  /-- The conservative level for everything else. -/
  | standard
deriving DecidableEq, Repr

/-- The tier of an architecture: elevated exactly for the server family. -/
def tier (architecture server : Text) : Tier :=
  if refines architecture server then .elevated else .standard

/-- The name of a tier. -/
def Tier.name : Tier → String
  | .elevated => "ELEVATED"
  | .standard => "STANDARD"

/-- The compiler target of a tier. -/
def Tier.target : Tier → String
  | .elevated => "ES2017"
  | .standard => "ES5"

end RegionBuild.Architecture
