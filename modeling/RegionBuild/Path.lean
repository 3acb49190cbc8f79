import RegionBuild.Text.Basic

/-!
# Paths

A path is a sequence of letters with slashes between its components; one that
starts with a slash is absolute. The operations here are lexical: they look at no
file. Two slashes at the start are kept apart from one, and three or more mean one.

Most paths are texts. Those in a source map are sequences of code points, which
need not be characters, so the operations are the same for all kinds of letters.
-/

namespace RegionBuild.Path

/-- What paths are made of: a kind of letter with a slash, a dot and the NUL that no
file's name holds. -/
class Letter (α : Type) where
  slash : α
  dot : α
  nul : α

/-- Characters are letters. -/
instance : Letter Char := ⟨'/', '.', '\x00'⟩

variable {α : Type} [DecidableEq α] [Letter α]

/-- The component that means the directory itself. -/
def here : List α := [Letter.dot]

/-- The component that means the parent directory. -/
def up : List α := [Letter.dot, Letter.dot]

/-- Whether a path starts at the root. -/
def isAbsolute (path : List α) : Bool := path.head? == some Letter.slash

/-- A path inside another. An absolute one stands for itself, and no slash is
added after an empty path or one that ends in a slash. -/
def join (base path : List α) : List α :=
  if isAbsolute path then path
  else if base.isEmpty || base.getLast? == some Letter.slash then base ++ path
  else base ++ Letter.slash :: path

/-- Several paths, each inside the one before. -/
def joinAll (base : List α) (paths : List (List α)) : List α := paths.foldl join base

/-- The components between the slashes that are not empty. -/
def components (path : List α) : List (List α) :=
  (Text.splitOn Letter.slash path).filter fun component => !component.isEmpty

/-- The path without the slashes at its end. -/
def stripSlashes (path : List α) : List α :=
  (path.reverse.dropWhile (· == Letter.slash)).reverse

/-- Everything after the last slash. -/
def lastComponent (path : List α) : List α :=
  (path.reverse.takeWhile (· != Letter.slash)).reverse

/-- Everything before the last slash, without further slashes at its end unless
there is nothing else. -/
def parent (path : List α) : List α :=
  let head := path.take (path.length - (lastComponent path).length)
  let stripped := stripSlashes head
  if stripped.isEmpty then head else stripped

/-- One more component after those before it, which are in reverse. A parent
component takes one back; at the root it means the root. -/
def resolveStep (rooted : Bool) (before : List (List α)) (component : List α) :
    List (List α) :=
  if component = [] ∨ component = here then before
  else if component = up then
    match before with
    | [] => if rooted then [] else [up]
    | last :: rest => if last = up then up :: last :: rest else rest
  else component :: before

/-- The components that are left once all empty, own and parent components are
taken out as far as possible. -/
def resolve (rooted : Bool) (path : List α) : List (List α) :=
  ((Text.splitOn Letter.slash path).foldl (resolveStep rooted) []).reverse

/-- The slashes at the start that count. -/
def rootSlashes (path : List α) : List α :=
  match (path.takeWhile (· == Letter.slash)).length with
  | 0 => []
  | 2 => [Letter.slash, Letter.slash]
  | _ => [Letter.slash]

/-- The shortest path that is lexically the same. -/
def normalize (path : List α) : List α :=
  let resolved := Text.join [Letter.slash] (resolve (isAbsolute path) path)
  let short := rootSlashes path ++ resolved
  if short.isEmpty then here else short

/-- A path as an absolute one, seen from the working directory. -/
def absolute (workingDirectory path : List α) : List α :=
  normalize (if isAbsolute path then path else join workingDirectory path)

/-- The first elements that two lists share. -/
def sharedComponents : List (List α) → List (List α) → Nat
  | left :: lefts, right :: rights =>
    if left = right then sharedComponents lefts rights + 1 else 0
  | _, _ => 0

/-- How to reach a location from another, both given by their components. -/
def between (start target : List (List α)) : List α :=
  let shared := sharedComponents start target
  let steps := List.replicate (start.length - shared) up ++ target.drop shared
  match steps with
  | [] => here
  | first :: rest => joinAll first rest

/-- A non-empty path as seen from a directory. -/
def relative (workingDirectory path start : List α) : List α :=
  between (components (absolute workingDirectory start))
    (components (absolute workingDirectory path))

/-- A path without the slashes and backslashes at its start, so that it can be
nested under another. -/
def withoutRoot (path : Text) : Text := path.dropWhile fun char => char == '/' || char == '\\'

/-- The home directory that a tilde and a name stand for: without a name that of the
user, else that of the one with this name. -/
def homeOf (home : Text) (others : List (Text × Text)) (name : Text) : Option Text :=
  if name.isEmpty then some home else others.lookup name

/-- The name between a tilde at the start and the first slash. Without a tilde there is
none. -/
def homeName? : Text → Option Text
  | '~' :: rest => some (rest.takeWhile (· != '/'))
  | _ => none

/-- A tilde at the start stands for a home directory. The name of someone else may
stand between it and the first slash; a name that nobody has is left as it is. -/
def expandHome (home : Text) (others : List (Text × Text)) (path : Text) : Text :=
  match homeName? path with
  | none => path
  | some name =>
    match homeOf home others name with
    | none => path
    | some home =>
      let expanded := stripSlashes home ++ path.drop (name.length + 1)
      if expanded.isEmpty then ['/'] else expanded

end RegionBuild.Path
