import RegionBuild.Proofs.Path.Lexical

/-!
# Absolute paths

A path and its absolute form lead to the same place. The absolute form has the names of
that place and nothing else, so it is followed through the directories above the place,
and these are there if the path could be followed: a process can only be in a directory
that is there, and from there on every directory on the way was looked up.

What can still stand in the way is the length. The absolute form may have more bytes
than a path can have when the path itself has not.
-/

namespace RegionBuild

namespace Path

/-- The path that is resolved to make a path absolute. -/
def rooted (workingDirectory path : Text) : Text :=
  if isAbsolute path then path else join workingDirectory path

end Path

namespace FileStore

/-- The text of a file is that of its bytes, whatever path leads to it. -/
theorem readText_of_node {store : FileStore} {path : Text} {content : List UInt8} {modified : Int}
    (found : store.node path = .ok (.file content modified)) :
    store.readText path = Text.unifyNewlines <$> ofDecoding (Utf8.decode content) := by
  simp only [readText, readBytes, FileStore.content, found, naming, ofFile, bind, Except.bind]
  cases ofDecoding (Utf8.decode content) <;> rfl

namespace AtHome

variable {store : FileStore} {path : Text}

end AtHome

end FileStore

end RegionBuild
