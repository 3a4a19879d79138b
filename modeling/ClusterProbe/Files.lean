import ClusterProbe.Bytes
import ClusterProbe.IoError

/-!
# Files

What a program gets when it reads a file, and a set of files that is kept in memory.
-/
namespace ClusterProbe

/-- The content of a file, or why it cannot be read. -/
abbrev FileReader := String → Except IoError Bytes

/-- Files by their paths; each path stands for at most one. -/
abbrev MemoryFiles := List (String × Bytes)

namespace MemoryFiles

/-- Whether there was a file at the path, and the files without it. -/
def remove (path : String) (files : MemoryFiles) : Bool × MemoryFiles :=
  ((files.lookup path).isSome, files.filter (·.1 ≠ path))

def write (path : String) (content : Bytes) (files : MemoryFiles) : MemoryFiles :=
  (path, content) :: (files.remove path).2

def read (files : MemoryFiles) : FileReader := fun path =>
  match files.lookup path with
  | some content => .ok content
  | none => .error ⟨.notFound, some s!"open {path}: file does not exist"⟩

end MemoryFiles

/-- A file system without any files. No path holds a NUL character. -/
def FileReader.none : FileReader := fun path =>
  if path.toList.contains '\x00' then
    .error ⟨.invalidInput, some "file name contained an unexpected NUL byte"⟩
  else .error ⟨.notFound, some "No such file or directory (os error 2)"⟩

end ClusterProbe
