import FormatterModules.Bytes.Sha256
import FormatterModules.Bytes.Utf8
import FormatterModules.Failure
import FormatterModules.Ordered.Set
import FormatterModules.Path
import FormatterModules.Text.Quoted

namespace FormatterModules

structure ArtifactIdentity where
  fileName : String
  sha256 : String
  deriving DecidableEq, Repr

namespace ArtifactIdentity

instance : Ord ArtifactIdentity := ⟨compareLex (compareOn fileName) (compareOn sha256)⟩

instance : Std.TransOrd ArtifactIdentity :=
  inferInstanceAs (Std.TransCmp (compareLex (compareOn fileName) (compareOn sha256)))

def inspect (d : ArtifactIdentity) : String :=
  Text.record "ArtifactDigest"
    [("file_name", Text.quoted d.fileName), ("sha256", Text.quoted d.sha256)]

end ArtifactIdentity

def sha256OfText (s : String) : String := Bytes.sha256Hex (Bytes.ofText s)

/-- An artifact with the text it was read from. -/
structure Artifact where
  location : Path
  content : String
  identity : ArtifactIdentity
  identity_eq : identity = ⟨location.lastName, sha256OfText content⟩
  deriving DecidableEq, Repr

namespace Artifact

def ofContent (location : Path) (content : String) : Artifact :=
  ⟨location, content, ⟨location.lastName, sha256OfText content⟩, rfl⟩

instance : Ord Artifact := ⟨compareOn identity⟩

instance : Std.TransOrd Artifact := inferInstanceAs (Std.TransCmp (compareOn identity))

end Artifact

end FormatterModules
