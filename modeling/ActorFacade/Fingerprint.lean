import ActorFacade.Digest.Sha256
import ActorFacade.Text.Escaped
import ActorFacade.Text.Utf8

/-! # Fingerprints

The fingerprint of an actor is the digest of what determines its methods: the version of the
generator, the ordered table of operations with their modules, and the names of the modules.
-/

namespace ActorFacade.Fingerprint

/-- Items in brackets with commas and without blanks. -/
def compactList (items : List Text) : Text := 0x5B :: Text.join "," items ++ [0x5D]

/-- The row of one operation. -/
def row (entry : Text × Text) : Text :=
  compactList [Escaped.write entry.1, Escaped.write entry.2]

/-- What is digested: three lines, of which the last two are in ASCII and hold no line end. -/
def payload (version : Text) (actions : List (Text × Text)) (modules : List Text) : Text :=
  version ++ Text.newline ++ compactList (actions.map row) ++ Text.newline ++
    compactList (modules.map Escaped.write)

/-- The fingerprint; only a version that cannot be encoded has none. -/
def compute (version : Text) (actions : List (Text × Text)) (modules : List Text) :
    Except Utf8.EncodeError Text :=
  (Utf8.encode (payload version actions modules)).map Sha256.hexDigest

end ActorFacade.Fingerprint
