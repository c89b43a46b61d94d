import CodeGateway.Domain.Label
import CodeGateway.Text.Utf8

namespace CodeGateway.Domain

open Text

/-- The labels of a name. In a name that is written in both directions each must be told from its
    neighbours. -/
def labels? (name : List Char) : Option (List Label) := do
  let labels ← (splitAt '.' (← readChars? name)).mapM label?
  if labels.any (goesRightToLeft ·.plain) && !labels.all (directionFits ·.plain) then none
  else some labels

def asciiName? (bytes : List UInt8) : Option (List Char) :=
  match Utf8.decode bytes with
  | .error _ => none
  | .ok name => (labels? name).map fun labels => joinWith '.' (labels.map Label.ascii)

end CodeGateway.Domain
