import Whereto.Text.Blank
import Whereto.Text.Lowercase
import Whereto.Digest.Sha256
import Whereto.Digest.Base64Url

/-!
The hash under which a query is logged.
-/

namespace Whereto.Digest

/-- The base 64 text of the SHA-256 digest of the trimmed query in lower case. -/
def queryHash (query : String) : String :=
  let bytes := (Text.lowercase (Text.trim query)).toUTF8.data.toList
  String.ofList (Base64Url.encode (Sha256.digest bytes))

end Whereto.Digest
