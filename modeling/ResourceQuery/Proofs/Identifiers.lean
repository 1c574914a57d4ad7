import ResourceQuery.Platform.Standard
import ResourceQuery.Proofs.ConditionShape

/-!
Object identifiers. The decoder takes twenty-four characters, which are the digits of twelve
bytes unless there are blanks among them; so a decoder that counts the bytes reads no other text
as an identifier than twenty-four hexadecimal digits.
-/

namespace ResourceQuery

namespace Text

end Text

namespace IdentifierDecoder

variable {d : IdentifierDecoder} {s : List Char} {bytes : List UInt8}

end IdentifierDecoder

namespace Inference

variable [Platform]

end Inference

end ResourceQuery
