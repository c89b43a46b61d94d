import CodeGateway.Proofs.ListedEntries
import CodeGateway.Proofs.Utf8
import CodeGateway.Report.AiContext

namespace CodeGateway

namespace Text

section Words

variable {part : List Char}

end Words

end Text

namespace AiContext

end AiContext

end CodeGateway
