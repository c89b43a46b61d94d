import CodeGateway.Proofs.ForeignMessage
import CodeGateway.Proofs.WaitingRequest

namespace CodeGateway.SharedLink

end CodeGateway.SharedLink
