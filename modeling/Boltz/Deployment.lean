import Boltz.Backend
import Boltz.Service.SetInvoice
import Boltz.Sidecar.Expiration

/-!
# The backend with its sidecar

The tasks of `Backend.lean`, the request that sets the invoice of a submarine swap and the
checkers of the sidecar, over one state.
-/

namespace Boltz

inductive Request where
  | backend (e : Entry)
  | setInvoice (id invoice : Nat) (terms : InvoiceTerms)
  | checkExpiration (checker : ExpirationChecker)

def serve : Request → M Unit
  | .backend e => start e
  | .setInvoice id invoice terms => Service.setInvoice id invoice terms
  | .checkExpiration checker => checker.check

end Boltz
