import GuardAlgebra.Proofs.FailClosed
import GuardAlgebra.Proofs.Stages
import GuardAlgebra.Proofs.Typing
import GuardAlgebra.Proofs.Interleaving
import GuardAlgebra.Proofs.Sharing
import GuardAlgebra.Proofs.Production
import GuardAlgebra.Proofs.Routes
import GuardAlgebra.Proofs.Binding
import GuardAlgebra.Proofs.Inherited
import GuardAlgebra.Proofs.ParameterType
import GuardAlgebra.Proofs.Evaluating
import GuardAlgebra.Proofs.Sessions
import GuardAlgebra.Proofs.Counterpart
import GuardAlgebra.Proofs.Grouping
import GuardAlgebra.Proofs.Folding
import GuardAlgebra.Proofs.Unwrapping
import GuardAlgebra.Proofs.Withholding
import GuardAlgebra.Proofs.Formula
import GuardAlgebra.Proofs.Rewriting
import GuardAlgebra.Proofs.Styles
import GuardAlgebra.Proofs.Forwarding
import GuardAlgebra.Proofs.Organization
import GuardAlgebra.Proofs.Congruence
import GuardAlgebra.Proofs.Interchange
import GuardAlgebra.Proofs.Precedence
import GuardAlgebra.Proofs.Rendering
import GuardAlgebra.Proofs.Logging
import GuardAlgebra.Proofs.Declaring
import GuardAlgebra.Proofs.Envelopes
import GuardAlgebra.Proofs.Editing
