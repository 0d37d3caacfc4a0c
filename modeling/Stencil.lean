import Stencil.ConfigFormat
import Stencil.Proofs.Cache.Accounting
import Stencil.Proofs.Cache.Inclusion
import Stencil.Proofs.Cache.Recency
import Stencil.Proofs.Config.Loading
import Stencil.Proofs.Matcher.Construction
import Stencil.Proofs.Matcher.Identifiers
import Stencil.Proofs.Matcher.Refusal
import Stencil.Proofs.Matcher.RoundTrip
import Stencil.Proofs.Matcher.SharedMatcher
import Stencil.Proofs.Matcher.Statistics
import Stencil.Proofs.Pattern.AssembledSource
import Stencil.Proofs.Pattern.Composition
import Stencil.Proofs.Pattern.Containment
import Stencil.Proofs.Pattern.Malformed
import Stencil.Proofs.Pattern.Offsets
import Stencil.Proofs.Pattern.Pairing
import Stencil.Proofs.Pattern.PreferredValues
import Stencil.Proofs.Pattern.SharedKeys
import Stencil.Session
