import PodTelemetry.Mutation
import PodTelemetry.Proofs.Resemblance

/-!
# What a decision makes of failed lookups

Why a lookup failed shows in accounts and events only: the attributes are the
same, and so is the patch or the kind of the error.
-/

namespace PodTelemetry

open PodTelemetry.Kubernetes
open PodTelemetry.Procedure (Resembles)

namespace Attributes

end Attributes

namespace Mutation

end Mutation

end PodTelemetry
