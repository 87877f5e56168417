import ServiceSpec.Expansion.Base
import ServiceSpec.Expansion.References

/-!
# Expansion of services

The full expansion of a service: the base expansion, then the filters of every object, then a check
of all references.
-/

namespace ServiceSpec

/-- The complete service that a minimal one stands for. -/
def Service.expand (s : Service) : Except ExpansionError Service := do
  let base ← s.expandBase
  base.withFilters.verifyReferences
  return base.withFilters

end ServiceSpec
