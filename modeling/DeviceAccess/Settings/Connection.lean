import DeviceAccess.Directions
import DeviceAccess.Settings.Effective

/-!
# Connecting under settings

How to connect to the service at an address: with the private hosts that are set, the enrollment
under the configured policy, and the effective route.
-/

namespace DeviceAccess.Settings

/-- The directions for the service at an address. The address is read before private hosts are
registered, and those before the store is asked. -/
def directions (s : Settings) (store : Except Fault CertificateStore) (address : String) :
    Except Fault Directions := do
  let service ← Endpoint.parse address
  -- a private endpoint also covers services that are not known without being set
  let overrides ← s.overrides (Endpoint.wellKnown ++ [service])
  let enrollment ← s.refreshWith (← store)
  return Directions.build s.route enrollment (overrides.resolve service enrollment.state)

end DeviceAccess.Settings
