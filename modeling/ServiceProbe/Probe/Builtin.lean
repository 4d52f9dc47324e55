import ServiceProbe.Dns.Lookup
import ServiceProbe.Imap.Probe
import ServiceProbe.Registry

/-!
The registry that every program starts with.
-/

namespace ServiceProbe.Registry

def builtin : Registry :=
  (empty.register Dns.protocol Dns.probe).register Imap.protocol Imap.probe

end ServiceProbe.Registry
