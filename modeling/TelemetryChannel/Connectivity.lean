/-
# Connectivity

The host tells when it goes online and offline. Once the channel listens, the
last notice decides; before that a probe of the host is asked, if there is one
and it knows. In doubt the host is online.
-/

namespace TelemetryChannel

/-- What is known of the connection of the host. The probe may be missing, and
one that is there may not know. -/
structure Connectivity where
  listening : Bool
  lastNotice : Bool
  probe : Option (Option Bool)
  deriving DecidableEq, Repr

namespace Connectivity

/-- Nothing is known, and nobody listens yet. -/
def initial (probe : Option (Option Bool)) : Connectivity where
  listening := false
  lastNotice := true
  probe := probe

/-- Let notices decide from now on. -/
def start (connectivity : Connectivity) : Connectivity :=
  { connectivity with listening := true }

/-- Let the probe decide from now on. Notices are still remembered. -/
def stop (connectivity : Connectivity) : Connectivity :=
  { connectivity with listening := false }

/-- Take the notice that the host is online or that it is not. -/
def notice (connectivity : Connectivity) (online : Bool) : Connectivity :=
  { connectivity with lastNotice := online }

/-- Whether the host is taken to be online. -/
def isOnline (connectivity : Connectivity) : Bool :=
  if connectivity.listening then connectivity.lastNotice
  else connectivity.probe.join.getD true

end Connectivity

end TelemetryChannel
