import Wayland.Metrics.Registry
import Wayland.Session.Basic

/-!
Contract: what sessions count.

Owns: the collectors of sessions, and the effect of every record on them.

Does not own: when records arise.
-/

namespace Wayland.Session

open Wayland.Metrics (Description Registry sizeBounds)

def metricName
    (name : String) :
    String :=
  Metrics.fullName "wlscanner" "session" name

def metricDescriptions : List Description :=
  [{ name := metricName "messages_total"
     help := "Messages marshalled or decoded, by direction and interface"
     kind := .counter
     isVector := true
     labels := ["direction", "interface"] },
    { name := metricName "message_size_bytes"
      help := "Size of framed messages including the header"
      kind := .histogram sizeBounds
      isVector := true
      labels := ["direction"] },
    { name := metricName "errors_total"
      help := "Protocol faults and caller misuse errors"
      kind := .counter
      isVector := true
      labels := ["kind"] },
    { name := metricName "objects_live"
      help := "Objects currently bound across sessions"
      kind := .gauge },
    { name := metricName "objects_created_total"
      help := "Objects created, by interface"
      kind := .counter
      isVector := true
      labels := ["interface"] },
    { name := metricName "objects_destroyed_total"
      help := "Objects destroyed by a destructor message, by interface"
      kind := .counter
      isVector := true
      labels := ["interface"] },
    { name := metricName "namespace_resets_total"
      help := "Identifier namespace teardowns"
      kind := .counter }]

/-- The collectors before anything happened. -/
def initialMetrics : Registry :=
  metricDescriptions.foldl (fun registry next => (registry.register next).getD registry) {}

def countMessage
    (registry : Registry)
    (direction interface : String)
    (size : Nat) :
    Registry :=
  (registry.add (metricName "messages_total") [direction, interface] 1).add
    (metricName "message_size_bytes") [direction] size

/-- The effect of a record. -/
def Record.count
    (registry : Registry) :
    Record → Registry
  | .created interface =>
      (registry.add (metricName "objects_live") [] 1).add
        (metricName "objects_created_total") [interface] 1
  | .destroyed interface =>
      (registry.add (metricName "objects_live") [] (-1)).add
        (metricName "objects_destroyed_total") [interface] 1
  | .sent interface size => countMessage registry "out" interface size
  | .received interface size => countMessage registry "in" interface size
  | .failed blame => registry.add (metricName "errors_total") [blame.text] 1
  | .reset live =>
      (registry.add (metricName "objects_live") [] (-(live : Int))).add
        (metricName "namespace_resets_total") [] 1

/-- The collectors after records, in order. -/
def countRecords
    (registry : Registry)
    (records : List Record) :
    Registry :=
  records.foldl Record.count registry

end Wayland.Session
