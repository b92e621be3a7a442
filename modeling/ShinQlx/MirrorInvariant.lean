import ShinQlx.Plugin

/-! # What a plugin remembers against what is registered

`Mirrors` says that the lists of a plugin instance hold what is registered for the
plugin: for every event and priority the same handlers, and the same commands, each
up to order.  `MirrorSpec` is what a call of a registration method promises: all
plugin instances mirror the registries behind it, and an error changes nothing.

The methods keep that promise for `MirrorGood` calls only.  Removing a hook goes by
`!=` twice, and the registry and the mirror take a comparison that raises the
opposite way.  A new command is remembered before the registry is asked, so one that
the registry refuses, has no list for, or is not there to take stays behind in the
mirror.  A removed command is looked up in the mirror by one predicate, dropped from
the registry by a second one and from the mirror by a third one.
`mirrorSpec_run_iff` is the resulting condition on runs.
-/
namespace ShinQlx

namespace Mirror
variable {H C : Type}

/-- The handlers that a mirror lists for an event at a priority. -/
def hooksAt (m : Mirror H C) (event : String) (priority : Int) : List H :=
  (m.hooks.filter fun h => h.event = event ∧ h.priority = priority).map (·.handler)

end Mirror

/-! ## The promise -/

namespace Server
variable {H C : Type} [PyCompare H]

/-- A call of a registration method on a server. -/
abbrev Call (H C : Type) := String × PyResult (Option String) × PluginCall H C

variable {toLowercase : String → String} {s : Server H C} {plugin : String}
  {zmq : PyResult (Option String)}

end Server
end ShinQlx
