import Entitlement.Instant.Basic
import Entitlement.Uuid.Basic

/-! # Moments and identifiers

Moments are read off a clock and identifiers are taken from a source. Each is a
sequence that is used up in order. -/

namespace Entitlement

structure Ambient where
  clock : Nat → Instant
  readings : Nat
  source : Nat → Uuid
  made : Nat

namespace Ambient

def readClock (ambient : Ambient) : Instant × Ambient :=
  (ambient.clock ambient.readings, { ambient with readings := ambient.readings + 1 })

def makeUuid (ambient : Ambient) : Uuid × Ambient :=
  (ambient.source ambient.made, { ambient with made := ambient.made + 1 })

end Ambient
end Entitlement
