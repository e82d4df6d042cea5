import Entitlement.Ambient
import Entitlement.Width

/-! # Numbers of rows

A store gives out numbers from one counter of 64 bits for all kinds of rows. The counter
never goes back, except that the smallest number follows the largest one. -/

namespace Entitlement.Store

structure Supply where
  lastId : Int
  ambient : Ambient

namespace Supply

def takeId (supply : Supply) : Int × Supply :=
  let id := Width.signed64 (supply.lastId + 1)
  (id, { supply with lastId := id })

def keepId (supply : Supply) (id : Int) : Supply :=
  { supply with lastId := max supply.lastId id }

def readClock (supply : Supply) : Instant × Supply :=
  let (now, ambient) := supply.ambient.readClock
  (now, { supply with ambient })

def makeUuid (supply : Supply) : Uuid × Supply :=
  let (uuid, ambient) := supply.ambient.makeUuid
  (uuid, { supply with ambient })

end Supply
end Entitlement.Store
