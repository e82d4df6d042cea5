import Entitlement.Ambient
import Entitlement.Cache.RoleCache
import Entitlement.Cache.Station
import Entitlement.Database.Transaction

/-! # Units of work on the database

What units of work share, and the backend of services that work on the database. Users
are looked up outside of the transaction, on a connection of their own. -/

namespace Entitlement.Database

open Cache

structure Shared where
  link : Link
  ambient : Ambient
  station : Station RoleCache

structure Desk where
  stage : Stage
  shared : Shared

namespace Desk

open Entitlement.Action

variable {α : Type}

def onTransaction (action : Action Transaction α) : Action Desk α :=
  onPart (fun desk => ⟨desk.stage, desk.shared.link⟩)
    (fun desk transaction =>
      { stage := transaction.stage, shared := { desk.shared with link := transaction.link } })
    action

def onLink (action : Action Link α) : Action Desk α :=
  onPart (·.shared.link)
    (fun desk link => { desk with shared := { desk.shared with link } }) action

def onCache (action : Action RoleCache α) : Action Desk α :=
  onPart (·.shared.station.cache)
    (fun desk cache =>
      { desk with shared := { desk.shared with station := { desk.shared.station with cache } } })
    action

def onStation (change : Station RoleCache → Station RoleCache) : Action Desk Unit :=
  modify fun desk =>
    { desk with shared := { desk.shared with station := change desk.shared.station } }

def onAmbient (take : Ambient → α × Ambient) : Action Desk α :=
  ofOutcome fun desk =>
    let (value, ambient) := take desk.shared.ambient
    (.ok value, { desk with shared := { desk.shared with ambient } })

def backend : Backend (Action Desk) where
  enter area := onTransaction (Transaction.enter area)
  call call := onTransaction (Transaction.perform call)
  now := onAmbient Ambient.readClock
  freshUuid := onAmbient Ambient.makeUuid
  userByUuid text := onLink (Link.userByUuid text)
  cachedKey uuid := onCache (RoleCache.read uuid)
  offerKeys batch := onStation fun station => (station.offer batch).2
  countDecision decision := onStation fun station => station.note (.decided decision)

end Desk

/-! ## Many units -/

structure Office where
  units : List (String × Stage)
  shared : Shared

namespace Office

variable {α : Type}

def stageOf (office : Office) (unitName : String) : Stage :=
  (office.units.lookup unitName).getD .idle

def atDesk (unitName : String) (action : Action Desk α) : Action Office α :=
  Action.onPart (fun office => ⟨office.stageOf unitName, office.shared⟩)
    (fun office desk =>
      { units := (unitName, desk.stage) :: office.units.filter (·.1 ≠ unitName)
        shared := desk.shared })
    action

def drop (unitName : String) (office : Office) : Office :=
  let transaction : Transaction := ⟨office.stageOf unitName, office.shared.link⟩
  { units := office.units.filter (·.1 ≠ unitName)
    shared := { office.shared with link := transaction.abandon.link } }

end Office
end Entitlement.Database
