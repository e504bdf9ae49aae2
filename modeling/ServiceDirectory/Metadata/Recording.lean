import ServiceDirectory.World.State

/-!
# Recording URLs in a metadata store

Each operation writes a notice with the canonical string and what came of it.
-/

namespace ServiceDirectory.MetadataStore

variable {κ : Type}

def create (name : String) : Run κ (Ref .metadata) := do
  let id ← freshRef .metadata
  modify fun w => w.setStore id (.ofName name)
  return id

/-- Records an exported URL; tells whether it was not recorded yet. -/
def exportUrl (id : Ref .metadata) (u : Url) : Run κ Bool := do
  let store := (← get).store id
  let (added, exported) := store.exported.add u
  modify fun w => w.setStore id { store with exported }
  note (.urlExported u.fullString added)
  return added

/-- Forgets an exported URL; tells whether it was recorded. -/
def unexportUrl (id : Ref .metadata) (u : Url) : Run κ Bool := do
  let store := (← get).store id
  let (removed, exported) := store.exported.remove u
  modify fun w => w.setStore id { store with exported }
  note (.urlUnexported u.fullString removed)
  return removed

/-- Records a subscribed URL; tells whether it was not recorded yet. -/
def subscribeUrl (id : Ref .metadata) (u : Url) : Run κ Bool := do
  let store := (← get).store id
  let (added, subscribed) := store.subscribed.add u
  modify fun w => w.setStore id { store with subscribed }
  note (.urlSubscribed u.fullString added)
  return added

/-- Forgets a subscribed URL; tells whether it was recorded. -/
def unsubscribeUrl (id : Ref .metadata) (u : Url) : Run κ Bool := do
  let store := (← get).store id
  let (removed, subscribed) := store.subscribed.remove u
  modify fun w => w.setStore id { store with subscribed }
  note (.urlUnsubscribed u.fullString removed)
  return removed

end ServiceDirectory.MetadataStore
