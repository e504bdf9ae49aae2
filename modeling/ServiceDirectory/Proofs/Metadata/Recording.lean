import ServiceDirectory.Metadata.Recording
import ServiceDirectory.Proofs.World.After
import ServiceDirectory.Proofs.World.Fields

/-!
# What recording a URL changes

Recording a URL, or forgetting it, writes to one table of one store and to the log.
-/

namespace ServiceDirectory.MetadataStore

variable {κ : Type}

/-- A new store has recorded nothing. -/
theorem store_after_create {m : Ref .metadata} (name : String) (w : World κ)
    (hid : w.result (create name) = m) : (w.after (create name)).store m = .ofName name := by
  rw [← hid]
  show (World.setStore _ _ _).store _ = _
  rw [World.store_setStore]
  exact if_pos rfl

theorem after_exportUrl (w : World κ) (m : Ref .metadata) (u : Url) :
    w.after (exportUrl m u) =
      (w.setStore m { w.store m with exported := ((w.store m).exported.add u).2 }).note
        (.urlExported u.fullString ((w.store m).exported.add u).1) := by
  rw [exportUrl, World.after_bind, World.after_get, World.result_get, World.after_bind,
    World.after_modify, World.after_bind, World.after_note, World.after_pure]

theorem after_unexportUrl (w : World κ) (m : Ref .metadata) (u : Url) :
    w.after (unexportUrl m u) =
      (w.setStore m { w.store m with exported := ((w.store m).exported.remove u).2 }).note
        (.urlUnexported u.fullString ((w.store m).exported.remove u).1) := by
  rw [unexportUrl, World.after_bind, World.after_get, World.result_get, World.after_bind,
    World.after_modify, World.after_bind, World.after_note, World.after_pure]

theorem after_subscribeUrl (w : World κ) (m : Ref .metadata) (u : Url) :
    w.after (subscribeUrl m u) =
      (w.setStore m { w.store m with subscribed := ((w.store m).subscribed.add u).2 }).note
        (.urlSubscribed u.fullString ((w.store m).subscribed.add u).1) := by
  rw [subscribeUrl, World.after_bind, World.after_get, World.result_get, World.after_bind,
    World.after_modify, World.after_bind, World.after_note, World.after_pure]

theorem after_unsubscribeUrl (w : World κ) (m : Ref .metadata) (u : Url) :
    w.after (unsubscribeUrl m u) =
      (w.setStore m { w.store m with subscribed := ((w.store m).subscribed.remove u).2 }).note
        (.urlUnsubscribed u.fullString ((w.store m).subscribed.remove u).1) := by
  rw [unsubscribeUrl, World.after_bind, World.after_get, World.result_get, World.after_bind,
    World.after_modify, World.after_bind, World.after_note, World.after_pure]

@[simp]
theorem registry_after_subscribeUrl (w : World κ) (m : Ref .metadata) (u : Url)
    (id : Ref .registry) : (w.after (subscribeUrl m u)).registry id = w.registry id := by
  rw [after_subscribeUrl]
  rfl

@[simp]
theorem registry_after_unsubscribeUrl (w : World κ) (m : Ref .metadata) (u : Url)
    (id : Ref .registry) : (w.after (unsubscribeUrl m u)).registry id = w.registry id := by
  rw [after_unsubscribeUrl]
  rfl

theorem subscribed_after_subscribeUrl (w : World κ) (m : Ref .metadata) (u : Url) :
    ((w.after (subscribeUrl m u)).store m).subscribed = ((w.store m).subscribed.add u).2 := by
  rw [after_subscribeUrl]
  show ((World.setStore w m _).store m).subscribed = _
  rw [World.store_setStore, if_pos rfl]

theorem subscribed_after_unsubscribeUrl (w : World κ) (m : Ref .metadata) (u : Url) :
    ((w.after (unsubscribeUrl m u)).store m).subscribed = ((w.store m).subscribed.remove u).2 := by
  rw [after_unsubscribeUrl]
  show ((World.setStore w m _).store m).subscribed = _
  rw [World.store_setStore, if_pos rfl]

end ServiceDirectory.MetadataStore
