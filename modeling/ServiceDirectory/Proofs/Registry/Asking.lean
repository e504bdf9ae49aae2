import ServiceDirectory.Proofs.Discovery.Adding
import ServiceDirectory.Registry.Refresh
import ServiceDirectory.Registry.Names

/-!
# What asking changes

To resolve an interface and to compute the URLs of a subscription, the library only asks
its collaborators.  Whatever relation these calls keep to, the whole question keeps to as
well.
-/

namespace ServiceDirectory

variable {κ : Type}

section

variable {host : Host κ} {R : World κ → World κ → Prop}

theorem Discovery.instances_keepsTo
    (hinstances : ∀ b service w, R w (w.after (host.instances b service))) (hrefl : ∀ w, R w w)
    (htrans : ∀ {u v w}, R u v → R v w → R u w) (d : Discovery) (service : String)
    (w : World κ) : R w (w.after (d.instances host service).run) := by
  induction d using treeInduction generalizing w with
  | memory m => exact hrefl w
  | backed b => exact hinstances (w.source b).backend service w
  | composite c sources ih =>
    show R w (w.after (instancesOfAll host service sources).run)
    induction sources generalizing w with
    | nil => exact hrefl w
    | cons source rest ihRest =>
      have hfirst := ih source (by simp) w
      rw [instancesOfAll]
      cases hresult : w.result (source.instances host service).run with
      | error cause =>
        rw [World.after_bind_of_error hresult]
        exact hfirst
      | ok first =>
        have hrest := ihRest (fun s hs => ih s (by simp [hs]))
          (w.after (source.instances host service).run)
        rw [World.after_bind_of_ok hresult, World.after_bind_pure_except]
        exact htrans hfirst hrest

theorem instanceUrls_keepsTo
    (hinstances : ∀ b service w, R w (w.after (host.instances b service))) (hrefl : ∀ w, R w w)
    (htrans : ∀ {u v w}, R u v → R v w → R u w) (d : Discovery) (url : Url)
    (services : List String) (w : World κ) :
    R w (w.after (instanceUrls host d url services).run) := by
  induction services generalizing w with
  | nil => exact hrefl w
  | cons service rest ih =>
    have hfirst := d.instances_keepsTo hinstances hrefl htrans service w
    rw [instanceUrls]
    cases hresult : w.result (d.instances host service).run with
    | error cause =>
      rw [World.after_bind_of_error hresult]
      exact hfirst
    | ok first =>
      have hrest := ih (w.after (d.instances host service).run)
      rw [World.after_bind_of_ok hresult, World.after_bind_pure_except]
      exact htrans hfirst hrest

theorem Registry.result_serviceNames (host : Host κ) (id : Ref .registry) (interface : String)
    (w : World κ) :
    w.result (serviceNames host id interface).run =
      (w.result (host.lookup (w.registry id).configuration interface (w.registry id).group)).map
        fun value => (value.map configuredNames).getD [] := by
  rw [serviceNames, World.result_get_bind_except, World.result_bind_except,
    World.result_call_ofResult]
  cases w.result (host.lookup (w.registry id).configuration interface (w.registry id).group) with
  | error cause => rfl
  | ok value => cases value <;> rfl

/-- To resolve an interface is to look it up. -/
theorem Registry.after_serviceNames (host : Host κ) (id : Ref .registry) (interface : String)
    (w : World κ) :
    w.after (serviceNames host id interface).run =
      w.after (host.lookup (w.registry id).configuration interface (w.registry id).group) := by
  rw [serviceNames, World.after_get_bind_except, World.after_bind_except,
    World.after_call_ofResult]
  cases w.result
      (Call.ofResult (host.lookup (w.registry id).configuration interface
        (w.registry id).group)).run with
  | error cause => rfl
  | ok value => cases value <;> rfl

theorem Registry.serviceNames_keepsTo
    (hlookup : ∀ c key group w, R w (w.after (host.lookup c key group))) (id : Ref .registry)
    (interface : String) (w : World κ) :
    R w (w.after (serviceNames host id interface).run) := by
  rw [after_serviceNames]
  exact hlookup _ _ _ w

end

end ServiceDirectory
