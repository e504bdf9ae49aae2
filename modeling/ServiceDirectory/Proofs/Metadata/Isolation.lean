import ServiceDirectory.Proofs.Metadata.Standing
import ServiceDirectory.Proofs.Url.ServiceKeys

/-!
# Whose URLs a listing has

A listing is looked up by a key, and the key is all that it knows: it has the exported URLs with
this key.  Whether they are those of the interface, the group and the version that were asked
for is a question about keys.  They are where nothing in the parts can be taken for a
separator, and there is an interface with a slash that is listed as another one of a group.
-/

namespace ServiceDirectory.MetadataStore

open ServiceKey

variable {κ : Type} {m : Ref .metadata} {log : List Request} {w : World κ}

/-- What is listed under a key are the URLs with this key that stand, in the order of their
exports. -/
theorem Logged.exportedUrls_eq (h : Logged m log w)
    (hurls : ∀ r ∈ log, r.side = .exported → r.url.Readable) {interface : String}
    (hinterface : interface ≠ anyInterface) (group version : Option String) :
    (w.store m).exportedUrls interface group version =
      UrlTable.printed (serviceKey interface group version) (standing log) := by
  rw [exportedUrls, if_neg hinterface, (h.holds hurls).get]

/-- A listing has the canonical strings of the exported URLs with the key that is asked for.
Where nothing in the parts of the two keys can be taken for a separator, an exported URL is
listed if and only if its interface is the one asked for, and so are its group and its version,
where an empty one counts as none. -/
theorem isolated_of_logged (h : Logged m log w)
    (hparsed : ∀ r ∈ log, r.side = .exported → ∃ text, Url.parse text = .ok r.url)
    {interface : String} (hinterface : interface ≠ anyInterface) (group version : Option String) :
    (∀ text, text ∈ (w.store m).exportedUrls interface group version ↔
      ∃ u ∈ standing log, u.serviceKey = serviceKey interface group version ∧
        u.fullString = text) ∧
    ∀ u ∈ standing log, Separable u.serviceInterface interface u.group group u.version version →
      (u.fullString ∈ (w.store m).exportedUrls interface group version ↔
        u.serviceInterface = interface ∧ given u.group = given group ∧
          given u.version = given version) := by
  have hurls : ∀ r ∈ log, r.side = .exported → r.url.Readable := by
    intro r hr hside
    obtain ⟨text, hread⟩ := hparsed r hr hside
    exact Url.readable_of_parse hread
  have hholds := h.holds hurls
  rw [h.exportedUrls_eq hurls hinterface]
  refine ⟨fun text => UrlTable.mem_printed, fun u hu hseparable => ?_⟩
  rw [hholds.mem_printed (hholds.readable u hu), Url.serviceKey, hseparable.serviceKey_eq_iff]
  exact and_iff_right hu

/-! ## A service in a group and a version, and one without -/

section Grouped

def plainUrl : Url := .ofParts "dubbo" "h" none "Svc"

def betaUrl : Url :=
  (plainUrl.withParameter Url.groupKey "a:b").withParameter Url.versionKey "2"

def mixedExports : List Request :=
  [⟨.exported, true, betaUrl⟩, ⟨.exported, true, plainUrl⟩]

/-- The world in which both have been exported. -/
def mixed : World Unit :=
  mixedExports.foldr (fun r w => w.after (r.perform ⟨0⟩)) ((World.initial ()).after (create "app"))

theorem mixed_logged : Logged ⟨0⟩ mixedExports mixed :=
  ((Logged.created "app" (World.initial ()) rfl).call ⟨.exported, true, plainUrl⟩).call
    ⟨.exported, true, betaUrl⟩

/-- The group may hold a colon, since no version that is compared holds a slash. -/
theorem isolated_of_logged_grouped :
    Logged ⟨0⟩ mixedExports mixed ∧
      (∀ r ∈ mixedExports, r.side = .exported → ∃ text, Url.parse text = .ok r.url) ∧
      "Svc" ≠ anyInterface ∧
      "dubbo://h/Svc?group=a:b&version=2" ∈
        (mixed.store ⟨0⟩).exportedUrls "Svc" (some "a:b") (some "2") ∧
      "dubbo://h/Svc" ∉ (mixed.store ⟨0⟩).exportedUrls "Svc" (some "a:b") (some "2") ∧
      "dubbo://h/Svc" ∈ (mixed.store ⟨0⟩).exportedUrls "Svc" (some "") none := by
  have hparsed : ∀ r ∈ mixedExports, r.side = .exported → ∃ text, Url.parse text = .ok r.url := by
    have hplain : Url.parse "dubbo://h/Svc" = .ok plainUrl := by decide
    have hbeta : Url.parse "dubbo://h/Svc?group=a:b&version=2" = .ok betaUrl := by decide
    intro r hr _
    rcases List.mem_cons.1 hr with rfl | hr
    · exact ⟨_, hbeta⟩
    · obtain rfl := List.mem_singleton.1 hr
      exact ⟨_, hplain⟩
  have hinterface : "Svc" ≠ anyInterface := by decide
  have hgrouped := (isolated_of_logged mixed_logged hparsed hinterface (some "a:b") (some "2")).2
  have hungrouped := (isolated_of_logged mixed_logged hparsed hinterface (some "") none).2
  refine ⟨mixed_logged, hparsed, hinterface, ?_, ?_, ?_⟩
  · exact (hgrouped betaUrl (by decide) ⟨by decide, by decide⟩).2 (by decide)
  · exact fun hlisted => absurd
      ((hgrouped plainUrl (by decide) ⟨by decide, by decide⟩).1 hlisted) (by decide)
  · exact (hungrouped plainUrl (by decide) ⟨by decide, by decide⟩).2 (by decide)

end Grouped

/-! ## An interface with a slash -/

section Crossed

/-- Its path, and so its interface, is `a/b`. -/
def nestedUrl : Url := .ofParts "dubbo" "h" none "a/b"

def nestedExports : List Request := [⟨.exported, true, nestedUrl⟩]

/-- The world in which it has been exported. -/
def nested : World Unit :=
  ((World.initial ()).after (create "app")).after (Request.perform ⟨0⟩ ⟨.exported, true, nestedUrl⟩)

/-- The listing of an interface in a group has the URL of another interface without one. -/
theorem exportedUrls_of_nested_interface :
    Logged ⟨0⟩ nestedExports nested ∧ Url.parse "dubbo://h/a/b" = .ok nestedUrl ∧
      "b" ≠ anyInterface ∧
      (nested.store ⟨0⟩).exportedUrls "b" (some "a") none = ["dubbo://h/a/b"] ∧
      ¬ ∃ u ∈ standing nestedExports, u.fullString = "dubbo://h/a/b" ∧
        u.serviceInterface = "b" ∧ given u.group = given (some "a") ∧
          given u.version = given none :=
  ⟨(Logged.created "app" (World.initial ()) rfl).call _, by decide, by decide, by decide, by decide⟩

end Crossed

end ServiceDirectory.MetadataStore
