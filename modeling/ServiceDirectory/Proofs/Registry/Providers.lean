import ServiceDirectory.Proofs.Metadata.Standing
import ServiceDirectory.Proofs.Registry.Session
import ServiceDirectory.Proofs.Url.Rereading

/-!
# Subscriptions to the metadata

A subscription to the metadata interface is answered from the strings in the local store.  The
providers that are registered stand there in the order of their registrations; a protocol is
asked for by a prefix of the string, and the string is read again.  Each of the three is as
good as the URL itself: the store holds the URLs of the registered providers, the prefix tells
the protocol, and no string fails to be read.
-/

namespace ServiceDirectory

namespace Url

/-- A canonical string begins with a protocol and the mark behind it if and only if this is the
protocol of the URL. -/
theorem Readable.protocol_prefix_iff {u : Url} (h : u.Readable) {protocol : String}
    (hmark : ¬protocolMark <:+: protocol.toList) :
    (protocol.toList ++ [':', '/', '/']).isPrefixOf u.fullString.toList = true ↔
      u.protocol = protocol := by
  have hfull : u.fullChars = u.protocol.toList ++ protocolMark ++
      (u.host.toList ++ portChars u.port ++ pathChars u.path.toList ++
        queryChars u.parameters.entries) := by
    simp [fullChars, protocolMark]
  rw [List.isPrefixOf_iff_prefix, toList_fullString, hfull]
  constructor
  · rintro ⟨rest, hrest⟩
    -- Neither protocol holds a mark, so both texts are cut at their first one.
    have hcut := Text.cutFirstMark_eq_some_iff.2 (firstAt_protocolMark rest hmark)
    rw [protocolMark, hrest, ← protocolMark,
      Text.cutFirstMark_eq_some_iff.2 (firstAt_protocolMark _ h.protocol)] at hcut
    exact String.toList_inj.1 (Prod.mk.inj (Option.some.inj hcut)).1
  · rintro rfl
    exact List.prefix_append _ _

end Url

namespace Registry

variable {κ : Type}

/-! ## Providers -/

/-- A call that registers a URL, or unregisters it. -/
structure Enrolment where
  registers : Bool
  url : Url

namespace Enrolment

/-- What an enrolment makes the registry do. -/
def perform (id : Ref .registry) (e : Enrolment) : Run κ Unit :=
  if e.registers then register id e.url else unregister id e.url

/-- What the enrolment of a provider asks of the metadata store. -/
def request (e : Enrolment) : MetadataStore.Request := ⟨.exported, e.registers, e.url⟩

theorem after_perform_provider {e : Enrolment} (hprovider : e.url.isProvider = true)
    (id : Ref .registry) (w : World κ) : ∃ notice : Notice, w.after (e.perform id) =
      (w.after (e.request.perform (w.registry id).metadata)).note notice := by
  obtain ⟨registers, u⟩ := e
  dsimp only at hprovider
  cases registers with
  | true =>
    refine ⟨.registered u.fullString
      (w.result (MetadataStore.exportUrl (w.registry id).metadata u)), ?_⟩
    simp [perform, register, shouldRegister, request, MetadataStore.Request.perform, hprovider]
  | false =>
    refine ⟨.deregistered u.fullString
      (w.result (MetadataStore.unexportUrl (w.registry id).metadata u)), ?_⟩
    simp [perform, unregister, shouldRegister, request, MetadataStore.Request.perform, hprovider]

theorem after_perform_other {e : Enrolment} (hother : e.url.isProvider = false)
    (id : Ref .registry) (w : World κ) :
    w.after (e.perform id) = w.note (.registrationSkipped e.url.fullString) := by
  cases hregisters : e.registers <;>
    simp [perform, register, unregister, shouldRegister, hregisters, hother]

theorem registry_after_request (e : Enrolment) (m : Ref .metadata) (id : Ref .registry)
    (w : World κ) : (w.after (e.request.perform m)).registry id = w.registry id := by
  obtain ⟨registers, u⟩ := e
  cases registers <;> rfl

end Enrolment

/-- The calls of a registry that register and unregister, the latest first.  Whatever else
happens to the world, what the registry exports changes by these calls only. -/
inductive Enrolled (id : Ref .registry) : List Enrolment → World κ → Prop
  | nothing {w : World κ} (hnone : (w.store (w.registry id).metadata).exported = .empty) :
    Enrolled id [] w
  | call {log : List Enrolment} {w : World κ} (e : Enrolment) (h : Enrolled id log w) :
    Enrolled id (e :: log) (w.after (e.perform id))
  | meanwhile {log : List Enrolment} {w w' : World κ} (h : Enrolled id log w)
    (hsame : (w'.store (w'.registry id).metadata).exported =
      (w.store (w.registry id).metadata).exported) : Enrolled id log w'

/-- The URLs of the providers that are registered and not since unregistered, in the order of
their registrations. -/
def providers (log : List Enrolment) : List Url :=
  MetadataStore.standing ((log.filter fun e => e.url.isProvider).map Enrolment.request)

theorem mem_providers {log : List Enrolment} {u : Url} (h : u ∈ providers log) :
    ∃ e ∈ log, e.url.isProvider = true ∧ e.url = u := by
  obtain ⟨r, hr, -, rfl⟩ := MetadataStore.mem_standing h
  obtain ⟨e, he, rfl⟩ := List.mem_map.1 hr
  obtain ⟨hmem, hprovider⟩ := List.mem_filter.1 he
  exact ⟨e, hmem, hprovider, rfl⟩

/-- The store holds the registered providers. -/
theorem Enrolled.holds {id : Ref .registry} {log : List Enrolment} {w : World κ}
    (h : Enrolled id log w) (hurls : ∀ e ∈ log, e.url.isProvider = true → e.url.Readable) :
    (w.store (w.registry id).metadata).exported.Holds (providers log) := by
  induction h with
  | nothing hnone =>
    rw [hnone]
    exact UrlTable.holds_empty
  | @call log w e _ ih =>
    have hearlier := ih fun e' he' => hurls e' (List.mem_cons_of_mem _ he')
    cases hprovider : e.url.isProvider with
    | true =>
      obtain ⟨notice, hafter⟩ := Enrolment.after_perform_provider hprovider id w
      have hregistry : (w.after (e.perform id)).registry id = w.registry id := by
        rw [hafter]
        exact e.registry_after_request _ id w
      have hexported : ((w.after (e.perform id)).store (w.registry id).metadata).exported =
          (e.request.edit (w.store (w.registry id).metadata).exported).2 := by
        rw [hafter]
        exact MetadataStore.Request.table_after_perform w _ e.request .exported
      rw [hregistry, hexported, providers, List.filter_cons_of_pos
        (p := fun e : Enrolment => e.url.isProvider) hprovider, List.map_cons]
      exact MetadataStore.holds_edit hearlier rfl (hurls e List.mem_cons_self hprovider)
    | false =>
      rw [Enrolment.after_perform_other hprovider, providers,
        List.filter_cons_of_neg (by simp [hprovider])]
      exact hearlier
  | meanwhile _ hsame ih =>
    rw [hsame]
    exact ih hurls

/-! ## The answer -/

/-- The URLs that a subscription to the metadata asks for: those with its service key, and with
its protocol if it names one. -/
def offered (url : Url) (urls : List Url) : List Url :=
  urls.filter fun u => u.serviceKey = url.serviceKey ∧ ∀ protocol ∈ url.protocolFilter,
    u.protocol = protocol

theorem exportedByProtocol_eq {m : MetadataStore} {urls : List Url} (h : m.exported.Holds urls)
    {url : Url} (hurl : isMetadataUrl url = true)
    (hprotocol : ∀ protocol ∈ url.parameter? Url.protocolKey,
      ¬Url.protocolMark <:+: protocol.toList) :
    m.exportedByProtocol url.serviceInterface url.group url.version
        (url.parameter? Url.protocolKey) = (offered url urls).map Url.fullString := by
  have hinterface : url.serviceInterface ≠ anyInterface := by
    rw [of_decide_eq_true hurl]
    decide
  have hkey : (m.exportedUrls url.serviceInterface url.group url.version) =
      (urls.filter fun u => u.serviceKey = url.serviceKey).map Url.fullString := by
    rw [MetadataStore.exportedUrls, if_neg hinterface, h.get]
    rfl
  rw [MetadataStore.exportedByProtocol, hkey, ← Url.protocolFilter, offered]
  cases hfilter : url.protocolFilter with
  | none => simp
  | some protocol =>
    have hmark := hprotocol protocol (Option.filter_eq_some_iff.1 hfilter).1
    dsimp only
    rw [List.filter_map, List.filter_filter]
    refine congrArg _ (List.filter_congr fun u hu => ?_)
    rw [Function.comp_apply, Bool.eq_iff_iff, Bool.and_eq_true,
      (h.readable u hu).protocol_prefix_iff hmark]
    simp [and_comm]

/-- What has been read never fails to be read again. -/
theorem parseAll_fullStrings {urls : List Url}
    (h : ∀ u ∈ urls, ∃ text, Url.parse text = .ok u) :
    ∃ reread, parseAll (urls.map Url.fullString) = .ok reread ∧
      List.Forall₂ (fun u v => Url.parse u.fullString = .ok v) urls reread := by
  induction urls with
  | nil => exact ⟨[], rfl, .nil⟩
  | cons u urls ih =>
    obtain ⟨text, hread⟩ := h u List.mem_cons_self
    have hparse := (Url.readable_of_parse hread).parse_fullString_eq
      (Url.protocol_start_of_parse hread)
    obtain ⟨reread, hrest, hforall⟩ := ih fun v hv => h v (List.mem_cons_of_mem _ hv)
    refine ⟨u.settled :: reread, ?_, .cons hparse hforall⟩
    rw [List.map_cons, parseAll, hparse, hrest]
    rfl

/-- Where the strings can be read, the list is given to the sink once, and the URL is recorded
unless the sink panics. -/
theorem subscribe_of_parseAll {id : Ref .registry} {url : Url} (hurl : isMetadataUrl url = true)
    {urls : List Url} {w : World κ}
    (h : parseAll ((w.store (w.registry id).metadata).exportedByProtocol url.serviceInterface
      url.group url.version (url.parameter? Url.protocolKey)) = .ok urls)
    (host : Host κ) (sink : Ref .sink) :
    let telling := w.note (.metadataDelivered url.fullString urls.length)
    let told := telling.after (host.deliver ⟨url, sink, urls, none⟩)
    let result := w.result (subscribe host id url sink).run
    let final := w.after (subscribe host id url sink).run
    (∃ payload, telling.result (host.deliver ⟨url, sink, urls, none⟩) = some payload ∧
      result = .error (.panicked payload) ∧ final = told) ∨
    (telling.result (host.deliver ⟨url, sink, urls, none⟩) = none ∧ result = .ok () ∧
      final = told.after (MetadataStore.subscribeUrl (told.registry id).metadata url)) := by
  intro telling told result final
  have hdeliver : w.result (deliverMetadata host id url sink).run =
      telling.result (Act.ofReaction (host.deliver ⟨url, sink, urls, none⟩)).run := by
    rw [deliverMetadata, World.result_get_bind_except]
    dsimp only
    rw [h, World.result_ofRun_bind, World.after_note]
  have htold : w.after (deliverMetadata host id url sink).run = told := by
    rw [deliverMetadata, World.after_get_bind_except]
    dsimp only
    rw [h, World.after_ofRun_bind, World.after_note, World.after_ofReaction]
  have hways := subscribe_cases host id url sink w
  dsimp only at hways
  rw [answer_metadata hurl, htold, hdeliver, World.result_ofReaction] at hways
  cases hreaction : telling.result (host.deliver ⟨url, sink, urls, none⟩) with
  | some payload =>
    rw [hreaction] at hways
    rcases hways with ⟨stop, hstop, hresult, hfinal⟩ | ⟨hok, -⟩
    · obtain rfl := Except.error.inj hstop
      exact Or.inl ⟨payload, rfl, hresult, hfinal⟩
    · cases hok
  | none =>
    rw [hreaction] at hways
    rcases hways with ⟨stop, hstop, -⟩ | ⟨-, hresult, hfinal⟩
    · cases hstop
    · exact Or.inr ⟨rfl, hresult, hfinal⟩

/-- A subscription to the metadata is given, once, the registered providers with its service key
and its protocol, as their canonical strings read, in the order of their registrations.  Nothing
but the sink can make it fail. -/
theorem subscribe_of_enrolled {id : Ref .registry} {log : List Enrolment} {w : World κ}
    (h : Enrolled id log w)
    (hparsed : ∀ e ∈ log, e.url.isProvider = true → ∃ text, Url.parse text = .ok e.url)
    {url : Url} (hurl : isMetadataUrl url = true)
    (hprotocol : ∀ protocol ∈ url.parameter? Url.protocolKey,
      ¬Url.protocolMark <:+: protocol.toList)
    (host : Host κ) (sink : Ref .sink) :
    ∃ urls, List.Forall₂ (fun u v => Url.parse u.fullString = .ok v)
        (offered url (providers log)) urls ∧
      let telling := w.note (.metadataDelivered url.fullString urls.length)
      let told := telling.after (host.deliver ⟨url, sink, urls, none⟩)
      let result := w.result (subscribe host id url sink).run
      let final := w.after (subscribe host id url sink).run
      (∃ payload, telling.result (host.deliver ⟨url, sink, urls, none⟩) = some payload ∧
        result = .error (.panicked payload) ∧ final = told) ∨
      (telling.result (host.deliver ⟨url, sink, urls, none⟩) = none ∧ result = .ok () ∧
        final = told.after (MetadataStore.subscribeUrl (told.registry id).metadata url)) := by
  have hholds : (w.store (w.registry id).metadata).exported.Holds (providers log) := by
    refine h.holds fun e he hprovider => ?_
    obtain ⟨text, hread⟩ := hparsed e he hprovider
    exact Url.readable_of_parse hread
  have hoffered : ∀ u ∈ offered url (providers log), ∃ text, Url.parse text = .ok u := by
    intro u hu
    obtain ⟨e, he, hprovider, rfl⟩ := mem_providers (List.mem_of_mem_filter hu)
    exact hparsed e he hprovider
  obtain ⟨urls, hreread, hforall⟩ := parseAll_fullStrings hoffered
  rw [← exportedByProtocol_eq hholds hurl hprotocol] at hreread
  exact ⟨urls, hforall, subscribe_of_parseAll hurl hreread host sink⟩

/-! ## Two protocols, and one that asks for one of them -/

section Dubbo

/-- The URL of a metadata service on one side of a call. -/
def metadataUrl (protocol host side : String) : Url :=
  (Url.ofParts protocol host none metadataInterface).withParameter Url.sideKey side

def dubboProvider : Url := metadataUrl "dubbo" "a" "provider"

def triProvider : Url := metadataUrl "tri" "b" "provider"

/-- The latest call stands first.  One provider goes and comes back, and a consumer is none. -/
def enrolments : List Enrolment :=
  [⟨true, metadataUrl "dubbo" "c" "consumer"⟩, ⟨true, dubboProvider⟩, ⟨false, dubboProvider⟩,
    ⟨true, triProvider⟩, ⟨true, dubboProvider⟩]

/-- Its sinks keep what they are given. -/
def keeping : Host (List (List Url)) :=
  { Host.quiet with
    deliver := fun d => do
      modify fun w => { w with client := d.urls :: w.client }
      return none }

/-- The world in which the calls have been made. -/
def staffed : World (List (List Url)) :=
  enrolments.foldr (fun e w => w.after (e.perform ⟨0⟩)) (ready [])

theorem staffed_enrolled : Enrolled ⟨0⟩ enrolments staffed :=
  (((((Enrolled.nothing (w := ready []) rfl).call _).call _).call _).call _).call _

/-- Who asks for one protocol. -/
def dubboConsumer : Url :=
  (Url.ofParts "consumer" "d" none metadataInterface).withParameter Url.protocolKey "dubbo"

theorem subscribe_of_enrolled_dubbo :
    Enrolled ⟨0⟩ enrolments staffed ∧
      (∀ e ∈ enrolments, e.url.isProvider = true → ∃ text, Url.parse text = .ok e.url) ∧
      isMetadataUrl dubboConsumer = true ∧
      (∀ protocol ∈ dubboConsumer.parameter? Url.protocolKey,
        ¬Url.protocolMark <:+: protocol.toList) ∧
      staffed.result (subscribe keeping ⟨0⟩ dubboConsumer ⟨7⟩).run = .ok () ∧
      (staffed.after (subscribe keeping ⟨0⟩ dubboConsumer ⟨7⟩).run).client =
        [[dubboProvider]] := by
  have hdubbo : Url.parse dubboProvider.fullString = .ok dubboProvider := by decide
  have htri : Url.parse triProvider.fullString = .ok triProvider := by decide
  have hparsed : ∀ e ∈ enrolments, e.url.isProvider = true →
      ∃ text, Url.parse text = .ok e.url := by
    intro e he hprovider
    have hwhich : e.url = dubboProvider ∨ e.url = triProvider := by
      revert e
      decide
    rcases hwhich with hurl | hurl
    · exact ⟨_, hurl ▸ hdubbo⟩
    · exact ⟨_, hurl ▸ htri⟩
  have hurl : isMetadataUrl dubboConsumer = true := by decide
  have hprotocol : ∀ protocol ∈ dubboConsumer.parameter? Url.protocolKey,
      ¬Url.protocolMark <:+: protocol.toList := by decide
  obtain ⟨urls, hreread, hways⟩ :=
    subscribe_of_enrolled staffed_enrolled hparsed hurl hprotocol keeping ⟨7⟩
  have hoffered : offered dubboConsumer (providers enrolments) = [dubboProvider] := by decide
  rw [hoffered] at hreread
  cases hreread with
  | cons hparse hnil =>
    cases hnil
    obtain rfl := Except.ok.inj (hdubbo.symm.trans hparse)
    rcases hways with ⟨payload, hpanic, -⟩ | ⟨-, hresult, hfinal⟩
    · cases hpanic
    · refine ⟨staffed_enrolled, hparsed, hurl, hprotocol, hresult, ?_⟩
      rw [hfinal, MetadataStore.after_subscribeUrl]
      rfl

end Dubbo

end Registry

end ServiceDirectory
