import ServiceDirectory.Proofs.Metadata.Table
import ServiceDirectory.Proofs.Registry.Session

/-!
# Two accounts of the subscriptions

The metadata store knows which URLs are subscribed, the registry's own table knows which
sinks are.  Both are functions of the calls that have been made, but not the same one: the
store follows the latest completed call about a URL, whichever sink it was for, and the
table follows, sink by sink, the latest call, completed or not.
-/

namespace ServiceDirectory.Registry

variable {κ : Type}

namespace Request

/-- The URL that a request is about. -/
def url : Request → Url
  | subscribe url _ => url
  | unsubscribe url _ => url

/-- The sink that a request is for. -/
def sink : Request → Ref .sink
  | subscribe _ sink => sink
  | unsubscribe _ sink => sink

/-- Whether a request subscribes. -/
def subscribes : Request → Bool
  | subscribe _ _ => true
  | unsubscribe _ _ => false

end Request

/-- Whether the latest completed call about a canonical URL subscribes to it.  The log has
the latest call first. -/
def recordedIn (key : String) : List (Request × Bool) → Bool
  | [] => false
  | (request, completed) :: earlier =>
    if completed ∧ request.url.fullString = key then request.subscribes
    else recordedIn key earlier

/-- Whether the latest call of a sink about a canonical URL subscribes to it and has
completed. -/
def activeIn (key : String) (sink : Ref .sink) : List (Request × Bool) → Bool
  | [] => false
  | (request, completed) :: earlier =>
    if request.url.fullString = key ∧ request.sink = sink then request.subscribes && completed
    else activeIn key sink earlier

/-- The store's and the registry's account agree with the log. -/
structure Accounted (id : Ref .registry) (log : List (Request × Bool)) (w : World κ) : Prop where
  filed : (w.store (w.registry id).metadata).subscribed.Filed
  recorded : ∀ key, key ∈ (w.store (w.registry id).metadata).subscribed.all ↔
    recordedIn key log = true
  active : ∀ key sink, (∃ s ∈ (w.registry id).subscriptions.get key, s.sink = sink) ↔
    activeIn key sink log = true

section

variable {id : Ref .registry} {host : Host κ} {w w' : World κ} {log : List (Request × Bool)}

theorem Accounted.kept (h : Accounted id log w) (hkept : RecordsKept id w w') :
    Accounted id log w' := by
  have hsubscribed := hkept.subscribed
  rw [← hkept.registry] at hsubscribed
  refine ⟨?_, ?_, ?_⟩
  · rw [hsubscribed, hkept.registry]
    exact h.filed
  · intro key
    rw [hsubscribed, hkept.registry]
    exact h.recorded key
  · intro key sink
    rw [hkept.registry]
    exact h.active key sink

/-- Where the subscriptions of a sink have been ended, it has none to the URL, and all else
is as it was. -/
theorem exists_mem_dropped (id : Ref .registry) (url : Url) (sink : Ref .sink) (w : World κ)
    (key : String) (s : Ref .sink) :
    (∃ r ∈ ((w.after (dropSubscription id url sink)).registry id).subscriptions.get key,
        r.sink = s) ↔
      ¬(url.fullString = key ∧ sink = s) ∧
        ∃ r ∈ (w.registry id).subscriptions.get key, r.sink = s := by
  rw [registry_after_dropSubscription]
  constructor
  · rintro ⟨r, hr, rfl⟩
    obtain ⟨hget, hother⟩ := SubscriptionTable.mem_get_take.1 hr
    exact ⟨fun h => hother ⟨h.1, h.2.symm⟩, r, hget, rfl⟩
  · rintro ⟨hother, r, hget, rfl⟩
    exact ⟨r, SubscriptionTable.mem_get_take.2 ⟨hget, fun h => hother ⟨h.1, h.2.symm⟩⟩, rfl⟩

theorem subscribed_dropped (id : Ref .registry) (url : Url) (sink : Ref .sink) (w : World κ) :
    ((w.after (dropSubscription id url sink)).store
        ((w.after (dropSubscription id url sink)).registry id).metadata).subscribed =
      (w.store (w.registry id).metadata).subscribed := by
  rw [registry_after_dropSubscription, store_after_dropSubscription]

/-- Unsubscribing forgets the URL and what the sink had. -/
theorem Accounted.unsubscribe (h : Accounted id log w) {url : Url} (hurl : url.Readable)
    (sink : Ref .sink) :
    Accounted id ((.unsubscribe url sink, true) :: log) (w.after (unsubscribe id url sink)) := by
  have hsubscribed := subscribed_dropped id url sink w
  have hactive := exists_mem_dropped id url sink w
  have hfinal := after_unsubscribe id url sink w
  dsimp only at hfinal
  generalize w.after (dropSubscription id url sink) = dropped at hsubscribed hactive hfinal
  have hforgotten : Accounted id ((.unsubscribe url sink, true) :: log)
      (dropped.after (MetadataStore.unsubscribeUrl (dropped.registry id).metadata url)) := by
    refine ⟨?_, fun key => ?_, fun key s => ?_⟩
    · rw [MetadataStore.registry_after_unsubscribeUrl,
        MetadataStore.subscribed_after_unsubscribeUrl, hsubscribed]
      exact h.filed.remove url
    · rw [MetadataStore.registry_after_unsubscribeUrl,
        MetadataStore.subscribed_after_unsubscribeUrl, hsubscribed, h.filed.mem_all_remove hurl,
        h.recorded key]
      by_cases hkey : url.fullString = key
      · simp [recordedIn, Request.url, Request.subscribes, hkey]
      · simp [recordedIn, Request.url, hkey, Ne.symm hkey]
    · rw [MetadataStore.registry_after_unsubscribeUrl, hactive, h.active key s]
      by_cases hsame : url.fullString = key ∧ sink = s
      · simp [activeIn, Request.url, Request.sink, Request.subscribes, hsame]
      · simp [activeIn, Request.url, Request.sink, hsame]
  rcases hfinal with hfinal | hfinal
  · rw [hfinal]
    exact hforgotten
  · rw [hfinal]
    exact hforgotten.kept ((RecordsKept.disregardsWatching id).note _ _)

/-- Subscribing records the URL and the sink when it completes; when it does not, the sink
has nothing. -/
theorem Accounted.subscribe (h : Accounted id log w) (hhost : host.KeepsTo (RecordsKept id))
    {url : Url} (hurl : url.Readable) (hgeneral : isMetadataUrl url = false) (sink : Ref .sink) :
    Accounted id
      ((.subscribe url sink, (w.result (subscribe host id url sink).run).isOk) :: log)
      (w.after (subscribe host id url sink).run) := by
  have hsubscribed := subscribed_dropped id url sink w
  have hactive := exists_mem_dropped id url sink w
  have hways := subscribe_cases host id url sink w
  dsimp only at hways
  rw [result_answer_instances hgeneral, after_answer_instances hgeneral] at hways
  generalize w.after (dropSubscription id url sink) = dropped at hsubscribed hactive hways
  rcases deliverInstances_records hhost url sink dropped with
    ⟨stop, hresult, hkept⟩ | ⟨watcher, v, hresult, hkept, hrecord⟩
  · rw [hresult] at hways
    rcases hways with ⟨stop', -, hstop, hfinal⟩ | ⟨hok, -⟩
    · rw [hfinal, hstop]
      refine Accounted.kept ⟨?_, fun key => ?_, fun key s => ?_⟩ hkept
      · rw [hsubscribed]
        exact h.filed
      · rw [hsubscribed]
        exact h.recorded key
      · rw [hactive, h.active key s]
        by_cases hsame : url.fullString = key ∧ sink = s
        · simp [activeIn, Request.url, Request.sink, Except.isOk, Except.toBool, hsame]
        · simp [activeIn, Request.url, Request.sink, hsame]
    · cases hok
  · rw [hresult, hrecord] at hways
    rcases hways with ⟨stop, hstop, -⟩ | ⟨-, hok, hfinal⟩
    · cases hstop
    have hvsubscribed := hkept.subscribed
    rw [hsubscribed, ← hkept.registry] at hvsubscribed
    have hregistry : (v.after (setSubscriptions id
        ((v.registry id).subscriptions.add url.fullString ⟨sink, watcher⟩))).registry id =
        { v.registry id with
          subscriptions := (v.registry id).subscriptions.add url.fullString ⟨sink, watcher⟩ } := by
      simp [setSubscriptions]
    have hstore : ((v.after (setSubscriptions id
        ((v.registry id).subscriptions.add url.fullString ⟨sink, watcher⟩))).store
          (v.registry id).metadata).subscribed =
        (w.store (w.registry id).metadata).subscribed := hvsubscribed
    rw [hfinal, hok, hregistry]
    refine ⟨?_, fun key => ?_, fun key s => ?_⟩
    · rw [MetadataStore.registry_after_subscribeUrl, hregistry,
        MetadataStore.subscribed_after_subscribeUrl, hstore]
      exact h.filed.add hurl
    · rw [MetadataStore.registry_after_subscribeUrl, hregistry,
        MetadataStore.subscribed_after_subscribeUrl, hstore, h.filed.mem_all_add hurl,
        h.recorded key]
      by_cases hkey : url.fullString = key
      · simp [recordedIn, Request.url, Request.subscribes, Except.isOk, Except.toBool, hkey]
      · simp [recordedIn, Request.url, hkey, Ne.symm hkey]
    · rw [MetadataStore.registry_after_subscribeUrl, hregistry]
      show (∃ r ∈ ((v.registry id).subscriptions.add _ _).get key, r.sink = s) ↔ _
      rw [hkept.registry, SubscriptionTable.exists_mem_get_add, hactive, h.active key s]
      by_cases hsame : url.fullString = key ∧ sink = s
      · simp [activeIn, Request.url, Request.sink, Request.subscribes, Except.isOk, Except.toBool,
          hsame]
      · simp [activeIn, Request.url, Request.sink, hsame]

theorem Accounted.perform (h : Accounted id log w) (hhost : host.KeepsTo (RecordsKept id))
    {request : Request} (hurl : request.url.Readable)
    (hgeneral : isMetadataUrl request.url = false) :
    Accounted id ((request, (w.result (request.perform host id).run).isOk) :: log)
      (w.after (request.perform host id).run) := by
  cases request with
  | subscribe url sink => exact h.subscribe hhost hurl hgeneral sink
  | unsubscribe url sink =>
    rw [Request.after_perform_unsubscribe]
    exact h.unsubscribe hurl sink

end

/-- A call about a general service, on a URL that has been read. -/
def Request.IsGeneral (request : Request) : Prop :=
  (∃ text, Url.parse text = .ok request.url) ∧ isMetadataUrl request.url = false

theorem Session.accounted {id : Ref .registry} {host : Host κ} {start w : World κ}
    {log : List (Request × Bool)} (h : Session host id (RecordsKept id) start log w)
    (hhost : host.KeepsTo (RecordsKept id)) (hstart : Accounted id [] start)
    (hgeneral : ∀ entry ∈ log, entry.1.IsGeneral) : Accounted id log w := by
  induction h with
  | nothing => exact hstart
  | call request _ ih =>
    obtain ⟨⟨text, hparse⟩, hmetadata⟩ := hgeneral _ List.mem_cons_self
    exact (ih fun entry hentry => hgeneral entry (List.mem_cons_of_mem _ hentry)).perform hhost
      (Url.readable_of_parse hparse) hmetadata
  | meanwhile _ hchange ih => exact (ih hgeneral).kept hchange

/-- The exact content of the two accounts.  A canonical URL is among the subscribed ones when
the latest completed call about it subscribes, for whichever sink, and it has subscriptions
when the latest call of some sink about it subscribes and has completed.  They agree about
the URL when these two say the same of the log. -/
theorem accounts_of_session {id : Ref .registry} {host : Host κ} {start w : World κ}
    {log : List (Request × Bool)} (hhost : host.KeepsTo (RecordsKept id))
    (htable : (start.registry id).subscriptions = .empty)
    (hstore : (start.store (start.registry id).metadata).subscribed = .empty)
    (hsession : Session host id (RecordsKept id) start log w)
    (hgeneral : ∀ entry ∈ log, entry.1.IsGeneral) (url : Url) :
    (url.fullString ∈ (w.store (w.registry id).metadata).subscribedUrls ↔
      recordedIn url.fullString log = true) ∧
    (0 < subscriptionCount w id url ↔ ∃ sink, activeIn url.fullString sink log = true) ∧
    ((url.fullString ∈ (w.store (w.registry id).metadata).subscribedUrls ↔
        0 < subscriptionCount w id url) ↔
      (recordedIn url.fullString log = true ↔
        ∃ sink, activeIn url.fullString sink log = true)) := by
  have hnothing : Accounted id [] start := by
    refine ⟨?_, fun key => ?_, fun key sink => ?_⟩
    · rw [hstore]
      exact UrlTable.filed_empty
    · rw [hstore]
      simp [recordedIn, UrlTable.all, UrlTable.empty]
    · rw [htable]
      simp [activeIn]
  have haccounted := hsession.accounted hhost hnothing hgeneral
  have hrecorded : url.fullString ∈ (w.store (w.registry id).metadata).subscribedUrls ↔
      recordedIn url.fullString log = true := haccounted.recorded url.fullString
  have hactive : 0 < subscriptionCount w id url ↔
      ∃ sink, activeIn url.fullString sink log = true := by
    rw [subscriptionCount, SubscriptionTable.count, List.length_pos_iff_exists_mem]
    constructor
    · rintro ⟨s, hs⟩
      exact ⟨s.sink, (haccounted.active _ _).1 ⟨s, hs, rfl⟩⟩
    · rintro ⟨sink, hactive⟩
      obtain ⟨s, hs, -⟩ := (haccounted.active _ _).2 hactive
      exact ⟨s, hs⟩
  exact ⟨hrecorded, hactive, by rw [hrecorded, hactive]⟩

/-! ## Two sinks and one URL -/

/-- The URL of a service to which both sinks subscribe. -/
def sharedUrl : Url := .ofParts "consumer" "c" none "Svc"

/-- Two sinks subscribe, and one of them unsubscribes. -/
def sharedLog : List (Request × Bool) :=
  [(.unsubscribe sharedUrl ⟨7⟩, true), (.subscribe sharedUrl ⟨8⟩, true),
    (.subscribe sharedUrl ⟨7⟩, true)]

/-- The world in which the two sinks have made their calls. -/
def shared : World Unit :=
  (((ready ()).after ((Request.subscribe sharedUrl ⟨7⟩).perform Host.quiet ⟨0⟩).run).after
    ((Request.subscribe sharedUrl ⟨8⟩).perform Host.quiet ⟨0⟩).run).after
      ((Request.unsubscribe sharedUrl ⟨7⟩).perform Host.quiet ⟨0⟩).run

theorem shared_session : Session Host.quiet ⟨0⟩ (RecordsKept ⟨0⟩) (ready ()) sharedLog shared := by
  have hnothing : Session Host.quiet ⟨0⟩ (RecordsKept ⟨0⟩) (ready ()) [] (ready ()) := .nothing
  exact ((hnothing.call (.subscribe sharedUrl ⟨7⟩)).call (.subscribe sharedUrl ⟨8⟩)).call
    (.unsubscribe sharedUrl ⟨7⟩)

theorem sharedLog_isGeneral : ∀ entry ∈ sharedLog, entry.1.IsGeneral := by
  have hparse : Url.parse "consumer://c/Svc" = .ok sharedUrl := by decide
  have hgeneral : isMetadataUrl sharedUrl = false := by decide
  intro entry hentry
  simp only [sharedLog, List.mem_cons, List.not_mem_nil, or_false] at hentry
  rcases hentry with rfl | rfl | rfl <;> exact ⟨⟨_, hparse⟩, hgeneral⟩

theorem accounts_of_shared_session :
    (sharedUrl.fullString ∈ (shared.store (shared.registry ⟨0⟩).metadata).subscribedUrls ↔
      recordedIn sharedUrl.fullString sharedLog = true) ∧
    (0 < subscriptionCount shared ⟨0⟩ sharedUrl ↔
      ∃ sink, activeIn sharedUrl.fullString sink sharedLog = true) := by
  have haccounts := accounts_of_session
    (Host.quiet_keepsTo (RecordsKept.disregardsWatching ⟨0⟩).refl) rfl rfl shared_session
    sharedLog_isGeneral sharedUrl
  exact ⟨haccounts.1, haccounts.2.1⟩

/-- One sink is still subscribed, and the URL is no longer among the subscribed ones. -/
theorem accounts_disagree :
    Session Host.quiet ⟨0⟩ (RecordsKept ⟨0⟩) (ready ()) sharedLog shared ∧
      (∀ entry ∈ sharedLog, entry.1.IsGeneral) ∧
      subscriptionCount shared ⟨0⟩ sharedUrl = 1 ∧
      sharedUrl.fullString ∉ (shared.store (shared.registry ⟨0⟩).metadata).subscribedUrls := by
  refine ⟨shared_session, sharedLog_isGeneral, ?_⟩
  decide

end ServiceDirectory.Registry
