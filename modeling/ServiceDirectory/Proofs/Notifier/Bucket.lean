import ServiceDirectory.Notifier.Notify
import ServiceDirectory.Proofs.Keys
import ServiceDirectory.Proofs.World.After
import ServiceDirectory.Proofs.World.Fields

/-!
# Who is told of a service

The list of a service is known from the calls on its notifier: the observers that have been
added and not been taken off since, each once, in the order in which they were added.
-/

namespace ServiceDirectory

variable {κ : Type}

theorem Audience.observers_clear (a : Audience) (service service' : String) :
    (a.clear service).observers service' =
      if service = service' then [] else a.observers service' := by
  unfold clear
  split
  · rename_i hnone
    split_ifs with hservice
    · rw [← hservice, observers, hnone]
      rfl
    · rfl
  · simp only [observers, list?, OrderedMap.get?_insert]
    split_ifs <;> rfl

namespace Notifier

/-- A call that changes who is told of a service. -/
inductive Request
  | add (service : String) (o : Observer)
  | remove (service : String) (o : Observer)
  | clear (service : String)

/-- What a request makes the notifier do. -/
def Request.perform (n : Ref .notifier) : Request → Run κ Unit
  | add service o => Notifier.add n service o
  | remove service o => Notifier.remove n service o
  | clear service => Notifier.clear n service

/-- What a request makes of an audience. -/
def Request.edit (a : Audience) : Request → Audience
  | add service o => a.add service o
  | remove service o => a.remove service o
  | clear service => a.clear service

theorem Request.audience_after_perform (w : World κ) (n : Ref .notifier) (r : Request) :
    (w.after (r.perform n)).audience n = r.edit (w.audience n) := by
  have hset : ∀ a : Audience, (w.setAudience n a).audience n = a := by
    intro a
    rw [World.audience_setAudience, if_pos rfl]
  cases r <;> exact hset _

/-- The observers that a log of requests leaves for a service, in the order in which they were
added.  The log has the latest request first. -/
def bucket (service : String) : List Request → List Observer
  | [] => []
  | .add service' o :: earlier =>
    if service' = service then enlist (bucket service earlier) o else bucket service earlier
  | .remove service' o :: earlier =>
    if service' = service then (bucket service earlier).erase o else bucket service earlier
  | .clear service' :: earlier => if service' = service then [] else bucket service earlier

theorem bucket_nodup (service : String) (log : List Request) : (bucket service log).Nodup := by
  induction log with
  | nil => exact List.nodup_nil
  | cons r earlier ih =>
    cases r with
    | add service' o =>
      rw [bucket]
      split_ifs
      · exact nodup_enlist ih o
      · exact ih
    | remove service' o =>
      rw [bucket]
      split_ifs
      · exact ih.erase o
      · exact ih
    | clear service' =>
      rw [bucket]
      split_ifs
      · exact List.nodup_nil
      · exact ih

/-- The log of the requests that a notifier has had since it was made.  Whatever else happens to
the world, the notifier changes by its requests only. -/
inductive Logged (n : Ref .notifier) : List Request → World κ → Prop
  | created (w : World κ) (hid : w.result create = n) : Logged n [] (w.after create)
  | call {log : List Request} {w : World κ} (r : Request) (h : Logged n log w) :
    Logged n (r :: log) (w.after (r.perform n))
  | meanwhile {log : List Request} {w w' : World κ} (h : Logged n log w)
    (hsame : w'.audience n = w.audience n) : Logged n log w'

/-- A request does to an audience what it does to the buckets. -/
theorem observers_edit {a : Audience} {log : List Request}
    (h : ∀ service, a.observers service = bucket service log) (r : Request) (service : String) :
    (r.edit a).observers service = bucket service (r :: log) := by
  cases r with
  | add service' o =>
    rw [Request.edit, Audience.observers_add, h, bucket, enlist]
    split_ifs <;> simp_all
  | remove service' o =>
    rw [Request.edit, Audience.observers_remove, h, bucket,
      (bucket_nodup service log).erase_eq_filter]
    simp only [bne, beq_eq_decide, decide_not]
  | clear service' => rw [Request.edit, Audience.observers_clear, h, bucket]

/-- The notifier keeps the buckets of its log. -/
theorem Logged.observers_eq {n : Ref .notifier} {log : List Request} {w : World κ}
    (h : Logged n log w) (service : String) :
    (w.audience n).observers service = bucket service log := by
  induction h generalizing service with
  | created w hid =>
    show ((World.setAudience _ (w.result create) .empty).audience n).observers service = []
    rw [World.audience_setAudience, if_pos hid, Audience.observers_empty]
  | call r _ ih =>
    rw [Request.audience_after_perform]
    exact observers_edit ih r service
  | meanwhile _ hsame ih =>
    rw [hsame]
    exact ih service

end Notifier

end ServiceDirectory
