import Mathlib.Data.List.Range
import ReactiveModel.Live.Hub

/-!
# Subscriptions over a whole history

The subscribers of a hub are told by its history alone: those that came and have not been removed
since, in the order in which they came (`Hub.live`). The identifiers that a hub has given away are
the numbers up to the next one (`Hub.Follows`), as long as they do not run out, so none of them is
used again, and each reply of a hub is the one that its history asks for
(`Hub.replies_follow_history`).
-/

namespace ReactiveModel.Live.Hub

/-! ## What a history tells -/

/-- The subscriber that has come with a request. -/
def newcomer? : Request × Reply → Option Subscriber
  | (.subscribe tag, .subscribed id) => some ⟨id, none, tag⟩
  | (.subscribeTo _ _ tag property, .subscribed id) => some ⟨id, some property, tag⟩
  | _ => none

/-- Whether a subscriber with the identifier has been removed. -/
def removes (past : History) (id : Nat) : Bool :=
  past.contains (.unsubscribe id, .unsubscribed true)

/-- The subscribers that have not been removed since they came, in order. -/
def live : History → List Subscriber
  | [] => []
  | entry :: later =>
    (newcomer? entry).toList.filter (fun s => !removes later s.id) ++ live later

/-- The identifier that has been given away with a reply. -/
def issued? : Request × Reply → Option Nat
  | (_, .subscribed id) => some id
  | _ => none

/-- All identifiers that have been given away, in order. -/
def issued (past : History) : List Nat := past.filterMap issued?

theorem issued?_of_newcomer? {entry : Request × Reply} {s : Subscriber}
    (h : newcomer? entry = some s) : issued? entry = some s.id := by
  unfold newcomer? at h
  split at h
  · cases h
    rfl
  · cases h
    rfl
  · cases h

/-- Each subscriber that is left has an identifier that has been given away, in the same order. -/
theorem live_sublist_issued (past : History) :
    ((live past).map (·.id)).Sublist (issued past) := by
  induction past with
  | nil => exact .slnil
  | cons entry later ih =>
    have hcons : issued (entry :: later) = (issued? entry).toList ++ issued later := by
      cases h : issued? entry <;> simp [issued, h]
    rw [live, List.map_append, hcons]
    refine .append ?_ ih
    cases hs : newcomer? entry with
    | none => exact List.nil_sublist _
    | some s =>
      rw [issued?_of_newcomer? hs]
      exact List.filter_sublist.map _

/-- One more request removes the subscriber that it names, if it has found one, and brings its
own. -/
theorem live_concat (past : History) (entry : Request × Reply) :
    live (past ++ [entry]) =
      (live past).filter (fun s => !removes [entry] s.id) ++ (newcomer? entry).toList := by
  induction past with
  | nil => simp [live, removes]
  | cons first later ih =>
    have hremoves : ∀ s : Subscriber, (!removes (later ++ [entry]) s.id) =
        (!removes [entry] s.id && !removes later s.id) := by
      intro s
      simp [removes, Bool.and_comm]
    rw [List.cons_append, live, ih, live, List.filter_append, List.filter_filter,
      List.append_assoc]
    simp only [hremoves]

/-! ## One request after another -/

theorem after_concat (h : Hub) (requests : List Request) (request : Request) :
    h.after (requests ++ [request]) = ((h.after requests).respond request).2 :=
  List.foldl_concat _ _ _ _

theorem history_concat (h : Hub) (requests : List Request) (request : Request) :
    h.history (requests ++ [request]) =
      h.history requests ++ [(request, ((h.after requests).respond request).1)] := by
  induction requests generalizing h with
  | nil => rfl
  | cons first rest ih => exact congrArg _ (ih _)

theorem length_history (h : Hub) (requests : List Request) :
    (h.history requests).length = requests.length := by
  induction requests generalizing h with
  | nil => rfl
  | cons first rest ih => exact congrArg Nat.succ (ih _)

/-- The hub has the subscribers of its history, and has given away the numbers up to its next. -/
structure Follows (h : Hub) (past : History) : Prop where
  subscribers : h.subscribers = live past
  issued : issued past = List.range h.nextId
  nextId_le : h.nextId ≤ past.length

namespace Follows

variable {h : Hub} {past : History}

theorem nodup_issued (hp : h.Follows past) : (Hub.issued past).Nodup := by
  rw [hp.issued]
  exact List.nodup_range

theorem nextId_notMem_issued (hp : h.Follows past) : h.nextId ∉ Hub.issued past := by
  rw [hp.issued]
  exact List.not_mem_range_self

/-- A newcomer gets the next number, which is followed by another. -/
theorem insert (hp : h.Follows past) (hlength : past.length + 1 < identifiers)
    {request : Request} {wanted : Option String} {tag : String}
    (hnew : newcomer? (request, .subscribed h.nextId) = some ⟨h.nextId, wanted, tag⟩) :
    (h.insert wanted tag).2.Follows (past ++ [(request, .subscribed h.nextId)]) := by
  have hnext : (h.insert wanted tag).2.nextId = h.nextId + 1 :=
    Nat.mod_eq_of_lt (lt_of_le_of_lt (Nat.succ_le_succ hp.nextId_le) hlength)
  have hkeep : (live past).filter (fun s => !removes [(request, .subscribed h.nextId)] s.id) =
      live past := List.filter_eq_self.2 fun s _ => by simp [removes]
  refine ⟨?_, ?_, ?_⟩
  · rw [live_concat, hkeep, hnew, ← hp.subscribers]
    rfl
  · rw [hnext, List.range_succ, ← hp.issued, Hub.issued, List.filterMap_append]
    rfl
  · rw [hnext, List.length_append]
    exact Nat.succ_le_succ hp.nextId_le

/-- A request that gives no identifier away leaves the next one as it is. -/
theorem of_not_issued (hp : h.Follows past) {entry : Request × Reply} {h' : Hub}
    (hissued : issued? entry = none) (hnext : h'.nextId = h.nextId)
    (hsubscribers : h'.subscribers = h.subscribers.filter fun s => !removes [entry] s.id) :
    h'.Follows (past ++ [entry]) := by
  have hnew : newcomer? entry = none := by
    by_contra hne
    obtain ⟨s, hs⟩ := Option.ne_none_iff_exists'.1 hne
    rw [issued?_of_newcomer? hs] at hissued
    cases hissued
  refine ⟨?_, ?_, ?_⟩
  · rw [live_concat, hnew, hsubscribers, hp.subscribers]
    exact (List.append_nil _).symm
  · rw [hnext, ← hp.issued, Hub.issued, List.filterMap_append]
    simp [hissued, Hub.issued]
  · rw [hnext, List.length_append]
    exact Nat.le_add_right_of_le hp.nextId_le

/-- A hub follows its history over one more request. -/
theorem respond (hp : h.Follows past) (hlength : past.length + 1 < identifiers)
    (request : Request) :
    (h.respond request).2.Follows (past ++ [(request, (h.respond request).1)]) := by
  cases request with
  | subscribe tag => exact hp.insert hlength rfl
  | subscribeTo model properties tag property =>
    by_cases hmem : properties.contains property = true
    · simp only [Hub.respond, subscribeTo, hmem, if_true]
      exact hp.insert hlength rfl
    · simp only [Hub.respond, subscribeTo, hmem]
      refine hp.of_not_issued rfl rfl ?_
      simp [removes]
  | unsubscribe id =>
    refine hp.of_not_issued rfl rfl (List.filter_congr fun s hs => ?_)
    -- what is found is removed; if nothing is found, no subscriber has the identifier
    by_cases hid : s.id = id
    · have hfound : h.subscribers.any (·.id == id) = true :=
        List.any_eq_true.2 ⟨s, hs, beq_iff_eq.2 hid⟩
      simp [removes, Hub.respond, Hub.unsubscribe, hfound, hid]
    · simp [removes, hid]
  | notify property =>
    refine hp.of_not_issued rfl rfl ?_
    simp [Hub.respond, removes]

end Follows

/-- A new hub follows the history that requests make with it. -/
theorem follows_history {requests : List Request} (h : requests.length < identifiers) :
    (after {} requests).Follows (history {} requests) := by
  induction requests using List.reverseRecOn with
  | nil => exact ⟨rfl, rfl, Nat.le_refl 0⟩
  | append_singleton requests request ih =>
    rw [List.length_append, List.length_singleton] at h
    rw [after_concat, history_concat]
    refine (ih (by omega)).respond ?_ request
    rw [length_history]
    exact h

/-- After any requests, fewer than there are identifiers, a new hub has the subscribers that its
history tells, and replies to any further request as its history asks for. Identifiers are given
away once. A newcomer gets one that has never been given away and comes last; who wants a property
that its model does not have is told so and changes nothing. Who is removed must be there, and
nobody else goes. A change is told to those who want to know, once each, in the order in which
they came. -/
theorem replies_follow_history {requests : List Request} (h : requests.length < UInt64.size) :
    let past := history {} requests
    let hub := after {} requests
    (issued past).Nodup ∧ ((live past).map (·.id)).Sublist (issued past) ∧
    hub.length = (live past).length ∧ (hub.isEmpty = true ↔ live past = []) ∧
    (∀ tag, ∃ id ∉ issued past, (hub.respond (.subscribe tag)).1 = .subscribed id ∧
      (hub.respond (.subscribe tag)).2.subscribers = live past ++ [⟨id, none, tag⟩]) ∧
    (∀ model properties tag property,
      let (reply, next) := hub.respond (.subscribeTo model properties tag property)
      if property ∈ properties then
        ∃ id ∉ issued past, reply = .subscribed id ∧
          next.subscribers = live past ++ [⟨id, some property, tag⟩]
      else reply = .unknownProperty ⟨model, property⟩ ∧ next = hub) ∧
    (∀ id, let (reply, next) := hub.respond (.unsubscribe id)
      reply = .unsubscribed (decide (id ∈ (live past).map (·.id))) ∧
        next.subscribers = (live past).filter (·.id ≠ id)) ∧
    ∀ property, hub.respond (.notify property) =
      (.notified ((live past).filter fun s => s.wanted = none ∨ s.wanted = some property),
        hub) := by
  intro past hub
  have hp : hub.Follows past := follows_history h
  refine ⟨hp.nodup_issued, live_sublist_issued past, ?_, ?_, fun tag => ?_,
    fun model properties tag property => ?_, fun id => ?_, fun property => ?_⟩
  · rw [Hub.length, hp.subscribers]
  · rw [Hub.isEmpty, hp.subscribers, List.isEmpty_iff]
  · exact ⟨hub.nextId, hp.nextId_notMem_issued, rfl, congrArg (· ++ _) hp.subscribers⟩
  · by_cases hmem : property ∈ properties
    · simp only [Hub.respond, subscribeTo, List.contains_iff_mem, hmem, if_true]
      exact ⟨hub.nextId, hp.nextId_notMem_issued, rfl, congrArg (· ++ _) hp.subscribers⟩
    · simp [Hub.respond, subscribeTo, hmem]
  · rw [← hp.subscribers]
    refine ⟨congrArg _ ?_, List.filter_congr fun s _ => ?_⟩
    · rw [Bool.eq_iff_iff, List.any_eq_true, decide_eq_true_iff, List.mem_map]
      simp only [beq_iff_eq]
    · rw [bne, beq_eq_decide, decide_not]
  · rw [Hub.respond, notified, hp.subscribers]
    congr 2
    refine List.filter_congr fun s _ => ?_
    cases s.wanted <;> simp [beq_eq_decide]

/-- One of two subscribers is removed, a stranger is refused, and the other is told of a change. -/
theorem replies_follow_history_removed :
    let requests : List Request := [.subscribe "all",
      .subscribeTo "Model" ["Counter", "Double"] "double" "Double",
      .subscribeTo "Model" ["Counter", "Double"] "none" "Missing", .unsubscribe 0, .unsubscribe 0]
    requests.length < UInt64.size ∧
      (after {} requests).respond (.notify "Double") =
        (.notified [⟨1, some "Double", "double"⟩], after {} requests) ∧
      (after {} requests).length = 1 := by
  intro requests
  have hlength : requests.length < UInt64.size := by decide
  obtain ⟨-, -, hlen, -, -, -, -, hnotify⟩ := replies_follow_history hlength
  exact ⟨hlength, hnotify "Double", hlen⟩

end ReactiveModel.Live.Hub
