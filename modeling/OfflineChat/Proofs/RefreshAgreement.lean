import OfflineChat.Proofs.MessageOrder
import OfflineChat.Proofs.ParentWalk
import OfflineChat.Proofs.SnapshotEffect
import OfflineChat.Report.Chats

/-! # What is read after a refresh

A refresh answers with the thread of a chat, in the order of its parent links;
the cache reads the messages of the chat by time.  The two agree on the messages
of the thread (`Store.refreshMessages_agrees`) if time goes on along the thread:
always, if it goes on from each message to the next; and if messages of one time
are among them, then at least when none of the thread was cached before, for the
cache reads messages of one time in the order in which they first came in.

An id comes only once in a thread, so the cache has each message of it once,
wherever in its tables that is (`Cache.filter_messageRows_perm`).
-/
namespace OfflineChat

theorem Chat.thread_nodup (chat : Chat) : (chat.thread.map (·.id)).Nodup := by
  have hwalk := (MessageMap.climbs_walk chat.body.history.messages
    chat.body.history.currentId).nodup.1
  rw [thread, MessageMap.thread, List.map_reverse]
  exact (List.reverse_perm _).nodup_iff.mpr hwalk

namespace Cache

theorem map_key_serverRow (chatId : String) (thread : List Message) :
    (thread.map (serverRow chatId)).map MessageRow.key = thread.map fun m => (chatId, m.id) :=
  List.map_map

theorem nodup_key_serverRow (chatId : String) {thread : List Message}
    (h : (thread.map (·.id)).Nodup) :
    ((thread.map (serverRow chatId)).map MessageRow.key).Nodup := by
  rw [map_key_serverRow, show (thread.map fun m => (chatId, m.id)) =
    (thread.map (·.id)).map (chatId, ·) from List.map_map.symm]
  exact h.map fun a b hab => congrArg Prod.snd hab

variable {c : Cache} (chat : Chat) {thread : List Message}

/-- **Of a snapshot, the cache reads each message once.** -/
theorem filter_messageRows_perm (hc : c.Intact) (hthread : (thread.map (·.id)).Nodup) :
    (((c.applySnapshot chat thread).cache.messageRows chat.id).filter
      (·.id ∈ thread.map (·.id))).Perm (thread.map (serverRow chat.id)) := by
  have hnews := nodup_key_serverRow chat.id hthread
  have hputs := holdsPuts_upsertAll (keepsKey_replace MessageRow.key)
    (covers_replace _ (thread.map (serverRow chat.id))) hc.messages_nodup
  have hperm := hputs.filter_perm hnews (nodup_upsertAll (keepsKey_replace _) _ hc.messages_nodup)
  refine ((messageRows_perm _ chat.id).filter _).trans ?_
  rw [chatRows, applySnapshot_messages, List.filter_filter]
  refine .trans (.of_eq (List.filter_congr fun r _ => ?_)) hperm
  rw [map_key_serverRow]
  by_cases hid : r.chatId = chat.id
  · simp [MessageRow.key, hid]
  · simp [MessageRow.key, hid, Ne.symm hid]

/-- Messages that go on in time are read in the order of the thread. -/
theorem filter_messageRows_of_lt (hc : c.Intact)
    (htimes : thread.Pairwise (·.timestamp < ·.timestamp))
    (hthread : (thread.map (·.id)).Nodup) :
    ((c.applySnapshot chat thread).cache.messageRows chat.id).filter
      (·.id ∈ thread.map (·.id)) = thread.map (serverRow chat.id) := by
  have hnews : (thread.map (serverRow chat.id)).Pairwise (·.timestamp < ·.timestamp) :=
    List.pairwise_map.mpr htimes
  have hperm := filter_messageRows_perm chat hc hthread
  refine List.Perm.eq_of_pairwise ?_ ((messageRows_pairwise _ chat.id).filter _)
    (hnews.imp Int.le_of_lt) hperm
  -- no two messages of the thread have one time
  intro a b ha hb hab hba
  have htime : ((thread.map (serverRow chat.id)).map (·.timestamp)).Nodup :=
    List.pairwise_map.mpr (hnews.imp Int.ne_of_lt)
  exact List.inj_on_of_nodup_map htime (hperm.mem_iff.mp ha) hb (Int.le_antisymm hab hba)

/-- Messages that are new come behind those that were there. -/
theorem chatRows_applySnapshot_of_new (hc : c.Intact)
    (hnew : ∀ m ∈ thread, ∀ r ∈ c.chatRows chat.id, r.id ≠ m.id)
    (hthread : (thread.map (·.id)).Nodup) :
    (c.applySnapshot chat thread).cache.chatRows chat.id =
      c.chatRows chat.id ++ thread.map (serverRow chat.id) := by
  have hnodup : ((c.chatRows chat.id ++ thread.map (serverRow chat.id)).map
      MessageRow.key).Nodup := by
    rw [List.map_append, List.nodup_append]
    refine ⟨hc.messages_nodup.sublist (List.filter_sublist.map _),
      nodup_key_serverRow chat.id hthread, ?_⟩
    intro k hk k' hk' heq
    obtain ⟨r, hr, rfl⟩ := List.mem_map.mp hk
    rw [map_key_serverRow] at hk'
    obtain ⟨m, hm, rfl⟩ := List.mem_map.mp hk'
    exact hnew m hm r hr (congrArg Prod.snd heq)
  have hchat : (thread.map (serverRow chat.id)).filter (·.chatId == chat.id) =
      thread.map (serverRow chat.id) := by
    refine List.filter_eq_self.mpr fun r hr => ?_
    obtain ⟨m, -, rfl⟩ := List.mem_map.mp hr
    exact beq_self_eq_true chat.id
  rw [chatRows, applySnapshot_messages, filter_upsertAll (keepsKey_replace _)
    (fun a b hab => by rw [show a.chatId = b.chatId from congrArg Prod.fst hab]), hchat]
  exact upsertAll_of_new hnodup

/-- Messages that are new are read in the order of the thread, unless time goes back along it. -/
theorem filter_messageRows_of_new (hc : c.Intact)
    (htimes : thread.Pairwise (·.timestamp ≤ ·.timestamp))
    (hnew : ∀ m ∈ thread, ∀ r ∈ c.chatRows chat.id, r.id ≠ m.id)
    (hthread : (thread.map (·.id)).Nodup) :
    ((c.applySnapshot chat thread).cache.messageRows chat.id).filter
      (·.id ∈ thread.map (·.id)) = thread.map (serverRow chat.id) := by
  have hsorted : (thread.map (serverRow chat.id)).Pairwise
      fun a b => decide (a.timestamp ≤ b.timestamp) = true :=
    List.pairwise_map.mpr (htimes.imp fun h => decide_eq_true h)
  -- reading by time keeps the order of rows along which time does not go back
  have hsub : (thread.map (serverRow chat.id)).Sublist
      ((c.applySnapshot chat thread).cache.messageRows chat.id) := by
    refine List.sublist_mergeSort timestamp_trans timestamp_total hsorted ?_
    rw [← chatRows, chatRows_applySnapshot_of_new chat hc hnew hthread]
    exact List.sublist_append_right _ _
  have hids : (thread.map (serverRow chat.id)).filter (·.id ∈ thread.map (·.id)) =
      thread.map (serverRow chat.id) := by
    refine List.filter_eq_self.mpr fun r hr => decide_eq_true ?_
    obtain ⟨m, hm, rfl⟩ := List.mem_map.mp hr
    exact List.mem_map_of_mem hm
  have hfilter := hsub.filter (·.id ∈ thread.map (·.id))
  rw [hids] at hfilter
  exact (hfilter.eq_of_length (filter_messageRows_perm chat hc hthread).length_eq.symm).symm

end Cache

/-- Of fewer messages, but some, fewer lines are printed. -/
theorem Report.cachedThread_sublist (showTimes : Bool) {few messages : List CachedMessage}
    (hsub : few.Sublist messages) (hfew : few ≠ []) :
    (Report.cachedThread showTimes few).Sublist (Report.cachedThread showTimes messages) := by
  have hmessages : messages ≠ [] := fun hnone => hfew (List.sublist_nil.mp (hnone ▸ hsub))
  rw [Report.cachedThread, if_neg (by simpa using hfew), Report.cachedThread,
    if_neg (by simpa using hmessages)]
  exact hsub.map _

namespace Store

variable {σ : Type}

/-- **What is read off line after a refresh is what the refresh answered**, in its order and as
sent, if time goes on along the thread, or if it does not go back and none of the messages was
cached before.  So the lines printed of the cached messages of the thread are those printed of the
thread itself, and they stand in the same order among all lines printed of the cache; what else is
printed there belongs to messages outside of the thread. -/
theorem refreshMessages_agrees (api : ServerApi σ) (s : Store σ) (chatId : String) (chat : Chat)
    (hcache : s.cache.Intact) (hanswer : (s.ask api (.getChat chatId)).1 = .ok chat)
    (htimes : chat.thread.Pairwise (·.timestamp < ·.timestamp) ∨
      chat.thread.Pairwise (·.timestamp ≤ ·.timestamp) ∧
        ∀ m ∈ chat.thread, ∀ r ∈ s.cache.messagesOf chat.id, r.id ≠ m.id) :
    (s.refreshMessages api chatId).1 = .ok chat.thread ∧
    let messages := (s.refreshMessages api chatId).2.cache.messagesOf chat.id
    ((messages.filter (·.id ∈ chat.thread.map (·.id))).map fun r => (r.toMessage, r.status)) =
      (chat.thread.map fun m => ({ m with childrenIds := [], files := [] }, .sent)) ∧
    (chat.thread ≠ [] → ∀ showTimes,
      Report.cachedThread showTimes (messages.filter (·.id ∈ chat.thread.map (·.id))) =
        Report.thread showTimes chat.thread ∧
      (Report.thread showTimes chat.thread).Sublist (Report.cachedThread showTimes messages)) := by
  obtain ⟨t, hask⟩ : ∃ t, s.ask api (.getChat chatId) = (.ok chat, t) := ⟨_, Prod.ext hanswer rfl⟩
  have hrefresh : s.refreshMessages api chatId =
      (.ok chat.thread, t.commit (t.cache.applySnapshot chat chat.thread)) := by
    unfold refreshMessages
    rw [hask]
  rw [hrefresh]
  refine ⟨rfl, ?_⟩
  intro messages
  have hmessages : messages = (s.cache.applySnapshot chat chat.thread).cache.messagesOf chat.id :=
    congrArg (fun c : Cache => (c.applySnapshot chat chat.thread).cache.messagesOf chat.id)
      (cache_of_ask hask)
  have hrows : ((s.cache.applySnapshot chat chat.thread).cache.messageRows chat.id).filter
      (·.id ∈ chat.thread.map (·.id)) = chat.thread.map (Cache.serverRow chat.id) := by
    rcases htimes with hlt | ⟨hle, hnew⟩
    · exact Cache.filter_messageRows_of_lt chat hcache hlt chat.thread_nodup
    · refine Cache.filter_messageRows_of_new chat hcache hle (fun m hm r hr => ?_) chat.thread_nodup
      exact hnew m hm r.toMessage
        (List.mem_map_of_mem ((s.cache.messageRows_perm chat.id).mem_iff.mpr hr))
  have hread : messages.filter (·.id ∈ chat.thread.map (·.id)) =
      chat.thread.map fun m => .ofMessage chat.id m .sent := by
    have hmap := congrArg (List.map MessageRow.toMessage) hrows
    rw [List.map_map] at hmap
    rw [hmessages, Cache.messagesOf, List.filter_map]
    refine Eq.trans hmap (List.map_congr_left fun m _ => ?_)
    exact MessageRow.toMessage_ofMessage _
  refine ⟨?_, ?_⟩
  · rw [hread, List.map_map]
    rfl
  · intro hthread showTimes
    have hlines : Report.cachedThread showTimes
        (messages.filter (·.id ∈ chat.thread.map (·.id))) =
        Report.thread showTimes chat.thread := by
      rw [hread, Report.cachedThread, if_neg (by simpa using hthread), Report.thread,
        if_neg (by simpa using hthread), List.map_map]
      rfl
    have hsome : messages.filter (·.id ∈ chat.thread.map (·.id)) ≠ [] := by
      rw [hread]
      exact fun hnone => hthread (List.map_eq_nil_iff.mp hnone)
    exact ⟨hlines, hlines ▸ Report.cachedThread_sublist showTimes List.filter_sublist hsome⟩

/-- A chat with a message and the answer to it, written in one second. -/
def promptChat : Chat :=
  InMemoryServer.withTurn (InMemoryServer.chatOfThread "c" "Tides" []) "u" "a" "When?" 5

/-- A store whose server has that chat, and whose cache has a message of the same second that
failed. -/
def promptStore : Store InMemoryServer where
  cache := {
    chats := [.ofChat (.onDevice "c" "Tides" 1)]
    messages := [⟨"c", "n", none, "user", "Why?", none, 5, "failed"⟩]
    attachments := []
    layout := Cache.currentLayout }
  server := InMemoryServer.empty.insert promptChat
  surroundings := ⟨20, fun _ => "new", 0⟩
  defaultTitle := usualTitle
  trace := []

theorem refreshMessages_agrees_prompt :
    promptStore.cache.Intact ∧
    (promptStore.ask InMemoryServer.api (.getChat "c")).1 = .ok promptChat ∧
    promptChat.thread.Pairwise (·.timestamp ≤ ·.timestamp) ∧
    (∀ m ∈ promptChat.thread, ∀ r ∈ promptStore.cache.messagesOf promptChat.id, r.id ≠ m.id) ∧
    (promptStore.refreshMessages InMemoryServer.api "c").1 = .ok promptChat.thread ∧
    let messages := (promptStore.refreshMessages InMemoryServer.api "c").2.cache.messagesOf "c"
    ((messages.filter (·.id ∈ ["u", "a"])).map fun r => (r.toMessage, r.status)) =
      [(.plain "u" none .user "When?" 5, .sent),
        ({ Message.plain "a" (some "u") .assistant "echo: When?" 5 with
            model := some "fake-model" }, .sent)] ∧
    ∀ showTimes,
      Report.cachedThread showTimes (messages.filter (·.id ∈ ["u", "a"])) =
        Report.thread showTimes promptChat.thread ∧
      (Report.thread showTimes promptChat.thread).Sublist
        (Report.cachedThread showTimes messages) := by
  have hintact : promptStore.cache.Intact := ⟨by decide, by decide, by decide, by decide, by decide⟩
  have hanswer : (promptStore.ask InMemoryServer.api (.getChat "c")).1 = .ok promptChat := rfl
  have hle : promptChat.thread.Pairwise (·.timestamp ≤ ·.timestamp) := by decide
  have hread : promptStore.cache.messagesOf promptChat.id =
      [.ofMessage "c" (.plain "n" none .user "Why?" 5) .failed] :=
    congrArg (List.map MessageRow.toMessage) (List.mergeSort_singleton _)
  have hnew : ∀ m ∈ promptChat.thread,
      ∀ r ∈ promptStore.cache.messagesOf promptChat.id, r.id ≠ m.id := by
    rw [hread]
    decide
  obtain ⟨hanswered, hrows, hlines⟩ := refreshMessages_agrees InMemoryServer.api promptStore "c"
    promptChat hintact hanswer (.inr ⟨hle, hnew⟩)
  exact ⟨hintact, hanswer, hle, hnew, hanswered, hrows, hlines (List.cons_ne_nil _ _)⟩

end Store
end OfflineChat
