import OfflineChat.Proofs.CacheIntegrity
import OfflineChat.Server.InMemory

/-! # The effect of a send

A send writes ahead: when its request goes out, the cache holds the new message
as pending, under the newest message that has not failed, and a row that stands
in for the chat if it had none.  When the server has answered, the status of that
one row is the outcome, and nothing else differs
(`Store.sendMessage_writes_ahead`).  The two halves of a send have this effect on
their own (`Store.beginSend_of_new`, `Store.setMessageStatus_withSend`).
-/
namespace OfflineChat
namespace Store

variable {σ : Type} (s : Store σ) (chatId content messageId : String)

/-- The row of a message of the user, written now. -/
def sendRow (parent : Option String) (status : MessageStatus) : MessageRow :=
  .ofMessage {
    id := messageId
    chatId := chatId
    parentId := parent
    role := .user
    content := content
    model := none
    timestamp := s.surroundings.now
    status := status }

/-- The chats with a row for one of them, which stands in for the chat if it had none. -/
def chatsWith : List ChatRow :=
  if s.cache.hasChat chatId then s.cache.chats
  else s.cache.chats ++ [.ofChat (.onDevice chatId s.defaultTitle s.surroundings.now)]

/-- The cache with a message that is sent. -/
def withSend (parent : Option String) (status : MessageStatus) : Cache :=
  { s.cache with
    chats := s.chatsWith chatId
    messages := s.cache.messages ++ [s.sendRow chatId content messageId parent status] }

@[simp] theorem commit_requests {α : Type} (s : Store σ) (w : Written α) :
    (s.commit w).requests = s.requests := by
  simp [requests, commit, List.filterMap_append, List.filterMap_map]

@[simp] theorem ask_requests (api : ServerApi σ) (s : Store σ) (r : ChatRequest) :
    (s.ask api r).2.requests = s.requests ++ [(r, s.cache)] := by
  simp [requests, ask, List.filterMap_append]

/-! ## The first half -/

theorem ensureChat_cache :
    (s.ensureChat chatId).cache = { s.cache with chats := s.chatsWith chatId } := by
  unfold ensureChat chatsWith
  split
  · rfl
  · rename_i hno
    rw [Cache.hasChat_iff] at hno
    show s.cache.putChat _ = _
    rw [Cache.putChat, upsert_of_new hno]

@[simp] theorem ensureChat_requests : (s.ensureChat chatId).requests = s.requests := by
  unfold ensureChat
  split
  · rfl
  · exact commit_requests s _

@[simp] theorem ensureChat_server : (s.ensureChat chatId).server = s.server := by
  unfold ensureChat
  split <;> rfl

@[simp] theorem ensureChat_surroundings :
    (s.ensureChat chatId).surroundings = s.surroundings := by
  unfold ensureChat
  split <;> rfl

theorem hasChat_ensureChat : (s.ensureChat chatId).cache.hasChat chatId = true := by
  rw [ensureChat_cache, Cache.hasChat_iff]
  unfold chatsWith
  split
  · rename_i hyes
    exact Cache.hasChat_iff.mp hyes
  · rw [List.map_append]
    exact List.mem_append_right _ (List.mem_singleton_self _)

variable {s chatId content messageId}

/-- **The first half of a send** adds a pending message under the newest that has not failed, and
does not reach the server. -/
theorem beginSend_of_new (hnew : ∀ r ∈ s.cache.messages, r.key ≠ (chatId, messageId)) :
    ∃ m t, s.beginSend chatId content messageId = (.ok m, t) ∧
      t.cache = s.withSend chatId content messageId
        ((s.cache.latestMessageOf chatId).map (·.id)) .pending ∧
      t.requests = s.requests ∧ t.server = s.server ∧ t.surroundings = s.surroundings := by
  have hkey : (chatId, messageId) ∉ s.cache.messages.map (·.key) := by
    intro hin
    obtain ⟨r, hr, hkey⟩ := List.mem_map.mp hin
    exact hnew r hr hkey
  have hwrite : (s.ensureChat chatId).cache.upsertMessage (pendingMessage
      (s.ensureChat chatId).cache chatId content messageId (s.ensureChat chatId).surroundings.now) =
      .ok _ := if_pos (s.hasChat_ensureChat chatId)
  -- a row for the chat changes no message, so the parent is that of the earlier cache
  unfold beginSend
  dsimp only
  rw [hwrite]
  refine ⟨_, _, rfl, ?_, ?_, ?_, ?_⟩
  · show (s.ensureChat chatId).cache.putMessage _ = _
    rw [ensureChat_cache, ensureChat_surroundings, Cache.putMessage, upsert_of_new hkey]
    rfl
  · exact (commit_requests _ _).trans (s.ensureChat_requests chatId)
  · exact s.ensureChat_server chatId
  · exact s.ensureChat_surroundings chatId

/-! ## The second half -/

/-- **The second half of a send** changes the status of its row, and nothing else. -/
theorem setMessageStatus_withSend {parent : Option String} {before status : MessageStatus}
    (hnew : ∀ r ∈ s.cache.messages, r.key ≠ (chatId, messageId)) :
    ((s.withSend chatId content messageId parent before).setMessageStatus chatId messageId
      status).cache = s.withSend chatId content messageId parent status := by
  have hkey : (s.sendRow chatId content messageId parent before).key = (chatId, messageId) := rfl
  have hothers : (s.cache.messages.map fun r =>
      if r.key = (chatId, messageId) then { r with status := status.name } else r) =
      s.cache.messages := map_eq_self fun r hr => if_neg (hnew r hr)
  unfold Cache.setMessageStatus
  rw [if_pos (by simp [withSend, hkey])]
  simp only [withSend, List.map_append, hothers, List.map_cons, List.map_nil, if_pos hkey]
  rfl

/-! ## The whole send -/

/-- **A send writes ahead, with an exact effect.**  The id drawn for the message being new in its
chat, one request goes out, and it finds the cache with the message as pending under the newest
message that has not failed; the answer is passed on as it is, and it leaves the cache with the
message as sent or as failed, and otherwise as the request found it. -/
theorem sendMessage_writes_ahead (api : ServerApi σ) (s : Store σ) (chatId content : String)
    (hnew : ∀ r ∈ s.cache.messages, r.key ≠ (chatId, s.surroundings.draw.1)) :
    ∃ parent, s.cache.IsNextParent chatId parent ∧
      let messageId := s.surroundings.draw.1
      let reply := (api.answer (.sendMessage chatId content) s.server s.surroundings.draw.2).1
      (s.sendMessage api chatId content).2.requests =
        s.requests ++ [(.sendMessage chatId content,
          s.withSend chatId content messageId parent .pending)] ∧
      (s.sendMessage api chatId content).1 = reply ∧
      (s.sendMessage api chatId content).2.cache =
        s.withSend chatId content messageId parent (outcome reply) := by
  refine ⟨_, Cache.isNextParent_latest s.cache chatId, ?_⟩
  have hdrawn : ∀ r ∈ s.draw.2.cache.messages, r.key ≠ (chatId, s.draw.1) := hnew
  obtain ⟨m, t, hbegin, hcache, hrequests, hserver, hsurroundings⟩ :=
    beginSend_of_new hdrawn
  have hreply : (t.ask api (.sendMessage chatId content)).1 =
      (api.answer (.sendMessage chatId content) s.server s.surroundings.draw.2).1 := by
    show (api.answer _ t.server t.surroundings).1 = _
    rw [hserver, hsurroundings]
    rfl
  unfold sendMessage
  dsimp only
  rw [hbegin]
  dsimp only
  refine ⟨?_, hreply, ?_⟩
  · rw [completeSend, commit_requests, ask_requests, hrequests, hcache]
    rfl
  · rw [completeSend, commit_cache, ask_cache, hcache, hreply]
    exact setMessageStatus_withSend hdrawn

/-- A store off line at time 20, whose one chat has a message that failed and one from the
future. -/
def offlineStore : Store InMemoryServer where
  cache := {
    chats := [.ofChat (.onDevice "c" "Tides" 1)]
    messages := [⟨"c", "m", none, "user", "When?", none, 30, "sent"⟩,
      ⟨"c", "n", some "m", "user", "Why?", none, 7, "failed"⟩]
    attachments := []
    layout := Cache.currentLayout }
  server := { InMemoryServer.empty with offline := true }
  surroundings := ⟨20, fun _ => "new", 0⟩
  defaultTitle := usualTitle
  trace := []

theorem sendMessage_writes_ahead_offline :
    (∀ r ∈ offlineStore.cache.messages, r.key ≠ ("c", offlineStore.surroundings.draw.1)) ∧
    ∃ parent, offlineStore.cache.IsNextParent "c" parent ∧
      (offlineStore.sendMessage InMemoryServer.api "c" "Hm?").2.requests =
        [(.sendMessage "c" "Hm?", offlineStore.withSend "c" "Hm?" "new" parent .pending)] ∧
      (offlineStore.sendMessage InMemoryServer.api "c" "Hm?").1 =
        .error (.network "send_message: connection refused") ∧
      (offlineStore.sendMessage InMemoryServer.api "c" "Hm?").2.cache =
        offlineStore.withSend "c" "Hm?" "new" parent .failed := by
  have hnew : ∀ r ∈ offlineStore.cache.messages,
      r.key ≠ ("c", offlineStore.surroundings.draw.1) := by decide
  exact ⟨hnew, sendMessage_writes_ahead InMemoryServer.api offlineStore "c" "Hm?" hnew⟩

end Store
end OfflineChat
