import OfflineChat.Proofs.StepWrites
import OfflineChat.Proofs.TitleSearch

/-! # The removal of a chat

A chat is removed from the cache before the server hears of it, and whatever the
server answers, it stays removed (`Store.deleteChat_removes`).  No query shows
anything of it; the lists show everything else and in the same order; the row
counts are less by what there was of it; every other chat is as it was
(`Cache.ShowsAllBut`).

Nothing of it comes back by itself.  A session may cache a chat with the same id
again, but what there is of that chat then was put by a write of the session
(`Store.mem_messages_session`), because there was nothing of it at first.
-/
namespace OfflineChat

namespace Cache

variable {c : Cache} {chatId : String}

/-- What one cache shows of another is everything but one chat. -/
structure ShowsAllBut (chatId : String) (c d : Cache) : Prop where
  chat : d.chat? chatId = none
  listed : d.activeChats = c.activeChats.filter (·.chat.id != chatId)
  found : ∀ query, d.searchChats query = (c.searchChats query).filter (·.id != chatId)
  messages : d.messagesOf chatId = []
  failed : d.failedMessagesOf chatId = []
  latest : d.latestMessageOf chatId = none
  attachments : ∀ messageId, d.attachmentsOf chatId messageId = []
  others : ∀ other, chatId ≠ other → AgreeOn other d c

/-! ## What is shown -/

theorem filter_removed {α : Type} (key : α → String) (chatId : String) (rows : List α) :
    (rows.filter (key · != chatId)).filter (key · == chatId) = [] := by
  rw [List.filter_filter, List.filter_eq_nil_iff]
  simp

/-- Of a chat that is removed there is nothing left. -/
theorem part_dropChat_self (c : Cache) (chatId : String) :
    (c.dropChat chatId).part chatId = ⟨[], [], [], c.layout⟩ := by
  have hchats := filter_removed ChatRow.id chatId c.chats
  have hmessages := filter_removed MessageRow.chatId chatId c.messages
  have hattachments := filter_removed CachedAttachment.chatId chatId c.attachments
  unfold part select dropChat
  dsimp only
  rw [hchats, hmessages, hattachments]

/-- Every query about a chat that is removed is answered as in an empty cache. -/
theorem agreeOn_empty_dropChat (c : Cache) (chatId : String) :
    AgreeOn chatId (c.dropChat chatId) ⟨[], [], [], c.layout⟩ :=
  agreeOn_of_part (c.part_dropChat_self chatId)

theorem listedRows_dropChat (c : Cache) (chatId : String) :
    (c.dropChat chatId).listedRows = c.listedRows.filter (·.id != chatId) := by
  rw [listedRows, dropChat, listedRows, filter_mergeSort listedBefore_trans listedBefore_total,
    List.filter_comm]

theorem entryOf_dropChat (c : Cache) {r : ChatRow} (h : r.id ≠ chatId) :
    (c.dropChat chatId).entryOf r = c.entryOf r := by
  have hmessages := filter_ne_filter MessageRow.chatId chatId (· == r.id) c.messages
  rw [if_neg (by simpa using Ne.symm h)] at hmessages
  unfold entryOf dropChat
  dsimp only
  rw [hmessages]

/-- The list shows the other chats as before. -/
theorem activeChats_dropChat (c : Cache) (chatId : String) :
    (c.dropChat chatId).activeChats = c.activeChats.filter (·.chat.id != chatId) := by
  rw [activeChats_eq, activeChats_eq, listedRows_dropChat, List.filter_map]
  refine List.map_congr_left fun r hr => c.entryOf_dropChat ?_
  simpa using (List.mem_filter.mp hr).2

/-- A search finds the other chats as before. -/
theorem searchChats_dropChat (c : Cache) (chatId query : String) :
    (c.dropChat chatId).searchChats query =
      (c.searchChats query).filter (·.id != chatId) := by
  have hrows : (c.dropChat chatId).searchedRows = c.searchedRows.filter (·.id != chatId) := by
    rw [searchedRows, searchedRows, filter_mergeSort updatedAt_trans updatedAt_total]
    rfl
  rw [searchChats_eq, searchChats_eq, hrows, List.filter_map, List.filter_comm]
  rfl

/-- **A cache without a chat shows everything else**, and nothing of the chat. -/
theorem showsAllBut_dropChat (c : Cache) (chatId : String) :
    ShowsAllBut chatId c (c.dropChat chatId) := by
  have hempty := c.agreeOn_empty_dropChat chatId
  exact {
    chat := hempty.chat
    listed := c.activeChats_dropChat chatId
    found := c.searchChats_dropChat chatId
    messages := hempty.messages.trans (by simp [messagesOf, messageRows])
    failed := hempty.failed.trans (by simp [failedMessagesOf, messageRows])
    latest := hempty.latest.trans (by simp [latestMessageOf, messageRows])
    attachments := hempty.attachments
    others := fun other hne => (local_dropChat chatId).agreeOn hne c }

/-! ## What is counted -/

theorem length_eq_others_add {α : Type} (key : α → String) (chatId : String) (rows : List α) :
    rows.length =
      (rows.filter (key · != chatId)).length + (rows.filter (key · == chatId)).length := by
  rw [List.length_eq_length_filter_add (key · == chatId), Nat.add_comm]
  rfl

namespace Intact

/-- A chat has one row if it is cached, and none otherwise. -/
theorem length_row (h : c.Intact) (chatId : String) :
    (c.chats.filter (·.id == chatId)).length = if c.hasChat chatId then 1 else 0 := by
  have hfound : c.hasChat chatId = (c.chats.find? (·.id == chatId)).isSome := by
    rw [hasChat, Bool.eq_iff_iff, List.any_eq_true, List.find?_isSome]
  rw [filter_key_eq_toList_find? h.chats_nodup, hfound]
  cases c.chats.find? (·.id == chatId) <;> rfl

/-- The attachments of a chat are those of its messages. -/
theorem length_attachments_of (h : c.Intact) (chatId : String) :
    (c.attachments.filter (·.chatId == chatId)).length =
      ((c.messagesOf chatId).map fun m => (c.attachmentsOf chatId m.id).length).sum := by
  have hkeys : ((c.chatRows chatId).map (·.key)).Nodup :=
    h.messages_nodup.sublist (List.filter_sublist.map _)
  have howners : ∀ a ∈ c.attachments.filter (·.chatId == chatId),
      a.owner ∈ (c.chatRows chatId).map (·.key) := by
    intro a ha
    obtain ⟨ha, hchat⟩ := List.mem_filter.mp ha
    obtain ⟨m, hm, hkey, hid⟩ := h.exists_owner ha
    exact List.mem_map.mpr ⟨m, List.mem_filter.mpr ⟨hm, by rwa [hid]⟩, hkey⟩
  have hone : ∀ m ∈ c.chatRows chatId,
      ((c.attachments.filter (·.chatId == chatId)).filter (·.owner == m.key)).length =
        (c.attachmentsOf chatId m.id).length := by
    intro m hm
    have hchat : m.chatId = chatId := eq_of_beq (List.mem_filter.mp hm).2
    rw [MessageRow.key, hchat]
    exact congrArg List.length (c.attachmentsOf_part chatId m.id)
  have hperm := (c.messageRows_perm chatId).map
    fun m : MessageRow => (c.attachmentsOf chatId m.id).length
  rw [length_eq_sum_groups CachedAttachment.owner hkeys howners, List.map_map, messagesOf,
    List.map_map]
  exact (congrArg List.sum (List.map_congr_left hone)).trans hperm.sum_nat.symm

/-- **The row counts are less by what there was of the chat.** -/
theorem stats_dropChat (h : c.Intact) (chatId : String) :
    let d := c.dropChat chatId
    c.stats = {
      chats := d.stats.chats + if c.hasChat chatId then 1 else 0
      messages := d.stats.messages + (c.messagesOf chatId).length
      attachments := d.stats.attachments +
        ((c.messagesOf chatId).map fun m => (c.attachmentsOf chatId m.id).length).sum
      failedMessages := d.stats.failedMessages + (c.failedMessagesOf chatId).length } := by
  have hmessages : (c.messagesOf chatId).length =
      (c.messages.filter (·.chatId == chatId)).length := by
    rw [messagesOf, List.length_map]
    exact (c.messageRows_perm chatId).length_eq
  have hfailed : (c.failedMessagesOf chatId).length =
      ((c.messages.filter (·.isFailed)).filter (·.chatId == chatId)).length := by
    rw [failedMessagesOf, List.length_map, ((c.messageRows_perm chatId).filter _).length_eq,
      List.filter_comm]
    rfl
  have hothers : (c.dropChat chatId).messages.filter (·.isFailed) =
      (c.messages.filter (·.isFailed)).filter (·.chatId != chatId) := List.filter_comm ..
  intro d
  rw [← h.length_row chatId, ← h.length_attachments_of chatId, hmessages, hfailed, stats, stats,
    show d.messages.filter (·.isFailed) = _ from hothers]
  congr 1
  · exact length_eq_others_add ChatRow.id chatId c.chats
  · exact length_eq_others_add MessageRow.chatId chatId c.messages
  · exact length_eq_others_add CachedAttachment.chatId chatId c.attachments
  · exact length_eq_others_add MessageRow.chatId chatId (c.messages.filter (·.isFailed))

end Intact
end Cache

/-! ## The deletion -/

namespace Store

variable {σ : Type}

/-- **A deletion removes the chat, and nothing of it comes back by itself.**  Whatever the server
does, and whether or not the chat is cached, the deletion succeeds; the chat is gone when the
request goes out, and stays gone.  No query shows anything of it, and everything else is shown as
before; the row counts are less by its row, its messages, their attachments and its failed messages.
In whatever session follows, a message or attachment under the id of the chat is one that a write of
the session has put there, the status of the message apart. -/
theorem deleteChat_removes (api : ServerApi σ) (s : Store σ) (hs : s.cache.Intact)
    (chatId : String) :
    let r := s.deleteChat api chatId
    let c := s.cache
    let d := r.2.cache
    r.1 = .ok true ∧
    r.2.requests = s.requests ++ [(.deleteChat chatId, d)] ∧
    Cache.ShowsAllBut chatId c d ∧
    c.stats = {
      chats := d.stats.chats + if c.hasChat chatId then 1 else 0
      messages := d.stats.messages + (c.messagesOf chatId).length
      attachments := d.stats.attachments +
        ((c.messagesOf chatId).map fun m => (c.attachmentsOf chatId m.id).length).sum
      failedMessages := d.stats.failedMessages + (c.failedMessagesOf chatId).length } ∧
    ∀ later : List (SessionStep σ),
      (∀ m ∈ (r.2.session api later).cache.messages, m.chatId = chatId →
        ∃ row, m.IsMarked row ∧ r.2.Writes api later (row ∈ ·.messagesPut)) ∧
      (∀ a ∈ (r.2.session api later).cache.attachments, a.chatId = chatId →
        r.2.Writes api later (a ∈ ·.attachmentsPut)) := by
  intro r c d
  have hd : d = c.dropChat chatId := rfl
  have hmessages : ∀ m ∈ d.messages, m.chatId ≠ chatId := by
    intro m hm
    simpa using (List.mem_filter.mp hm).2
  have hattachments : ∀ a ∈ d.attachments, a.chatId ≠ chatId := by
    intro a ha
    simpa using (List.mem_filter.mp ha).2
  refine ⟨rfl, ?_, c.showsAllBut_dropChat chatId, hs.stats_dropChat chatId, fun later =>
    ⟨fun m hm hchat => ?_, fun a ha hchat => ?_⟩⟩
  · exact (ask_requests api _ _).trans (by rw [commit_requests]; rfl)
  · obtain ⟨row, hmark, hrow | hput⟩ := mem_messages_session r.2 later m hm
    · obtain ⟨status, rfl⟩ := hmark
      exact absurd hchat (hmessages row hrow)
    · exact ⟨row, hmark, hput⟩
  · have hpathless : d.Pathless chatId := fun b hb hb' => absurd hb' (hattachments b hb)
    obtain ⟨-, hold | hput⟩ := mem_attachments_session hpathless later a ha hchat
    · exact absurd hchat (hattachments a hold)
    · exact hput

/-- A chat is deleted that shares the id of a message with another, and then a thread with the ids
of its messages and files is cached. -/
theorem deleteChat_removes_sharing :
    Cache.keptCache.Intact ∧
    let r := sharingStore.deleteChat InMemoryServer.api "c"
    let later : List (SessionStep InMemoryServer) :=
      [.step (.write (.applySnapshot (InMemoryServer.chatOfThread "c" "Tides today" [])
        Cache.echoingThread))]
    r.2.requests = [(.deleteChat "c", r.2.cache)] ∧
    Cache.ShowsAllBut "c" Cache.keptCache r.2.cache ∧
    Cache.keptCache.stats.messages = r.2.cache.stats.messages + 2 ∧
    ∃ m ∈ (r.2.session InMemoryServer.api later).cache.messages, m.key = ("c", "m") ∧
      ∃ row, m.IsMarked row ∧ r.2.Writes InMemoryServer.api later (row ∈ ·.messagesPut) := by
  have hintact : Cache.keptCache.Intact := ⟨by decide, by decide, by decide, by decide, by decide⟩
  refine ⟨hintact, ?_⟩
  intro r later
  obtain ⟨-, hasked, hshown, hcounts, hlater⟩ :=
    deleteChat_removes InMemoryServer.api sharingStore hintact "c"
  have hcount : (Cache.keptCache.messagesOf "c").length = 2 := by
    rw [Cache.messagesOf, List.length_map, Cache.messageRows, List.length_mergeSort]
    rfl
  refine ⟨hasked, hshown,
    (congrArg CacheStats.messages hcounts).trans
      (congrArg (r.2.cache.stats.messages + ·) hcount), ?_⟩
  have hback : ∃ m ∈ (r.2.session InMemoryServer.api later).cache.messages, m.key = ("c", "m") := by
    decide
  obtain ⟨m, hm, hkey⟩ := hback
  exact ⟨m, hm, hkey, (hlater later).1 m hm (congrArg Prod.fst hkey)⟩

end Store
end OfflineChat
