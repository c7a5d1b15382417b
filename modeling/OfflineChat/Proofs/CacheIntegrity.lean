import Mathlib.Algebra.Ring.Nat
import OfflineChat.Proofs.MessageOrder
import OfflineChat.Proofs.StoreRuns

/-! # Integrity of the cache

The tables of a cache fit together (`Cache.Intact`): keys are unique, every
message belongs to a cached chat, and every attachment to a cached message.
Every write keeps this, and so does opening the cache again, whatever layout
number is stored; hence it holds after every session (`Store.session_intact`).

Because keys are unique and nothing is left without an owner, the rows of a
table can be counted chat by chat and message by message, and the row counts
agree with what the queries answer (`Cache.Intact.stats_eq`).
-/
namespace OfflineChat

namespace Cache

/-- The tables of a cache fit together. -/
structure Intact (c : Cache) : Prop where
  chats_nodup : (c.chats.map (·.id)).Nodup
  messages_nodup : (c.messages.map (·.key)).Nodup
  attachments_nodup : (c.attachments.map (·.key)).Nodup
  /-- Every message belongs to a cached chat. -/
  message_chat : ∀ m ∈ c.messages, m.chatId ∈ c.chats.map (·.id)
  /-- Every attachment belongs to a cached message. -/
  attachment_message : ∀ a ∈ c.attachments, a.owner ∈ c.messages.map (·.key)

/-- Chats alone are intact if their ids are unique. -/
theorem intact_of_chats (chats : List ChatRow) (layout : Int) (h : (chats.map (·.id)).Nodup) :
    (Cache.mk chats [] [] layout).Intact :=
  ⟨h, List.nodup_nil, List.nodup_nil, fun _ hm => (List.not_mem_nil hm).elim,
    fun _ ha => (List.not_mem_nil ha).elim⟩

theorem intact_fresh : fresh.Intact := intact_of_chats [] _ List.nodup_nil

theorem hasChat_iff {c : Cache} {chatId : String} :
    c.hasChat chatId = true ↔ chatId ∈ c.chats.map (·.id) := by
  simp [hasChat]

namespace Intact

variable {c d : Cache}

/-- The message of an attachment is cached under the chat of the attachment. -/
theorem exists_owner (h : c.Intact) {a : AttachmentRow} (ha : a ∈ c.attachments) :
    ∃ m ∈ c.messages, m.key = a.owner ∧ m.chatId = a.chatId := by
  obtain ⟨m, hm, hkey⟩ := List.mem_map.mp (h.attachment_message a ha)
  exact ⟨m, hm, hkey, congrArg Prod.fst hkey⟩

/-! ## Single rows -/

/-- Integrity is a matter of the keys: changes of other columns do not touch it. -/
theorem of_keys (h : c.Intact) (hchats : d.chats.map (·.id) = c.chats.map (·.id))
    (hmessages : d.messages.map (·.key) = c.messages.map (·.key))
    (hattachments : d.attachments.map (·.key) = c.attachments.map (·.key)) : d.Intact where
  chats_nodup := hchats ▸ h.chats_nodup
  messages_nodup := hmessages ▸ h.messages_nodup
  attachments_nodup := hattachments ▸ h.attachments_nodup
  message_chat := by
    have hkeys : ∀ k ∈ d.messages.map (·.key), k.1 ∈ d.chats.map (·.id) := by
      rw [hmessages, hchats, List.forall_mem_map]
      exact h.message_chat
    exact fun m hm => hkeys m.key (List.mem_map_of_mem hm)
  attachment_message := by
    have hkeys : ∀ k ∈ d.attachments.map (·.key), (k.1, k.2.1) ∈ d.messages.map (·.key) := by
      rw [hattachments, hmessages, List.forall_mem_map]
      exact h.attachment_message
    exact fun a ha => hkeys a.key (List.mem_map_of_mem ha)

/-- A chat row under a key of its own, merged in any way, keeps integrity: no message loses its
chat. -/
theorem upsert_chats (h : c.Intact) {merge : ChatRow → ChatRow → ChatRow}
    (hk : KeepsKey ChatRow.id merge) (r : ChatRow) :
    ({ c with chats := upsert ChatRow.id merge r c.chats } : Cache).Intact where
  chats_nodup := nodup_upsert hk h.chats_nodup
  messages_nodup := h.messages_nodup
  attachments_nodup := h.attachments_nodup
  message_chat m hm := (mem_map_key_upsert hk).mpr (.inl (h.message_chat m hm))
  attachment_message := h.attachment_message

theorem putChat (h : c.Intact) (r : ChatRow) : (c.putChat r).Intact :=
  h.upsert_chats (keepsKey_replace ChatRow.id) r

theorem foldl_putSummary (h : c.Intact) (ss : List ChatSummary) :
    (ss.foldl putSummary c).Intact := by
  induction ss generalizing c with
  | nil => exact h
  | cons s rest ih => exact ih (h.upsert_chats ChatRow.keepsKey_withSummary _)

theorem putMessage (h : c.Intact) {r : MessageRow} (hchat : r.chatId ∈ c.chats.map (·.id)) :
    (c.putMessage r).Intact where
  chats_nodup := h.chats_nodup
  messages_nodup := nodup_upsert (keepsKey_replace MessageRow.key) h.messages_nodup
  attachments_nodup := h.attachments_nodup
  message_chat := forall_mem_upsert (P := fun k => k.1 ∈ c.chats.map ChatRow.id)
    (keepsKey_replace MessageRow.key) h.message_chat hchat
  attachment_message a ha :=
    (mem_map_key_upsert (keepsKey_replace MessageRow.key)).mpr (.inl (h.attachment_message a ha))

theorem putAttachment (h : c.Intact) {a : AttachmentRow}
    (howner : a.owner ∈ c.messages.map (·.key)) :
    (c.putAttachment a).Intact where
  chats_nodup := h.chats_nodup
  messages_nodup := h.messages_nodup
  attachments_nodup := nodup_upsert CachedAttachment.keepsKey_keepingPath h.attachments_nodup
  message_chat := h.message_chat
  attachment_message := forall_mem_upsert
    (P := fun k => (k.1, k.2.1) ∈ c.messages.map MessageRow.key)
    CachedAttachment.keepsKey_keepingPath h.attachment_message howner

theorem foldl_putAttachment (h : c.Intact) {rows : List AttachmentRow}
    (howner : ∀ a ∈ rows, a.owner ∈ c.messages.map (·.key)) :
    (rows.foldl Cache.putAttachment c).Intact := by
  induction rows generalizing c with
  | nil => exact h
  | cons a rest ih =>
    exact ih (h.putAttachment (howner a (List.mem_cons_self ..)))
      fun b hb => howner b (List.mem_cons_of_mem _ hb)

/-! ## Writes -/

theorem owner_of_mem_attachmentsFor {chatId : String} {m : Message} {a : AttachmentRow}
    (h : a ∈ attachmentsFor chatId m) : a.owner = (chatId, m.id) := by
  obtain ⟨i, hi, rfl⟩ := List.mem_mapIdx.mp h
  rfl

/-- A message of the server and its attachments keep integrity, if the chat is cached. -/
theorem putServerMessage (h : c.Intact) {chatId : String} (hchat : chatId ∈ c.chats.map (·.id))
    (m : Message) : (Cache.putServerMessage chatId c m).Intact := by
  refine (h.putMessage (r := .ofMessage (.ofMessage chatId m .sent)) hchat).foldl_putAttachment ?_
  intro a ha
  rw [owner_of_mem_attachmentsFor ha]
  exact (mem_map_key_upsert (keepsKey_replace MessageRow.key)).mpr (.inr rfl)

theorem applySnapshot (h : c.Intact) (chat : Chat) (thread : List Message) :
    (c.applySnapshot chat thread).cache.Intact := by
  have hput : (c.putChat (.ofChat (.ofChat chat))).Intact := h.putChat _
  have hchat : chat.id ∈ (c.putChat (.ofChat (.ofChat chat))).chats.map (·.id) :=
    (mem_map_key_upsert (keepsKey_replace ChatRow.id)).mpr (.inr rfl)
  show (thread.foldl (Cache.putServerMessage chat.id) _).Intact
  -- the chat stays cached while the messages come in, so none is without its chat
  generalize c.putChat (.ofChat (.ofChat chat)) = c' at hput hchat
  induction thread generalizing c' with
  | nil => exact hput
  | cons m rest ih =>
    exact ih _ (hput.putServerMessage hchat m) (by rwa [putServerMessage_chats])

theorem setMessageStatus (h : c.Intact) (chatId messageId : String) (status : MessageStatus) :
    (c.setMessageStatus chatId messageId status).cache.Intact := by
  unfold Cache.setMessageStatus
  split
  · refine h.of_keys rfl ?_ rfl
    rw [List.map_map]
    refine List.map_congr_left fun r _ => ?_
    rw [Function.comp_apply]
    split <;> rfl
  · exact h

theorem toggle (h : c.Intact) (f : ChatFlag) (chatId : String) :
    (c.toggle f chatId).cache.Intact := by
  unfold Cache.toggle
  split
  · refine h.of_keys ?_ rfl rfl
    rw [List.map_map]
    refine List.map_congr_left fun r _ => ?_
    rw [Function.comp_apply]
    split
    · cases f <;> rfl
    · rfl
  · exact h

/-- Removing a chat takes its messages and their attachments along, and no others. -/
theorem dropChat (h : c.Intact) (chatId : String) : (c.dropChat chatId).Intact where
  chats_nodup := h.chats_nodup.sublist (List.filter_sublist.map _)
  messages_nodup := h.messages_nodup.sublist (List.filter_sublist.map _)
  attachments_nodup := h.attachments_nodup.sublist (List.filter_sublist.map _)
  message_chat m hm := by
    -- the chat of a message that stays is not the one removed
    obtain ⟨hm, hne⟩ := List.mem_filter.mp hm
    obtain ⟨r, hr, hid⟩ := List.mem_map.mp (h.message_chat m hm)
    exact List.mem_map.mpr ⟨r, List.mem_filter.mpr ⟨hr, by simpa [hid] using hne⟩, hid⟩
  attachment_message a ha := by
    obtain ⟨ha, hne⟩ := List.mem_filter.mp ha
    obtain ⟨m, hm, hkey, hid⟩ := h.exists_owner ha
    exact List.mem_map.mpr ⟨m, List.mem_filter.mpr ⟨hm, by simpa [hid] using hne⟩, hkey⟩

/-- **Every write keeps integrity.** -/
theorem run {w : CacheWrite} {es : List CacheEvent} (h : c.Intact) (hw : w.run c = .ok (d, es)) :
    d.Intact := by
  cases w with
  | upsertSummaries ss => cases hw; exact h.foldl_putSummary ss
  | upsertChat chat => cases hw; exact h.putChat _
  | applySnapshot chat thread => cases hw; exact h.applySnapshot chat thread
  | upsertMessage m =>
    simp only [CacheWrite.run, upsertMessage] at hw
    split at hw
    · rename_i hchat
      cases hw
      exact h.putMessage (r := .ofMessage m) (hasChat_iff.mp hchat)
    · cases hw
  | setMessageStatus chatId messageId status =>
    cases hw; exact h.setMessageStatus chatId messageId status
  | deleteChat chatId => cases hw; exact h.dropChat chatId
  | toggle f chatId => cases hw; exact h.toggle f chatId
  | clearAll => cases hw; exact intact_of_chats [] _ List.nodup_nil

/-- **Opening the cache again keeps integrity**, whatever layout number is stored. -/
theorem opened (h : c.Intact) (layout : Int) : (c.editLayout layout).opened.Intact := by
  unfold Cache.opened
  split
  · exact intact_of_chats c.chats _ h.chats_nodup
  · exact h.of_keys rfl rfl rfl

end Intact

/-! ## Counting rows -/

/-- A sum over the rows of a table, taken key by key. -/
theorem sum_map_eq_sum_groups {α κ : Type} [BEq κ] [LawfulBEq κ] (key : α → κ) (f : α → Nat)
    {keys : List κ} (hnodup : keys.Nodup) {rows : List α} (hin : ∀ a ∈ rows, key a ∈ keys) :
    (rows.map f).sum = (keys.map fun k => ((rows.filter (key · == k)).map f).sum).sum := by
  induction keys generalizing rows with
  | nil =>
    cases rows with
    | nil => rfl
    | cons a rest => exact (List.not_mem_nil (hin a (List.mem_cons_self ..))).elim
  | cons k rest ih =>
    obtain ⟨hk, hrest⟩ := List.nodup_cons.mp hnodup
    have hothers : ∀ a ∈ rows.filter (!key · == k), key a ∈ rest := by
      intro a ha
      obtain ⟨ha, hne⟩ := List.mem_filter.mp ha
      exact (List.mem_cons.mp (hin a ha)).resolve_left (by simpa using hne)
    -- the rows under the other keys are found among the rows that are not under `k`
    have hgroup : ∀ k' ∈ rest, rows.filter (key · == k') =
        (rows.filter (!key · == k)).filter (key · == k') := by
      intro k' hk'
      rw [List.filter_filter]
      refine List.filter_congr fun a _ => ?_
      have hne : k' ≠ k := fun he => hk (he ▸ hk')
      by_cases ha : key a = k'
      · simp [ha, hne]
      · simp [ha]
    have hsplit : (rows.map f).sum =
        ((rows.filter (key · == k)).map f).sum + ((rows.filter (!key · == k)).map f).sum := by
      rw [← List.sum_append, ← List.map_append]
      exact ((List.filter_append_perm (key · == k) rows).map f).sum_nat.symm
    rw [hsplit, ih hrest hothers, List.map_cons, List.sum_cons]
    congr 2
    exact List.map_congr_left fun k' hk' => by rw [hgroup k' hk']

/-- The rows of a table, counted key by key. -/
theorem length_eq_sum_groups {α κ : Type} [BEq κ] [LawfulBEq κ] (key : α → κ) {keys : List κ}
    (hnodup : keys.Nodup) {rows : List α} (hin : ∀ a ∈ rows, key a ∈ keys) :
    rows.length = (keys.map fun k => (rows.filter (key · == k)).length).sum := by
  have hsum := sum_map_eq_sum_groups key (fun _ => 1) hnodup hin
  simpa only [List.map_const', List.sum_replicate_nat, Nat.mul_one] using hsum

namespace Intact

variable {c : Cache}

/-- The messages are those of the chats. -/
theorem length_messages (h : c.Intact) :
    c.messages.length = (c.chats.map fun r => (c.messagesOf r.id).length).sum := by
  rw [length_eq_sum_groups MessageRow.chatId h.chats_nodup h.message_chat, List.map_map]
  refine congrArg List.sum (List.map_congr_left fun r _ => ?_)
  rw [messagesOf, List.length_map, (c.messageRows_perm r.id).length_eq]
  rfl

/-- The failed messages are those of the chats. -/
theorem length_failed (h : c.Intact) :
    (c.messages.filter (·.isFailed)).length =
      (c.chats.map fun r => (c.failedMessagesOf r.id).length).sum := by
  have hin : ∀ m ∈ c.messages.filter (·.isFailed), m.chatId ∈ c.chats.map (·.id) :=
    fun m hm => h.message_chat m (List.mem_filter.mp hm).1
  rw [length_eq_sum_groups MessageRow.chatId h.chats_nodup hin, List.map_map]
  refine congrArg List.sum (List.map_congr_left fun r _ => ?_)
  have hperm := (c.messageRows_perm r.id).filter (·.isFailed)
  rw [failedMessagesOf, List.length_map, hperm.length_eq, chatRows, List.filter_filter,
    Function.comp_apply, List.filter_filter]
  simp only [Bool.and_comm]

/-- The attachments are those of the messages of the chats. -/
theorem length_attachments (h : c.Intact) :
    c.attachments.length = (c.chats.map fun r =>
      ((c.messagesOf r.id).map fun m => (c.attachmentsOf r.id m.id).length).sum).sum := by
  have hbyMessage : c.attachments.length =
      (c.messages.map fun m => (c.attachmentsOf m.chatId m.id).length).sum := by
    rw [length_eq_sum_groups CachedAttachment.owner h.messages_nodup h.attachment_message,
      List.map_map]
    rfl
  rw [hbyMessage, sum_map_eq_sum_groups MessageRow.chatId _ h.chats_nodup h.message_chat,
    List.map_map]
  refine congrArg List.sum (List.map_congr_left fun r _ => ?_)
  have hperm := (c.messageRows_perm r.id).map
    fun m : MessageRow => (c.attachmentsOf r.id m.id).length
  rw [messagesOf, List.map_map]
  refine Eq.trans (congrArg List.sum (List.map_congr_left fun m hm => ?_)) hperm.sum_nat.symm
  rw [eq_of_beq (List.mem_filter.mp hm).2]

/-- **The row counts of an intact cache agree with its queries.** -/
theorem stats_eq (h : c.Intact) :
    c.stats = {
      chats := c.chatCount
      messages := (c.chats.map fun r => (c.messagesOf r.id).length).sum
      attachments := (c.chats.map fun r =>
        ((c.messagesOf r.id).map fun m => (c.attachmentsOf r.id m.id).length).sum).sum
      failedMessages := (c.chats.map fun r => (c.failedMessagesOf r.id).length).sum } := by
  rw [stats, ← h.length_messages, ← h.length_attachments, ← h.length_failed]
  rfl

end Intact
end Cache

namespace Store

/-- **The cache is intact after every session**, and its row counts are those that its queries
give, chat by chat and message by message. -/
theorem session_intact {σ : Type} (api : ServerApi σ) (server : σ) (surroundings : Surroundings)
    (defaultTitle : String) (steps : List (SessionStep σ)) :
    let c := ((fresh server surroundings defaultTitle).session api steps).cache
    c.Intact ∧
    c.stats = {
      chats := c.chatCount
      messages := (c.chats.map fun r => (c.messagesOf r.id).length).sum
      attachments := (c.chats.map fun r =>
        ((c.messagesOf r.id).map fun m => (c.attachmentsOf r.id m.id).length).sum).sum
      failedMessages := (c.chats.map fun r => (c.failedMessagesOf r.id).length).sum } := by
  have hintact := session_keeps api (fresh server surroundings defaultTitle)
    Cache.Intact.run (fun layout h => h.opened layout) steps Cache.intact_fresh
  exact ⟨hintact, hintact.stats_eq⟩

end Store
end OfflineChat
