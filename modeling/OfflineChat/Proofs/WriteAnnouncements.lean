import OfflineChat.Cache.Live
import OfflineChat.Proofs.TableUpsert

/-! # What announcements stand for

A live view reads again only after an event that concerns it, so a write must
announce whatever it changes.  It does: unless one of its events affects the
messages of a chat, the rows of these messages are as before
(`CacheWrite.chatRows_of_unaffected`), and a write that announces nothing
changes nothing at all (`CacheWrite.eq_of_silent`).  For the two queries that can
be followed this is `CacheWrite.read_of_irrelevant`.
-/
namespace OfflineChat

theorem foldl_keeps {α β γ : Type} {f : α → β → α} {g : α → γ} (h : ∀ a b, g (f a b) = g a)
    (l : List β) (a : α) : g (l.foldl f a) = g a := by
  induction l generalizing a with
  | nil => rfl
  | cons b rest ih => rw [List.foldl_cons, ih, h]

namespace Cache

/-! ## The tables that puts leave alone -/

@[simp] theorem putSummary_messages (c : Cache) (s : ChatSummary) :
    (c.putSummary s).messages = c.messages := rfl

@[simp] theorem putAttachment_chats (c : Cache) (a : AttachmentRow) :
    (c.putAttachment a).chats = c.chats := rfl

@[simp] theorem putAttachment_messages (c : Cache) (a : AttachmentRow) :
    (c.putAttachment a).messages = c.messages := rfl

@[simp] theorem foldl_putSummary_messages (ss : List ChatSummary) (c : Cache) :
    (ss.foldl putSummary c).messages = c.messages := foldl_keeps putSummary_messages ss c

@[simp] theorem foldl_putAttachment_chats (rows : List AttachmentRow) (c : Cache) :
    (rows.foldl putAttachment c).chats = c.chats := foldl_keeps putAttachment_chats rows c

@[simp] theorem foldl_putAttachment_messages (rows : List AttachmentRow) (c : Cache) :
    (rows.foldl putAttachment c).messages = c.messages := foldl_keeps putAttachment_messages rows c

@[simp] theorem putServerMessage_messages (chatId : String) (c : Cache) (m : Message) :
    (putServerMessage chatId c m).messages =
      (c.putMessage (.ofMessage (.ofMessage chatId m .sent))).messages :=
  foldl_putAttachment_messages _ _

@[simp] theorem putServerMessage_chats (chatId : String) (c : Cache) (m : Message) :
    (putServerMessage chatId c m).chats = c.chats :=
  foldl_putAttachment_chats _ _

/-! ## The messages of one chat -/

/-- The message rows of a chat, in the order of the table. -/
def chatRows (c : Cache) (chatId : String) : List MessageRow :=
  c.messages.filter (·.chatId == chatId)

theorem messagesOf_congr {c d : Cache} {chatId : String}
    (h : d.chatRows chatId = c.chatRows chatId) : d.messagesOf chatId = c.messagesOf chatId := by
  unfold chatRows at h
  rw [messagesOf, messageRows, h, messagesOf, messageRows]

theorem chatRows_putMessage_of_ne {c : Cache} {r : MessageRow} {chatId : String}
    (h : r.chatId ≠ chatId) : (c.putMessage r).chatRows chatId = c.chatRows chatId := by
  unfold chatRows putMessage
  rw [filter_upsert (keepsKey_replace MessageRow.key)
    (fun a b hab => by rw [show a.chatId = b.chatId from congrArg Prod.fst hab])]
  simp [h]

theorem chatRows_applySnapshot_of_ne {c : Cache} {chat : Chat} {thread : List Message}
    {chatId : String} (h : chat.id ≠ chatId) :
    (c.applySnapshot chat thread).cache.chatRows chatId = c.chatRows chatId := by
  refine foldl_keeps (g := fun c : Cache => c.chatRows chatId) (fun c m => ?_) thread _
  show (putServerMessage chat.id c m).messages.filter _ = _
  rw [putServerMessage_messages]
  exact chatRows_putMessage_of_ne h

theorem chatRows_setMessageStatus_of_ne {c : Cache} {id messageId chatId : String}
    {status : MessageStatus} (h : id ≠ chatId) :
    (c.setMessageStatus id messageId status).cache.chatRows chatId = c.chatRows chatId := by
  unfold setMessageStatus
  split
  · unfold chatRows
    dsimp only
    induction c.messages with
    | nil => rfl
    | cons r rest ih =>
      rw [List.map_cons, List.filter_cons, List.filter_cons, ih]
      by_cases hr : r.key = (id, messageId)
      · have hid : r.chatId = id := congrArg Prod.fst hr
        simp [hr, hid, h]
      · simp [hr]
  · rfl

theorem chatRows_dropChat_of_ne {c : Cache} {id chatId : String} (h : id ≠ chatId) :
    (c.dropChat id).chatRows chatId = c.chatRows chatId := by
  unfold chatRows dropChat
  rw [List.filter_filter]
  refine List.filter_congr fun r _ => ?_
  by_cases hr : r.chatId = chatId
  · simp [hr, Ne.symm h]
  · simp [hr]

end Cache

namespace CacheWrite

variable {c d : Cache} {es : List CacheEvent}

/-- **A write announces each chat whose messages it touches.** -/
theorem chatRows_of_unaffected {w : CacheWrite} {chatId : String} (h : w.run c = .ok (d, es))
    (hes : ∀ e ∈ es, e.affectsMessagesOf chatId = false) :
    d.chatRows chatId = c.chatRows chatId := by
  cases w with
  | upsertSummaries ss =>
    cases h
    unfold Cache.chatRows
    rw [Cache.upsertSummaries, Cache.foldl_putSummary_messages]
  | upsertChat chat => cases h; rfl
  | applySnapshot chat thread =>
    cases h
    exact Cache.chatRows_applySnapshot_of_ne
      (by simpa [CacheEvent.affectsMessagesOf, Cache.applySnapshot] using hes)
  | upsertMessage m =>
    simp only [run, Cache.upsertMessage] at h
    split at h
    · cases h
      exact Cache.chatRows_putMessage_of_ne
        (by simpa [CacheEvent.affectsMessagesOf, MessageRow.ofMessage] using hes)
    · cases h
  | setMessageStatus id messageId status =>
    cases h
    by_cases hid : id = chatId
    · -- nothing is announced, so there is no such message
      subst hid
      unfold Cache.setMessageStatus at hes ⊢
      split at hes
      · exact absurd (hes _ (List.mem_singleton.mpr rfl)) (by simp [CacheEvent.affectsMessagesOf])
      · rename_i hno
        rw [if_neg hno]
    · exact Cache.chatRows_setMessageStatus_of_ne hid
  | deleteChat id =>
    cases h
    exact Cache.chatRows_dropChat_of_ne
      (by simpa [CacheEvent.affectsMessagesOf, Cache.deleteChat] using hes)
  | toggle f id =>
    cases h
    unfold Cache.toggle
    split <;> rfl
  | clearAll =>
    cases h
    exact absurd (hes _ (List.mem_singleton.mpr rfl)) (by simp [CacheEvent.affectsMessagesOf])

/-- **A write that announces nothing changes nothing.** -/
theorem eq_of_silent {w : CacheWrite} (h : w.run c = .ok (d, [])) : d = c := by
  cases w with
  | upsertMessage m =>
    simp only [run, Cache.upsertMessage] at h
    split at h <;> cases h
  | setMessageStatus id messageId status =>
    simp only [run, Cache.setMessageStatus] at h
    split at h <;> cases h
    rfl
  | toggle f id =>
    simp only [run, Cache.toggle] at h
    split at h <;> cases h
    rfl
  | _ => cases h

/-- Unless an event of a write is relevant to a query, the query answers as before. -/
theorem read_of_irrelevant {w : CacheWrite} {q : LiveQuery} (h : w.run c = .ok (d, es))
    (hes : ∀ e ∈ es, q.isRelevant e = false) : q.read d = q.read c := by
  cases q with
  | chats =>
    cases es with
    | nil => rw [eq_of_silent h]
    | cons e rest => exact absurd (hes e (List.mem_cons_self ..)) (by simp [LiveQuery.isRelevant])
  | messages chatId =>
    exact congrArg Emission.messages (Cache.messagesOf_congr (chatRows_of_unaffected h hes))

end CacheWrite
end OfflineChat
