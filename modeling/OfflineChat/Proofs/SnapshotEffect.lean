import OfflineChat.Proofs.CacheIntegrity
import OfflineChat.Proofs.CodecSurvival
import OfflineChat.Proofs.TablePuts
import OfflineChat.Server.InMemory

/-! # The effect of a snapshot

A snapshot of a chat is put into the cache row by row: its chat row, then each
message of the thread with the attachments of its file references.  Table by
table that is the same as putting all rows of the table one after the other
(`Cache.applySnapshot_messages`, `Cache.applySnapshot_attachments`), so the last
row under a key is the one that stays, an attachment keeps its path on this
device, and everything that the snapshot does not name is as it was
(`Cache.applySnapshot_writes_snapshot`).
-/
namespace OfflineChat

/-! ## Chats in their rows -/

/-- **A chat is read back from its row.** -/
@[simp] theorem ChatRow.toChat_ofChat (c : CachedChat) : (ofChat c).toChat = c := by
  have harchived : decide ((ofChat c).archived ≠ 0) = c.archived := flag_ne_zero c.archived
  have hpinned : decide ((ofChat c).pinned ≠ 0) = c.pinned := flag_ne_zero c.pinned
  have hmodels : (ofChat c).modelNames = c.models := by
    unfold modelNames
    rw [show (ofChat c).models = (Codec.list .string).encode c.models from rfl,
      Codec.decode_encode_strings]
  rw [toChat, harchived, hpinned, hmodels]
  rfl

namespace Cache

/-- A row that is put into the cache is found there. -/
theorem find?_putChat (c : Cache) (r : ChatRow) :
    (c.putChat r).chats.find? (·.id == r.id) = some r := find?_upsert_replace r c.chats

theorem chat?_putChat (c : Cache) (chat : CachedChat) :
    (c.putChat (.ofChat chat)).chat? chat.id = some chat := by
  have hid : (ChatRow.ofChat chat).id = chat.id := rfl
  have hrow := c.find?_putChat (.ofChat chat)
  rw [hid] at hrow
  rw [chat?, hrow, Option.map_some, ChatRow.toChat_ofChat]

end Cache

theorem CachedAttachment.localPath_of_mem {chatId : String} {m : Message} {a : AttachmentRow}
    (h : a ∈ Cache.attachmentsFor chatId m) : a.localPath = none := by
  obtain ⟨i, hi, rfl⟩ := List.mem_mapIdx.mp h
  rfl

/-- An attachment of the server with the path on this device of the row that was there. -/
def CachedAttachment.withPathOf (new : AttachmentRow) (old? : Option AttachmentRow) :
    AttachmentRow :=
  { new with localPath := old?.bind (·.localPath) }

/-- An attachment of the server replaces another one and keeps the path on this device. -/
theorem CachedAttachment.covers_keepingPath {news : List AttachmentRow}
    (h : ∀ a ∈ news, a.localPath = none) : Covers key keepingPath withPathOf news where
  first a ha := by rw [withPathOf, Option.bind_none, ← h a ha]
  again a ha old _ := by simp [keepingPath, withPathOf, h a ha]
  covers a _ b hb _ old? := by simp [keepingPath, withPathOf, h b hb]

namespace Cache

/-- The row of a message of the server. -/
def serverRow (chatId : String) (m : Message) : MessageRow :=
  .ofMessage (.ofMessage chatId m .sent)

/-! ## Table by table -/

theorem foldl_putAttachment_attachments (rows : List AttachmentRow) (c : Cache) :
    (rows.foldl putAttachment c).attachments =
      upsertAll CachedAttachment.key CachedAttachment.keepingPath rows c.attachments := by
  induction rows generalizing c with
  | nil => rfl
  | cons a rest ih => exact ih (c.putAttachment a)

theorem putServerMessage_attachments (chatId : String) (c : Cache) (m : Message) :
    (putServerMessage chatId c m).attachments =
      upsertAll CachedAttachment.key CachedAttachment.keepingPath (attachmentsFor chatId m)
        c.attachments :=
  foldl_putAttachment_attachments _ _

theorem applySnapshot_chats (c : Cache) (chat : Chat) (thread : List Message) :
    (c.applySnapshot chat thread).cache.chats =
      upsertAll ChatRow.id (fun _ new => new) [.ofChat (.ofChat chat)] c.chats :=
  foldl_keeps (g := Cache.chats) (putServerMessage_chats chat.id) thread _

theorem foldl_putServerMessage_messages (chatId : String) (thread : List Message) (c : Cache) :
    (thread.foldl (putServerMessage chatId) c).messages =
      upsertAll MessageRow.key (fun _ new => new) (thread.map (serverRow chatId)) c.messages := by
  induction thread generalizing c with
  | nil => rfl
  | cons m rest ih =>
    rw [List.foldl_cons, ih, putServerMessage_messages]
    rfl

theorem foldl_putServerMessage_attachments (chatId : String) (thread : List Message) (c : Cache) :
    (thread.foldl (putServerMessage chatId) c).attachments =
      upsertAll CachedAttachment.key CachedAttachment.keepingPath
        (thread.flatMap (attachmentsFor chatId)) c.attachments := by
  induction thread generalizing c with
  | nil => rfl
  | cons m rest ih =>
    rw [List.foldl_cons, ih, putServerMessage_attachments, List.flatMap_cons]
    exact List.foldl_append.symm

theorem applySnapshot_messages (c : Cache) (chat : Chat) (thread : List Message) :
    (c.applySnapshot chat thread).cache.messages =
      upsertAll MessageRow.key (fun _ new => new) (thread.map (serverRow chat.id)) c.messages :=
  foldl_putServerMessage_messages chat.id thread _

theorem applySnapshot_attachments (c : Cache) (chat : Chat) (thread : List Message) :
    (c.applySnapshot chat thread).cache.attachments =
      upsertAll CachedAttachment.key CachedAttachment.keepingPath
        (thread.flatMap (attachmentsFor chat.id)) c.attachments :=
  foldl_putServerMessage_attachments chat.id thread _

theorem applySnapshot_layout (c : Cache) (chat : Chat) (thread : List Message) :
    (c.applySnapshot chat thread).cache.layout = c.layout := by
  refine foldl_keeps (g := Cache.layout) (fun c m => ?_) thread _
  exact foldl_keeps (f := putAttachment) (fun _ _ => rfl) (attachmentsFor chat.id m) _

/-! ## The whole snapshot -/

/-- **A snapshot writes what it holds, and nothing else.**  The chat is the one of the snapshot.
Under the key of a message of the thread there is one row, that of its last occurrence, as sent;
under the key of an attachment there is one, that of its last reference, with the path on this
device that was known.  Everything else is as it was, also of this chat; rows that were there keep
their places, and new ones follow in the order of the thread. -/
theorem applySnapshot_writes_snapshot (c : Cache) (hc : c.Intact) (chat : Chat)
    (thread : List Message) :
    let d := (c.applySnapshot chat thread).cache
    d.chat? chat.id = some (.ofChat chat) ∧
    HoldsPuts ChatRow.id (fun new _ => new) [.ofChat (.ofChat chat)] c.chats d.chats ∧
    HoldsPuts MessageRow.key (fun new _ => new) (thread.map (serverRow chat.id))
      c.messages d.messages ∧
    HoldsPuts CachedAttachment.key CachedAttachment.withPathOf
      (thread.flatMap (attachmentsFor chat.id)) c.attachments d.attachments ∧
    d.layout = c.layout := by
  intro d
  have hchats : HoldsPuts ChatRow.id (fun new _ => new) [.ofChat (.ofChat chat)]
      c.chats d.chats := by
    rw [show d.chats = _ from applySnapshot_chats c chat thread]
    exact holdsPuts_upsertAll (keepsKey_replace _) (covers_replace _ _) hc.chats_nodup
  refine ⟨?_, hchats, ?_, ?_, applySnapshot_layout c chat thread⟩
  · have hrow := hchats.last [] (.ofChat (.ofChat chat)) [] rfl List.not_mem_nil
    rw [chat?, ← List.head?_filter]
    have hid : (ChatRow.ofChat (.ofChat chat)).id = chat.id := rfl
    rw [hid] at hrow
    rw [hrow, List.head?_cons, Option.map_some, ChatRow.toChat_ofChat]
  · rw [show d.messages = _ from applySnapshot_messages c chat thread]
    exact holdsPuts_upsertAll (keepsKey_replace _) (covers_replace _ _) hc.messages_nodup
  · rw [show d.attachments = _ from applySnapshot_attachments c chat thread]
    refine holdsPuts_upsertAll CachedAttachment.keepsKey_keepingPath
      (CachedAttachment.covers_keepingPath fun a ha => ?_) hc.attachments_nodup
    obtain ⟨m, -, ha⟩ := List.mem_flatMap.mp ha
    exact CachedAttachment.localPath_of_mem ha

/-- A cache with a message that is under way, one that failed, both with files, and a chat that
shares the id of a message with another. -/
def keptCache : Cache where
  chats := [.ofChat (.onDevice "c" "Tides" 1), .ofChat (.onDevice "d" "Winds" 2)]
  messages := [⟨"c", "m", none, "user", "When?", none, 30, "pending"⟩,
    ⟨"c", "n", some "m", "user", "Why?", none, 7, "failed"⟩,
    ⟨"d", "m", none, "user", "Where?", none, 9, "sent"⟩]
  attachments := [⟨"f", "c", "m", "old.txt", "text/plain", 1, some "/f", none⟩,
    ⟨"g", "c", "n", "g.txt", "text/plain", 1, none, none⟩]
  layout := currentLayout

/-- A thread that holds one message twice, and a file twice and one without an id under it. -/
def echoingThread : List Message :=
  let file (id : Option String) (name : String) : FileRef :=
    ⟨id, some name, some "text/plain", some 2, none, .empty⟩
  [{ Message.plain "m" none .user "Tides?" 40 with
      files := [file (some "f") "a.txt", file (some "f") "b.txt"] },
    .plain "k" (some "m") .assistant "Twice a day." 41,
    { Message.plain "m" (some "k") .user "When today?" 42 with files := [file none "c.txt"] }]

theorem applySnapshot_writes_snapshot_echoing :
    keptCache.Intact ∧
    let chat := InMemoryServer.chatOfThread "c" "Tides today" []
    let d := (keptCache.applySnapshot chat echoingThread).cache
    d.chat? "c" = some (.ofChat chat) ∧
    HoldsPuts ChatRow.id (fun new _ => new) [.ofChat (.ofChat chat)] keptCache.chats d.chats ∧
    HoldsPuts MessageRow.key (fun new _ => new) (echoingThread.map (serverRow "c"))
      keptCache.messages d.messages ∧
    HoldsPuts CachedAttachment.key CachedAttachment.withPathOf
      (echoingThread.flatMap (attachmentsFor "c")) keptCache.attachments d.attachments ∧
    d.layout = currentLayout := by
  have hintact : keptCache.Intact :=
    ⟨by decide, by decide, by decide, by decide, by decide⟩
  exact ⟨hintact, applySnapshot_writes_snapshot keptCache hintact
    (InMemoryServer.chatOfThread "c" "Tides today" []) echoingThread⟩

end Cache
end OfflineChat
