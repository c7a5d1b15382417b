import OfflineChat.Proofs.ChatList
import OfflineChat.Proofs.StepWrites
import OfflineChat.Proofs.SummaryEffect

/-! # Rebuilding a cache

What a session leaves in the cache can be put into a new cache by writes: the chats,
the messages, and each attachment with a snapshot that refers to it; then chats and
messages once more, because the snapshots have changed them (`Cache.rebuilding`).
The cache is then the same, table by table and row by row
(`Cache.Rebuildable.rebuild_eq`).

For that a row has to be one that a write can put: it stores flags, model names,
roles and statuses as they are written, and an attachment has no path on this device.
Every session keeps it so (`Store.session_rebuildable`).
-/
namespace OfflineChat

/-! ## Rows that a write can put -/

namespace ChatRow

/-- A chat row that is the row of its chat. -/
def Kept (r : ChatRow) : Prop := ofChat r.toChat = r

theorem kept_iff {r : ChatRow} : r.Kept ↔
    (Codec.list .string).encode r.modelNames = r.models ∧
      flag (decide (r.archived ≠ 0)) = r.archived ∧ flag (decide (r.pinned ≠ 0)) = r.pinned := by
  obtain ⟨id, title, createdAt, updatedAt, archived, pinned, models, shareId, folderId⟩ := r
  simp only [Kept, ofChat, toChat, ChatRow.mk.injEq, true_and, and_true]
  tauto

theorem kept_ofChat (c : CachedChat) : (ofChat c).Kept := congrArg ofChat (toChat_ofChat c)

theorem flag_flag (b : Bool) : flag (decide (flag b ≠ 0)) = flag b := congrArg flag (flag_ne_zero b)

theorem kept_ofSummary (s : ChatSummary) : (ofSummary s).Kept := by
  refine kept_iff.mpr ⟨?_, flag_flag s.archived, flag_flag s.pinned⟩
  rw [modelNames_of_none rfl]
  rfl

theorem Kept.withSummary {old : ChatRow} (h : old.Kept) (s : ChatSummary) :
    (old.withSummary (ofSummary s)).Kept :=
  kept_iff.mpr ⟨(kept_iff.mp h).1, flag_flag s.archived, flag_flag s.pinned⟩

theorem Kept.flip {r : ChatRow} (h : r.Kept) (f : ChatFlag) : (r.flip f).Kept := by
  obtain ⟨hmodels, harchived, hpinned⟩ := kept_iff.mp h
  cases f with
  | pinned => exact kept_iff.mpr ⟨hmodels, harchived, flag_flag _⟩
  | archived => exact kept_iff.mpr ⟨hmodels, flag_flag _, hpinned⟩

end ChatRow

namespace MessageRow

/-- A message row that is the row of its message. -/
def Kept (r : MessageRow) : Prop := ofMessage r.toMessage = r

theorem kept_ofMessage (m : CachedMessage) : (ofMessage m).Kept :=
  congrArg ofMessage (toMessage_ofMessage m)

theorem Kept.mark {r : MessageRow} (h : r.Kept) (status : MessageStatus) :
    Kept { r with status := status.name } := by
  have hstatus : { r with status := status.name } =
      ofMessage { r.toMessage with status := status } := by
    rw [← h]
    simp [ofMessage, toMessage]
  rw [hstatus]
  exact kept_ofMessage _

end MessageRow

theorem CacheWrite.kept_of_mem {w : CacheWrite} {m : MessageRow} (h : m ∈ w.messagesPut) :
    m.Kept := by
  cases w with
  | applySnapshot chat thread =>
    obtain ⟨x, -, rfl⟩ := List.mem_map.mp h
    exact MessageRow.kept_ofMessage _
  | upsertMessage x =>
    obtain rfl := List.mem_singleton.mp h
    exact MessageRow.kept_ofMessage x
  | _ => exact (List.not_mem_nil h).elim

namespace Cache

/-- A cache that can be put into a new one by writes. -/
structure Rebuildable (c : Cache) : Prop where
  intact : c.Intact
  chats : ∀ r ∈ c.chats, r.Kept
  messages : ∀ m ∈ c.messages, m.Kept
  attachments : ∀ a ∈ c.attachments, a.localPath = none
  layout : c.layout = currentLayout

variable {c d : Cache}

theorem layout_write (c : Cache) (w : CacheWrite) : (c.write w).layout = c.layout := by
  cases w with
  | upsertSummaries ss => exact foldl_keeps (f := putSummary) (fun _ _ => rfl) ss c
  | applySnapshot chat thread => exact c.applySnapshot_layout chat thread
  | upsertMessage m =>
    rw [write_upsertMessage]
    split <;> rfl
  | setMessageStatus chatId messageId status =>
    show (c.setMessageStatus chatId messageId status).cache.layout = c.layout
    rw [setMessageStatus_cache]
  | toggle f chatId =>
    show (c.toggle f chatId).cache.layout = c.layout
    rw [toggle_cache]
  | _ => rfl

namespace Rebuildable

theorem fresh : Rebuildable .fresh :=
  ⟨intact_fresh, fun _ h => (List.not_mem_nil h).elim, fun _ h => (List.not_mem_nil h).elim,
    fun _ h => (List.not_mem_nil h).elim, rfl⟩

/-- **Every write leaves rows that a write can put.** -/
theorem run {w : CacheWrite} {es : List CacheEvent} (h : c.Rebuildable)
    (hw : w.run c = .ok (d, es)) : d.Rebuildable where
  intact := h.intact.run hw
  chats := forall_chats_run ChatRow.kept_ofChat ChatRow.kept_ofSummary
    (fun _ s hr => hr.withSummary s) (fun _ f hr => hr.flip f) h.chats hw
  messages := by
    rw [← write_eq hw]
    exact forall_messages_write h.messages (fun _ => CacheWrite.kept_of_mem)
      fun _ status hr => hr.mark status
  attachments := by
    rw [← write_eq hw]
    intro a ha
    exact (mem_attachments_write (fun b hb _ => h.attachments b hb) w a ha rfl).1
  layout := by rw [← write_eq hw, layout_write, h.layout]

/-- Opening the cache again leaves rows that a write can put, whatever layout number is stored. -/
theorem opened (h : c.Rebuildable) (layout : Int) : (c.editLayout layout).opened.Rebuildable where
  intact := h.intact.opened layout
  chats := by
    rw [opened_chats]
    exact h.chats
  messages m hm := h.messages m (c.messages_opened_subset layout hm)
  attachments a ha := h.attachments a (c.attachments_opened_subset layout ha)
  layout := by
    unfold Cache.opened
    split <;> rfl

end Rebuildable

/-! ## The writes that rebuild a cache -/

/-- The writes that put the chats and the messages of a cache, in the order of the tables. -/
def rowWrites (c : Cache) : List CacheWrite :=
  c.chats.map (.upsertChat ·.toChat) ++ c.messages.map (.upsertMessage ·.toMessage)

/-- The write that puts an attachment, with a chat and a message that stand in for its own. -/
def placing (a : AttachmentRow) : CacheWrite :=
  .applySnapshot (InMemoryServer.chatOfThread a.chatId "" [])
    [{ Message.plain a.messageId none .user "" 0 with
        files := [⟨some a.id, some a.filename, some a.contentType, some a.size, a.remoteUrl,
          .empty⟩] }]

/-- The writes that put a cache into a new one. -/
def rebuilding (c : Cache) : List CacheWrite :=
  c.rowWrites ++ c.attachments.map placing ++ c.rowWrites

theorem foldl_upsertChat {rows : List ChatRow} (h : ∀ r ∈ rows, r.Kept) (d : Cache) :
    (rows.map (.upsertChat ·.toChat)).foldl write d =
      { d with chats := upsertAll ChatRow.id (fun _ new => new) rows d.chats } := by
  induction rows generalizing d with
  | nil => rfl
  | cons r rest ih =>
    obtain ⟨hr, hrest⟩ := List.forall_mem_cons.mp h
    have hput : d.write (.upsertChat r.toChat) = d.putChat r := congrArg d.putChat hr
    rw [List.map_cons, List.foldl_cons, hput, ih hrest]
    rfl

theorem foldl_upsertMessage {rows : List MessageRow} (h : ∀ m ∈ rows, m.Kept)
    (hchats : ∀ m ∈ rows, m.chatId ∈ d.chats.map (·.id)) :
    (rows.map (.upsertMessage ·.toMessage)).foldl write d =
      { d with messages := upsertAll MessageRow.key (fun _ new => new) rows d.messages } := by
  induction rows generalizing d with
  | nil => rfl
  | cons m rest ih =>
    obtain ⟨hm, hrest⟩ := List.forall_mem_cons.mp h
    obtain ⟨hchat, hchats⟩ := List.forall_mem_cons.mp hchats
    have hhas : d.hasChat m.toMessage.chatId = true := hasChat_iff.mpr hchat
    have hput : d.write (.upsertMessage m.toMessage) = d.putMessage m := by
      rw [write_upsertMessage, if_pos hhas, show MessageRow.ofMessage m.toMessage = m from hm]
    rw [List.map_cons, List.foldl_cons, hput]
    exact ih (d := d.putMessage m) hrest hchats

/-- The chats and messages of a cache are put over those of another one. -/
theorem Rebuildable.foldl_rowWrites (h : c.Rebuildable) (d : Cache) :
    c.rowWrites.foldl write d =
      ⟨upsertAll ChatRow.id (fun _ new => new) c.chats d.chats,
        upsertAll MessageRow.key (fun _ new => new) c.messages d.messages, d.attachments,
        d.layout⟩ := by
  rw [rowWrites, List.foldl_append, foldl_upsertChat h.chats, foldl_upsertMessage h.messages]
  exact fun m hm =>
    key_mem_upsertAll (keepsKey_replace ChatRow.id) (h.intact.message_chat m hm) d.chats

/-- The tables of a cache in which attachments are put, with chats and messages that stand in for
theirs: these keep their places, if they are there. -/
theorem foldl_placing {rows : List AttachmentRow} (hpaths : ∀ a ∈ rows, a.localPath = none)
    (hchats : ∀ a ∈ rows, a.chatId ∈ d.chats.map (·.id))
    (howners : ∀ a ∈ rows, a.owner ∈ d.messages.map (·.key)) :
    let e := (rows.map placing).foldl write d
    e.chats.map (·.id) = d.chats.map (·.id) ∧ e.messages.map (·.key) = d.messages.map (·.key) ∧
    e.attachments = upsertAll CachedAttachment.key CachedAttachment.keepingPath rows d.attachments ∧
    e.layout = d.layout := by
  induction rows generalizing d with
  | nil => exact ⟨rfl, rfl, rfl, rfl⟩
  | cons a rest ih =>
    obtain ⟨hpath, hpaths⟩ := List.forall_mem_cons.mp hpaths
    obtain ⟨hchat, hchats⟩ := List.forall_mem_cons.mp hchats
    obtain ⟨howner, howners⟩ := List.forall_mem_cons.mp howners
    have hids : (d.write (placing a)).chats.map (·.id) = d.chats.map (·.id) := by
      refine (congrArg _ (d.applySnapshot_chats _ _)).trans
        (map_key_upsertAll_of_mem (keepsKey_replace _) fun k hk => ?_)
      exact List.mem_singleton.mp hk ▸ hchat
    have hkeys : (d.write (placing a)).messages.map (·.key) = d.messages.map (·.key) := by
      refine (congrArg _ (d.applySnapshot_messages _ _)).trans
        (map_key_upsertAll_of_mem (keepsKey_replace _) fun k hk => ?_)
      exact List.mem_singleton.mp hk ▸ howner
    have hrow : (d.write (placing a)).attachments =
        upsert CachedAttachment.key CachedAttachment.keepingPath a d.attachments := by
      obtain ⟨id, chatId, messageId, filename, contentType, size, localPath, remoteUrl⟩ := a
      obtain rfl : localPath = none := hpath
      exact d.applySnapshot_attachments _ _
    obtain ⟨hids', hkeys', hrows', hlayout'⟩ :=
      ih hpaths (fun b hb => hids ▸ hchats b hb) fun b hb => hkeys ▸ howners b hb
    refine ⟨hids'.trans hids, hkeys'.trans hkeys, hrows'.trans ?_,
      hlayout'.trans (d.layout_write (placing a))⟩
    rw [hrow]
    rfl

/-- **A cache is rebuilt by writes**, table by table and row by row. -/
theorem Rebuildable.rebuild_eq (h : c.Rebuildable) :
    c.rebuilding.foldl write .fresh = c := by
  have hintact := h.intact
  have hchats : upsertAll ChatRow.id (fun _ new => new) c.chats [] = c.chats :=
    upsertAll_of_new hintact.chats_nodup
  have hmessages : upsertAll MessageRow.key (fun _ new => new) c.messages [] = c.messages :=
    upsertAll_of_new hintact.messages_nodup
  have hrows : c.rowWrites.foldl write .fresh = ⟨c.chats, c.messages, [], currentLayout⟩ := by
    rw [h.foldl_rowWrites, Cache.fresh, hchats, hmessages]
  have howned : ∀ a ∈ c.attachments, a.chatId ∈ c.chats.map (·.id) := by
    intro a ha
    obtain ⟨m, hm, -, hid⟩ := hintact.exists_owner ha
    exact hid ▸ hintact.message_chat m hm
  -- the snapshots put the attachments, and leave the other tables with the keys that they had
  obtain ⟨hids, hkeys, hattachments, hlayout⟩ :=
    foldl_placing (d := ⟨c.chats, c.messages, [], currentLayout⟩) h.attachments howned
      hintact.attachment_message
  rw [rebuilding, List.foldl_append, List.foldl_append, hrows, h.foldl_rowWrites,
    upsertAll_of_map_key hids hintact.chats_nodup,
    upsertAll_of_map_key hkeys hintact.messages_nodup, hattachments,
    upsertAll_of_new hintact.attachments_nodup, hlayout, ← h.layout]
  rfl

end Cache

/-- **What a session leaves in the cache can be put into a new one by writes.** -/
theorem Store.session_rebuildable {σ : Type} (api : ServerApi σ) (server : σ)
    (surroundings : Surroundings) (defaultTitle : String) (steps : List (SessionStep σ)) :
    ((fresh server surroundings defaultTitle).session api steps).cache.Rebuildable :=
  session_keeps api (fresh server surroundings defaultTitle) Cache.Rebuildable.run
    (fun layout h => h.opened layout) steps .fresh

end OfflineChat
