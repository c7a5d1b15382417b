import OfflineChat.Proofs.ChatParts
import OfflineChat.Proofs.FailureTraces

/-! # The writes of a step

Which writes a step of a session makes is known from the state before it and from
what the server answers (`SessionStep.writes`), and they are all that it does to
the cache (`Store.cache_step`); only opening the cache again makes none and can
still take rows away.

A write puts messages and attachments, changes statuses, or takes rows away.  So
whatever is in the cache after a session was there before, or some step of the
session has put it there with one of its writes
(`Store.mem_messages_session`, `Store.mem_attachments_session`).
-/
namespace OfflineChat

/-! ## The writes -/

namespace Store

variable {σ : Type}

/-- The writes that see that a chat has a row. -/
def ensureWrites (s : Store σ) (chatId : String) : List CacheWrite :=
  if s.cache.hasChat chatId then []
  else [.upsertChat (.onDevice chatId s.defaultTitle s.surroundings.now)]

/-- The writes of the half of a send that comes before the request. -/
def beginWrites (s : Store σ) (chatId content messageId : String) : List CacheWrite :=
  let t := s.ensureChat chatId
  s.ensureWrites chatId ++
    [.upsertMessage (pendingMessage t.cache chatId content messageId t.surroundings.now)]

end Store

/-- The writes of an operation. -/
def StoreCall.writes {σ : Type} (api : ServerApi σ) (s : Store σ) : StoreCall → List CacheWrite
  | .refreshChats => match (s.ask api .fetchChats).1 with
    | .ok summaries => [.upsertSummaries summaries]
    | .error _ => []
  | .refreshMessages chatId => match (s.ask api (.getChat chatId)).1 with
    | .ok chat => [.applySnapshot chat (Chat.thread chat)]
    | .error _ => []
  | .sendMessage chatId content =>
    let t := (s.draw.2.beginSend chatId content s.draw.1).2
    let reply := (t.ask api (.sendMessage chatId content)).1
    s.draw.2.beginWrites chatId content s.draw.1 ++
      [.setMessageStatus chatId s.draw.1 (Store.outcome reply)]
  | .createChat title =>
    let title := s.chosenTitle title
    let t := (s.ask api (.createChat title)).2
    match (s.ask api (.createChat title)).1 with
    | .ok chat => [.upsertChat (.ofChat chat)]
    | .error e =>
      if e.isRemote then [.upsertChat (.onDevice t.draw.1 title t.draw.2.surroundings.now)] else []
  | .deleteChat chatId => [.deleteChat chatId]
  | .toggle f chatId => .toggle f chatId :: match (s.cache.toggle f chatId).value with
    | none => []
    | some _ => match (s.ask api (.toggle f chatId)).1 with
      | .ok chat => [.upsertChat (.ofChat chat)]
      | .error _ => []
  | .clearAll => [.clearAll]
  | _ => []

/-- The writes of a step of a store. -/
def StoreStep.writes {σ : Type} (api : ServerApi σ) (s : Store σ) : StoreStep σ → List CacheWrite
  | .write w => [w]
  | .call c => c.writes api s
  | .beginSend chatId content messageId => s.beginWrites chatId content messageId
  | .completeSend chatId messageId status => [.setMessageStatus chatId messageId status]
  | .elsewhere .. => []

/-- The writes of a step of a session. -/
def SessionStep.writes {σ : Type} (api : ServerApi σ) (s : Store σ) :
    SessionStep σ → List CacheWrite
  | .step x => x.writes api s
  | .reopen _ => []

namespace Store

variable {σ : Type} (api : ServerApi σ) (s : Store σ)

theorem cache_ensureChat (chatId : String) :
    (s.ensureChat chatId).cache = (s.ensureWrites chatId).foldl Cache.write s.cache := by
  unfold ensureChat ensureWrites
  split <;> rfl

theorem cache_beginSend (chatId content messageId : String) :
    (s.beginSend chatId content messageId).2.cache =
      (s.beginWrites chatId content messageId).foldl Cache.write s.cache := by
  have hensure := s.cache_ensureChat chatId
  unfold beginSend beginWrites
  rw [List.foldl_append, ← hensure]
  generalize s.ensureChat chatId = t
  dsimp only [List.foldl_cons, List.foldl_nil]
  generalize pendingMessage t.cache chatId content messageId t.surroundings.now = m
  rw [Cache.write, CacheWrite.run]
  cases t.cache.upsertMessage m <;> rfl

theorem cache_sendMessage (chatId content : String) :
    (s.sendMessage api chatId content).2.cache =
      ((StoreCall.sendMessage chatId content).writes api s).foldl Cache.write s.cache := by
  obtain ⟨m, t, hrun, -⟩ := s.draw.2.beginSend_requests chatId content s.draw.1
  have hbegin := s.draw.2.cache_beginSend chatId content s.draw.1
  unfold sendMessage StoreCall.writes
  dsimp only
  rw [hrun] at hbegin ⊢
  dsimp only
  rw [List.foldl_append, show s.cache = s.draw.2.cache from rfl, ← hbegin]
  rfl

theorem cache_toggle (f : ChatFlag) (chatId : String) :
    (s.toggle api f chatId).2.cache =
      ((StoreCall.toggle f chatId).writes api s).foldl Cache.write s.cache := by
  -- the server is asked after the flip, and answers as it would have before
  have hanswer : ((s.commit (s.cache.toggle f chatId)).ask api (.toggle f chatId)).1 =
      (s.ask api (.toggle f chatId)).1 := rfl
  rw [StoreCall.writes, List.foldl_cons, ← hanswer]
  unfold toggle
  dsimp only
  cases (s.cache.toggle f chatId).value with
  | none => rfl
  | some flipped =>
    dsimp only
    split
    · rename_i hask
      rw [hask]
      exact cache_of_ask hask
    · rename_i chat t hask
      have hcache : t.cache = (s.cache.toggle f chatId).cache := cache_of_ask hask
      rw [hask]
      show t.cache.putChat _ = _
      rw [hcache]
      rfl

theorem cache_refreshChats :
    (s.refreshChats api).2.cache =
      (StoreCall.refreshChats.writes api s).foldl Cache.write s.cache := by
  rw [StoreCall.writes]
  unfold refreshChats
  split
  · rename_i hask
    rw [hask, ← cache_of_ask hask]
    rfl
  · rename_i hask
    rw [hask]
    exact cache_of_ask hask

theorem cache_refreshMessages (chatId : String) :
    (s.refreshMessages api chatId).2.cache =
      ((StoreCall.refreshMessages chatId).writes api s).foldl Cache.write s.cache := by
  rw [StoreCall.writes]
  unfold refreshMessages
  split
  · rename_i hask
    rw [hask, ← cache_of_ask hask]
    rfl
  · rename_i hask
    rw [hask]
    exact cache_of_ask hask

theorem cache_createChat (title : Option String) :
    (s.createChat api title).2.cache =
      ((StoreCall.createChat title).writes api s).foldl Cache.write s.cache := by
  rw [StoreCall.writes]
  unfold createChat
  dsimp only
  split
  · rename_i hask
    rw [hask, ← cache_of_ask hask]
    rfl
  · rename_i hask
    rw [hask, ← cache_of_ask hask]
    dsimp only
    split <;> rfl

/-- **What an operation does to the cache are its writes.** -/
theorem cache_call (c : StoreCall) :
    (c.run api s).2.cache = (c.writes api s).foldl Cache.write s.cache := by
  cases c with
  | refreshChats => exact s.cache_refreshChats api
  | refreshMessages chatId => exact s.cache_refreshMessages api chatId
  | sendMessage chatId content => exact s.cache_sendMessage api chatId content
  | createChat title => exact s.cache_createChat api title
  | toggle f chatId => exact s.cache_toggle api f chatId
  -- the remaining operations make one write, or only read
  | _ => rfl

/-- **What a step does to the cache are its writes.** -/
theorem cache_step (x : StoreStep σ) :
    (s.step api x).cache = (x.writes api s).foldl Cache.write s.cache := by
  cases x with
  | write w => exact s.cache_write w
  | call c => exact s.cache_call api c
  | beginSend chatId content messageId => exact s.cache_beginSend chatId content messageId
  | completeSend => rfl
  | elsewhere => rfl

end Store

/-! ## The rows that a write puts -/

namespace CacheWrite

/-- The messages that a write puts. -/
def messagesPut : CacheWrite → List MessageRow
  | .applySnapshot chat thread => thread.map (Cache.serverRow chat.id)
  | .upsertMessage m => [.ofMessage m]
  | _ => []

/-- The attachments that a write puts. -/
def attachmentsPut : CacheWrite → List AttachmentRow
  | .applySnapshot chat thread => thread.flatMap (Cache.attachmentsFor chat.id)
  | _ => []

theorem localPath_of_mem {w : CacheWrite} {a : AttachmentRow} (h : a ∈ w.attachmentsPut) :
    a.localPath = none := by
  cases w with
  | applySnapshot chat thread =>
    obtain ⟨m, -, ha⟩ := List.mem_flatMap.mp h
    exact CachedAttachment.localPath_of_mem ha
  | _ => exact (List.not_mem_nil h).elim

end CacheWrite

/-- A message row is another one, with any status. -/
def MessageRow.IsMarked (r row : MessageRow) : Prop := ∃ status, r = { row with status := status }

theorem MessageRow.isMarked_self (r : MessageRow) : r.IsMarked r := ⟨r.status, rfl⟩

theorem MessageRow.IsMarked.trans {r row row' : MessageRow} (h : r.IsMarked row)
    (h' : row.IsMarked row') : r.IsMarked row' := by
  obtain ⟨status, rfl⟩ := h
  obtain ⟨status', rfl⟩ := h'
  exact ⟨status, rfl⟩

namespace Cache

variable {c : Cache} {chatId : String}

/-- **What every message has that was there or is put, every message has after a write**, if it is
not lost when the status is changed. -/
theorem forall_messages_write {P : MessageRow → Prop} {w : CacheWrite} (hc : ∀ m ∈ c.messages, P m)
    (hput : ∀ m ∈ w.messagesPut, P m)
    (hmark : ∀ r (status : MessageStatus), P r → P { r with status := status.name }) :
    ∀ m ∈ (c.write w).messages, P m := by
  cases w with
  | upsertSummaries ss =>
    show ∀ m ∈ (ss.foldl putSummary c).messages, _
    rwa [foldl_putSummary_messages]
  | upsertChat chat => exact hc
  | applySnapshot chat thread =>
    show ∀ m ∈ (c.applySnapshot chat thread).cache.messages, _
    rw [applySnapshot_messages]
    exact forall_mem_upsertAll hc hput fun new hnew _ _ _ => hput new hnew
  | upsertMessage m =>
    rw [write_upsertMessage]
    split
    · have hnew := hput (.ofMessage m) (List.mem_singleton_self _)
      exact forall_mem_upsert_of_merge hc hnew fun _ _ _ => hnew
    · exact hc
  | setMessageStatus chatId messageId status =>
    show ∀ m ∈ (c.setMessageStatus chatId messageId status).cache.messages, _
    rw [setMessageStatus_cache]
    intro m hm
    obtain ⟨old, hold, rfl⟩ := List.mem_map.mp hm
    split
    · exact hmark old status (hc old hold)
    · exact hc old hold
  | deleteChat chatId => exact fun m hm => hc m (List.mem_filter.mp hm).1
  | toggle f chatId =>
    show ∀ m ∈ (c.toggle f chatId).cache.messages, _
    rwa [toggle_cache]
  | clearAll => exact fun m hm => (List.not_mem_nil hm).elim

/-- **A message was there before a write, or the write puts it**, whatever its status is now. -/
theorem mem_messages_write (c : Cache) (w : CacheWrite) : ∀ m ∈ (c.write w).messages,
    ∃ row, m.IsMarked row ∧ (row ∈ c.messages ∨ row ∈ w.messagesPut) := by
  refine forall_messages_write (fun m hm => ⟨m, m.isMarked_self, .inl hm⟩)
    (fun m hm => ⟨m, m.isMarked_self, .inr hm⟩) fun r status hr => ?_
  obtain ⟨row, hmark, hrow⟩ := hr
  exact ⟨row, .trans ⟨status.name, rfl⟩ hmark, hrow⟩

/-- No attachment of a chat is known to be on this device. -/
def Pathless (c : Cache) (chatId : String) : Prop :=
  ∀ a ∈ c.attachments, a.chatId = chatId → a.localPath = none

/-- **An attachment was there before a write, or the write puts it**, if there is no path to be kept
for it. -/
theorem mem_attachments_write (hc : c.Pathless chatId) (w : CacheWrite) :
    ∀ a ∈ (c.write w).attachments, a.chatId = chatId →
      a.localPath = none ∧ (a ∈ c.attachments ∨ a ∈ w.attachmentsPut) := by
  have hkept : ∀ a ∈ c.attachments, a.chatId = chatId →
      a.localPath = none ∧ (a ∈ c.attachments ∨ a ∈ w.attachmentsPut) :=
    fun a ha hchat => ⟨hc a ha hchat, .inl ha⟩
  have hput : ∀ a ∈ w.attachmentsPut, a.chatId = chatId →
      a.localPath = none ∧ (a ∈ c.attachments ∨ a ∈ w.attachmentsPut) :=
    fun a ha _ => ⟨CacheWrite.localPath_of_mem ha, .inr ha⟩
  cases w with
  | upsertSummaries ss =>
    show ∀ a ∈ (ss.foldl putSummary c).attachments, _
    rwa [foldl_keeps (f := putSummary) (g := Cache.attachments) (fun _ _ => rfl)]
  | upsertChat chat => exact hkept
  | applySnapshot chat thread =>
    show ∀ a ∈ (c.applySnapshot chat thread).cache.attachments, _
    rw [applySnapshot_attachments]
    refine forall_mem_upsertAll hkept hput fun new hnew old hkey hold hchat => ?_
    -- there is no path to be kept, so the new row is stored as it is
    have holdChat : old.chatId = chatId := (congrArg Prod.fst hkey).trans hchat
    have hsame : old.keepingPath new = new := by
      rw [CachedAttachment.keepingPath, (hold holdChat).1, Option.or_none]
    rw [hsame] at hchat ⊢
    exact hput new hnew hchat
  | upsertMessage m =>
    rw [write_upsertMessage]
    split <;> exact hkept
  | setMessageStatus chatId messageId status =>
    show ∀ a ∈ (c.setMessageStatus chatId messageId status).cache.attachments, _
    rwa [setMessageStatus_cache]
  | deleteChat id => exact fun a ha => hkept a (List.mem_filter.mp ha).1
  | toggle f id =>
    show ∀ a ∈ (c.toggle f id).cache.attachments, _
    rwa [toggle_cache]
  | clearAll => exact fun a ha => (List.not_mem_nil ha).elim

/-- After several writes, a message was there before or one of them has put it. -/
theorem mem_messages_foldl_write (ws : List CacheWrite) (c : Cache) :
    ∀ m ∈ (ws.foldl write c).messages,
      ∃ row, m.IsMarked row ∧ (row ∈ c.messages ∨ ∃ w ∈ ws, row ∈ w.messagesPut) := by
  induction ws generalizing c with
  | nil => exact fun m hm => ⟨m, m.isMarked_self, .inl hm⟩
  | cons w rest ih =>
    intro m hm
    obtain ⟨row, hmark, hrow | ⟨v, hv, hrow⟩⟩ := ih (c.write w) m hm
    · obtain ⟨old, hold, hrow⟩ := c.mem_messages_write w row hrow
      refine ⟨old, hmark.trans hold, hrow.imp_right fun hput => ?_⟩
      exact ⟨w, List.mem_cons_self .., hput⟩
    · exact ⟨row, hmark, .inr ⟨v, List.mem_cons_of_mem _ hv, hrow⟩⟩

/-- After several writes, an attachment was there before or one of them has put it, if there is no
path to be kept for it. -/
theorem mem_attachments_foldl_write (hc : c.Pathless chatId) (ws : List CacheWrite) :
    ∀ a ∈ (ws.foldl write c).attachments, a.chatId = chatId →
      a.localPath = none ∧ (a ∈ c.attachments ∨ ∃ w ∈ ws, a ∈ w.attachmentsPut) := by
  induction ws generalizing c with
  | nil => exact fun a ha hchat => ⟨hc a ha hchat, .inl ha⟩
  | cons w rest ih =>
    have hone := mem_attachments_write hc w
    intro a ha hchat
    obtain ⟨hpath, ha | ⟨v, hv, ha⟩⟩ := ih (fun b hb hb' => (hone b hb hb').1) a ha hchat
    · refine ⟨hpath, (hone a ha hchat).2.imp_right fun hput => ?_⟩
      exact ⟨w, List.mem_cons_self .., hput⟩
    · exact ⟨hpath, .inr ⟨v, List.mem_cons_of_mem _ hv, ha⟩⟩

/-- Opening a cache brings no message. -/
theorem messages_opened_subset (c : Cache) (layout : Int) :
    (c.editLayout layout).opened.messages ⊆ c.messages := by
  unfold opened
  split
  · exact List.nil_subset _
  · exact List.Subset.refl _

/-- Opening a cache brings no attachment. -/
theorem attachments_opened_subset (c : Cache) (layout : Int) :
    (c.editLayout layout).opened.attachments ⊆ c.attachments := by
  unfold opened
  split
  · exact List.nil_subset _
  · exact List.Subset.refl _

end Cache

/-! ## Where the rows of a session come from -/

namespace Store

variable {σ : Type} (api : ServerApi σ)

/-- Some step of a session makes a write of the given kind. -/
def Writes (s : Store σ) (steps : List (SessionStep σ)) (P : CacheWrite → Prop) : Prop :=
  ∃ before x after, steps = before ++ x :: after ∧ ∃ w ∈ x.writes api (s.session api before), P w

variable {api} {s : Store σ} {steps : List (SessionStep σ)} {x : SessionStep σ} {chatId : String}
  {P : CacheWrite → Prop}

theorem Writes.concat (h : s.Writes api steps P) (x : SessionStep σ) :
    s.Writes api (steps ++ [x]) P := by
  obtain ⟨before, y, after, rfl, hy⟩ := h
  exact ⟨before, y, after ++ [x], by simp, hy⟩

theorem writes_concat (h : ∃ w ∈ x.writes api (s.session api steps), P w) :
    s.Writes api (steps ++ [x]) P :=
  ⟨steps, x, [], rfl, h⟩

theorem session_concat (s : Store σ) (steps : List (SessionStep σ)) (x : SessionStep σ) :
    s.session api (steps ++ [x]) = (s.session api steps).sessionStep api x := by
  rw [session, List.foldl_append]
  rfl

/-- After a step of a session, a message was there before or a write of the step has put it. -/
theorem mem_messages_sessionStep (s : Store σ) (x : SessionStep σ) :
    ∀ m ∈ (s.sessionStep api x).cache.messages, ∃ row, m.IsMarked row ∧
      (row ∈ s.cache.messages ∨ ∃ w ∈ x.writes api s, row ∈ w.messagesPut) := by
  cases x with
  | step x =>
    show ∀ m ∈ (s.step api x).cache.messages, _
    rw [cache_step]
    exact Cache.mem_messages_foldl_write _ _
  | reopen layout =>
    exact fun m hm => ⟨m, m.isMarked_self, .inl (s.cache.messages_opened_subset layout hm)⟩

/-- After a step of a session, an attachment was there before or a write of the step has put it, if
there is no path to be kept for it. -/
theorem mem_attachments_sessionStep (hs : s.cache.Pathless chatId) (x : SessionStep σ) :
    ∀ a ∈ (s.sessionStep api x).cache.attachments, a.chatId = chatId → a.localPath = none ∧
      (a ∈ s.cache.attachments ∨ ∃ w ∈ x.writes api s, a ∈ w.attachmentsPut) := by
  cases x with
  | step x =>
    show ∀ a ∈ (s.step api x).cache.attachments, _
    rw [cache_step]
    exact Cache.mem_attachments_foldl_write hs _
  | reopen layout =>
    intro a ha hchat
    have hold := s.cache.attachments_opened_subset layout ha
    exact ⟨hs a hold hchat, .inl hold⟩

/-- **A message was there before a session, or a step of the session has put it**, whatever its
status is now. -/
theorem mem_messages_session (s : Store σ) (steps : List (SessionStep σ)) :
    ∀ m ∈ (s.session api steps).cache.messages, ∃ row, m.IsMarked row ∧
      (row ∈ s.cache.messages ∨ s.Writes api steps (row ∈ ·.messagesPut)) := by
  induction steps using List.reverseRecOn with
  | nil => exact fun m hm => ⟨m, m.isMarked_self, .inl hm⟩
  | append_singleton steps x ih =>
    rw [session_concat]
    intro m hm
    obtain ⟨row, hmark, hrow | hput⟩ := mem_messages_sessionStep _ x m hm
    · obtain ⟨old, hold, hrow⟩ := ih row hrow
      exact ⟨old, hmark.trans hold, hrow.imp_right fun hput => hput.concat x⟩
    · exact ⟨row, hmark, .inr (writes_concat hput)⟩

/-- **An attachment was there before a session, or a step of the session has put it**, if there is
no path to be kept for it. -/
theorem mem_attachments_session (hs : s.cache.Pathless chatId) (steps : List (SessionStep σ)) :
    ∀ a ∈ (s.session api steps).cache.attachments, a.chatId = chatId → a.localPath = none ∧
      (a ∈ s.cache.attachments ∨ s.Writes api steps (a ∈ ·.attachmentsPut)) := by
  induction steps using List.reverseRecOn with
  | nil => exact fun a ha hchat => ⟨hs a ha hchat, .inl ha⟩
  | append_singleton steps x ih =>
    rw [session_concat]
    intro a ha hchat
    obtain ⟨hpath, ha | hput⟩ :=
      mem_attachments_sessionStep (fun b hb hb' => (ih b hb hb').1) x a ha hchat
    · exact ⟨hpath, (ih a ha hchat).2.imp_right fun hput => hput.concat x⟩
    · exact ⟨hpath, .inr (writes_concat hput)⟩

end Store
end OfflineChat
