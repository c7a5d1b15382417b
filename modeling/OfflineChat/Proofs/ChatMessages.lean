import Mathlib.Data.List.Basic
import OfflineChat.Proofs.SendEffect

/-! # The messages of one chat while the store goes on

What the steps of a store do to the messages of one chat.  A step that names
another chat, or reads, or is about chat rows only, leaves them alone
(`Store.chatRows_step_of_spares`).  The first half of a send to the chat adds a
row at the end, its second half changes the status of that row
(`Store.chatRows_beginSend`, `Store.chatRows_completeSend`), and so a whole send
adds one row that is marked with the outcome (`Store.chatRows_sendMessage`).
-/
namespace OfflineChat

/-- A list with one more entry, cut at one of its entries: this is the new one, or it was there. -/
theorem eq_or_of_snoc_eq {α : Type} {l before after : List α} {last a : α}
    (h : l ++ [last] = before ++ a :: after) :
    (before = l ∧ a = last ∧ after = []) ∨
      ∃ rest, after = rest ++ [last] ∧ l = before ++ a :: rest := by
  rcases after.eq_nil_or_concat' with rfl | ⟨rest, last', rfl⟩
  · obtain ⟨rfl, hlast⟩ := List.append_inj' h rfl
    cases hlast
    exact .inl ⟨rfl, rfl, rfl⟩
  · rw [← List.cons_append, ← List.append_assoc] at h
    obtain ⟨hl, hlast⟩ := List.append_inj' h rfl
    cases hlast
    exact .inr ⟨rest, rfl, hl⟩

/-! ## Steps that spare a chat -/

/-- A write that is not about the messages of a chat. -/
def CacheWrite.Spares (chatId : String) : CacheWrite → Prop
  | .applySnapshot chat _ => chat.id ≠ chatId
  | .upsertMessage m => m.chatId ≠ chatId
  | .setMessageStatus id _ _ => id ≠ chatId
  | .deleteChat id => id ≠ chatId
  | .clearAll => False
  | .upsertSummaries _ | .upsertChat _ | .toggle .. => True

/-- An operation that is not about the messages of a chat, also if the server answers with a chat of
another id than was asked for. -/
def StoreCall.Spares {σ : Type} (api : ServerApi σ) (s : Store σ) (chatId : String) :
    StoreCall → Prop
  | .refreshMessages id => ∀ chat, (s.ask api (.getChat id)).1 = .ok chat → chat.id ≠ chatId
  | .sendMessage id _ => id ≠ chatId
  | .deleteChat id => id ≠ chatId
  | .clearAll => False
  | _ => True

/-- A step that is not about the messages of a chat. -/
def StoreStep.Spares {σ : Type} (api : ServerApi σ) (s : Store σ) (chatId : String) :
    StoreStep σ → Prop
  | .write w => w.Spares chatId
  | .call c => c.Spares api s chatId
  | .beginSend id .. => id ≠ chatId
  | .completeSend id .. => id ≠ chatId
  | .elsewhere .. => True

theorem CacheWrite.chatRows_of_spares {c d : Cache} {es : List CacheEvent} {w : CacheWrite}
    {chatId : String} (hw : w.Spares chatId) (h : w.run c = .ok (d, es)) :
    d.chatRows chatId = c.chatRows chatId := by
  cases w with
  | upsertSummaries ss =>
    cases h
    exact congrArg (List.filter _) (Cache.foldl_putSummary_messages ss c)
  | upsertChat chat => cases h; rfl
  | applySnapshot chat thread => cases h; exact Cache.chatRows_applySnapshot_of_ne hw
  | upsertMessage m =>
    simp only [run, Cache.upsertMessage] at h
    split at h
    · cases h; exact Cache.chatRows_putMessage_of_ne hw
    · cases h
  | setMessageStatus id messageId status => cases h; exact Cache.chatRows_setMessageStatus_of_ne hw
  | deleteChat id => cases h; exact Cache.chatRows_dropChat_of_ne hw
  | toggle f id =>
    cases h
    unfold Cache.toggle
    split <;> rfl
  | clearAll => exact hw.elim

namespace Store

variable {σ : Type} (api : ServerApi σ) {s : Store σ} {chatId id content messageId : String}

theorem chatRows_write_of_spares {w : CacheWrite} (hw : w.Spares chatId) :
    (s.write w).2.cache.chatRows chatId = s.cache.chatRows chatId := by
  unfold write
  split
  · rename_i h
    exact CacheWrite.chatRows_of_spares hw h
  · rfl

@[simp] theorem chatRows_ensureChat (s : Store σ) (id chatId : String) :
    (s.ensureChat id).cache.chatRows chatId = s.cache.chatRows chatId := by
  rw [ensureChat_cache]
  rfl

theorem chatRows_beginSend_of_ne (h : id ≠ chatId) :
    (s.beginSend id content messageId).2.cache.chatRows chatId = s.cache.chatRows chatId := by
  rw [← chatRows_ensureChat s id]
  unfold beginSend
  generalize s.ensureChat id = t
  dsimp only
  have hm : (pendingMessage t.cache id content messageId t.surroundings.now).chatId ≠ chatId := h
  generalize pendingMessage t.cache id content messageId t.surroundings.now = m at hm ⊢
  split
  · rename_i w hw
    have hrun : CacheWrite.run t.cache (.upsertMessage m) = .ok (w.cache, w.events) := by
      rw [CacheWrite.run, hw]
      rfl
    exact CacheWrite.chatRows_of_spares (w := .upsertMessage m) hm hrun
  · rfl

theorem chatRows_completeSend_of_ne {status : MessageStatus} (h : id ≠ chatId) :
    (s.completeSend id messageId status).cache.chatRows chatId = s.cache.chatRows chatId :=
  Cache.chatRows_setMessageStatus_of_ne h

theorem chatRows_sendMessage_of_ne (h : id ≠ chatId) :
    (s.sendMessage api id content).2.cache.chatRows chatId = s.cache.chatRows chatId := by
  have hbegin : (s.draw.2.beginSend id content s.draw.1).2.cache.chatRows chatId =
      s.cache.chatRows chatId := chatRows_beginSend_of_ne h
  unfold sendMessage
  dsimp only
  split
  · rename_i hrun
    rwa [hrun] at hbegin
  · rename_i hrun
    rw [hrun] at hbegin
    exact (chatRows_completeSend_of_ne h).trans hbegin

theorem chatRows_refreshChats :
    (s.refreshChats api).2.cache.chatRows chatId = s.cache.chatRows chatId := by
  unfold refreshChats
  split
  · rename_i summaries t hask
    rw [← cache_of_ask hask]
    exact CacheWrite.chatRows_of_spares (w := .upsertSummaries summaries) trivial rfl
  · rename_i hask
    rw [cache_of_ask hask]

theorem chatRows_refreshMessages_of_ne
    (h : ∀ chat, (s.ask api (.getChat id)).1 = .ok chat → chat.id ≠ chatId) :
    (s.refreshMessages api id).2.cache.chatRows chatId = s.cache.chatRows chatId := by
  unfold refreshMessages
  split
  · rename_i chat t hask
    rw [← cache_of_ask hask]
    exact Cache.chatRows_applySnapshot_of_ne (h chat (congrArg Prod.fst hask))
  · rename_i hask
    rw [cache_of_ask hask]

theorem chatRows_createChat (title : Option String) :
    (s.createChat api title).2.cache.chatRows chatId = s.cache.chatRows chatId := by
  unfold createChat
  dsimp only
  split
  · rename_i hask
    rw [← cache_of_ask hask]
    rfl
  · rename_i hask
    rw [← cache_of_ask hask]
    split <;> rfl

theorem chatRows_toggle (f : ChatFlag) :
    (s.toggle api f id).2.cache.chatRows chatId = s.cache.chatRows chatId := by
  have hflip : (s.commit (s.cache.toggle f id)).cache.chatRows chatId = s.cache.chatRows chatId :=
    CacheWrite.chatRows_of_spares (w := .toggle f id) trivial rfl
  unfold toggle
  dsimp only
  split
  · exact hflip
  · split
    · rename_i hask
      rw [cache_of_ask hask, hflip]
    · rename_i hask
      rw [← cache_of_ask hask] at hflip
      exact hflip

theorem chatRows_call_of_spares {c : StoreCall} (hc : c.Spares api s chatId) :
    (c.run api s).2.cache.chatRows chatId = s.cache.chatRows chatId := by
  cases c with
  | refreshChats => exact chatRows_refreshChats api
  | refreshMessages id => exact chatRows_refreshMessages_of_ne api hc
  | sendMessage id content => exact chatRows_sendMessage_of_ne api hc
  | createChat title => exact chatRows_createChat api title
  | deleteChat id => exact Cache.chatRows_dropChat_of_ne hc
  | toggle f id => exact chatRows_toggle api f
  | clearAll => exact hc.elim
  -- the remaining operations only read
  | _ => rfl

/-- **A step that is not about the messages of a chat leaves them alone.** -/
theorem chatRows_step_of_spares {x : StoreStep σ} (hx : x.Spares api s chatId) :
    (s.step api x).cache.chatRows chatId = s.cache.chatRows chatId := by
  cases x with
  | write w => exact chatRows_write_of_spares hx
  | call c => exact chatRows_call_of_spares api hx
  | beginSend id content messageId => exact chatRows_beginSend_of_ne hx
  | completeSend id messageId status => exact chatRows_completeSend_of_ne hx
  | elsewhere => rfl

end Store

/-! ## Sends to the chat -/

namespace MessageRow

/-- The row with a new status, if it has the id. -/
def mark (messageId : String) (status : MessageStatus) (r : MessageRow) : MessageRow :=
  if r.id = messageId then { r with status := status.name } else r

variable {messageId : String} {status : MessageStatus} {r : MessageRow}

theorem mark_of_id (h : r.id = messageId) :
    r.mark messageId status = { r with status := status.name } := if_pos h

theorem mark_of_ne (h : r.id ≠ messageId) : r.mark messageId status = r := if_neg h

@[simp] theorem mark_id : (r.mark messageId status).id = r.id := by
  unfold mark
  split <;> rfl

@[simp] theorem mark_parentId : (r.mark messageId status).parentId = r.parentId := by
  unfold mark
  split <;> rfl

theorem map_mark_of_new {rows : List MessageRow} (h : ∀ r ∈ rows, r.id ≠ messageId) :
    rows.map (·.mark messageId status) = rows :=
  map_eq_self fun r hr => mark_of_ne (h r hr)

end MessageRow

namespace Store

variable {σ : Type} (api : ServerApi σ) {s : Store σ} {chatId content messageId : String}
  {status : MessageStatus}

theorem key_ne_of_chatRows {c : Cache} (h : ∀ r ∈ c.chatRows chatId, r.id ≠ messageId) :
    ∀ r ∈ c.messages, r.key ≠ (chatId, messageId) := by
  intro r hr hkey
  have hchat : r.chatId = chatId := congrArg Prod.fst hkey
  exact h r (List.mem_filter.mpr ⟨hr, by simp [hchat]⟩) (congrArg Prod.snd hkey)

/-- **The first half of a send** adds a pending row at the end, under the newest message that has
not failed. -/
theorem chatRows_beginSend (content : String)
    (hnew : ∀ r ∈ s.cache.chatRows chatId, r.id ≠ messageId) :
    (s.beginSend chatId content messageId).2.cache.chatRows chatId =
      s.cache.chatRows chatId ++
        [s.sendRow chatId content messageId ((s.cache.latestMessageOf chatId).map (·.id))
          .pending] := by
  obtain ⟨m, t, hbegin, hcache, -⟩ := @beginSend_of_new _ _ _ content _ (key_ne_of_chatRows hnew)
  rw [hbegin, Cache.chatRows, hcache, withSend, List.filter_append]
  simp [sendRow, MessageRow.ofMessage, Cache.chatRows]

/-- **The second half of a send** changes the status of the row with the id. -/
theorem chatRows_completeSend :
    (s.completeSend chatId messageId status).cache.chatRows chatId =
      (s.cache.chatRows chatId).map (·.mark messageId status) := by
  show (s.cache.setMessageStatus chatId messageId status).cache.chatRows chatId = _
  unfold Cache.setMessageStatus
  split
  · -- no row comes to another chat
    have hchats : (fun r : MessageRow => r.chatId == chatId) ∘ (fun r : MessageRow =>
        if r.key = (chatId, messageId) then { r with status := status.name } else r) =
        fun r => r.chatId == chatId := by
      funext r
      rw [Function.comp_apply]
      split <;> rfl
    rw [Cache.chatRows, List.filter_map, hchats]
    refine List.map_congr_left fun r hr => ?_
    simp [MessageRow.mark, MessageRow.key, eq_of_beq (List.mem_filter.mp hr).2]
  · -- there is no such row, so nothing is to be changed
    rename_i hno
    refine (MessageRow.map_mark_of_new fun r hr hid => ?_).symm
    obtain ⟨hr, hchat⟩ := List.mem_filter.mp hr
    refine hno (List.any_eq_true.mpr ⟨r, hr, ?_⟩)
    simp [MessageRow.key, eq_of_beq hchat, hid]

/-- **A send** adds one row at the end, under the newest message that has not failed, and marks it
with the outcome. -/
theorem chatRows_sendMessage (content : String)
    (hnew : ∀ r ∈ s.cache.chatRows chatId, r.id ≠ s.surroundings.draw.1) :
    (s.sendMessage api chatId content).2.cache.chatRows chatId =
      s.cache.chatRows chatId ++
        [s.sendRow chatId content s.surroundings.draw.1
          ((s.cache.latestMessageOf chatId).map (·.id))
          (outcome
            (api.answer (.sendMessage chatId content) s.server s.surroundings.draw.2).1)] := by
  have hdrawn : ∀ r ∈ s.draw.2.cache.chatRows chatId, r.id ≠ s.draw.1 := hnew
  obtain ⟨m, t, hrun, -, -, hserver, hsurroundings⟩ :=
    @beginSend_of_new _ _ _ content _ (key_ne_of_chatRows hdrawn)
  have hrows := chatRows_beginSend content hdrawn
  rw [hrun] at hrows
  have hreply : (t.ask api (.sendMessage chatId content)).1 =
      (api.answer (.sendMessage chatId content) s.server s.surroundings.draw.2).1 := by
    show (api.answer _ t.server t.surroundings).1 = _
    rw [hserver, hsurroundings]
    rfl
  unfold sendMessage
  dsimp only
  rw [hrun]
  dsimp only
  rw [chatRows_completeSend, ask_cache, hrows, hreply, List.map_append,
    MessageRow.map_mark_of_new hdrawn]
  exact congrArg (s.cache.chatRows chatId ++ [·]) (MessageRow.mark_of_id rfl)

end Store
end OfflineChat
