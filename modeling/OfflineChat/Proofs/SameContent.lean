import OfflineChat.Proofs.RefreshOrder

/-! # Caches with the same content

The tables of a cache say more than any query tells: rows of different chats stand in
one order or another.  Two caches have the same content if their chats are the same,
in the same order, and each chat has the same messages and attachments, in the same
order (`Cache.SameContent`).  Then every query has the same answer, and every write
does the same to both.

So nobody can tell them apart.  Two stores that are alike but for such a difference
answer every operation alike, announce the same, ask the server the same, and stay
alike (`Store.Alike.call`, `Store.Alike.session`).
-/
namespace OfflineChat

namespace Cache

/-- Two caches have the same chats, in the same order, and of each chat the same messages and
attachments, in the same order. -/
structure SameContent (c d : Cache) : Prop where
  chats : c.chats = d.chats
  parts : ∀ chatId, c.part chatId = d.part chatId

end Cache

/-- Two writes answer and announce the same, and leave the same content. -/
structure Written.Alike {α : Type} (W V : Written α) : Prop where
  value : W.value = V.value
  cache : W.cache.SameContent V.cache
  events : W.events = V.events

namespace Cache
namespace SameContent

variable {c d : Cache}

theorem refl (c : Cache) : c.SameContent c := ⟨rfl, fun _ => rfl⟩

theorem layout (h : c.SameContent d) : c.layout = d.layout :=
  have hpart : (c.part "").layout = (d.part "").layout := congrArg Cache.layout (h.parts "")
  hpart

/-! ## Queries -/

theorem agreeOn (h : c.SameContent d) (chatId : String) : AgreeOn chatId c d :=
  agreeOn_of_part (h.parts chatId)

/-- The rows are the same but for their order. -/
theorem perm (h : c.SameContent d) :
    c.messages.Perm d.messages ∧ c.attachments.Perm d.attachments :=
  have hperm := perm_of_agreeOn h.agreeOn
  ⟨hperm.2.1, hperm.2.2.1⟩

theorem hasChat (h : c.SameContent d) (chatId : String) : c.hasChat chatId = d.hasChat chatId :=
  congrArg (fun rows : List ChatRow => rows.any (·.id == chatId)) h.chats

theorem activeChats (h : c.SameContent d) : c.activeChats = d.activeChats := by
  have hentry : c.entryOf = d.entryOf := by
    funext r
    have hmessages : c.messages.filter (·.chatId == r.id) = d.messages.filter (·.chatId == r.id) :=
      congrArg Cache.messages (h.parts r.id)
    rw [entryOf, hmessages]
    rfl
  rw [Cache.activeChats, h.chats, hentry]
  rfl

theorem searchChats (h : c.SameContent d) (query : String) :
    c.searchChats query = d.searchChats query := by
  rw [Cache.searchChats, h.chats]
  rfl

theorem stats (h : c.SameContent d) : c.stats = d.stats := by
  obtain ⟨hmessages, hattachments⟩ := h.perm
  rw [Cache.stats, h.chats, hmessages.length_eq, hattachments.length_eq,
    (hmessages.filter _).length_eq]
  rfl

/-! ## Writes -/

/-- A change about one chat does the same to both, if it does to the chats. -/
theorem of_local {chatId : String} {f : Cache → Cache} (h : c.SameContent d) (hf : Local chatId f)
    (hchats : (f c).chats = (f d).chats) : (f c).SameContent (f d) where
  chats := hchats
  parts id := by
    by_cases hid : chatId = id
    · subst hid
      rw [hf.part_self, hf.part_self, h.parts]
    · rw [hf.part_of_ne hid, hf.part_of_ne hid, h.parts]

theorem upsertSummaries (h : c.SameContent d) (ss : List ChatSummary) :
    (c.upsertSummaries ss).Alike (d.upsertSummaries ss) where
  value := rfl
  cache := by
    refine ⟨?_, fun chatId => ?_⟩
    · rw [upsertSummaries_cache, upsertSummaries_cache, h.chats]
    · rw [part_upsertSummaries, part_upsertSummaries, h.parts]
  events := rfl

theorem upsertChat (h : c.SameContent d) (chat : CachedChat) :
    (c.upsertChat chat).Alike (d.upsertChat chat) where
  value := rfl
  cache := h.of_local (local_putChat (.ofChat chat)) (congrArg (upsert _ _ _) h.chats)
  events := rfl

theorem applySnapshot (h : c.SameContent d) (chat : Chat) (thread : List Message) :
    (c.applySnapshot chat thread).Alike (d.applySnapshot chat thread) where
  value := rfl
  cache := by
    refine h.of_local (local_applySnapshot chat thread) ?_
    rw [applySnapshot_chats, applySnapshot_chats, h.chats]
  events := rfl

/-- A message is taken by both, or refused by both. -/
theorem upsertMessage (h : c.SameContent d) (m : CachedMessage) :
    (∃ W V, c.upsertMessage m = .ok W ∧ d.upsertMessage m = .ok V ∧ W.Alike V) ∨
      ∃ e, c.upsertMessage m = .error e ∧ d.upsertMessage m = .error e := by
  unfold Cache.upsertMessage
  rw [h.hasChat]
  split
  · exact .inl ⟨_, _, rfl, rfl, rfl,
      h.of_local (local_putMessage (.ofMessage m)) h.chats, rfl⟩
  · exact .inr ⟨_, rfl, rfl⟩

theorem setMessageStatus (h : c.SameContent d) (chatId messageId : String)
    (status : MessageStatus) :
    (c.setMessageStatus chatId messageId status).Alike
      (d.setMessageStatus chatId messageId status) := by
  have hany : c.messages.any (·.key == (chatId, messageId)) =
      d.messages.any (·.key == (chatId, messageId)) := h.perm.1.any_eq
  have hcache := h.of_local (local_setMessageStatus chatId messageId status)
    (by rw [setMessageStatus_cache, setMessageStatus_cache, h.chats])
  refine ⟨?_, hcache, ?_⟩
  · unfold Cache.setMessageStatus
    rw [hany]
    split <;> rfl
  · unfold Cache.setMessageStatus
    rw [hany]
    split <;> rfl

theorem deleteChat (h : c.SameContent d) (chatId : String) :
    (c.deleteChat chatId).Alike (d.deleteChat chatId) where
  value := h.hasChat chatId
  cache := h.of_local (local_dropChat chatId) (congrArg (List.filter _) h.chats)
  events := rfl

theorem toggle (h : c.SameContent d) (f : ChatFlag) (chatId : String) :
    (c.toggle f chatId).Alike (d.toggle f chatId) := by
  have hcache := h.of_local (local_toggle f chatId) (by rw [toggle_cache, toggle_cache, h.chats])
  refine ⟨?_, hcache, ?_⟩
  · unfold Cache.toggle
    rw [h.chats]
    split <;> rfl
  · unfold Cache.toggle
    rw [h.chats]
    split <;> rfl

theorem clearAll (h : c.SameContent d) : c.clearAll.Alike d.clearAll where
  value := rfl
  cache := by
    rw [Cache.clearAll, h.layout]
    exact refl _
  events := rfl

/-- Opening the caches again, with one layout number in both, leaves the same content. -/
theorem opened (h : c.SameContent d) (layout : Int) :
    (c.editLayout layout).opened.SameContent (d.editLayout layout).opened := by
  unfold Cache.opened
  split
  · rw [show (c.editLayout layout).chats = d.chats from h.chats, if_pos ‹_›]
    exact refl _
  · rw [if_neg ‹_›]
    refine ⟨h.chats, fun chatId => ?_⟩
    exact congrArg (fun p : Cache => { p with layout := currentLayout }) (h.parts chatId)

end SameContent
end Cache

/-! ## Stores that nobody can tell apart -/

/-- Two occurrences are the same but for how the cache was stored at the time. -/
inductive Occurrence.Alike : Occurrence → Occurrence → Prop
  | announced (e : CacheEvent) : Alike (.announced e) (.announced e)
  | asked (r : ChatRequest) {c d : Cache} (h : c.SameContent d) : Alike (.asked r c) (.asked r d)

namespace Store

variable {σ α : Type}

/-- Two stores are the same but for how their caches are stored, now and in the past. -/
structure Alike (s t : Store σ) : Prop where
  cache : s.cache.SameContent t.cache
  server : s.server = t.server
  surroundings : s.surroundings = t.surroundings
  defaultTitle : s.defaultTitle = t.defaultTitle
  trace : List.Forall₂ Occurrence.Alike s.trace t.trace

/-- Two operations answer the same, and leave stores that are alike. -/
structure AnswerAlike (x y : Except Failure α × Store σ) : Prop where
  answer : x.1 = y.1
  store : x.2.Alike y.2

/-- Two operations that answer the same both fail, or both succeed. -/
theorem AnswerAlike.cases {x y : Except Failure α × Store σ} (h : AnswerAlike x y) :
    (∃ e s t, x = (.error e, s) ∧ y = (.error e, t) ∧ s.Alike t) ∨
      ∃ a s t, x = (.ok a, s) ∧ y = (.ok a, t) ∧ s.Alike t := by
  obtain ⟨r, s⟩ := x
  obtain ⟨r', t⟩ := y
  obtain ⟨hr, hstore⟩ := h
  obtain rfl : r = r' := hr
  cases r with
  | error e => exact .inl ⟨e, s, t, rfl, rfl, hstore⟩
  | ok a => exact .inr ⟨a, s, t, rfl, rfl, hstore⟩

namespace Alike

variable {s t : Store σ}

theorem commit {W V : Written α} (h : s.Alike t) (hw : W.Alike V) :
    (s.commit W).Alike (t.commit V) where
  cache := hw.cache
  server := h.server
  surroundings := h.surroundings
  defaultTitle := h.defaultTitle
  trace := by
    refine List.rel_append h.trace ?_
    rw [hw.events, List.forall₂_map_left_iff, List.forall₂_map_right_iff]
    exact List.forall₂_same.mpr fun e _ => .announced e

theorem ask (h : s.Alike t) (api : ServerApi σ) (r : ChatRequest) :
    AnswerAlike (s.ask api r) (t.ask api r) := by
  have hanswer : api.answer r s.server s.surroundings = api.answer r t.server t.surroundings := by
    rw [h.server, h.surroundings]
  exact {
    answer := congrArg (·.1) hanswer
    store := {
      cache := h.cache
      server := congrArg (·.2.1) hanswer
      surroundings := congrArg (·.2.2) hanswer
      defaultTitle := h.defaultTitle
      trace := List.rel_append h.trace (.cons (.asked r h.cache) .nil) } }

theorem draw (h : s.Alike t) : s.draw.1 = t.draw.1 ∧ s.draw.2.Alike t.draw.2 := by
  have hdraw := congrArg Surroundings.draw h.surroundings
  exact ⟨congrArg (·.1) hdraw,
    h.cache, h.server, congrArg (·.2) hdraw, h.defaultTitle, h.trace⟩

/-! ## Operations -/

theorem ensureChat (h : s.Alike t) (chatId : String) :
    (s.ensureChat chatId).Alike (t.ensureChat chatId) := by
  unfold Store.ensureChat
  rw [h.cache.hasChat, h.defaultTitle, h.surroundings]
  split
  · exact h
  · exact h.commit (h.cache.upsertChat _)

theorem beginSend (h : s.Alike t) (chatId content messageId : String) :
    AnswerAlike (s.beginSend chatId content messageId) (t.beginSend chatId content messageId) := by
  have hensure := h.ensureChat chatId
  unfold Store.beginSend
  generalize s.ensureChat chatId = s' at hensure
  generalize t.ensureChat chatId = t' at hensure
  have hpending : pendingMessage s'.cache chatId content messageId s'.surroundings.now =
      pendingMessage t'.cache chatId content messageId t'.surroundings.now := by
    rw [pendingMessage, (hensure.cache.agreeOn chatId).latest, hensure.surroundings]
    rfl
  dsimp only
  rw [hpending]
  generalize pendingMessage t'.cache chatId content messageId t'.surroundings.now = m
  rcases hensure.cache.upsertMessage m with ⟨W, V, hW, hV, hwritten⟩ | ⟨e, hs, ht⟩
  · rw [hW, hV]
    exact ⟨rfl, hensure.commit hwritten⟩
  · rw [hs, ht]
    exact ⟨rfl, hensure⟩

theorem completeSend (h : s.Alike t) (chatId messageId : String) (status : MessageStatus) :
    (s.completeSend chatId messageId status).Alike (t.completeSend chatId messageId status) :=
  h.commit (h.cache.setMessageStatus chatId messageId status)

variable (api : ServerApi σ)

theorem sendMessage (h : s.Alike t) (chatId content : String) :
    AnswerAlike (s.sendMessage api chatId content) (t.sendMessage api chatId content) := by
  obtain ⟨hid, hdrawn⟩ := h.draw
  have hbegin := hdrawn.beginSend chatId content t.draw.1
  unfold Store.sendMessage
  dsimp only
  rw [hid]
  rcases hbegin.cases with ⟨e, s', t', hs, ht, hstore⟩ | ⟨m, s', t', hs, ht, hstore⟩
  · rw [hs, ht]
    exact ⟨rfl, hstore⟩
  · have hask := hstore.ask api (.sendMessage chatId content)
    rw [hs, ht]
    dsimp only
    rw [hask.answer]
    exact ⟨rfl, hask.store.completeSend chatId t.draw.1 _⟩

theorem refreshChats (h : s.Alike t) : AnswerAlike (s.refreshChats api) (t.refreshChats api) := by
  unfold Store.refreshChats
  rcases (h.ask api .fetchChats).cases with
    ⟨e, s', t', hs, ht, hstore⟩ | ⟨ss, s', t', hs, ht, hstore⟩
  · rw [hs, ht]
    exact ⟨rfl, hstore⟩
  · rw [hs, ht]
    exact ⟨rfl, hstore.commit (hstore.cache.upsertSummaries ss)⟩

theorem refreshMessages (h : s.Alike t) (chatId : String) :
    AnswerAlike (s.refreshMessages api chatId) (t.refreshMessages api chatId) := by
  unfold Store.refreshMessages
  rcases (h.ask api (.getChat chatId)).cases with
    ⟨e, s', t', hs, ht, hstore⟩ | ⟨chat, s', t', hs, ht, hstore⟩
  · rw [hs, ht]
    exact ⟨rfl, hstore⟩
  · rw [hs, ht]
    exact ⟨rfl, hstore.commit (hstore.cache.applySnapshot chat (Chat.thread chat))⟩

theorem createChat (h : s.Alike t) (title : Option String) :
    AnswerAlike (s.createChat api title) (t.createChat api title) := by
  have htitle : s.chosenTitle title = t.chosenTitle title := by
    unfold chosenTitle
    rw [h.defaultTitle]
  unfold Store.createChat
  dsimp only
  rw [htitle]
  rcases (h.ask api (.createChat (t.chosenTitle title))).cases with
    ⟨e, s', t', hs, ht, hstore⟩ | ⟨chat, s', t', hs, ht, hstore⟩
  · obtain ⟨hid, hdrawn⟩ := hstore.draw
    rw [hs, ht]
    dsimp only
    rw [hid, hdrawn.surroundings]
    split
    · exact ⟨rfl, hdrawn.commit (hdrawn.cache.upsertChat _)⟩
    · exact ⟨rfl, hstore⟩
  · rw [hs, ht]
    exact ⟨rfl, hstore.commit (hstore.cache.upsertChat (.ofChat chat))⟩

theorem toggle (h : s.Alike t) (f : ChatFlag) (chatId : String) :
    AnswerAlike (s.toggle api f chatId) (t.toggle api f chatId) := by
  have hwritten := h.cache.toggle f chatId
  have hflip := h.commit hwritten
  unfold Store.toggle
  dsimp only
  rw [hwritten.value]
  cases (t.cache.toggle f chatId).value with
  | none => exact ⟨rfl, hflip⟩
  | some flipped =>
    dsimp only
    rcases (hflip.ask api (.toggle f chatId)).cases with
      ⟨e, s', t', hs, ht, hstore⟩ | ⟨chat, s', t', hs, ht, hstore⟩
    · rw [hs, ht]
      exact ⟨rfl, hstore⟩
    · rw [hs, ht]
      exact ⟨rfl, hstore.commit (hstore.cache.upsertChat (.ofChat chat))⟩

/-- **Stores that are alike answer every operation alike**, and stay alike. -/
theorem call (h : s.Alike t) (c : StoreCall) : AnswerAlike (c.run api s) (c.run api t) := by
  cases c with
  | refreshChats => exact h.refreshChats api
  | refreshMessages chatId => exact h.refreshMessages api chatId
  | sendMessage chatId content => exact h.sendMessage api chatId content
  | createChat title => exact h.createChat api title
  | deleteChat chatId =>
    exact ⟨rfl, ((h.commit (h.cache.deleteChat chatId)).ask api (.deleteChat chatId)).store⟩
  | toggle f chatId => exact h.toggle api f chatId
  | clearAll => exact ⟨rfl, h.commit h.cache.clearAll⟩
  | cachedChats => exact ⟨congrArg Except.ok h.cache.activeChats, h⟩
  | cachedMessages chatId => exact ⟨congrArg Except.ok (h.cache.agreeOn chatId).messages, h⟩
  | cachedChat chatId => exact ⟨congrArg Except.ok (h.cache.agreeOn chatId).chat, h⟩
  | attachments chatId messageId =>
    exact ⟨congrArg Except.ok ((h.cache.agreeOn chatId).attachments messageId), h⟩
  | searchChats query => exact ⟨congrArg Except.ok (h.cache.searchChats query), h⟩
  | failedMessages chatId => exact ⟨congrArg Except.ok (h.cache.agreeOn chatId).failed, h⟩
  | offlineChatCount =>
    exact ⟨congrArg (fun rows : List ChatRow => Except.ok rows.length) h.cache.chats, h⟩
  | stats => exact ⟨congrArg Except.ok h.cache.stats, h⟩

/-- A write is taken by both stores, or refused by both, and they stay alike. -/
theorem write (h : s.Alike t) (w : CacheWrite) : AnswerAlike (s.write w) (t.write w) := by
  cases w with
  | upsertMessage m =>
    unfold Store.write
    rw [CacheWrite.run, CacheWrite.run]
    rcases h.cache.upsertMessage m with ⟨W, V, hW, hV, hwritten⟩ | ⟨e, hs, ht⟩
    · rw [hW, hV]
      exact ⟨rfl, h.commit ⟨rfl, hwritten.cache, hwritten.events⟩⟩
    · rw [hs, ht]
      exact ⟨rfl, h⟩
  | upsertSummaries ss => exact ⟨rfl, h.commit (h.cache.upsertSummaries ss)⟩
  | upsertChat chat => exact ⟨rfl, h.commit (h.cache.upsertChat chat)⟩
  | applySnapshot chat thread => exact ⟨rfl, h.commit (h.cache.applySnapshot chat thread)⟩
  | setMessageStatus chatId messageId status =>
    have hwritten := h.cache.setMessageStatus chatId messageId status
    exact ⟨rfl, h.commit ⟨rfl, hwritten.cache, hwritten.events⟩⟩
  | deleteChat chatId =>
    have hwritten := h.cache.deleteChat chatId
    exact ⟨rfl, h.commit ⟨rfl, hwritten.cache, hwritten.events⟩⟩
  | toggle f chatId =>
    have hwritten := h.cache.toggle f chatId
    exact ⟨rfl, h.commit ⟨rfl, hwritten.cache, hwritten.events⟩⟩
  | clearAll => exact ⟨rfl, h.commit h.cache.clearAll⟩

/-- One step of a session keeps stores alike. -/
theorem sessionStep (h : s.Alike t) (x : SessionStep σ) :
    (s.sessionStep api x).Alike (t.sessionStep api x) := by
  cases x with
  | reopen layout => exact { h with cache := h.cache.opened layout }
  | step x =>
    cases x with
    | write w => exact (h.write w).store
    | call c => exact (h.call api c).store
    | beginSend chatId content messageId => exact (h.beginSend chatId content messageId).store
    | completeSend chatId messageId status => exact h.completeSend chatId messageId status
    | elsewhere server surroundings defaultTitle => exact ⟨h.cache, rfl, rfl, rfl, h.trace⟩

/-- **Stores that are alike stay alike in every session.** -/
theorem session (h : s.Alike t) (steps : List (SessionStep σ)) :
    (s.session api steps).Alike (t.session api steps) := by
  induction steps generalizing s t with
  | nil => exact h
  | cons x rest ih => exact ih (h.sessionStep api x)

end Alike
end Store
end OfflineChat
