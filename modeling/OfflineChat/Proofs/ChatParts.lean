import OfflineChat.Proofs.SnapshotEffect

/-! # The parts of a cache

The rows of some chats are a cache of their own (`Cache.select`).  A write that is
about one chat is local to it: what it leaves of a part that has the chat is what
it makes of that part alone, and a part without the chat does not notice it
(`Cache.local_write`).  Message ids and file ids may be shared between chats,
because every key and every condition of a write has the id of the chat in it.

Hence chats do not interfere (`Store.chats_do_not_interfere`): what is done about
one chat, in the cache or through the store, leaves every query about another one
as it was, and writes about different chats can change places.  In a long run of
writes about one chat each, the part of a chat is made by its own writes alone
(`Cache.select_foldl_write`).
-/
namespace OfflineChat

/-- The chat a write is about, if it is about one. -/
def CacheWrite.chatId? : CacheWrite → Option String
  | .upsertChat chat => some chat.id
  | .applySnapshot chat _ => some chat.id
  | .upsertMessage m => some m.chatId
  | .setMessageStatus chatId .. => some chatId
  | .deleteChat chatId => some chatId
  | .toggle _ chatId => some chatId
  | .upsertSummaries _ | .clearAll => none

section Rows

variable {α : Type} {key : α → String} {chatId : String}

/-- Removing the rows of a chat removes them from the selections that have the chat. -/
theorem filter_ne_filter (key : α → String) (chatId : String) (p : String → Bool)
    (rows : List α) :
    (rows.filter (key · != chatId)).filter (p <| key ·) =
      if p chatId then (rows.filter (p <| key ·)).filter (key · != chatId)
      else rows.filter (p <| key ·) := by
  cases hp : p chatId with
  | true =>
    rw [if_pos rfl, List.filter_filter, List.filter_filter]
    exact List.filter_congr fun r _ => Bool.and_comm ..
  | false =>
    rw [if_neg Bool.false_ne_true, List.filter_filter]
    refine List.filter_congr fun r _ => ?_
    by_cases hr : key r = chatId
    · rw [hr, hp, Bool.false_and]
    · simp [hr]

/-- Changing the rows of a chat changes them in the selections that have the chat. -/
theorem filter_map_rows {step : α → α} (hkey : ∀ r, key (step r) = key r)
    (hstep : ∀ r, key r ≠ chatId → step r = r) (p : String → Bool) (rows : List α) :
    (rows.map step).filter (p <| key ·) =
      if p chatId then (rows.filter (p <| key ·)).map step else rows.filter (p <| key ·) := by
  have hmap : (rows.map step).filter (p <| key ·) = (rows.filter (p <| key ·)).map step := by
    rw [List.filter_map]
    refine congrArg (List.map step) (List.filter_congr fun r _ => ?_)
    rw [Function.comp_apply, hkey]
  rw [hmap]
  cases hp : p chatId with
  | true => rw [if_pos rfl]
  | false =>
    rw [if_neg Bool.false_ne_true]
    refine map_eq_self fun r hr => hstep r ?_
    rintro rfl
    exact Bool.false_ne_true (hp.symm.trans (List.mem_filter.mp hr).2)

end Rows

namespace Cache

/-- The rows of the chats whose ids satisfy `p`. -/
def select (p : String → Bool) (c : Cache) : Cache where
  chats := c.chats.filter (p ·.id)
  messages := c.messages.filter (p ·.chatId)
  attachments := c.attachments.filter (p ·.chatId)
  layout := c.layout

/-- The rows of one chat. -/
def part (c : Cache) (chatId : String) : Cache := c.select (· == chatId)

/-- The cache after a write; one that is refused changes nothing. -/
def write (c : Cache) (w : CacheWrite) : Cache :=
  match w.run c with
  | .ok (d, _) => d
  | .error _ => c

theorem write_eq {c d : Cache} {w : CacheWrite} {es : List CacheEvent}
    (h : w.run c = .ok (d, es)) : c.write w = d := by
  rw [write, h]

/-- A change of the cache that is about one chat: it goes on within the parts that have the chat,
and the others do not notice it. -/
def Local (chatId : String) (f : Cache → Cache) : Prop :=
  ∀ p c, (f c).select p = if p chatId then f (c.select p) else c.select p

namespace Local

variable {chatId : String} {f g : Cache → Cache} {p : String → Bool}

theorem select_of_not (h : Local chatId f) (hp : p chatId = false) (c : Cache) :
    (f c).select p = c.select p := by
  rw [h p c, hp]
  rfl

theorem select_of_holds (h : Local chatId f) (hp : p chatId = true) (c : Cache) :
    (f c).select p = f (c.select p) := by
  rw [h p c, hp]
  rfl

theorem part_self (h : Local chatId f) (c : Cache) : (f c).part chatId = f (c.part chatId) :=
  h.select_of_holds (p := (· == chatId)) (beq_self_eq_true chatId) c

theorem part_of_ne {other : String} (h : Local chatId f) (hne : chatId ≠ other) (c : Cache) :
    (f c).part other = c.part other :=
  h.select_of_not (p := (· == other)) (beq_eq_false_iff_ne.mpr hne) c

theorem comp (hg : Local chatId g) (hf : Local chatId f) : Local chatId fun c => g (f c) := by
  intro p c
  cases hp : p chatId with
  | true => rw [hg.select_of_holds hp, hf.select_of_holds hp, if_pos rfl]
  | false =>
    rw [hg.select_of_not hp, hf.select_of_not hp]
    rfl

theorem foldl {β : Type} {step : Cache → β → Cache} {l : List β}
    (h : ∀ b ∈ l, Local chatId (step · b)) : Local chatId (l.foldl step ·) := by
  induction l with
  | nil =>
    intro p c
    exact (ite_self _).symm
  | cons b rest ih =>
    exact (ih fun b hb => h b (List.mem_cons_of_mem _ hb)).comp (h b (List.mem_cons_self ..))

end Local

/-! ## Rows -/

theorem local_putChat (r : ChatRow) : Local r.id (·.putChat r) := by
  intro p c
  have hchats := filter_upsert (keepsKey_replace ChatRow.id) (p := (p ·.id))
    (fun a b hab => congrArg p hab) r c.chats
  refine (congrArg (fun rows => { c.select p with chats := rows }) hchats).trans ?_
  cases p r.id <;> rfl

theorem local_putMessage (r : MessageRow) : Local r.chatId (·.putMessage r) := by
  intro p c
  have hmessages := filter_upsert (keepsKey_replace MessageRow.key) (p := (p ·.chatId))
    (fun a b hab => congrArg p (congrArg Prod.fst hab)) r c.messages
  refine (congrArg (fun rows => { c.select p with messages := rows }) hmessages).trans ?_
  cases p r.chatId <;> rfl

theorem local_putAttachment (a : AttachmentRow) : Local a.chatId (·.putAttachment a) := by
  intro p c
  have hattachments := filter_upsert CachedAttachment.keepsKey_keepingPath (p := (p ·.chatId))
    (fun a b hab => congrArg p (congrArg Prod.fst hab)) a c.attachments
  refine (congrArg (fun rows => { c.select p with attachments := rows }) hattachments).trans ?_
  cases p a.chatId <;> rfl

theorem local_putServerMessage (chatId : String) (m : Message) :
    Local chatId (putServerMessage chatId · m) := by
  have hattachments : Local chatId ((attachmentsFor chatId m).foldl putAttachment ·) := by
    refine .foldl fun a ha => ?_
    obtain rfl : a.chatId = chatId := congrArg Prod.fst (Intact.owner_of_mem_attachmentsFor ha)
    exact local_putAttachment a
  exact hattachments.comp (local_putMessage (.ofMessage (.ofMessage chatId m .sent)))

/-- A part that has the chat has what there is to know about it. -/
theorem hasChat_select {p : String → Bool} {chatId : String} (hp : p chatId = true) (c : Cache) :
    (c.select p).hasChat chatId = c.hasChat chatId := by
  rw [hasChat, select, List.any_filter, hasChat]
  refine congrArg (c.chats.any ·) (funext fun r => ?_)
  by_cases hr : r.id = chatId
  · rw [hr, hp, Bool.true_and]
  · simp [hr]

/-! ## Writes -/

theorem local_applySnapshot (chat : Chat) (thread : List Message) :
    Local chat.id fun c => (c.applySnapshot chat thread).cache :=
  (Local.foldl fun m _ => local_putServerMessage chat.id m).comp
    (local_putChat (.ofChat (.ofChat chat)))

theorem local_dropChat (chatId : String) : Local chatId (·.dropChat chatId) := by
  intro p c
  have hchats := filter_ne_filter ChatRow.id chatId p c.chats
  have hmessages := filter_ne_filter MessageRow.chatId chatId p c.messages
  have hattachments := filter_ne_filter CachedAttachment.chatId chatId p c.attachments
  unfold select dropChat
  dsimp only
  rw [hchats, hmessages, hattachments]
  cases p chatId <;> rfl

/-- A flag is flipped in every row of the chat, which is none where there is no such chat. -/
theorem toggle_cache (c : Cache) (f : ChatFlag) (chatId : String) :
    (c.toggle f chatId).cache =
      { c with chats := c.chats.map fun r => if r.id = chatId then r.flip f else r } := by
  unfold toggle
  split
  · rfl
  · rename_i hnone
    have hsame : (c.chats.map fun r => if r.id = chatId then r.flip f else r) = c.chats := by
      refine map_eq_self fun r hr => if_neg fun hid => ?_
      exact List.find?_eq_none.mp hnone r hr (beq_iff_eq.mpr hid)
    rw [hsame]

theorem local_toggle (f : ChatFlag) (chatId : String) :
    Local chatId fun c => (c.toggle f chatId).cache := by
  intro p c
  have hid (r : ChatRow) : (if r.id = chatId then r.flip f else r).id = r.id := by
    cases f <;> split <;> rfl
  have hchats := filter_map_rows hid (fun r hr => if_neg hr) p c.chats
  simp only [toggle_cache]
  refine (congrArg (fun rows => { c.select p with chats := rows }) hchats).trans ?_
  cases p chatId <;> rfl

/-- A status is set in every row of the message, which is none where there is no such message. -/
theorem setMessageStatus_cache (c : Cache) (chatId messageId : String) (status : MessageStatus) :
    (c.setMessageStatus chatId messageId status).cache =
      { c with
        messages := c.messages.map fun r =>
          if r.key = (chatId, messageId) then { r with status := status.name } else r } := by
  unfold setMessageStatus
  split
  · rfl
  · rename_i hnone
    have hsame : (c.messages.map fun r =>
        if r.key = (chatId, messageId) then { r with status := status.name } else r) =
        c.messages := by
      refine map_eq_self fun r hr => if_neg fun hkey => ?_
      exact hnone (List.any_eq_true.mpr ⟨r, hr, beq_iff_eq.mpr hkey⟩)
    rw [hsame]

theorem local_setMessageStatus (chatId messageId : String) (status : MessageStatus) :
    Local chatId fun c => (c.setMessageStatus chatId messageId status).cache := by
  intro p c
  have hid (r : MessageRow) : (if r.key = (chatId, messageId) then
      { r with status := status.name } else r).chatId = r.chatId := by
    split <;> rfl
  -- a message of another chat with the same id has another key
  have hmessages := filter_map_rows hid
    (fun r hr => if_neg fun hkey => hr (congrArg Prod.fst hkey)) p c.messages
  simp only [setMessageStatus_cache]
  refine (congrArg (fun rows => { c.select p with messages := rows }) hmessages).trans ?_
  cases p chatId <;> rfl

theorem write_upsertMessage (c : Cache) (m : CachedMessage) :
    c.write (.upsertMessage m) =
      if c.hasChat m.chatId then c.putMessage (.ofMessage m) else c := by
  rw [write, CacheWrite.run, upsertMessage]
  cases c.hasChat m.chatId <;> rfl

theorem local_upsertMessage (m : CachedMessage) : Local m.chatId (·.write (.upsertMessage m)) := by
  have hput : Local m.chatId (·.putMessage (.ofMessage m)) := local_putMessage (.ofMessage m)
  intro p c
  simp only [write_upsertMessage]
  -- a part that has the chat takes or refuses the message as the whole cache does
  cases hp : p m.chatId with
  | true =>
    rw [if_pos rfl, hasChat_select hp]
    split
    · exact hput.select_of_holds hp c
    · rfl
  | false =>
    rw [if_neg Bool.false_ne_true]
    split
    · exact hput.select_of_not hp c
    · rfl

variable {chatId : String}

/-- **A write about one chat is local to it.** -/
theorem local_write {w : CacheWrite} (hw : w.chatId? = some chatId) :
    Local chatId (·.write w) := by
  cases w with
  | upsertSummaries ss => cases hw
  | clearAll => cases hw
  | upsertChat chat => cases hw; exact local_putChat (.ofChat chat)
  | applySnapshot chat thread => cases hw; exact local_applySnapshot chat thread
  | upsertMessage m => cases hw; exact local_upsertMessage m
  | setMessageStatus id messageId status =>
    cases hw
    exact local_setMessageStatus chatId messageId status
  | deleteChat id => cases hw; exact local_dropChat chatId
  | toggle f id => cases hw; exact local_toggle f chatId

/-- **After any writes about one chat each, a part is what the writes about its chats make of it.**
So what is done about the others, and when, is of no consequence to it. -/
theorem select_foldl_write (p : String → Bool) {ws : List CacheWrite}
    (hws : ∀ w ∈ ws, w.chatId?.isSome = true) (c : Cache) :
    (ws.foldl write c).select p =
      (ws.filter fun w => w.chatId?.any p).foldl write (c.select p) := by
  induction ws generalizing c with
  | nil => rfl
  | cons w rest ih =>
    obtain ⟨chatId, hw⟩ := Option.isSome_iff_exists.mp (hws w (List.mem_cons_self ..))
    have hrest := ih (fun w hw => hws w (List.mem_cons_of_mem _ hw)) (c.write w)
    rw [List.foldl_cons, hrest]
    cases hp : p chatId with
    | true =>
      rw [List.filter_cons_of_pos (by rw [hw]; exact hp), List.foldl_cons,
        (local_write hw).select_of_holds hp]
    | false =>
      rw [List.filter_cons_of_neg (by rw [hw, Option.any_some, hp]; exact Bool.false_ne_true),
        (local_write hw).select_of_not hp]

/-! ## Queries about one chat -/

/-- One chat has the same rows in two caches, and every query about it the same answer. -/
structure AgreeOn (chatId : String) (c d : Cache) : Prop where
  rows : c.part chatId = d.part chatId
  chat : c.chat? chatId = d.chat? chatId
  messages : c.messagesOf chatId = d.messagesOf chatId
  failed : c.failedMessagesOf chatId = d.failedMessagesOf chatId
  latest : c.latestMessageOf chatId = d.latestMessageOf chatId
  attachments : ∀ messageId, c.attachmentsOf chatId messageId = d.attachmentsOf chatId messageId

theorem chat?_part (c : Cache) (chatId : String) : (c.part chatId).chat? chatId = c.chat? chatId := by
  rw [chat?, ← List.head?_filter, part, select, List.filter_filter, chat?, ← List.head?_filter]
  simp only [Bool.and_self]

theorem messageRows_part (c : Cache) (chatId : String) :
    (c.part chatId).messageRows chatId = c.messageRows chatId := by
  rw [messageRows, part, select, List.filter_filter, messageRows]
  simp only [Bool.and_self]

theorem attachmentsOf_part (c : Cache) (chatId messageId : String) :
    (c.part chatId).attachmentsOf chatId messageId = c.attachmentsOf chatId messageId := by
  rw [attachmentsOf, part, select, List.filter_filter]
  refine List.filter_congr fun a _ => ?_
  by_cases ha : a.owner = (chatId, messageId)
  · have hchat : a.chatId = chatId := congrArg Prod.fst ha
    simp [ha, hchat]
  · simp [ha]

/-- Queries about a chat read its part. -/
theorem agreeOn_of_part {c d : Cache} (h : c.part chatId = d.part chatId) : AgreeOn chatId c d where
  rows := h
  chat := by rw [← chat?_part, h, chat?_part]
  messages := by rw [messagesOf, ← messageRows_part, h, messageRows_part, messagesOf]
  failed := by rw [failedMessagesOf, ← messageRows_part, h, messageRows_part, failedMessagesOf]
  latest := by rw [latestMessageOf, ← messageRows_part, h, messageRows_part, latestMessageOf]
  attachments messageId := by rw [← attachmentsOf_part, h, attachmentsOf_part]

/-- A change about one chat leaves another one as it was. -/
theorem Local.agreeOn {f : Cache → Cache} {other : String} (h : Local chatId f)
    (hne : chatId ≠ other) (c : Cache) : AgreeOn other (f c) c :=
  agreeOn_of_part (h.part_of_ne hne c)

/-- Changes about two chats can change places, for a part that has only one of them. -/
theorem Local.select_comm {f g : Cache → Cache} {other : String} {p : String → Bool}
    (hf : Local chatId f) (hg : Local other g) (hp : p other = false) (c : Cache) :
    (g (f c)).select p = (f (g c)).select p :=
  calc (g (f c)).select p
    _ = (f c).select p := hg.select_of_not hp (f c)
    _ = if p chatId then f (c.select p) else c.select p := hf p c
    _ = if p chatId then f ((g c).select p) else (g c).select p := by rw [hg.select_of_not hp]
    _ = (f (g c)).select p := (hf p (g c)).symm

end Cache

/-- An operation that concerns one chat: it is about the chat, and a chat that the server answers it
with is that one. -/
def StoreCall.Concerns {σ : Type} (api : ServerApi σ) (s : Store σ) (chatId : String) :
    StoreCall → Prop
  | .sendMessage id _ => id = chatId
  | .deleteChat id => id = chatId
  | .refreshMessages id =>
    id = chatId ∧ ∀ chat, (s.ask api (.getChat id)).1 = .ok chat → chat.id = chatId
  | .toggle f id => id = chatId ∧ ∀ chat, (s.ask api (.toggle f id)).1 = .ok chat → chat.id = chatId
  | _ => False

namespace Store

variable {σ α : Type} (api : ServerApi σ) {s t : Store σ} {chatId : String} {p : String → Bool}

theorem cache_write (s : Store σ) (w : CacheWrite) : (s.write w).2.cache = s.cache.write w := by
  unfold write Cache.write
  cases w.run s.cache <;> rfl

/-- A write about one chat leaves a part without the chat as it was. -/
theorem select_commit {W : Written α} {w : CacheWrite}
    (hrun : w.run s.cache = .ok (W.cache, W.events)) (hw : w.chatId? = some chatId)
    (hp : p chatId = false) : (s.commit W).cache.select p = s.cache.select p := by
  rw [commit_cache, ← Cache.write_eq hrun]
  exact (Cache.local_write hw).select_of_not hp s.cache

theorem select_ensureChat (hp : p chatId = false) :
    (s.ensureChat chatId).cache.select p = s.cache.select p := by
  unfold ensureChat
  split
  · rfl
  · exact select_commit (w := .upsertChat _) rfl rfl hp

theorem select_beginSend {content messageId : String} (hp : p chatId = false) :
    (s.beginSend chatId content messageId).2.cache.select p = s.cache.select p := by
  have hensure := select_ensureChat (s := s) hp
  unfold beginSend
  generalize s.ensureChat chatId = t at hensure
  dsimp only
  split
  · rename_i w hwrite
    refine (select_commit (w := .upsertMessage (pendingMessage t.cache chatId content messageId
      t.surroundings.now)) ?_ rfl hp).trans hensure
    rw [CacheWrite.run, hwrite]
    rfl
  · exact hensure

theorem select_sendMessage {content : String} (hp : p chatId = false) :
    (s.sendMessage api chatId content).2.cache.select p = s.cache.select p := by
  have hbegin : (s.draw.2.beginSend chatId content s.draw.1).2.cache.select p =
      s.cache.select p := select_beginSend hp
  unfold sendMessage
  dsimp only
  split
  · rename_i hrun
    rwa [hrun] at hbegin
  · rename_i t hrun
    rw [hrun] at hbegin
    exact (select_commit (w := .setMessageStatus chatId _ _) rfl rfl hp).trans hbegin

theorem select_refreshMessages
    (hchat : ∀ chat, (s.ask api (.getChat chatId)).1 = .ok chat → chat.id = chatId)
    (hp : p chatId = false) :
    (s.refreshMessages api chatId).2.cache.select p = s.cache.select p := by
  unfold refreshMessages
  split
  · rename_i chat t hask
    have hid : chat.id = chatId := hchat chat (by rw [hask])
    rw [← cache_of_ask hask]
    exact select_commit (w := .applySnapshot chat _) rfl (congrArg some hid) hp
  · rename_i hask
    rw [cache_of_ask hask]

theorem select_toggle {f : ChatFlag}
    (hchat : ∀ chat, (s.ask api (.toggle f chatId)).1 = .ok chat → chat.id = chatId)
    (hp : p chatId = false) :
    (s.toggle api f chatId).2.cache.select p = s.cache.select p := by
  have hflip : (s.commit (s.cache.toggle f chatId)).cache.select p = s.cache.select p :=
    select_commit (w := .toggle f chatId) rfl rfl hp
  -- the server is asked after the flip, and answers as it would have before
  have hanswer : ((s.commit (s.cache.toggle f chatId)).ask api (.toggle f chatId)).1 =
      (s.ask api (.toggle f chatId)).1 := rfl
  unfold toggle
  dsimp only
  split
  · exact hflip
  · split
    · rename_i hask
      rwa [cache_of_ask hask]
    · rename_i chat t hask
      have hid : chat.id = chatId := hchat chat (by rw [← hanswer, hask])
      rw [← cache_of_ask hask] at hflip
      exact (select_commit (w := .upsertChat (.ofChat chat)) rfl (congrArg some hid) hp).trans hflip

/-- **An operation that concerns one chat leaves the others as they were.** -/
theorem select_call {call : StoreCall} (hcall : call.Concerns api s chatId)
    (hp : p chatId = false) : (call.run api s).2.cache.select p = s.cache.select p := by
  cases call with
  | sendMessage id content => exact hcall ▸ select_sendMessage api (hcall ▸ hp)
  | refreshMessages id =>
    obtain ⟨rfl, hchat⟩ := hcall
    exact select_refreshMessages api hchat hp
  | deleteChat id =>
    obtain rfl : id = chatId := hcall
    exact select_commit (w := .deleteChat id) rfl rfl hp
  | toggle f id =>
    obtain ⟨rfl, hchat⟩ := hcall
    exact select_toggle api hchat hp
  | _ => exact hcall.elim

/-- **Chats do not interfere.**  A write or an operation that is about one chat leaves the rows of
every other chat, and all that is asked about it, as they were; and writes about two different
chats leave the same, whichever comes first. -/
theorem chats_do_not_interfere (api : ServerApi σ) (s : Store σ) {a b : String} (hne : a ≠ b) :
    (∀ (c : Cache) (w : CacheWrite), w.chatId? = some a → Cache.AgreeOn b (c.write w) c) ∧
    (∀ call : StoreCall, call.Concerns api s a →
      Cache.AgreeOn b (call.run api s).2.cache s.cache) ∧
    ∀ (c : Cache) (w w' : CacheWrite), w.chatId? = some a → w'.chatId? = some b →
      Cache.AgreeOn a ((c.write w).write w') ((c.write w').write w) ∧
      Cache.AgreeOn b ((c.write w).write w') ((c.write w').write w) := by
  have ha : (fun id => id == b) a = false := beq_eq_false_iff_ne.mpr hne
  have hb : (fun id => id == a) b = false := beq_eq_false_iff_ne.mpr hne.symm
  refine ⟨fun c w hw => (Cache.local_write hw).agreeOn hne c,
    fun call hcall => Cache.agreeOn_of_part (select_call api hcall ha), fun c w w' hw hw' => ?_⟩
  have hlocal := Cache.local_write hw
  have hlocal' := Cache.local_write hw'
  exact ⟨Cache.agreeOn_of_part (hlocal.select_comm hlocal' hb c),
    Cache.agreeOn_of_part (hlocal'.select_comm hlocal ha c).symm⟩

/-- A store with chats that share the id of a message, and a server that has one of them. -/
def sharingStore : Store InMemoryServer where
  cache := Cache.keptCache
  server := InMemoryServer.empty.insert (InMemoryServer.chatOfThread "c" "Tides" [])
  surroundings := ⟨20, fun _ => "new", 0⟩
  defaultTitle := usualTitle
  trace := []

theorem chats_do_not_interfere_sharing :
    "c" ≠ "d" ∧
    Cache.AgreeOn "d" (Cache.keptCache.write (.setMessageStatus "c" "m" .failed)) Cache.keptCache ∧
    Cache.AgreeOn "d" (sharingStore.refreshMessages InMemoryServer.api "c").2.cache
      sharingStore.cache ∧
    let w : CacheWrite := .applySnapshot (InMemoryServer.chatOfThread "c" "Tides today" [])
      Cache.echoingThread
    let w' : CacheWrite := .setMessageStatus "d" "m" .failed
    Cache.AgreeOn "c" ((Cache.keptCache.write w).write w') ((Cache.keptCache.write w').write w) ∧
    Cache.AgreeOn "d" ((Cache.keptCache.write w).write w') ((Cache.keptCache.write w').write w) := by
  have hne : "c" ≠ "d" := by decide
  obtain ⟨hwrite, hcall, hswap⟩ :=
    chats_do_not_interfere InMemoryServer.api sharingStore hne
  have hanswer : (sharingStore.ask InMemoryServer.api (.getChat "c")).1 =
      .ok (InMemoryServer.chatOfThread "c" "Tides" []) := rfl
  have hconcerns : (StoreCall.refreshMessages "c").Concerns InMemoryServer.api sharingStore "c" := by
    refine ⟨rfl, fun chat hchat => ?_⟩
    cases hanswer.symm.trans hchat
    rfl
  exact ⟨hne, hwrite _ _ rfl, hcall _ hconcerns, hswap _ _ _ rfl rfl⟩

end Store
end OfflineChat
