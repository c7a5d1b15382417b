import Mathlib
import OfflineChat.Proofs.ChatsOverTime
import OfflineChat.Proofs.RefreshAgreement
import OfflineChat.Proofs.RepeatedRefreshes
import OfflineChat.Server.Scripted

/-! # One answer at two times

A server that answers a refresh with the same text again, at another time, has
not said anything new.  The cache takes the answer as it did the first time, but
for the messages of the thread to which the text gives no time: they are written
now whenever they are read (`Chat.Undated`), so the cache has them as written at
the time of the last refresh (`Cache.Redated`).  If there is no such message,
nothing changes at all (`Store.refreshMessages_again`).
-/
namespace OfflineChat

/-- A text gives no time to a message of its thread: the message is read as written now whenever it
is read. -/
def Chat.Undated (text id : String) : Prop :=
  ∀ now, ∃ chat, (codec now).decode text = .ok chat ∧ ∃ m ∈ chat.thread, m.id = id ∧
    m.timestamp = now

namespace Cache

/-- A row of a message when a text is read again at another time.  It stays as it was, unless the
text gives no time to the message. -/
inductive RowRedated (text chatId : String) (t₁ t₂ : Int) : MessageRow → MessageRow → Prop
  | kept {r : MessageRow} (h : r.chatId = chatId → ¬ Chat.Undated text r.id) :
    RowRedated text chatId t₁ t₂ r r
  | undated {r : MessageRow} (hchat : r.chatId = chatId) (h : Chat.Undated text r.id)
      (htime : r.timestamp = t₁) : RowRedated text chatId t₁ t₂ r { r with timestamp := t₂ }

/-- A cache when a text is read again at another time: the rows of messages to which the text gives
no time have another time, and nothing else has changed. -/
structure Redated (text chatId : String) (t₁ t₂ : Int) (c d : Cache) : Prop where
  chats : d.chats = c.chats
  attachments : d.attachments = c.attachments
  layout : d.layout = c.layout
  messages : List.Forall₂ (RowRedated text chatId t₁ t₂) c.messages d.messages

/-! ## Two readings of a text -/

variable {text chatId : String} {t₁ t₂ : Int}

/-- A message over time, in a thread over time, has a time or is undated. -/
theorem rowRedated_serverRow {chat : Int → Chat} {thread : List (Int → Message)}
    (hread : ∀ now, (Chat.codec now).decode text = .ok (chat now))
    (hthread : ∀ now, (chat now).thread = thread.map (· now))
    (hover : ∀ m ∈ thread, Message.OverTime m) {m : Int → Message} (hm : m ∈ thread) :
    RowRedated text chatId t₁ t₂ (serverRow chatId (m t₁)) (serverRow chatId (m t₂)) := by
  have hmem (now : Int) : m now ∈ (chat now).thread := by
    rw [hthread now]
    exact List.mem_map_of_mem (f := (· now)) hm
  rcases (hover m hm).steady_or_now with ⟨m₀, hsame⟩ | ⟨m₀, hnow⟩
  · rw [hsame t₁, hsame t₂]
    refine .kept fun _ hundated => ?_
    -- the message with the id is this one, whenever the text is read
    have htime (now : Int) : m₀.timestamp = now := by
      obtain ⟨c, hc, n, hn, hid, htime⟩ := hundated now
      rw [hread now] at hc
      cases hc
      have heq := List.inj_on_of_nodup_map (chat now).thread_nodup hn (hmem now)
        (hid.trans (congrArg Message.id (hsame now).symm))
      rw [← htime, heq, hsame now]
    have hzero := htime 0
    have hone := htime 1
    omega
  · rw [hnow t₁, hnow t₂]
    refine .undated rfl (fun now => ⟨chat now, hread now, m now, hmem now, ?_, ?_⟩) rfl
    · rw [hnow now]
      rfl
    · rw [hnow now]

/-- **A snapshot of the same text at another time** changes the times of messages to which the text
gives none, and nothing else. -/
theorem redated_applySnapshot {c : Cache} (hc : (c.messages.map (·.key)).Nodup) {chat₁ chat₂ : Chat}
    (h₁ : (Chat.codec t₁).decode text = .ok chat₁) (h₂ : (Chat.codec t₂).decode text = .ok chat₂) :
    let d := (c.applySnapshot chat₁ chat₁.thread).cache
    Redated text chat₁.id t₁ t₂ d (d.applySnapshot chat₂ chat₂.thread).cache := by
  cases Chat.reading text with
  | refused e h => rw [h] at h₁; cases h₁
  | read chat hover hread =>
    rw [hread] at h₁ h₂
    cases h₁
    cases h₂
    obtain ⟨thread, hmessages, hthread⟩ := hover.thread
    obtain ⟨row, hsteady⟩ := hover.1
    have hrow (now : Int) : CachedChat.ofChat (chat now) = row := hsteady now
    have hid (now : Int) : (chat now).id = row.id := congrArg CachedChat.id (hrow now)
    refine ⟨?_, ?_, applySnapshot_layout _ _ _, ?_⟩
    · rw [applySnapshot_chats, applySnapshot_chats, hrow t₁, hrow t₂]
      exact upsertAll_upsertAll (keepsKey_replace _) (covers_replace _ _) c.chats
    · have hfiles : (chat t₂).thread.flatMap (attachmentsFor row.id) =
          (chat t₁).thread.flatMap (attachmentsFor row.id) := by
        rw [hthread, hthread, List.flatMap_map, List.flatMap_map]
        refine List.flatMap_congr fun m hm => ?_
        obtain ⟨m₀, hsame⟩ := (hmessages m hm).1
        rw [hsame t₁, hsame t₂]
        rfl
      rw [applySnapshot_attachments, applySnapshot_attachments, hid t₁, hid t₂, hfiles]
      exact upsertAll_upsertAll CachedAttachment.keepsKey_keepingPath (covers_attachmentsFor _ _)
        c.attachments
    · have hrows (now : Int) : (chat now).thread.map (serverRow row.id) =
          thread.map fun m => serverRow row.id (m now) := by
        rw [hthread, List.map_map]
        rfl
      have hnodup := nodup_key_serverRow row.id (chat t₁).thread_nodup
      rw [applySnapshot_messages, applySnapshot_messages, applySnapshot_messages, hid t₁, hid t₂,
        hrows, hrows]
      rw [hrows] at hnodup
      refine forall₂_upsertAll (fun m hm => ?_) hnodup hc
        (fun m hm => rowRedated_serverRow hread hthread hmessages hm) fun r _ hkey => ?_
      · obtain ⟨m₀, hsame⟩ := (hmessages m hm).1
        rw [hsame t₁, hsame t₂]
        rfl
      · -- a row under no key of the thread belongs to another message
        refine .kept fun hchat hundated => hkey ?_
        obtain ⟨_, hdecode, m, hm, hmid, -⟩ := hundated t₁
        rw [hread t₁] at hdecode
        cases hdecode
        rw [← hrows, map_key_serverRow]
        exact List.mem_map.mpr ⟨m, hm, Prod.ext hchat.symm hmid⟩

/-! ## The rows of a cache whose times have changed -/

namespace Redated

variable {c d : Cache}

/-- Rows that have a time are as they were. -/
theorem filter_messages (h : Redated text chatId t₁ t₂ c d) {q : MessageRow → Bool}
    (hkey : ∀ r t, q { r with timestamp := t } = q r)
    (hq : ∀ r, q r = true → r.chatId = chatId → ¬ Chat.Undated text r.id) :
    d.messages.filter q = c.messages.filter q := by
  have hrows := h.messages
  generalize c.messages = rows, d.messages = rows' at hrows
  induction hrows with
  | nil => rfl
  | @cons r r' rest rest' hr _ ih =>
    cases hr with
    | kept _ => rw [List.filter_cons, List.filter_cons, ih]
    | undated hchat hundated _ =>
      have hout : ¬ q r = true := fun hin => hq r hin hchat hundated
      rw [List.filter_cons_of_neg hout, List.filter_cons_of_neg (by rwa [hkey]), ih]

/-- Rows that have no time were written at the time of the first reading, and are now written at
that of the second. -/
theorem filter_messages_undated (h : Redated text chatId t₁ t₂ c d) {q : MessageRow → Bool}
    (hkey : ∀ r t, q { r with timestamp := t } = q r)
    (hq : ∀ r, q r = true → r.chatId = chatId ∧ Chat.Undated text r.id) :
    (∀ r ∈ c.messages.filter q, r.timestamp = t₁) ∧
      d.messages.filter q = (c.messages.filter q).map ({ · with timestamp := t₂ }) := by
  have hrows := h.messages
  generalize c.messages = rows, d.messages = rows' at hrows
  induction hrows with
  | nil => exact ⟨nofun, rfl⟩
  | @cons r r' rest rest' hr _ ih =>
    obtain ⟨htimes, hsame⟩ := ih
    cases hr with
    | kept hkept =>
      have hout : ¬ q r = true := fun hin => hkept (hq r hin).1 (hq r hin).2
      rw [List.filter_cons_of_neg hout, List.filter_cons_of_neg hout]
      exact ⟨htimes, hsame⟩
    | undated hchat hundated htime =>
      by_cases hin : q r = true
      · rw [List.filter_cons_of_pos hin, List.filter_cons_of_pos (by rwa [hkey]), hsame]
        exact ⟨List.forall_mem_cons.mpr ⟨htime, htimes⟩, rfl⟩
      · rw [List.filter_cons_of_neg hin, List.filter_cons_of_neg (by rwa [hkey])]
        exact ⟨htimes, hsame⟩

/-- But for their times, all rows are as they were. -/
theorem map_messages (h : Redated text chatId t₁ t₂ c d) {β : Type} {q : MessageRow → Bool}
    {f : MessageRow → β} (hkey : ∀ r t, q { r with timestamp := t } = q r)
    (hf : ∀ r t, f { r with timestamp := t } = f r) :
    (d.messages.filter q).map f = (c.messages.filter q).map f := by
  have hrows := h.messages
  generalize c.messages = rows, d.messages = rows' at hrows
  induction hrows with
  | nil => rfl
  | @cons r r' rest rest' hr _ ih =>
    have hsame : q r' = q r ∧ f r' = f r := by
      cases hr with
      | kept _ => exact ⟨rfl, rfl⟩
      | undated _ _ _ => exact ⟨hkey r _, hf r _⟩
    rw [List.filter_cons, List.filter_cons, hsame.1]
    split
    · rw [List.map_cons, List.map_cons, hsame.2, ih]
    · exact ih

/-- If the text gives a time to every message, nothing has changed. -/
theorem eq_of_dated (h : Redated text chatId t₁ t₂ c d) (hdated : ∀ id, ¬ Chat.Undated text id) :
    d = c := by
  have hmessages : d.messages.filter (fun _ => true) = c.messages.filter fun _ => true :=
    h.filter_messages (fun _ _ => rfl) fun r _ _ => hdated r.id
  rw [List.filter_true, List.filter_true] at hmessages
  obtain ⟨hchats, hattachments, hlayout, -⟩ := h
  cases c
  cases d
  cases hchats
  cases hattachments
  cases hlayout
  cases hmessages
  rfl

end Redated

/-! ## What the queries answer -/

end Cache

/-- A message as if written at some time. -/
def CachedMessage.writtenAt (t : Int) (m : CachedMessage) : CachedMessage := { m with timestamp := t }

namespace Cache

/-- What the queries of a cache answer when a text is read again at another time. -/
structure AnswersRedated (text chatId : String) (t₁ t₂ : Int) (c d : Cache) : Prop where
  chat? : ∀ id, d.chat? id = c.chat? id
  attachmentsOf : ∀ id messageId, d.attachmentsOf id messageId = c.attachmentsOf id messageId
  /-- But for their times, the messages are as they were. -/
  messages : ∀ id, ((d.messagesOf id).map (·.writtenAt 0)).Perm ((c.messagesOf id).map (·.writtenAt 0))
  /-- Messages that have a time are read as before, and in the same order. -/
  dated : ∀ (id : String) (p : String → Bool),
    (id = chatId → ∀ messageId, p messageId = true → ¬ Chat.Undated text messageId) →
    (d.messagesOf id).filter (p ·.id) = (c.messagesOf id).filter (p ·.id)
  /-- Those that have none were written at the first reading, and are now written at the second; they
  are read in the same order among themselves. -/
  undated : ∀ p : String → Bool, (∀ messageId, p messageId = true → Chat.Undated text messageId) →
    (∀ m ∈ (c.messagesOf chatId).filter (p ·.id), m.timestamp = t₁) ∧
    (d.messagesOf chatId).filter (p ·.id) =
      ((c.messagesOf chatId).filter (p ·.id)).map (·.writtenAt t₂)
  /-- The same chats are listed, in the same order and with as many messages; only the chat that was
  read again may have a newest message of another time. -/
  activeChats : List.Forall₂ (fun e e' => e'.chat = e.chat ∧ e'.messageCount = e.messageCount ∧
    (e.chat.id ≠ chatId → e' = e)) c.activeChats d.activeChats

variable {c d : Cache} {text chatId : String} {t₁ t₂ : Int}

theorem filter_messagesOf (c : Cache) (id : String) (p : String → Bool) :
    (c.messagesOf id).filter (p ·.id) = ((c.messageRows id).filter (p ·.id)).map (·.toMessage) :=
  List.filter_map

theorem filter_chatRows (c : Cache) (id : String) (p : String → Bool) :
    (c.chatRows id).filter (p ·.id) = c.messages.filter fun r => p r.id && r.chatId == id :=
  List.filter_filter

theorem Redated.answers (h : Redated text chatId t₁ t₂ c d) :
    AnswersRedated text chatId t₁ t₂ c d where
  chat? id := by rw [Cache.chat?, h.chats, Cache.chat?]
  attachmentsOf id messageId := by rw [Cache.attachmentsOf, h.attachments, Cache.attachmentsOf]
  messages id := by
    have hrows := h.map_messages (q := (·.chatId == id)) (f := (·.toMessage.writtenAt 0))
      (fun _ _ => rfl) fun _ _ => rfl
    have hread (c : Cache) : ((c.messagesOf id).map (·.writtenAt 0)).Perm
        ((c.chatRows id).map (·.toMessage.writtenAt 0)) := by
      rw [messagesOf, List.map_map]
      exact (c.messageRows_perm id).map _
    exact (hread d).trans (.trans (.of_eq hrows) (hread c).symm)
  dated id p hp := by
    rw [filter_messagesOf, filter_messagesOf]
    refine congrArg _ (filter_messageRows_congr (p := (p ·.id)) ?_)
    rw [filter_chatRows, filter_chatRows]
    refine h.filter_messages (fun _ _ => rfl) fun r hr hchat => ?_
    obtain ⟨hpr, hid⟩ := Bool.and_eq_true_iff.mp hr
    exact hp ((eq_of_beq hid).symm.trans hchat) r.id hpr
  undated p hp := by
    obtain ⟨htimes, hrows⟩ := h.filter_messages_undated
      (q := fun r => p r.id && r.chatId == chatId) (fun _ _ => rfl) fun r hr => by
        obtain ⟨hpr, hid⟩ := Bool.and_eq_true_iff.mp hr
        exact ⟨eq_of_beq hid, hp r.id hpr⟩
    rw [← filter_chatRows] at htimes
    rw [← filter_chatRows, ← filter_chatRows] at hrows
    have hafter : ∀ r ∈ (d.chatRows chatId).filter (p ·.id), r.timestamp = t₂ := by
      rw [hrows, List.forall_mem_map]
      exact fun _ _ => rfl
    -- messages of one time are read in the order of the table, before and after
    rw [filter_messagesOf, filter_messagesOf, filter_messageRows_of_time htimes,
      filter_messageRows_of_time hafter, hrows, List.map_map, List.map_map]
    exact ⟨List.forall_mem_map.mpr htimes, rfl⟩
  activeChats := by
    unfold Cache.activeChats
    rw [h.chats, List.forall₂_map_left_iff, List.forall₂_map_right_iff, List.forall₂_same]
    refine fun r _ => ⟨rfl, ?_, fun hne => ?_⟩
    · have hrows := h.map_messages (q := (·.chatId == r.id)) (f := fun _ => ()) (fun _ _ => rfl)
        fun _ _ => rfl
      have hlength := congrArg List.length hrows
      rwa [List.length_map, List.length_map] at hlength
    · have hrows := h.filter_messages (q := (·.chatId == r.id)) (fun _ _ => rfl)
        fun r' hr' hchat => absurd ((eq_of_beq hr').symm.trans hchat) hne
      rw [entryOf, hrows, entryOf]

end Cache

namespace Store

variable {σ : Type}

/-- The server answers the request for a chat with a text, which is read when it comes in. -/
def Receives (api : ServerApi σ) (s : Store σ) (chatId text : String) : Prop :=
  (s.ask api (.getChat chatId)).1 = Scripted.read s.surroundings.now (.getChat chatId) (.ok text)

theorem receives_of_script {behind : ServerApi σ} {s : Store (Scripted σ)} {chatId text : String}
    {rest : List ScriptedAnswer} (h : s.server.script = .ok text :: rest) :
    s.Receives (Scripted.api behind) chatId text := by
  unfold Receives ask Scripted.api
  dsimp only
  rw [h]

theorem refreshMessages_of_receives {api : ServerApi σ} {s : Store σ} {chatId text : String}
    {chat : Chat} (h : s.Receives api chatId text)
    (hread : (Chat.codec s.surroundings.now).decode text = .ok chat) :
    (s.refreshMessages api chatId).1 = .ok chat.thread ∧
      (s.refreshMessages api chatId).2.cache = (s.cache.applySnapshot chat chat.thread).cache := by
  have hanswer : (s.ask api (.getChat chatId)).1 = .ok chat := by
    have hcodec : (ChatRequest.answerCodec s.surroundings.now (.getChat chatId)).decode text =
        .ok chat := hread
    rw [h, Scripted.read, hcodec]
  obtain ⟨t, hask⟩ : ∃ t, s.ask api (.getChat chatId) = (.ok chat, t) := ⟨_, Prod.ext hanswer rfl⟩
  unfold refreshMessages
  rw [hask]
  exact ⟨rfl, congrArg (fun c : Cache => (c.applySnapshot chat chat.thread).cache)
    (cache_of_ask hask)⟩

/-- **The same text again, at another time.**  A text that was taken as the answer to a refresh is
taken again.  Messages to which it gives no time are then written at the time of this refresh, and
no longer at that of the one before; nothing else is changed, neither in the tables nor in what the
queries answer.  If it gives a time to every message, nothing is changed at all. -/
theorem refreshMessages_again (api : ServerApi σ) (s₁ s₂ : Store σ) (chatId text : String)
    (chat : Chat) (hintact : s₁.cache.Intact) (hfirst : s₁.Receives api chatId text)
    (hread : (Chat.codec s₁.surroundings.now).decode text = .ok chat)
    (hcache : s₂.cache = (s₁.refreshMessages api chatId).2.cache)
    (hagain : s₂.Receives api chatId text) :
    let t₁ := s₁.surroundings.now
    let t₂ := s₂.surroundings.now
    let d := (s₂.refreshMessages api chatId).2.cache
    (∃ again, (Chat.codec t₂).decode text = .ok again ∧
      (s₂.refreshMessages api chatId).1 = .ok again.thread) ∧
    Cache.Redated text chat.id t₁ t₂ s₂.cache d ∧
    Cache.AnswersRedated text chat.id t₁ t₂ s₂.cache d ∧
    ((∀ id, ¬ Chat.Undated text id) → d = s₂.cache) := by
  intro t₁ t₂ d
  obtain ⟨again, hreadAgain⟩ : ∃ again, (Chat.codec t₂).decode text = .ok again := by
    cases Chat.reading text with
    | refused e h => rw [h] at hread; cases hread
    | read chat _ h => exact ⟨chat t₂, h t₂⟩
  obtain ⟨-, hcache₁⟩ := refreshMessages_of_receives hfirst hread
  obtain ⟨hthread, hcache₂⟩ := refreshMessages_of_receives hagain hreadAgain
  have hredated : Cache.Redated text chat.id t₁ t₂ s₂.cache d := by
    rw [show d = _ from hcache₂, hcache, hcache₁]
    exact Cache.redated_applySnapshot hintact.messages_nodup hread hreadAgain
  exact ⟨⟨again, hreadAgain, hthread⟩, hredated, hredated.answers, hredated.eq_of_dated⟩

/-- The text of a chat with a message and the answer to it, to which it gives no time. -/
def undatedText : String :=
  "\x7b\"id\":\"c\",\"title\":\"Tides\",\"updated_at\":7,\"created_at\":6," ++
    "\"chat\":\x7b\"history\":\x7b\"currentId\":\"k\",\"messages\":\x7b" ++
    "\"m\":\x7b\"id\":\"m\",\"role\":\"user\",\"timestamp\":50\x7d," ++
    "\"k\":\x7b\"id\":\"k\",\"parentId\":\"m\",\"role\":\"assistant\"\x7d\x7d\x7d\x7d\x7d"

/-- What that text reads as. -/
def undatedChat (now : Int) : Chat where
  id := "c"
  userId := ""
  title := "Tides"
  body := { ChatData.empty with
    history := ⟨some "k", .ofList [("m", .plain "m" none .user "" 50),
      ("k", .plain "k" (some "m") .assistant "" now)]⟩ }
  updatedAt := 7
  createdAt := 6
  shareId := none
  archived := false
  pinned := false
  about := .empty
  folderId := none

/-- A store whose server answers with that text. -/
def undatedStore (cache : Cache) (now : Int) : Store (Scripted InMemoryServer) :=
  ⟨cache, ⟨[.ok undatedText], .empty⟩, ⟨now, fun _ => "new", 0⟩, usualTitle, []⟩

theorem decode_undatedText (now : Int) :
    (Chat.codec now).decode undatedText = .ok (undatedChat now) := by
  cbv

theorem thread_undatedChat (now : Int) : (undatedChat now).thread =
    [.plain "m" none .user "" 50, .plain "k" (some "m") .assistant "" now] := by
  cbv

@[simp] theorem undatedStore_cache (cache : Cache) (now : Int) :
    (undatedStore cache now).cache = cache := rfl

theorem receives_undatedStore (cache : Cache) (now : Int) :
    (undatedStore cache now).Receives (Scripted.api InMemoryServer.api) "c" undatedText :=
  receives_of_script rfl

theorem refreshMessages_again_undated :
    let api := Scripted.api InMemoryServer.api
    let s₁ := undatedStore Cache.keptCache 40
    let s₂ := undatedStore (s₁.refreshMessages api "c").2.cache 60
    let d := (s₂.refreshMessages api "c").2.cache
    s₁.cache.Intact ∧ s₁.Receives api "c" undatedText ∧ s₂.Receives api "c" undatedText ∧
    (Chat.codec 40).decode undatedText = .ok (undatedChat 40) ∧
    Chat.Undated undatedText "k" ∧
    (∃ again, (Chat.codec 60).decode undatedText = .ok again ∧
      (s₂.refreshMessages api "c").1 = .ok again.thread) ∧
    Cache.Redated undatedText "c" 40 60 s₂.cache d ∧
    Cache.AnswersRedated undatedText "c" 40 60 s₂.cache d ∧
    ((∀ id, ¬ Chat.Undated undatedText id) → d = s₂.cache) := by
  intro api s₁ s₂ d
  have hintact : s₁.cache.Intact := ⟨by decide, by decide, by decide, by decide, by decide⟩
  have hfirst : s₁.Receives api "c" undatedText := receives_undatedStore _ _
  have hagain : s₂.Receives api "c" undatedText := receives_undatedStore _ _
  have hread : (Chat.codec 40).decode undatedText = .ok (undatedChat 40) := decode_undatedText 40
  have hundated : Chat.Undated undatedText "k" := fun now =>
    ⟨undatedChat now, decode_undatedText now, .plain "k" (some "m") .assistant "" now,
      by rw [thread_undatedChat]; simp, rfl, rfl⟩
  exact ⟨hintact, hfirst, hagain, hread, hundated,
    refreshMessages_again api s₁ s₂ "c" undatedText (undatedChat 40) hintact hfirst hread
      (undatedStore_cache _ _) hagain⟩

/-- **The same text again can change the cache.**  The answer to which it gives no time was written
at the time of the first refresh, before the message that it hangs under, and is then written at
that of the second, behind it; and so the chat is listed with another time. -/
theorem refreshMessages_again_moves :
    let api := Scripted.api InMemoryServer.api
    let s₁ := undatedStore Cache.fresh 40
    let s₂ := undatedStore (s₁.refreshMessages api "c").2.cache 60
    let m : CachedMessage := .ofMessage "c" (.plain "m" none .user "" 50) .sent
    let k (now : Int) : CachedMessage :=
      .ofMessage "c" (.plain "k" (some "m") .assistant "" now) .sent
    s₁.Receives api "c" undatedText ∧ s₂.Receives api "c" undatedText ∧
    s₂.cache.messagesOf "c" = [k 40, m] ∧
    (s₂.refreshMessages api "c").2.cache.messagesOf "c" = [m, k 60] ∧
    s₂.cache.activeChats.map (·.lastMessageTime) = [some 50] ∧
    (s₂.refreshMessages api "c").2.cache.activeChats.map (·.lastMessageTime) = [some 60] := by
  intro api s₁ s₂ m k
  have hfirst : s₁.Receives api "c" undatedText := receives_undatedStore _ _
  have hagain : s₂.Receives api "c" undatedText := receives_undatedStore _ _
  have hcache₁ := (refreshMessages_of_receives hfirst (decode_undatedText 40)).2
  have hcache₂ := (refreshMessages_of_receives hagain (decode_undatedText 60)).2
  rw [thread_undatedChat] at hcache₁ hcache₂
  rw [undatedStore_cache, hcache₁] at hcache₂
  rw [undatedStore_cache, hcache₁, hcache₂]
  refine ⟨hfirst, hagain, ?_, ?_, ?_, ?_⟩
  all_goals cbv

end Store
end OfflineChat
