import OfflineChat.Proofs.FailureTraces
import OfflineChat.Proofs.RefreshOrder

/-! # A flag flipped here and on the server

A flag is flipped twice over: in the cached row, then in the chat on the server, and
what the server answers is put over the cached row.  So it does not matter how the
two had come apart before.  If the server has the chat, the row is that of the
server's chat afterwards, in every column; nothing else of the cache changes
(`Store.toggle_of_served`).  What is put over a row makes all earlier flips of it
forgotten (`Cache.putChat_toggle_putChat`), and flips of the server's chat undo
themselves and commute.  The main statement is `Store.toggle_reconciles`.
-/
namespace OfflineChat

/-! ## Flips -/

namespace ChatRow

variable {r : ChatRow} {f g : ChatFlag}

@[simp] theorem flip_id : (r.flip f).id = r.id := by cases f <;> rfl

theorem flip_comm : (r.flip f).flip g = (r.flip g).flip f := by
  cases f <;> cases g <;> rfl

end ChatRow

namespace InMemoryServer

variable {chat : Chat} {f g : ChatFlag}

@[simp] theorem flip_id : (flip chat f).id = chat.id := by cases f <;> rfl

/-- Flips of a server's chat undo themselves. -/
@[simp] theorem flip_flip : flip (flip chat f) f = chat := by
  cases f <;> simp [flip]

theorem flip_comm : flip (flip chat f) g = flip (flip chat g) f := by
  cases f <;> cases g <;> rfl

end InMemoryServer

/-! ## The cached row -/

namespace Cache

variable {c : Cache} {r r' : ChatRow} {f g : ChatFlag} {chatId : String}

/-- **What is put over a row makes earlier flips forgotten**, and what was put before them. -/
theorem putChat_toggle_putChat (c : Cache) (hid : r'.id = r.id) :
    (((c.putChat r).toggle f r.id).cache).putChat r' = ((c.toggle f r.id).cache).putChat r' := by
  have hkey (a : ChatRow) : (if a.id = r.id then a.flip f else a).id = a.id := by
    split
    · exact ChatRow.flip_id
    · rfl
  simp only [toggle_cache, putChat]
  rw [upsert_map_upsert hkey hid]

/-- Flags of one chat may be flipped in either order. -/
theorem toggle_toggle_comm (c : Cache) (f g : ChatFlag) (chatId : String) :
    ((c.toggle f chatId).cache.toggle g chatId).cache =
      ((c.toggle g chatId).cache.toggle f chatId).cache := by
  simp only [toggle_cache, List.map_map]
  refine congrArg (fun rows => { c with chats := rows }) (List.map_congr_left fun r _ => ?_)
  by_cases hid : r.id = chatId
  · simp [hid, ChatRow.flip_comm]
  · simp [hid]

end Cache

/-! ## One flip of the store -/

namespace Store

open InMemoryServer (flip)

variable {s : Store InMemoryServer} {f : ChatFlag} {chatId : String} {chat : Chat}

/-- A server that can be reached and has no such chat says so, after the flip here. -/
theorem toggle_of_unserved (honline : s.server.offline = false)
    (hcached : s.cache.hasChat chatId = true) (hchat : s.server.chats.find? chatId = none) :
    (s.toggle InMemoryServer.api f chatId).1 = .error (InMemoryServer.noChat chatId) := by
  obtain ⟨flipped, hvalue⟩ := Option.isSome_iff_exists.mp (Cache.toggle_isSome (f := f) hcached)
  have honline' : (s.commit (s.cache.toggle f chatId)).server.offline = false := honline
  have hanswer (e : Surroundings) : ((s.server.count (ChatRequest.toggle f chatId).operation).respond
      e (.toggle f chatId)).1 = .error (InMemoryServer.noChat chatId) := by
    simp [InMemoryServer.respond, InMemoryServer.count, hchat]
  have hasked : (s.commit (s.cache.toggle f chatId)).Fails InMemoryServer.api (.toggle f chatId)
      (InMemoryServer.noChat chatId) := by
    have hask := ask_of_online honline' (.toggle f chatId)
    exact (congrArg (·.1) hask).trans (hanswer s.surroundings)
  unfold toggle
  dsimp only
  rw [hvalue, hasked.ask]

/-- A server that can be reached flips the chat it has, and answers with it. -/
theorem ask_toggle_of_served (f : ChatFlag) (honline : s.server.offline = false)
    (hchat : s.server.chats.find? chat.id = some chat) :
    s.ask InMemoryServer.api (.toggle f chat.id) = (.ok (flip chat f),
      { s with
        server := { s.server.count (ChatRequest.toggle f chat.id).operation with
          chats := s.server.chats.insert chat.id (flip chat f) }
        trace := s.trace ++ [.asked (.toggle f chat.id) s.cache] }) := by
  rw [ask_of_online honline]
  simp [InMemoryServer.respond, InMemoryServer.count, hchat]

/-- The server's chat, its flag flipped, is put over the cached row. -/
structure Reconciled (s t : Store InMemoryServer) (f : ChatFlag) (chat : Chat) : Prop where
  cache : t.cache = ((s.cache.toggle f chat.id).cache).putChat (.ofChat (.ofChat (flip chat f)))
  chats : t.server.chats = s.server.chats.insert chat.id (flip chat f)
  online : t.server.offline = false

/-- **A flip that the server takes part in** leaves the row of the server's chat. -/
theorem toggle_of_served (f : ChatFlag) (honline : s.server.offline = false)
    (hcached : s.cache.hasChat chat.id = true)
    (hchat : s.server.chats.find? chat.id = some chat) :
    (s.toggle InMemoryServer.api f chat.id).1 = .ok (.ofChat (flip chat f)) ∧
      Reconciled s (s.toggle InMemoryServer.api f chat.id).2 f chat := by
  obtain ⟨flipped, hvalue⟩ := Option.isSome_iff_exists.mp (Cache.toggle_isSome (f := f) hcached)
  have hasked := ask_toggle_of_served (s := s.commit (s.cache.toggle f chat.id)) f honline hchat
  unfold toggle
  dsimp only
  rw [hvalue, hasked]
  exact ⟨rfl, rfl, rfl, honline⟩

/-- Server and cache hold the same chat under an id: the server has it, and the row is its row. -/
structure InStep (s : Store InMemoryServer) (chatId : String) (chat : Chat) : Prop where
  served : s.server.chats.find? chatId = some chat
  cached : s.cache.chats.find? (·.id == chatId) = some (.ofChat (.ofChat chat))

/-- A cache in step answers with the chat of the server. -/
theorem InStep.chat? (h : s.InStep chatId chat) : s.cache.chat? chatId = some (.ofChat chat) := by
  rw [Cache.chat?, h.cached, Option.map_some, ChatRow.toChat_ofChat]

theorem InStep.hasChat (h : s.InStep chatId chat) : s.cache.hasChat chatId = true := by
  have hid := List.find?_some h.cached
  exact List.any_eq_true.mpr ⟨_, List.mem_of_find?_eq_some h.cached, hid⟩

namespace Reconciled

variable {t u : Store InMemoryServer} {g : ChatFlag}

/-- However far they had come apart, the two are in step afterwards. -/
theorem inStep (h : Reconciled s t f chat) : t.InStep chat.id (flip chat f) where
  served := by rw [h.chats, Dict.find?_insert, if_pos rfl]
  cached := by
    have hid : (ChatRow.ofChat (.ofChat (flip chat f))).id = chat.id := InMemoryServer.flip_id
    rw [h.cache, ← hid]
    exact Cache.find?_putChat _ _

/-- Messages and attachments stay as they were. -/
theorem tables (h : Reconciled s t f chat) :
    t.cache.messages = s.cache.messages ∧ t.cache.attachments = s.cache.attachments := by
  rw [h.cache, Cache.toggle_cache]
  exact ⟨rfl, rfl⟩

/-- The second of two flips is met by the state the first has left. -/
theorem again (h : Reconciled s t f chat) (g : ChatFlag) :
    (t.toggle InMemoryServer.api g chat.id).1 = .ok (.ofChat (flip (flip chat f) g)) ∧
      Reconciled t (t.toggle InMemoryServer.api g chat.id).2 g (flip chat f) := by
  have hid : (flip chat f).id = chat.id := InMemoryServer.flip_id
  have hstep := h.inStep
  rw [← hid] at hstep ⊢
  exact toggle_of_served g h.online hstep.hasChat hstep.served

/-- After two flips the row of the server's chat stands over the twice flipped row. -/
theorem cache_trans (h : Reconciled s t f chat) (h' : Reconciled t u g (flip chat f)) :
    u.cache = (((s.cache.toggle f chat.id).cache).toggle g chat.id).cache.putChat
      (.ofChat (.ofChat (flip (flip chat f) g))) := by
  have hid : (ChatRow.ofChat (.ofChat (flip chat f))).id = chat.id := InMemoryServer.flip_id
  have hid' : (ChatRow.ofChat (.ofChat (flip (flip chat f) g))).id =
      (ChatRow.ofChat (.ofChat (flip chat f))).id := InMemoryServer.flip_id
  have hforget := ((s.cache.toggle f chat.id).cache).putChat_toggle_putChat (f := g) hid'
  rw [hid] at hforget
  rw [h'.cache, h.cache, InMemoryServer.flip_id, hforget]

theorem chats_trans (h : Reconciled s t f chat) (h' : Reconciled t u g (flip chat f)) :
    u.server.chats = s.server.chats.insert chat.id (flip (flip chat f) g) := by
  rw [h'.chats, h.chats, InMemoryServer.flip_id, Dict.insert_insert]

/-- Flipping a flag twice leaves the server with the chats it had, and the cache in step. -/
theorem undo (h : Reconciled s t f chat) (h' : Reconciled t u f (flip chat f))
    (hchat : s.server.chats.find? chat.id = some chat) :
    u.InStep chat.id chat ∧ u.server.chats = s.server.chats := by
  have hstep := h'.inStep
  rw [InMemoryServer.flip_id, InMemoryServer.flip_flip] at hstep
  refine ⟨hstep, ?_⟩
  rw [h.chats_trans h', InMemoryServer.flip_flip, Dict.insert_of_find? hchat]

/-- **Flips change places.** -/
theorem comm {t' u' : Store InMemoryServer} (h : Reconciled s t f chat)
    (h' : Reconciled t u g (flip chat f)) (k : Reconciled s t' g chat)
    (k' : Reconciled t' u' f (flip chat g)) :
    u.cache = u'.cache ∧ u.server.chats = u'.server.chats := by
  constructor
  · rw [h.cache_trans h', k.cache_trans k', Cache.toggle_toggle_comm, InMemoryServer.flip_comm]
  · rw [h.chats_trans h', k.chats_trans k', InMemoryServer.flip_comm]

end Reconciled

/-- **A flip that both sides take part in makes them one.**  Over a server that can be reached, the
flag of a cached chat is flipped if and only if the server has the chat.  Then the answer is the
server's chat with its flag flipped, the server and the cached row both hold that chat, in every
column and however they differed before, and messages and attachments stay as they were.  A second
flip of the same flag leaves the server with the chats it had; and the cached row is what it was, if
the two were in step to begin with.  Of two flips it does not matter which comes first. -/
theorem toggle_reconciles (s : Store InMemoryServer) (hkeyed : s.server.Keyed)
    (honline : s.server.offline = false) {chatId : String}
    (hcached : s.cache.hasChat chatId = true) :
    let answer (f : ChatFlag) (s : Store InMemoryServer) := (s.toggle InMemoryServer.api f chatId).1
    let flipped (f : ChatFlag) (s : Store InMemoryServer) := (s.toggle InMemoryServer.api f chatId).2
    (∀ f, (∃ row, answer f s = .ok row) ↔ ∃ chat, s.server.chats.find? chatId = some chat) ∧
    ∀ chat, s.server.chats.find? chatId = some chat →
      (∀ f, answer f s = .ok (.ofChat (flip chat f)) ∧
        (flipped f s).InStep chatId (flip chat f) ∧
        (flipped f s).cache.chat? chatId = some (.ofChat (flip chat f)) ∧
        (flipped f s).cache.messages = s.cache.messages ∧
        (flipped f s).cache.attachments = s.cache.attachments) ∧
      (∀ f, answer f (flipped f s) = .ok (.ofChat chat) ∧
        (flipped f (flipped f s)).server.chats = s.server.chats ∧
        (s.InStep chatId chat → (flipped f (flipped f s)).cache.chats.find? (·.id == chatId) =
          s.cache.chats.find? (·.id == chatId))) ∧
      ∀ f g, answer g (flipped f s) = answer f (flipped g s) ∧
        (flipped g (flipped f s)).cache = (flipped f (flipped g s)).cache ∧
        (flipped g (flipped f s)).server.chats = (flipped f (flipped g s)).server.chats := by
  intro answer flipped
  refine ⟨fun f => ⟨?_, ?_⟩, fun chat hchat => ?_⟩
  · rintro ⟨row, hrow⟩
    cases hchat : s.server.chats.find? chatId with
    | some chat => exact ⟨chat, rfl⟩
    | none => cases (toggle_of_unserved honline hcached hchat).symm.trans hrow
  · rintro ⟨chat, hchat⟩
    obtain rfl : chat.id = chatId := hkeyed.id_of_find? hchat
    exact ⟨_, (toggle_of_served f honline hcached hchat).1⟩
  · obtain rfl : chat.id = chatId := hkeyed.id_of_find? hchat
    have hfirst (f : ChatFlag) := toggle_of_served f honline hcached hchat
    refine ⟨fun f => ?_, fun f => ?_, fun f g => ?_⟩
    · obtain ⟨hanswer, h⟩ := hfirst f
      exact ⟨hanswer, h.inStep, h.inStep.chat?, h.tables⟩
    · obtain ⟨hanswer, h'⟩ := (hfirst f).2.again f
      obtain ⟨hstep, hserver⟩ := (hfirst f).2.undo h' hchat
      rw [InMemoryServer.flip_flip] at hanswer
      refine ⟨hanswer, hserver, fun hbefore => ?_⟩
      rw [hstep.cached, hbefore.cached]
    · obtain ⟨hanswer, h⟩ := (hfirst f).2.again g
      obtain ⟨hanswer', h'⟩ := (hfirst g).2.again f
      refine ⟨?_, (hfirst f).2.comm h (hfirst g).2 h'⟩
      rw [InMemoryServer.flip_comm] at hanswer'
      exact hanswer.trans hanswer'.symm

/-- The late server has another chat than the row says, so the two are in step only after the first
flip; a second pair of flips finds them in step. -/
theorem toggle_reconciles_late :
    let chat := InMemoryServer.chatOfThread "c" "Tides" ["When?"]
    let pin (s : Store InMemoryServer) := (s.toggle InMemoryServer.api .pinned "c").2
    let t := pin lateStore
    lateStore.server.Keyed ∧ lateStore.server.offline = false ∧
    lateStore.cache.hasChat "c" = true ∧ lateStore.server.chats.find? "c" = some chat ∧
    t.InStep "c" { chat with pinned := true } ∧ t.cache.messages = lateStore.cache.messages ∧
    (t.toggle InMemoryServer.api .pinned "c").1 = .ok (.ofChat chat) ∧
    t.server.Keyed ∧ t.server.offline = false ∧ t.cache.hasChat "c" = true ∧
    (pin (pin t)).cache.chats.find? (·.id == "c") = t.cache.chats.find? (·.id == "c") := by
  intro chat pin t
  have hkeyed : lateStore.server.Keyed := (InMemoryServer.keyed_empty.insert _).insert _
  have hchat : lateStore.server.chats.find? "c" = some chat := rfl
  have hcached : lateStore.cache.hasChat "c" = true := rfl
  obtain ⟨-, hserved⟩ := toggle_reconciles lateStore hkeyed rfl hcached
  obtain ⟨hone, htwo, -⟩ := hserved chat hchat
  obtain ⟨-, hstep, -, hmessages, -⟩ := hone .pinned
  have hkeyed' : t.server.Keyed := hkeyed.answer (.toggle .pinned "c") lateStore.surroundings
  obtain ⟨-, hserved'⟩ := toggle_reconciles t hkeyed' rfl hstep.hasChat
  obtain ⟨-, hagain, -⟩ := hserved' _ hstep.served
  exact ⟨hkeyed, rfl, rfl, hchat, hstep, hmessages, (htwo .pinned).1, hkeyed', rfl, hstep.hasChat,
    (hagain .pinned).2.2 hstep⟩

end Store
end OfflineChat
