import OfflineChat.Proofs.SendEffect

/-! # What failures leave behind

No operation of the store asks the server more than once, and which ones ask it at
all, and for what, is known beforehand (`Store.requests_call`).  If the request
fails, what the operation leaves behind is one of three things.  A refresh leaves
everything as it was.  A flag that was flipped here stays flipped, and a chat that
was deleted here stays deleted.  A chat that could not be created on the server is
created here, if the failure started on the server's side, and then the failure
names it.  Nothing is left half done (`Store.failures_leave_traces`).
-/
namespace OfflineChat

/-! ## One row -/

/-- A cached chat with one flag flipped. -/
def CachedChat.flip (c : CachedChat) : ChatFlag → CachedChat
  | .pinned => { c with pinned := !c.pinned }
  | .archived => { c with archived := !c.archived }

/-- Whatever number stands for a flag, the flipped row is read as the flipped chat. -/
theorem ChatRow.toChat_flip (r : ChatRow) (f : ChatFlag) :
    (r.flip f).toChat = r.toChat.flip f := by
  have hflag (n : Int) : decide (flag (n == 0) ≠ 0) = !decide (n ≠ 0) := by
    rw [flag_ne_zero]
    by_cases hn : n = 0
    · rw [hn]
      rfl
    · simp [hn]
  cases f with
  | pinned => exact congrArg (fun p => { r.toChat with pinned := p }) (hflag r.pinned)
  | archived => exact congrArg (fun a => { r.toChat with archived := a }) (hflag r.archived)

namespace Cache

variable {c : Cache} {f : ChatFlag} {chatId : String}

/-- Where there is no such chat, no flag is flipped. -/
theorem toggle_of_uncached (h : c.hasChat chatId = false) : c.toggle f chatId = ⟨none, c, []⟩ := by
  have hnone : c.chats.find? (·.id == chatId) = none := by
    rw [List.find?_eq_none]
    intro r hr hid
    exact Bool.false_ne_true (h.symm.trans (List.any_eq_true.mpr ⟨r, hr, hid⟩))
  rw [toggle, hnone]

theorem toggle_isSome (h : c.hasChat chatId = true) : (c.toggle f chatId).value.isSome = true := by
  obtain ⟨r, hr, hid⟩ := List.any_eq_true.mp h
  have hfound : (c.chats.find? (·.id == chatId)).isSome = true :=
    List.find?_isSome.mpr ⟨r, hr, hid⟩
  obtain ⟨found, hfound⟩ := Option.isSome_iff_exists.mp hfound
  rw [toggle, hfound]
  rfl

/-- **A flag is flipped in one row**, its ids being unique. -/
theorem toggle_of_cached {before after : List ChatRow} {r : ChatRow}
    (hc : (c.chats.map (·.id)).Nodup) (h : c.chats = before ++ r :: after) :
    c.toggle f r.id = ⟨some (decide ((r.flip f).get f ≠ 0)),
      { c with chats := before ++ r.flip f :: after }, [.chats]⟩ := by
  rw [h, List.map_append, List.map_cons] at hc
  obtain ⟨-, hrest, hapart⟩ := List.nodup_append.mp hc
  have hbefore : ∀ a ∈ before, a.id ≠ r.id := fun a ha =>
    hapart _ (List.mem_map_of_mem ha) _ (List.mem_cons_self ..)
  have hafter : ∀ a ∈ after, a.id ≠ r.id := fun a ha hid =>
    (List.nodup_cons.mp hrest).1 (hid ▸ List.mem_map_of_mem ha)
  have hfind : c.chats.find? (·.id == r.id) = some r := by
    refine List.find?_eq_some_iff_append.mpr ⟨beq_self_eq_true _, before, after, h, fun a ha => ?_⟩
    simpa using hbefore a ha
  have hothers {rows : List ChatRow} (hrows : ∀ a ∈ rows, a.id ≠ r.id) :
      (rows.map fun a => if a.id = r.id then a.flip f else a) = rows :=
    map_eq_self fun a ha => if_neg (hrows a ha)
  rw [toggle, hfind]
  dsimp only
  rw [h, List.map_append, List.map_cons, hothers hbefore, hothers hafter, if_pos rfl]

end Cache

/-! ## What is asked -/

/-- What an operation asks the server in a state of the store, if it asks anything. -/
def StoreCall.request? {σ : Type} (s : Store σ) : StoreCall → Option ChatRequest
  | .refreshChats => some .fetchChats
  | .refreshMessages chatId => some (.getChat chatId)
  | .sendMessage chatId content => some (.sendMessage chatId content)
  | .createChat title => some (.createChat (s.chosenTitle title))
  | .deleteChat chatId => some (.deleteChat chatId)
  | .toggle f chatId => if s.cache.hasChat chatId then some (.toggle f chatId) else none
  | _ => none

namespace Store

variable {σ α : Type} {api : ServerApi σ} {s t : Store σ} {c : Cache} {es : List CacheEvent}
  {rs : List ChatRequest} {r : ChatRequest} {e : Failure} {f : ChatFlag} {chatId : String}

/-- What an operation leaves behind: a cache, and what it has announced and asked. -/
structure Leaves (s t : Store σ) (c : Cache) (es : List CacheEvent) (rs : List ChatRequest) :
    Prop where
  cache : t.cache = c
  events : t.events = s.events ++ es
  requests : t.requests.map (·.1) = s.requests.map (·.1) ++ rs

namespace Leaves

theorem refl (s : Store σ) : s.Leaves s s.cache [] [] :=
  ⟨rfl, (List.append_nil _).symm, (List.append_nil _).symm⟩

theorem commit (h : s.Leaves t c es rs) (w : Written α) :
    s.Leaves (t.commit w) w.cache (es ++ w.events) rs where
  cache := rfl
  events := by rw [commit_events, h.events, List.append_assoc]
  requests := by rw [commit_requests, h.requests]

theorem ask (h : s.Leaves t c es rs) (api : ServerApi σ) (r : ChatRequest) :
    s.Leaves (t.ask api r).2 c es (rs ++ [r]) where
  cache := h.cache
  events := by rw [ask_events, h.events]
  requests := by
    rw [ask_requests, List.map_append, h.requests, List.append_assoc]
    rfl

theorem of_ask {a : Except Failure r.Answer} (h : s.ask api r = (a, t)) :
    s.Leaves t s.cache [] [r] := by
  have hask := (refl s).ask api r
  rwa [h] at hask

theorem draw (h : s.Leaves t c es rs) : s.Leaves t.draw.2 c es rs :=
  ⟨h.cache, h.events, h.requests⟩

end Leaves

theorem requests_refreshChats :
    (s.refreshChats api).2.requests.map (·.1) = s.requests.map (·.1) ++ [.fetchChats] := by
  unfold refreshChats
  split
  · rename_i h
    exact ((Leaves.of_ask h).commit _).requests
  · rename_i h
    exact (Leaves.of_ask h).requests

theorem requests_refreshMessages :
    (s.refreshMessages api chatId).2.requests.map (·.1) =
      s.requests.map (·.1) ++ [.getChat chatId] := by
  unfold refreshMessages
  split
  · rename_i h
    exact ((Leaves.of_ask h).commit _).requests
  · rename_i h
    exact (Leaves.of_ask h).requests

/-- The first half of a send is never refused, and asks nothing. -/
theorem beginSend_requests (s : Store σ) (chatId content messageId : String) :
    ∃ m t, s.beginSend chatId content messageId = (.ok m, t) ∧ t.requests = s.requests := by
  have hwrite : (s.ensureChat chatId).cache.upsertMessage (pendingMessage
      (s.ensureChat chatId).cache chatId content messageId (s.ensureChat chatId).surroundings.now) =
      .ok _ := if_pos (s.hasChat_ensureChat chatId)
  unfold beginSend
  dsimp only
  rw [hwrite]
  exact ⟨_, _, rfl, (commit_requests _ _).trans (s.ensureChat_requests chatId)⟩

theorem requests_sendMessage {content : String} :
    (s.sendMessage api chatId content).2.requests.map (·.1) =
      s.requests.map (·.1) ++ [.sendMessage chatId content] := by
  obtain ⟨m, t, hbegin, hrequests⟩ := s.draw.2.beginSend_requests chatId content s.draw.1
  have hdraw : s.draw.2.requests = s.requests := rfl
  unfold sendMessage
  dsimp only
  rw [hbegin]
  dsimp only
  rw [completeSend, commit_requests, ask_requests, hrequests, hdraw, List.map_append]
  rfl

theorem requests_createChat {title : Option String} :
    (s.createChat api title).2.requests.map (·.1) =
      s.requests.map (·.1) ++ [.createChat (s.chosenTitle title)] := by
  unfold createChat
  dsimp only
  split
  · rename_i h
    exact ((Leaves.of_ask h).commit _).requests
  · rename_i h
    split
    · exact ((Leaves.of_ask h).draw.commit _).requests
    · exact (Leaves.of_ask h).requests

/-- **A deletion answers that the chat is gone, whatever the server does**, and it is gone. -/
theorem deleteChat_leaves (api : ServerApi σ) (s : Store σ) (chatId : String) :
    (s.deleteChat api chatId).1 = .ok true ∧
      s.Leaves (s.deleteChat api chatId).2 (s.cache.dropChat chatId) [.chats, .messages chatId]
        [.deleteChat chatId] :=
  ⟨rfl, ((Leaves.refl s).commit (s.cache.deleteChat chatId)).ask api _⟩

/-- A flag of a chat that is not cached is not found, and nothing happens. -/
theorem toggle_of_uncached (h : s.cache.hasChat chatId = false) :
    s.toggle api f chatId = (.error (.notFound ("chat " ++ chatId)), s) := by
  have hsame : s.commit ⟨(none : Option Bool), s.cache, []⟩ = s := by
    rw [commit, List.map_nil, List.append_nil]
  rw [toggle, Cache.toggle_of_uncached h]
  exact congrArg (Prod.mk _) hsame

theorem requests_toggle :
    (s.toggle api f chatId).2.requests.map (·.1) =
      s.requests.map (·.1) ++ ((StoreCall.toggle f chatId).request? s).toList := by
  have hflip := (Leaves.refl s).commit (s.cache.toggle f chatId)
  rw [StoreCall.request?]
  cases hchat : s.cache.hasChat chatId with
  | false =>
    rw [toggle_of_uncached hchat]
    exact (List.append_nil _).symm
  | true =>
    -- the flip finds its row, so the server is asked
    obtain ⟨flipped, hvalue⟩ := Option.isSome_iff_exists.mp (Cache.toggle_isSome (f := f) hchat)
    have hasked := (hflip.ask api (.toggle f chatId)).requests
    unfold toggle
    dsimp only
    rw [hvalue]
    dsimp only
    split
    · rename_i h
      rwa [h] at hasked
    · rename_i h
      rw [h] at hasked
      rwa [commit_requests]

/-- **An operation asks the server at most once**, and for one known thing. -/
theorem requests_call (api : ServerApi σ) (s : Store σ) (call : StoreCall) :
    (call.run api s).2.requests.map (·.1) =
      s.requests.map (·.1) ++ (call.request? s).toList := by
  cases call with
  | refreshChats => exact requests_refreshChats
  | refreshMessages chatId => exact requests_refreshMessages
  | sendMessage chatId content => exact requests_sendMessage
  | createChat title => exact requests_createChat
  | deleteChat chatId => exact (deleteChat_leaves api s chatId).2.requests
  | toggle f chatId => exact requests_toggle
  | clearAll => exact ((Leaves.refl s).commit s.cache.clearAll).requests
  -- the remaining operations only read
  | _ => exact (Leaves.refl s).requests

/-! ## What a failure leaves -/

/-- The server fails a request. -/
def Fails (api : ServerApi σ) (s : Store σ) (r : ChatRequest) (e : Failure) : Prop :=
  (api.answer r s.server s.surroundings).1 = .error e

theorem Fails.ask (h : s.Fails api r e) : s.ask api r = (.error e, (s.ask api r).2) :=
  Prod.ext h rfl

theorem refreshChats_of_fails (h : s.Fails api .fetchChats e) :
    (s.refreshChats api).1 = .error e ∧
      s.Leaves (s.refreshChats api).2 s.cache [] [.fetchChats] := by
  rw [refreshChats, h.ask]
  exact ⟨rfl, (Leaves.refl s).ask api _⟩

theorem refreshMessages_of_fails (h : s.Fails api (.getChat chatId) e) :
    (s.refreshMessages api chatId).1 = .error e ∧
      s.Leaves (s.refreshMessages api chatId).2 s.cache [] [.getChat chatId] := by
  rw [refreshMessages, h.ask]
  exact ⟨rfl, (Leaves.refl s).ask api _⟩

/-- A flag that was flipped here stays flipped. -/
theorem toggle_of_fails {before after : List ChatRow} {row : ChatRow}
    (hs : (s.cache.chats.map (·.id)).Nodup) (hrow : s.cache.chats = before ++ row :: after)
    (h : s.Fails api (.toggle f row.id) e) :
    (s.toggle api f row.id).1 = .error e ∧
      s.Leaves (s.toggle api f row.id).2
        { s.cache with chats := before ++ row.flip f :: after } [.chats] [.toggle f row.id] := by
  have hflip := Cache.toggle_of_cached (f := f) hs hrow
  have hleaves := ((Leaves.refl s).commit (s.cache.toggle f row.id)).ask api (.toggle f row.id)
  have hfails : (s.commit (s.cache.toggle f row.id)).Fails api (.toggle f row.id) e := h
  unfold toggle
  dsimp only
  rw [hflip] at hleaves hfails ⊢
  dsimp only
  rw [hfails.ask]
  exact ⟨rfl, hleaves⟩

/-- What the world is once the server has answered. -/
def worldAfter (api : ServerApi σ) (s : Store σ) (r : ChatRequest) : Surroundings :=
  (api.answer r s.server s.surroundings).2.2

/-- If the server's side fails to create a chat, one of this device is cached. -/
theorem createChat_eq_of_remote {title : Option String}
    (h : s.Fails api (.createChat (s.chosenTitle title)) e) (he : e.isRemote = true) :
    let world := s.worldAfter api (.createChat (s.chosenTitle title))
    let localId := world.draw.1
    s.createChat api title = (.error (.offlineFallback localId e.message),
      (s.ask api (.createChat (s.chosenTitle title))).2.draw.2.commit
        (s.cache.upsertChat (.onDevice localId (s.chosenTitle title) world.now))) := by
  intro world localId
  unfold createChat
  dsimp only
  rw [h.ask]
  dsimp only
  rw [if_pos he]
  rfl

/-- A chat that the server's side failed to create is created here, under an id that is new. -/
theorem createChat_of_remote {title : Option String}
    (h : s.Fails api (.createChat (s.chosenTitle title)) e) (he : e.isRemote = true) :
    let world := s.worldAfter api (.createChat (s.chosenTitle title))
    let localId := world.draw.1
    (s.createChat api title).1 = .error (.offlineFallback localId e.message) ∧
      (localId ∉ s.cache.chats.map (·.id) →
        s.Leaves (s.createChat api title).2
          { s.cache with
            chats := s.cache.chats ++ [.ofChat (.onDevice localId (s.chosenTitle title) world.now)] }
          [.chats] [.createChat (s.chosenTitle title)]) := by
  intro world localId
  have hleaves := (Leaves.of_ask h.ask).draw.commit
    (s.cache.upsertChat (.onDevice localId (s.chosenTitle title) world.now))
  rw [createChat_eq_of_remote h he]
  refine ⟨rfl, fun hnew => ?_⟩
  have hput : (s.cache.upsertChat (.onDevice localId (s.chosenTitle title) world.now)).cache =
      { s.cache with
        chats := s.cache.chats ++ [.ofChat (.onDevice localId (s.chosenTitle title) world.now)] } := by
    rw [Cache.upsertChat, Cache.putChat, upsert_of_new hnew]
  rw [hput] at hleaves
  exact hleaves

/-- Another failure to create a chat leaves everything as it was. -/
theorem createChat_of_not_remote {title : Option String}
    (h : s.Fails api (.createChat (s.chosenTitle title)) e) (he : e.isRemote = false) :
    (s.createChat api title).1 = .error e ∧
      s.Leaves (s.createChat api title).2 s.cache [] [.createChat (s.chosenTitle title)] := by
  unfold createChat
  dsimp only
  rw [h.ask]
  dsimp only
  rw [if_neg (by rw [he]; exact Bool.false_ne_true)]
  exact ⟨rfl, Leaves.of_ask h.ask⟩

/-- **Every failing operation leaves its trace, and no other.**  No operation asks the server more
than once; the reads and the clearing of the cache do not ask it.  When the server fails a request,
a refresh passes the failure on and leaves the cache as it was.  A flag of an uncached chat is not
found and nothing happens; that of a cached one stays flipped in the row of that chat, and nothing
else differs.  A creation that fails on the server's side adds one row under a new id and names it;
any other failure of a creation is passed on, and nothing is added.  A deletion removes the chat
here and succeeds, whatever the server does.  The ids of the cached chats are unique, being the key
of their table. -/
theorem failures_leave_traces (api : ServerApi σ) (s : Store σ)
    (hs : (s.cache.chats.map (·.id)).Nodup) :
    (∀ call : StoreCall, (call.run api s).2.requests.map (·.1) =
      s.requests.map (·.1) ++ (call.request? s).toList) ∧
    (∀ e, s.Fails api .fetchChats e → (s.refreshChats api).1 = .error e ∧
      s.Leaves (s.refreshChats api).2 s.cache [] [.fetchChats]) ∧
    (∀ chatId e, s.Fails api (.getChat chatId) e → (s.refreshMessages api chatId).1 = .error e ∧
      s.Leaves (s.refreshMessages api chatId).2 s.cache [] [.getChat chatId]) ∧
    (∀ f chatId, s.cache.hasChat chatId = false →
      s.toggle api f chatId = (.error (.notFound ("chat " ++ chatId)), s)) ∧
    (∀ f before row after e, s.cache.chats = before ++ row :: after →
      s.Fails api (.toggle f row.id) e →
      (s.toggle api f row.id).1 = .error e ∧
      s.Leaves (s.toggle api f row.id).2
        { s.cache with chats := before ++ row.flip f :: after } [.chats] [.toggle f row.id] ∧
      (row.flip f).toChat = row.toChat.flip f) ∧
    (∀ title e, s.Fails api (.createChat (s.chosenTitle title)) e → e.isRemote = true →
      let world := s.worldAfter api (.createChat (s.chosenTitle title))
      let localId := world.draw.1
      (s.createChat api title).1 = .error (.offlineFallback localId e.message) ∧
      (localId ∉ s.cache.chats.map (·.id) →
        s.Leaves (s.createChat api title).2
          { s.cache with
            chats := s.cache.chats ++ [.ofChat (.onDevice localId (s.chosenTitle title) world.now)] }
          [.chats] [.createChat (s.chosenTitle title)])) ∧
    (∀ title e, s.Fails api (.createChat (s.chosenTitle title)) e → e.isRemote = false →
      (s.createChat api title).1 = .error e ∧
      s.Leaves (s.createChat api title).2 s.cache [] [.createChat (s.chosenTitle title)]) ∧
    ∀ chatId, (s.deleteChat api chatId).1 = .ok true ∧
      s.Leaves (s.deleteChat api chatId).2 (s.cache.dropChat chatId) [.chats, .messages chatId]
        [.deleteChat chatId] := by
  refine ⟨requests_call api s, fun e => refreshChats_of_fails,
    fun chatId e => refreshMessages_of_fails, fun f chatId => toggle_of_uncached,
    fun f before row after e hrow h => ?_, fun title e => createChat_of_remote,
    fun title e => createChat_of_not_remote, deleteChat_leaves api s⟩
  obtain ⟨hanswer, hleaves⟩ := toggle_of_fails hs hrow h
  exact ⟨hanswer, hleaves, row.toChat_flip f⟩

theorem failures_leave_traces_offline :
    (offlineStore.cache.chats.map (·.id)).Nodup ∧
    (offlineStore.refreshChats InMemoryServer.api).1 =
      .error (.network "fetch_chats: connection refused") ∧
    (offlineStore.toggle InMemoryServer.api .pinned "c").1 =
      .error (.network "toggle_pin_chat: connection refused") ∧
    (offlineStore.toggle InMemoryServer.api .pinned "c").2.cache.chats =
      [{ ChatRow.ofChat (.onDevice "c" "Tides" 1) with pinned := 1 }] ∧
    (offlineStore.createChat InMemoryServer.api (some " Winds ")).1 = .error (.offlineFallback "new"
      (Failure.network "create_chat: connection refused").message) ∧
    (offlineStore.createChat InMemoryServer.api (some " Winds ")).2.cache.chats =
      [.ofChat (.onDevice "c" "Tides" 1), .ofChat (.onDevice "new" "Winds" 20)] := by
  have hs : (offlineStore.cache.chats.map (·.id)).Nodup := by decide
  obtain ⟨-, hrefresh, -, -, htoggle, hcreate, -, -⟩ :=
    failures_leave_traces InMemoryServer.api offlineStore hs
  obtain ⟨hfailed, hflipped, -⟩ := htoggle .pinned [] (.ofChat (.onDevice "c" "Tides" 1)) []
    (.network "toggle_pin_chat: connection refused") rfl rfl
  obtain ⟨hfallback, hcreated⟩ := hcreate (some " Winds ")
    (.network "create_chat: connection refused") rfl rfl
  refine ⟨hs, (hrefresh _ rfl).1, hfailed, ?_, hfallback, ?_⟩
  · exact congrArg Cache.chats hflipped.cache
  · exact congrArg Cache.chats (hcreated (by decide)).cache

end Store
end OfflineChat
