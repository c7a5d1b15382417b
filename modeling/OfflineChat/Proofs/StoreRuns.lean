import OfflineChat.Cache.Edit
import OfflineChat.Store.Basic

/-! # Runs of a store

A run is a list of steps: writes of the cache by anyone, operations of the store
with whatever a server answers, and the two halves of a send on their own, so
that several sends can be under way at once.  Between steps the server, the
clock and the supply of ids may become anything.

Whatever a step does to the cache, it does by writes (`Cache.LeadsTo`), and it
announces what these announce, in their order and nothing else
(`Store.proceeds_step`).  A property of the cache that every write keeps is
therefore kept by every run, and only the writes have to be looked at.
-/
namespace OfflineChat

/-! ## Writes in sequence -/

namespace Cache

/-- One cache leads to another by writes, which announce the events in their order. -/
inductive LeadsTo : Cache → List CacheEvent → Cache → Prop
  | refl (c : Cache) : LeadsTo c [] c
  | write {c d e : Cache} {w : CacheWrite} {es fs : List CacheEvent}
      (h : w.run c = .ok (d, es)) (rest : LeadsTo d fs e) : LeadsTo c (es ++ fs) e

namespace LeadsTo

variable {c d e : Cache} {es fs : List CacheEvent}

theorem single {w : CacheWrite} (h : w.run c = .ok (d, es)) : c.LeadsTo es d := by
  have hd := write h (refl d)
  rwa [List.append_nil] at hd

theorem trans (h : c.LeadsTo es d) (h' : d.LeadsTo fs e) : c.LeadsTo (es ++ fs) e := by
  induction h with
  | refl _ => exact h'
  | write hw _ ih =>
    rw [List.append_assoc]
    exact write hw (ih h')

/-- What every write keeps, writes in sequence keep. -/
theorem keeps {P : Cache → Prop}
    (hkeep : ∀ {c d : Cache} {w : CacheWrite} {es}, P c → w.run c = .ok (d, es) → P d)
    (h : c.LeadsTo es d) (hc : P c) : P d := by
  induction h with
  | refl _ => exact hc
  | write hw _ ih => exact ih (hkeep hc hw)

end LeadsTo
end Cache

/-! ## Operations and steps -/

/-- An operation of the store, as data. -/
inductive StoreCall where
  | refreshChats
  | refreshMessages (chatId : String)
  | sendMessage (chatId content : String)
  | createChat (title : Option String)
  | deleteChat (chatId : String)
  | toggle (f : ChatFlag) (chatId : String)
  | clearAll
  | cachedChats
  | cachedMessages (chatId : String)
  | cachedChat (chatId : String)
  | attachments (chatId messageId : String)
  | searchChats (query : String)
  | failedMessages (chatId : String)
  | offlineChatCount
  | stats

namespace StoreCall

/-- The type of what an operation answers. -/
def Answer : StoreCall → Type
  | refreshChats => Nat
  | refreshMessages _ => List Message
  | sendMessage .. => String
  | createChat _ => CachedChat
  | deleteChat _ => Bool
  | toggle .. => CachedChat
  | clearAll => Unit
  | cachedChats => List ChatListEntry
  | cachedMessages _ => List CachedMessage
  | cachedChat _ => Option CachedChat
  | attachments .. => List CachedAttachment
  | searchChats _ => List CachedChat
  | failedMessages _ => List CachedMessage
  | offlineChatCount => Nat
  | stats => CacheStats

/-- Carry out an operation. -/
def run {σ : Type} (api : ServerApi σ) : (c : StoreCall) → StoreOp σ c.Answer
  | refreshChats => Store.refreshChats api
  | refreshMessages chatId => Store.refreshMessages api chatId
  | sendMessage chatId content => Store.sendMessage api chatId content
  | createChat title => Store.createChat api title
  | deleteChat chatId => Store.deleteChat api chatId
  | toggle f chatId => Store.toggle api f chatId
  | clearAll => Store.clearAll
  | cachedChats => Store.cachedChats
  | cachedMessages chatId => Store.cachedMessages chatId
  | cachedChat chatId => Store.cachedChat chatId
  | attachments chatId messageId => Store.attachments chatId messageId
  | searchChats query => Store.searchChats query
  | failedMessages chatId => Store.failedMessages chatId
  | offlineChatCount => Store.offlineChatCount
  | stats => Store.stats

end StoreCall

/-- Something that happens at a store, over the states of a server. -/
inductive StoreStep (σ : Type) where
  /-- A write of the cache, by anyone. -/
  | write (w : CacheWrite)
  /-- An operation of the store. -/
  | call (c : StoreCall)
  /-- The half of a send that comes before the request. -/
  | beginSend (chatId content messageId : String)
  /-- The half of a send that comes after the answer. -/
  | completeSend (chatId messageId : String) (status : MessageStatus)
  /-- The world moves on, and the cache stays. -/
  | elsewhere (server : σ) (surroundings : Surroundings) (defaultTitle : String)

/-- Something that happens to a cache in use: a step of its store, or the file is closed and opened
again with some layout number stored in it. -/
inductive SessionStep (σ : Type) where
  | step (x : StoreStep σ)
  | reopen (layout : Int)

namespace Store

variable {σ α : Type}

/-- A store whose cache is new. -/
def fresh (server : σ) (surroundings : Surroundings) (defaultTitle : String) : Store σ :=
  ⟨.fresh, server, surroundings, defaultTitle, []⟩

/-- A write of the cache; one that is refused leaves everything as it was. -/
def write (w : CacheWrite) : StoreOp σ Unit := fun s =>
  match w.run s.cache with
  | .ok (c, es) => (.ok (), s.commit ⟨(), c, es⟩)
  | .error e => (.error e, s)

/-- Take one step. -/
def step (api : ServerApi σ) (s : Store σ) : StoreStep σ → Store σ
  | .write w => (s.write w).2
  | .call c => (c.run api s).2
  | .beginSend chatId content messageId => (s.beginSend chatId content messageId).2
  | .completeSend chatId messageId status => s.completeSend chatId messageId status
  | .elsewhere server surroundings defaultTitle =>
    { s with server := server, surroundings := surroundings, defaultTitle := defaultTitle }

/-- Close the cache and open it again, the number of its layout being as given. -/
def reopen (layout : Int) (s : Store σ) : Store σ :=
  { s with cache := (s.cache.editLayout layout).opened }

/-- Take one step of a session. -/
def sessionStep (api : ServerApi σ) (s : Store σ) : SessionStep σ → Store σ
  | .step x => s.step api x
  | .reopen layout => s.reopen layout

/-- Take the steps of a session one after the other. -/
def session (api : ServerApi σ) (s : Store σ) (steps : List (SessionStep σ)) : Store σ :=
  steps.foldl (sessionStep api) s

@[simp] theorem commit_cache (s : Store σ) (w : Written α) : (s.commit w).cache = w.cache := rfl

@[simp] theorem commit_events (s : Store σ) (w : Written α) :
    (s.commit w).events = s.events ++ w.events := by
  simp only [events, commit, List.filterMap_append, List.filterMap_map]
  exact congrArg _ List.filterMap_some

@[simp] theorem ask_cache (api : ServerApi σ) (s : Store σ) (r : ChatRequest) :
    (s.ask api r).2.cache = s.cache := rfl

theorem cache_of_ask {api : ServerApi σ} {s t : Store σ} {r : ChatRequest}
    {a : Except Failure r.Answer} (h : s.ask api r = (a, t)) : t.cache = s.cache := by
  have hcache := ask_cache api s r
  rwa [h] at hcache

@[simp] theorem ask_events (api : ServerApi σ) (s : Store σ) (r : ChatRequest) :
    (s.ask api r).2.events = s.events := by
  simp [events, ask, List.filterMap_append]

/-! ## What a step does to the cache -/

/-- One store comes to another: the cache by writes, and the events of these are what the trace has
gained. -/
def Proceeds (s t : Store σ) : Prop :=
  ∃ es, s.cache.LeadsTo es t.cache ∧ t.events = s.events ++ es

namespace Proceeds

variable {s t u : Store σ}

theorem of_same (hc : t.cache = s.cache) (he : t.events = s.events) : s.Proceeds t :=
  ⟨[], hc ▸ .refl _, by rw [he, List.append_nil]⟩

theorem refl (s : Store σ) : s.Proceeds s := of_same rfl rfl

theorem trans (h : s.Proceeds t) (h' : t.Proceeds u) : s.Proceeds u := by
  obtain ⟨es, hc, he⟩ := h
  obtain ⟨fs, hc', he'⟩ := h'
  exact ⟨es ++ fs, hc.trans hc', by rw [he', he, List.append_assoc]⟩

theorem commit {W : Written α} {w : CacheWrite} (h : w.run s.cache = .ok (W.cache, W.events)) :
    s.Proceeds (s.commit W) :=
  ⟨W.events, .single h, commit_events s W⟩

theorem ask (api : ServerApi σ) (s : Store σ) (r : ChatRequest) : s.Proceeds (s.ask api r).2 :=
  of_same rfl (ask_events api s r)

theorem of_ask {api : ServerApi σ} {r : ChatRequest} {a : Except Failure r.Answer}
    (h : s.ask api r = (a, t)) : s.Proceeds t := by
  have hask := Proceeds.ask api s r
  rwa [h] at hask

theorem draw (s : Store σ) : s.Proceeds s.draw.2 := of_same rfl rfl

end Proceeds

variable (api : ServerApi σ) (s : Store σ)

theorem proceeds_write (w : CacheWrite) : s.Proceeds (s.write w).2 := by
  unfold write
  split
  · rename_i c es h
    exact .commit (W := ⟨(), c, es⟩) h
  · exact .refl s

theorem proceeds_ensureChat (chatId : String) : s.Proceeds (s.ensureChat chatId) := by
  unfold ensureChat
  split
  · exact .refl s
  · exact .commit (w := .upsertChat (.onDevice chatId s.defaultTitle s.surroundings.now)) rfl

theorem proceeds_beginSend (chatId content messageId : String) :
    s.Proceeds (s.beginSend chatId content messageId).2 := by
  have hensure := s.proceeds_ensureChat chatId
  unfold beginSend
  generalize s.ensureChat chatId = t at hensure
  dsimp only
  split
  · rename_i w h
    refine hensure.trans (.commit (w := .upsertMessage
      (pendingMessage t.cache chatId content messageId t.surroundings.now)) ?_)
    rw [CacheWrite.run, h]
    rfl
  · exact hensure

theorem proceeds_completeSend (chatId messageId : String) (status : MessageStatus) :
    s.Proceeds (s.completeSend chatId messageId status) :=
  .commit (w := .setMessageStatus chatId messageId status) rfl

theorem proceeds_sendMessage (chatId content : String) :
    s.Proceeds (s.sendMessage api chatId content).2 := by
  have hbegin := (Proceeds.draw s).trans (s.draw.2.proceeds_beginSend chatId content s.draw.1)
  unfold sendMessage
  dsimp only
  split
  · rename_i h
    rwa [h] at hbegin
  · rename_i t h
    rw [h] at hbegin
    exact (hbegin.trans (.ask api t _)).trans (proceeds_completeSend _ _ _ _)

theorem proceeds_refreshChats : s.Proceeds (s.refreshChats api).2 := by
  unfold refreshChats
  split
  · rename_i summaries t h
    exact (Proceeds.of_ask h).trans (.commit (w := .upsertSummaries summaries) rfl)
  · rename_i h
    exact .of_ask h

theorem proceeds_refreshMessages (chatId : String) :
    s.Proceeds (s.refreshMessages api chatId).2 := by
  unfold refreshMessages
  split
  · rename_i chat t h
    exact (Proceeds.of_ask h).trans (.commit (w := .applySnapshot chat (Chat.thread chat)) rfl)
  · rename_i h
    exact .of_ask h

theorem proceeds_createChat (title : Option String) : s.Proceeds (s.createChat api title).2 := by
  unfold createChat
  dsimp only
  split
  · rename_i chat t h
    exact (Proceeds.of_ask h).trans (.commit (w := .upsertChat (.ofChat chat)) rfl)
  · rename_i e t h
    have hask := Proceeds.of_ask h
    split
    · -- the server cannot be reached, and the chat is created here
      exact (hask.trans (.draw t)).trans (.commit
        (w := .upsertChat (.onDevice t.draw.1 (s.chosenTitle title) t.draw.2.surroundings.now)) rfl)
    · exact hask

theorem proceeds_deleteChat (chatId : String) : s.Proceeds (s.deleteChat api chatId).2 :=
  (Proceeds.commit (w := .deleteChat chatId) rfl).trans (.ask api _ _)

theorem proceeds_toggle (f : ChatFlag) (chatId : String) :
    s.Proceeds (s.toggle api f chatId).2 := by
  have hflip : s.Proceeds (s.commit (s.cache.toggle f chatId)) :=
    .commit (w := .toggle f chatId) rfl
  unfold toggle
  dsimp only
  split
  · exact hflip
  · split
    · rename_i h
      exact hflip.trans (.of_ask h)
    · rename_i chat t h
      exact (hflip.trans (.of_ask h)).trans (.commit (w := .upsertChat (.ofChat chat)) rfl)

theorem proceeds_call (c : StoreCall) : s.Proceeds (c.run api s).2 := by
  cases c with
  | refreshChats => exact s.proceeds_refreshChats api
  | refreshMessages chatId => exact s.proceeds_refreshMessages api chatId
  | sendMessage chatId content => exact s.proceeds_sendMessage api chatId content
  | createChat title => exact s.proceeds_createChat api title
  | deleteChat chatId => exact s.proceeds_deleteChat api chatId
  | toggle f chatId => exact s.proceeds_toggle api f chatId
  | clearAll => exact .commit (w := .clearAll) rfl
  -- the remaining operations only read
  | _ => exact .refl s

/-- **Every step changes the cache by writes, and announces what they announce.** -/
theorem proceeds_step (x : StoreStep σ) : s.Proceeds (s.step api x) := by
  cases x with
  | write w => exact s.proceeds_write w
  | call c => exact s.proceeds_call api c
  | beginSend chatId content messageId => exact s.proceeds_beginSend chatId content messageId
  | completeSend chatId messageId status => exact s.proceeds_completeSend chatId messageId status
  | elsewhere => exact .of_same rfl rfl

/-- **What every write and every opening keeps, every session keeps.** -/
theorem session_keeps {P : Cache → Prop}
    (hwrite : ∀ {c d : Cache} {w : CacheWrite} {es}, P c → w.run c = .ok (d, es) → P d)
    (hopen : ∀ {c : Cache} (layout : Int), P c → P (c.editLayout layout).opened)
    (steps : List (SessionStep σ)) (hs : P s.cache) : P (s.session api steps).cache := by
  induction steps generalizing s with
  | nil => exact hs
  | cons x rest ih =>
    refine ih (s.sessionStep api x) ?_
    cases x with
    | step x =>
      obtain ⟨es, hc, -⟩ := s.proceeds_step api x
      exact hc.keeps hwrite hs
    | reopen layout => exact hopen layout hs

end Store
end OfflineChat
