import OfflineChat.Proofs.ChatParts
import OfflineChat.Proofs.LiveFreshness
import OfflineChat.Proofs.RepeatedPuts

/-! # Refreshes that are repeated or change places

A refresh writes what the server answers: a snapshot of a chat, or the list of
chats.  The same answer written again changes nothing
(`Cache.write_write_of_isRefresh`), so a live view that shows what its query
answers emits nothing the second time (`LiveView.silent_of_unchanged`).

The list says less of a chat than a snapshot does.  If the two agree about a
chat, the list adds nothing to a snapshot of it, and a snapshot makes the list
before it forgotten; so the two may change places (`Cache.part_swap`).
-/
namespace OfflineChat

namespace ChatRow

/-- What is stored for a row of the server's list, if there is a row already. -/
def summaryOver (new : ChatRow) : Option ChatRow → ChatRow
  | none => new
  | some old => old.withSummary new

/-- A row of the server's list covers an earlier one of the same chat. -/
theorem covers_withSummary (ss : List ChatSummary) :
    Covers ChatRow.id withSummary summaryOver (ss.map ofSummary) where
  first _ _ := rfl
  again _ _ _ _ := rfl
  covers a ha b hb hab old? := by
    cases old? with
    | none =>
      obtain ⟨s, -, rfl⟩ := List.mem_map.mp ha
      obtain ⟨t, -, rfl⟩ := List.mem_map.mp hb
      have hid : s.id = t.id := hab
      simp only [summaryOver, withSummary, ofSummary, hid]
    | some old => rfl

/-- The list says nothing of a chat that a snapshot of it does not say. -/
theorem withSummary_summary (chat : Chat) :
    (ofChat (.ofChat chat)).withSummary (ofSummary chat.summary) = ofChat (.ofChat chat) := rfl

end ChatRow

/-! ## The same answer twice -/

namespace Cache

theorem upsertSummaries_cache (c : Cache) (ss : List ChatSummary) :
    (c.upsertSummaries ss).cache = { c with
      chats := upsertAll ChatRow.id ChatRow.withSummary (ss.map .ofSummary) c.chats } := by
  show ss.foldl putSummary c = _
  induction ss generalizing c with
  | nil => rfl
  | cons s rest ih => exact ih (c.putSummary s)

theorem applySnapshot_cache (c : Cache) (chat : Chat) (thread : List Message) :
    (c.applySnapshot chat thread).cache = {
      chats := upsert ChatRow.id (fun _ new => new) (.ofChat (.ofChat chat)) c.chats
      messages := upsertAll MessageRow.key (fun _ new => new) (thread.map (serverRow chat.id))
        c.messages
      attachments := upsertAll CachedAttachment.key CachedAttachment.keepingPath
        (thread.flatMap (attachmentsFor chat.id)) c.attachments
      layout := c.layout } := by
  have hchats := applySnapshot_chats c chat thread
  have hmessages := applySnapshot_messages c chat thread
  have hattachments := applySnapshot_attachments c chat thread
  have hlayout := applySnapshot_layout c chat thread
  generalize (c.applySnapshot chat thread).cache = d at *
  cases d
  cases hchats
  cases hmessages
  cases hattachments
  cases hlayout
  rfl

theorem covers_attachmentsFor (chatId : String) (thread : List Message) :
    Covers CachedAttachment.key CachedAttachment.keepingPath CachedAttachment.withPathOf
      (thread.flatMap (attachmentsFor chatId)) := by
  refine CachedAttachment.covers_keepingPath fun a ha => ?_
  obtain ⟨m, -, ha⟩ := List.mem_flatMap.mp ha
  exact CachedAttachment.localPath_of_mem ha

/-- The same list again changes nothing. -/
theorem upsertSummaries_upsertSummaries (c : Cache) (ss : List ChatSummary) :
    ((c.upsertSummaries ss).cache.upsertSummaries ss).cache = (c.upsertSummaries ss).cache := by
  simp only [upsertSummaries_cache]
  rw [upsertAll_upsertAll ChatRow.keepsKey_withSummary (ChatRow.covers_withSummary ss)]

/-- The same snapshot again changes nothing. -/
theorem applySnapshot_applySnapshot (c : Cache) (chat : Chat) (thread : List Message) :
    ((c.applySnapshot chat thread).cache.applySnapshot chat thread).cache =
      (c.applySnapshot chat thread).cache := by
  simp only [applySnapshot_cache]
  rw [upsert_upsert (keepsKey_replace ChatRow.id) rfl rfl (fun _ _ => rfl) rfl,
    upsertAll_upsertAll (keepsKey_replace MessageRow.key) (covers_replace _ _),
    upsertAll_upsertAll CachedAttachment.keepsKey_keepingPath (covers_attachmentsFor _ _)]

end Cache

/-- A write of what the server answers to a refresh. -/
def CacheWrite.IsRefresh : CacheWrite → Prop
  | .applySnapshot .. | .upsertSummaries _ => True
  | _ => False

/-- **A refresh with the same answer changes nothing the second time.** -/
theorem Cache.write_write_of_isRefresh {w : CacheWrite} (hw : w.IsRefresh) (c : Cache) :
    (c.write w).write w = c.write w := by
  cases w with
  | applySnapshot chat thread => exact applySnapshot_applySnapshot c chat thread
  | upsertSummaries ss => exact upsertSummaries_upsertSummaries c ss
  | _ => exact hw.elim

/-! ## Lists and snapshots -/

namespace Cache

variable {c : Cache} {chat : Chat} {ss : List ChatSummary}

/-- A snapshot makes what a list said of the chat before it forgotten. -/
theorem applySnapshot_upsertSummaries (hss : ∀ s ∈ ss, s.id = chat.id) (thread : List Message) :
    ((c.upsertSummaries ss).cache.applySnapshot chat thread).cache =
      (c.applySnapshot chat thread).cache := by
  have hids : ∀ a ∈ ss.map ChatRow.ofSummary, a.id = (ChatRow.ofChat (.ofChat chat)).id := by
    rw [List.forall_mem_map]
    exact hss
  simp only [upsertSummaries_cache, applySnapshot_cache]
  rw [upsert_upsertAll_of_key ChatRow.keepsKey_withSummary hids]

/-- A list adds nothing to a snapshot, if the two agree about the chat. -/
theorem upsertSummaries_applySnapshot (hss : ∀ s ∈ ss, s.id = chat.id)
    (hlast : ∀ s ∈ ss.getLast?, s = chat.summary) (thread : List Message) :
    ((c.applySnapshot chat thread).cache.upsertSummaries ss).cache =
      (c.applySnapshot chat thread).cache := by
  have hkey : (ChatRow.ofChat (.ofChat chat)).id = (ChatRow.ofSummary chat.summary).id := rfl
  have hput (rows : List ChatRow) :
      upsert ChatRow.id ChatRow.withSummary (.ofSummary chat.summary)
        (upsert ChatRow.id (fun _ new => new) (.ofChat (.ofChat chat)) rows) =
      upsert ChatRow.id (fun _ new => new) (.ofChat (.ofChat chat)) rows :=
    upsert_upsert (keepsKey_replace ChatRow.id) hkey hkey
      (fun _ _ => ChatRow.withSummary_summary chat) (ChatRow.withSummary_summary chat) rows
  simp only [upsertSummaries_cache, applySnapshot_cache]
  rcases ss.eq_nil_or_concat' with rfl | ⟨before, s, rfl⟩
  · rfl
  · -- all entries are about the chat, so the last one counts, which the snapshot has said already
    obtain rfl : s = chat.summary := hlast s (by rw [List.getLast?_concat]; rfl)
    have hkeys : ∀ a ∈ before.map ChatRow.ofSummary ++ [.ofSummary chat.summary],
        a ∈ (before ++ [chat.summary]).map ChatRow.ofSummary ∧ a.id = chat.id := by
      intro a ha
      have hmem : a ∈ (before ++ [chat.summary]).map ChatRow.ofSummary := by
        rw [List.map_append]
        exact ha
      obtain ⟨s, hs, rfl⟩ := List.mem_map.mp hmem
      exact ⟨hmem, hss s hs⟩
    rw [List.map_append, List.map_singleton,
      (ChatRow.covers_withSummary _).upsertAll_of_key ChatRow.keepsKey_withSummary hkeys, hput]

/-- A part takes from a list what the list says of its chat. -/
theorem part_upsertSummaries (c : Cache) (ss : List ChatSummary) (chatId : String) :
    (c.upsertSummaries ss).cache.part chatId =
      ((c.part chatId).upsertSummaries (ss.filter (·.id == chatId))).cache := by
  have hchats := filter_upsertAll ChatRow.keepsKey_withSummary (p := (·.id == chatId))
    (fun a b hab => congrArg (· == chatId) hab) (ss.map .ofSummary) c.chats
  rw [List.filter_map] at hchats
  simp only [upsertSummaries_cache]
  exact congrArg (fun rows => { c.part chatId with chats := rows }) hchats

/-- **A list and a snapshot that agree about the chat may change places**, for every chat. -/
theorem part_swap (hlast : ∀ s ∈ (ss.filter (·.id == chat.id)).getLast?, s = chat.summary)
    (thread : List Message) (chatId : String) :
    ((c.upsertSummaries ss).cache.applySnapshot chat thread).cache.part chatId =
      ((c.applySnapshot chat thread).cache.upsertSummaries ss).cache.part chatId := by
  have hlocal := local_applySnapshot chat thread
  by_cases hid : chat.id = chatId
  · subst hid
    have hself (c : Cache) : (c.applySnapshot chat thread).cache.part chat.id =
        ((c.part chat.id).applySnapshot chat thread).cache := hlocal.part_self c
    have hss : ∀ s ∈ ss.filter (·.id == chat.id), s.id = chat.id := fun s hs =>
      eq_of_beq (List.mem_filter.mp hs).2
    rw [hself, part_upsertSummaries, applySnapshot_upsertSummaries hss, part_upsertSummaries,
      hself, upsertSummaries_applySnapshot hss hlast]
  · have hother (c : Cache) : (c.applySnapshot chat thread).cache.part chatId =
        c.part chatId := hlocal.part_of_ne hid c
    rw [hother, part_upsertSummaries, part_upsertSummaries, hother]

end Cache

/-! ## Views that have nothing to say -/

namespace LiveView

variable {σ : Type} {v : LiveView} {c : Cache} {q : LiveQuery}

/-- A view that shows what its query answers. -/
def Settled (v : LiveView) (c : Cache) : Prop := v.watcher.last = v.watcher.query.read c

theorem Settled.hear (h : v.Settled c) (es : List CacheEvent) : (v.hear es).Settled c := by
  show (es.foldl Watcher.announce v.watcher).last = _
  rw [Watcher.foldl_announce_last, h]
  exact congrArg (LiveQuery.read c) (Watcher.foldl_announce_query v.watcher es).symm

/-- Reading again what was emitted last emits nothing. -/
theorem reread_of_eq {w : Watcher} (h : w.last = w.query.read c) : w.reread c = (w, none) :=
  if_pos h.symm

theorem Settled.take (h : v.Settled c) :
    (v.take c).emitted = v.emitted ∧ (v.take c).Settled c := by
  have hnone : (v.watcher.take c).2 = none ∧ (v.watcher.take c).1.last = v.watcher.last := by
    unfold Watcher.take
    split
    · rw [reread_of_eq (w := { v.watcher with lagged := false }) h]
      exact ⟨rfl, rfl⟩
    · split
      · exact ⟨rfl, rfl⟩
      · rename_i e rest hwait
        dsimp only
        split
        · rw [reread_of_eq (w := { v.watcher with waiting := rest }) h]
          exact ⟨rfl, rfl⟩
        · exact ⟨rfl, rfl⟩
  constructor
  · show v.emitted ++ (v.watcher.take c).2.toList = v.emitted
    rw [hnone.1]
    exact List.append_nil _
  · show (v.watcher.take c).1.last = (v.watcher.take c).1.query.read c
    rw [hnone.2, Watcher.take_query]
    exact h

/-- **A view that shows what its query answers emits nothing**, whatever it has heard. -/
theorem Settled.catchUp (h : v.Settled c) : (v.catchUp c).emitted = v.emitted := by
  unfold LiveView.catchUp
  generalize List.range (v.watcher.waiting.length + 1) = l
  induction l generalizing v with
  | nil => rfl
  | cons n rest ih =>
    obtain ⟨hemitted, hsettled⟩ := h.take
    rw [List.foldl_cons, ih hsettled, hemitted]

theorem Tracks.settled_catchUp (h : v.Tracks q c) : (v.catchUp c).Settled c := by
  have hcaught : (v.catchUp c).Tracks q c := h.takes _
  obtain ⟨hwait, hlag⟩ := Watcher.backlog_eq_zero.mp (catchUp_backlog v c)
  exact hcaught.follows.last_eq hwait hlag

/-- **A write that changes nothing is not seen** by a view that has caught up. -/
theorem silent_of_unchanged (api : ServerApi σ) {s : Store σ} (h : v.Tracks q s.cache)
    {w : CacheWrite} (hw : s.cache.write w = s.cache) :
    let r := follow api (v.catchUp s.cache, s) (.store (.write w))
    (r.1.catchUp r.2.cache).emitted = (v.catchUp s.cache).emitted := by
  intro r
  have hcache : r.2.cache = s.cache := (s.cache_write w).trans hw
  rw [hcache]
  exact (h.settled_catchUp.hear (newEvents s (s.write w).2)).catchUp

end LiveView
end OfflineChat
