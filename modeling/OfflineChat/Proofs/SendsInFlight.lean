import Mathlib.Data.List.Nodup
import OfflineChat.Proofs.ChatMessages

/-! # Sends that are under way at once

Several sends to a chat are under way at once: each puts its message into the
cache in its first half and marks it in its second, and the halves come in any
order.  A message is put under the newest one that has not failed, which may be
under way itself and fail afterwards.  So a message can hang under a failed one
(`Store.crossed_parent_failed`), and it does exactly if its parent failed after
the message had been put there (`Store.parent_failed_iff_later`).
-/
namespace OfflineChat

/-- No two messages of a chat have one id. -/
theorem Cache.Intact.chatRows_id_nodup {c : Cache} (h : c.Intact) (chatId : String) :
    ((c.chatRows chatId).map (·.id)).Nodup := by
  have hkeys : ((c.chatRows chatId).map (·.key)).Nodup :=
    h.messages_nodup.sublist (List.filter_sublist.map _)
  have hkey : (c.chatRows chatId).map (·.key) =
      ((c.chatRows chatId).map (·.id)).map (chatId, ·) := by
    rw [List.map_map]
    exact List.map_congr_left fun r hr => Prod.ext (eq_of_beq (List.mem_filter.mp hr).2) rfl
  rw [hkey] at hkeys
  exact List.Nodup.of_map _ hkeys

/-- A half of a send that has happened. -/
inductive SendEvent where
  /-- A message was cached as pending. -/
  | began (messageId : String)
  /-- The server answered, and the message was marked. -/
  | ended (messageId : String) (delivered : Bool)

/-- The rows of a chat after halves of sends to it: each message of a send hangs under a row of the
chat that failed, if it did, after the message had been put there. -/
structure Linked (log : List SendEvent) (rows : List MessageRow) : Prop where
  nodup : (rows.map (·.id)).Nodup
  began : ∀ id, .began id ∈ log → id ∈ rows.map (·.id)
  parents : ∀ before id after, log = before ++ .began id :: after →
    ∀ r ∈ rows, r.id = id → ∀ q ∈ r.parentId,
      ∃ p ∈ rows, p.id = q ∧ (p.isFailed = true ↔ .ended q false ∈ after)

namespace Linked

variable {log : List SendEvent} {rows : List MessageRow}

theorem start (h : (rows.map (·.id)).Nodup) : Linked [] rows where
  nodup := h
  began id hid := (List.not_mem_nil hid).elim
  parents before id after hlog := by simp at hlog

/-- A new row comes under one that has not failed by now. -/
theorem begin (h : Linked log rows) (new : MessageRow) (hnew : ∀ r ∈ rows, r.id ≠ new.id)
    (hparent : ∀ q ∈ new.parentId, ∃ p ∈ rows, p.id = q ∧ p.isFailed = false) :
    Linked (log ++ [.began new.id]) (rows ++ [new]) where
  nodup := by
    rw [List.map_append, List.nodup_append]
    refine ⟨h.nodup, List.pairwise_singleton _ _, ?_⟩
    intro id hid id' hid' heq
    obtain ⟨r, hr, rfl⟩ := List.mem_map.mp hid
    exact hnew r hr (heq.trans (List.mem_singleton.mp hid'))
  began id hid := by
    rw [List.map_append, List.mem_append]
    rcases List.mem_append.mp hid with hid | hid
    · exact .inl (h.began id hid)
    · cases List.mem_singleton.mp hid
      exact .inr (List.mem_singleton_self _)
  parents before id after hlog r hr hid q hq := by
    rcases eq_or_of_snoc_eq hlog with ⟨rfl, hbegan, rfl⟩ | ⟨rest, rfl, rfl⟩
    · cases hbegan
      rcases List.mem_append.mp hr with hr | hr
      · exact absurd hid (hnew r hr)
      · obtain rfl := List.mem_singleton.mp hr
        obtain ⟨p, hp, hpq, hfailed⟩ := hparent q hq
        exact ⟨p, List.mem_append_left _ hp, hpq, by simp [hfailed]⟩
    · rcases List.mem_append.mp hr with hr | hr
      · obtain ⟨p, hp, hpq, hfailed⟩ := h.parents before id rest rfl r hr hid q hq
        exact ⟨p, List.mem_append_left _ hp, hpq, hfailed.trans (by simp)⟩
      · -- the new row is none of those begun before
        obtain rfl := List.mem_singleton.mp hr
        obtain ⟨r', hr', hid'⟩ := List.mem_map.mp (h.began id (by simp))
        exact absurd (hid'.trans hid.symm) (hnew r' hr')

/-- A row is marked once. -/
theorem finish (h : Linked log rows) {messageId : String} (delivered : Bool)
    (hopen : ∀ d, .ended messageId d ∉ log) :
    Linked (log ++ [.ended messageId delivered])
      (rows.map (·.mark messageId (if delivered then .sent else .failed))) := by
  generalize hstatus : (if delivered then MessageStatus.sent else .failed) = status
  have hids : (rows.map (·.mark messageId status)).map (·.id) = rows.map (·.id) := by
    rw [List.map_map]
    exact List.map_congr_left fun r _ => MessageRow.mark_id
  refine ⟨hids ▸ h.nodup, fun id hbegan => ?_, fun before id after hlog r hr hid q hq => ?_⟩
  · rw [hids]
    rcases List.mem_append.mp hbegan with hbegan | hbegan
    · exact h.began id hbegan
    · cases List.mem_singleton.mp hbegan
  · rcases eq_or_of_snoc_eq hlog with ⟨-, hbegan, -⟩ | ⟨rest, rfl, rfl⟩
    · cases hbegan
    · obtain ⟨old, hold, rfl⟩ := List.mem_map.mp hr
      rw [MessageRow.mark_id] at hid
      rw [MessageRow.mark_parentId] at hq
      obtain ⟨p, hp, rfl, hfailed⟩ := h.parents before id rest rfl old hold hid q hq
      refine ⟨p.mark messageId status, List.mem_map_of_mem hp, MessageRow.mark_id, ?_⟩
      rw [List.mem_append, List.mem_singleton]
      by_cases hmarked : p.id = messageId
      · -- the parent itself is marked, for the first time
        subst hmarked
        have hfirst : .ended p.id false ∉ rest := fun hin => hopen false (by simp [hin])
        rw [MessageRow.mark_of_id rfl, ← hstatus]
        cases delivered <;> simp [MessageRow.isFailed, MessageStatus.name, hfirst]
      · rw [MessageRow.mark_of_ne hmarked]
        simp [hmarked, hfailed]

end Linked

namespace Store

variable {σ : Type}

/-- Sends to a chat that are under way at once, with the log of their halves.  The id of each is
new in the chat, and each ends once; between the halves come steps that are not about the messages
of the chat. -/
inductive SendsInFlight (api : ServerApi σ) (chatId : String) (s : Store σ) :
    List SendEvent → Store σ → Prop
  | start : SendsInFlight api chatId s [] s
  | begin {log : List SendEvent} {t : Store σ} (h : SendsInFlight api chatId s log t)
      (content messageId : String) (hnew : ∀ r ∈ t.cache.chatRows chatId, r.id ≠ messageId) :
      SendsInFlight api chatId s (log ++ [.began messageId])
        (t.beginSend chatId content messageId).2
  | finish {log : List SendEvent} {t : Store σ} (h : SendsInFlight api chatId s log t)
      {messageId : String} (delivered : Bool) (hbegan : .began messageId ∈ log)
      (hopen : ∀ d, .ended messageId d ∉ log) :
      SendsInFlight api chatId s (log ++ [.ended messageId delivered])
        (t.completeSend chatId messageId (if delivered then .sent else .failed))
  | other {log : List SendEvent} {t : Store σ} (h : SendsInFlight api chatId s log t)
      {x : StoreStep σ} (hx : x.Spares api t chatId) : SendsInFlight api chatId s log (t.step api x)

variable {api : ServerApi σ} {chatId : String} {s t : Store σ} {log : List SendEvent}

/-- **The cached rows of the chat stay linked**, whichever half comes next. -/
theorem SendsInFlight.linked (h : SendsInFlight api chatId s log t)
    (hids : ((s.cache.chatRows chatId).map (·.id)).Nodup) :
    Linked log (t.cache.chatRows chatId) := by
  induction h with
  | start => exact .start hids
  | @begin log t _ content messageId hnew ih =>
    rw [chatRows_beginSend content hnew]
    exact ih.begin (t.sendRow chatId content messageId _ .pending) hnew
      fun q hq => Cache.exists_of_latestMessageOf hq
  | finish _ delivered _ hopen ih =>
    rw [chatRows_completeSend]
    exact ih.finish delivered hopen
  | other _ hx ih =>
    rw [chatRows_step_of_spares api hx]
    exact ih

/-- **A message hangs under a failed one if and only if that one failed later**: after the message
had been put under it, as it had not failed by then. -/
theorem parent_failed_iff_later {before after : List SendEvent} {id : String}
    (h : SendsInFlight api chatId s (before ++ .began id :: after) t) (hcache : s.cache.Intact)
    {m p : CachedMessage} (hm : m ∈ t.cache.messagesOf chatId) (hid : m.id = id)
    (hp : p ∈ t.cache.messagesOf chatId) (hparent : m.parentId = some p.id) :
    p.status = .failed ↔ .ended p.id false ∈ after := by
  have hlinked := h.linked (hcache.chatRows_id_nodup chatId)
  obtain ⟨r, hr, rfl⟩ := Cache.mem_messagesOf hm
  obtain ⟨row, hrow, rfl⟩ := Cache.mem_messagesOf hp
  obtain ⟨found, hfound, hsame, hfailed⟩ :=
    hlinked.parents before id after rfl r hr hid row.id hparent
  -- the row found under the id of the parent is the parent
  obtain rfl := List.inj_on_of_nodup_map hlinked.nodup hfound hrow hsame
  exact found.status_toMessage_eq_failed.trans hfailed

/-! ## Two sends that cross -/

/-- A store with nothing cached. -/
def blankStore : Store InMemoryServer := fresh .empty ⟨20, fun n => "m" ++ toString n, 0⟩ usualTitle

/-- The second of two sends begins before the first has failed. -/
def crossedStore : Store InMemoryServer :=
  ((blankStore.beginSend "c" "When?" "m").2.beginSend "c" "Why?" "n").2.completeSend "c" "m" .failed

theorem crossed_rows :
    (blankStore.beginSend "c" "When?" "m").2.cache.chatRows "c" =
      [⟨"c", "m", none, "user", "When?", none, 20, "pending"⟩] ∧
    crossedStore.cache.chatRows "c" = [⟨"c", "m", none, "user", "When?", none, 20, "failed"⟩,
      ⟨"c", "n", some "m", "user", "Why?", none, 20, "pending"⟩] := by
  have hblank : blankStore.cache.chatRows "c" = [] := rfl
  have hfirst : (blankStore.beginSend "c" "When?" "m").2.cache.chatRows "c" =
      [⟨"c", "m", none, "user", "When?", none, 20, "pending"⟩] := by
    rw [chatRows_beginSend "When?" (by simp [hblank]), Cache.latestMessageOf,
      Cache.messageRows_of_sorted (by simp [hblank]), hblank]
    rfl
  refine ⟨hfirst, ?_⟩
  rw [crossedStore, chatRows_completeSend, chatRows_beginSend "Why?" (by simp [hfirst]),
    Cache.latestMessageOf, Cache.messageRows_of_sorted (by simp [hfirst]), hfirst]
  rfl

theorem crossed_run : SendsInFlight InMemoryServer.api "c" blankStore
    [.began "m", .began "n", .ended "m" false] crossedStore := by
  have hfirst : SendsInFlight InMemoryServer.api "c" blankStore [.began "m"]
      (blankStore.beginSend "c" "When?" "m").2 :=
    .begin .start "When?" "m" (by decide)
  have hsecond := hfirst.begin "Why?" "n" (by simp [crossed_rows.1])
  exact hsecond.finish false (by simp) (by simp)

theorem crossed_messages : crossedStore.cache.messagesOf "c" =
    [⟨"m", "c", none, .user, "When?", none, 20, .failed⟩,
      ⟨"n", "c", some "m", .user, "Why?", none, 20, .pending⟩] := by
  rw [Cache.messagesOf, Cache.messageRows_of_sorted (by simp [crossed_rows.2]), crossed_rows.2]
  rfl

/-- **A message can come to hang under a failed one.** -/
theorem crossed_parent_failed :
    SendsInFlight InMemoryServer.api "c" blankStore
      [.began "m", .began "n", .ended "m" false] crossedStore ∧
    ∃ m ∈ crossedStore.cache.messagesOf "c", ∃ p ∈ crossedStore.cache.messagesOf "c",
      m.id = "n" ∧ m.parentId = some p.id ∧ p.status = .failed := by
  refine ⟨crossed_run, ?_⟩
  rw [crossed_messages]
  exact ⟨_, List.mem_cons_of_mem _ (List.mem_singleton_self _), _, List.mem_cons_self .., rfl, rfl,
    rfl⟩

theorem parent_failed_iff_later_crossed :
    SendsInFlight InMemoryServer.api "c" blankStore
      ([.began "m"] ++ .began "n" :: [.ended "m" false]) crossedStore ∧
    blankStore.cache.Intact ∧
    ∃ m ∈ crossedStore.cache.messagesOf "c", ∃ p ∈ crossedStore.cache.messagesOf "c",
      m.id = "n" ∧ m.parentId = some p.id ∧
      (p.status = .failed ↔ SendEvent.ended p.id false ∈ [.ended "m" false]) := by
  have hm : (⟨"n", "c", some "m", .user, "Why?", none, 20, .pending⟩ : CachedMessage) ∈
      crossedStore.cache.messagesOf "c" := by simp [crossed_messages]
  have hp : (⟨"m", "c", none, .user, "When?", none, 20, .failed⟩ : CachedMessage) ∈
      crossedStore.cache.messagesOf "c" := by simp [crossed_messages]
  have hrun : SendsInFlight InMemoryServer.api "c" blankStore
      ([.began "m"] ++ .began "n" :: [.ended "m" false]) crossedStore := crossed_run
  exact ⟨hrun, Cache.intact_fresh, _, hm, _, hp, rfl, rfl,
    parent_failed_iff_later hrun Cache.intact_fresh hm rfl hp rfl⟩

end Store
end OfflineChat
