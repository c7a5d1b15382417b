import OfflineChat.Proofs.CacheIntegrity
import OfflineChat.Proofs.OctetOrder
import OfflineChat.Proofs.SnapshotEffect

/-! # The list of chats

The list has one entry for each cached chat that is not archived
(`Cache.Intact.filter_activeChats`), and each entry says of its chat what the
other queries say: the chat, how many messages it has, and when the last of them
was written.  Entries stand in a strict order, pinned chats first
(`Cache.Intact.activeChats_pairwise`).

The order is that of the rows, which keep flags as numbers.  It is one of pinned
chats and others because no write stores a number that no truth value is stored
as (`Cache.flagged_run`), and it is strict because no two rows share an id.
-/
namespace OfflineChat

/-! ## Flags -/

theorem flag_lt_flag {x y : Bool} : flag x < flag y ↔ y = true ∧ x = false := by
  cases x <;> cases y <;> decide

theorem flag_eq_flag {x y : Bool} : flag x = flag y ↔ x = y := by
  cases x <;> cases y <;> decide

namespace ChatRow

/-- The flags of a row are stored as truth values are. -/
def Flagged (r : ChatRow) : Prop := ∀ f, ∃ b, r.get f = flag b

theorem flagged_ofChat (c : CachedChat) : (ofChat c).Flagged
  | .pinned => ⟨c.pinned, rfl⟩
  | .archived => ⟨c.archived, rfl⟩

theorem flagged_ofSummary (s : ChatSummary) : (ofSummary s).Flagged
  | .pinned => ⟨s.pinned, rfl⟩
  | .archived => ⟨s.archived, rfl⟩

theorem Flagged.withSummary {r : ChatRow} (h : r.Flagged) (old : ChatRow) :
    (old.withSummary r).Flagged
  | .pinned => h .pinned
  | .archived => h .archived

theorem Flagged.flip {r : ChatRow} (h : r.Flagged) : ∀ f, (r.flip f).Flagged
  | .pinned, .pinned => ⟨_, rfl⟩
  | .pinned, .archived => h .archived
  | .archived, .pinned => h .pinned
  | .archived, .archived => ⟨_, rfl⟩

/-- The flag of a row is the one that its chat has. -/
theorem Flagged.pinned_eq {r : ChatRow} (h : r.Flagged) : r.pinned = flag r.toChat.pinned := by
  obtain ⟨b, hb⟩ := h .pinned
  have hpinned : r.pinned = flag b := hb
  have hchat : r.toChat.pinned = decide (flag b ≠ 0) := by rw [← hpinned]; rfl
  rw [hchat, flag_ne_zero, hpinned]

end ChatRow

namespace Cache

/-- **What every row has that a write puts, every row has after the write**, if it is not lost when
a row of the server's list is merged into a row or a flag is flipped. -/
theorem forall_chats_run {P : ChatRow → Prop} (hchat : ∀ chat, P (.ofChat chat))
    (hsummary : ∀ s, P (.ofSummary s))
    (hmerge : ∀ old s, P old → P (old.withSummary (.ofSummary s)))
    (hflip : ∀ r f, P r → P (r.flip f)) {c d : Cache} {w : CacheWrite} {es : List CacheEvent}
    (h : ∀ r ∈ c.chats, P r) (hw : w.run c = .ok (d, es)) : ∀ r ∈ d.chats, P r := by
  have hput (chat : CachedChat) : ∀ r ∈ (c.putChat (.ofChat chat)).chats, P r :=
    forall_mem_upsert_of_merge h (hchat chat) fun _ _ _ => hchat chat
  cases w with
  | upsertSummaries ss =>
    cases hw
    clear hput
    show ∀ r ∈ (ss.foldl putSummary c).chats, P r
    induction ss generalizing c with
    | nil => exact h
    | cons s rest ih =>
      exact ih (forall_mem_upsert_of_merge h (hsummary s) fun old _ hold => hmerge old s hold)
  | upsertChat chat => cases hw; exact hput chat
  | applySnapshot chat thread =>
    cases hw
    show ∀ r ∈ (c.applySnapshot chat thread).cache.chats, P r
    rw [applySnapshot_chats]
    exact hput (.ofChat chat)
  | upsertMessage m =>
    simp only [CacheWrite.run, upsertMessage] at hw
    split at hw
    · cases hw; exact h
    · cases hw
  | setMessageStatus chatId messageId status =>
    cases hw
    unfold setMessageStatus
    split <;> exact h
  | deleteChat chatId => cases hw; exact fun r hr => h r (List.mem_filter.mp hr).1
  | toggle f chatId =>
    cases hw
    unfold toggle
    split
    · intro r hr
      obtain ⟨old, hold, rfl⟩ := List.mem_map.mp hr
      split
      · exact hflip old f (h old hold)
      · exact h old hold
    · exact h
  | clearAll => cases hw; exact fun r hr => (List.not_mem_nil hr).elim

/-- **Every write keeps flags that are stored as truth values are.** -/
theorem flagged_run {c d : Cache} {w : CacheWrite} {es : List CacheEvent}
    (h : ∀ r ∈ c.chats, r.Flagged) (hw : w.run c = .ok (d, es)) : ∀ r ∈ d.chats, r.Flagged :=
  forall_chats_run ChatRow.flagged_ofChat ChatRow.flagged_ofSummary
    (fun old s _ => (ChatRow.flagged_ofSummary s).withSummary old) (fun _ f hr => hr.flip f) h hw

theorem opened_chats (c : Cache) : c.opened.chats = c.chats := by
  unfold opened
  split <;> rfl

/-! ## The order of rows -/

theorem listedBefore_iff {a b : ChatRow} : listedBefore a b = true ↔
    b.pinned < a.pinned ∨ a.pinned = b.pinned ∧
      (b.updatedAt < a.updatedAt ∨ a.updatedAt = b.updatedAt ∧ a.id ≤ b.id) := by
  unfold listedBefore
  split
  · rw [decide_eq_true_eq]
    omega
  · split
    · rw [decide_eq_true_eq]
      omega
    · simp_all

theorem listedBefore_trans (a b d : ChatRow) (hab : listedBefore a b = true)
    (hbd : listedBefore b d = true) : listedBefore a d = true := by
  have hid := String.le_trans (a := a.id) (b := b.id) (c := d.id)
  rw [listedBefore_iff] at *
  grind

theorem listedBefore_total (a b : ChatRow) : (listedBefore a b || listedBefore b a) = true := by
  have hid := String.le_total a.id b.id
  rw [Bool.or_eq_true, listedBefore_iff, listedBefore_iff]
  grind

/-- The rows of the list, in its order. -/
def listedRows (c : Cache) : List ChatRow :=
  (c.chats.filter (·.archived == 0)).mergeSort listedBefore

theorem activeChats_eq (c : Cache) : c.activeChats = c.listedRows.map c.entryOf := rfl

variable {c : Cache}

theorem listedRows_perm (c : Cache) :
    c.listedRows.Perm (c.chats.filter (·.archived == 0)) := List.mergeSort_perm _ _

theorem mem_of_mem_listedRows {r : ChatRow} (h : r ∈ c.listedRows) : r ∈ c.chats :=
  (List.mem_filter.mp (c.listedRows_perm.mem_iff.mp h)).1

/-- Rows are listed in their order, and no two of them have one id. -/
theorem listedRows_pairwise (h : (c.chats.map (·.id)).Nodup) :
    c.listedRows.Pairwise fun a b => listedBefore a b = true ∧ a.id ≠ b.id := by
  have hids : (c.listedRows.map (·.id)).Nodup := by
    rw [(c.listedRows_perm.map _).nodup_iff]
    exact h.sublist (List.filter_sublist.map _)
  exact (List.pairwise_mergeSort listedBefore_trans listedBefore_total _).imp₂
    (fun _ _ hab hne => ⟨hab, hne⟩) (List.pairwise_map.mp hids)

end Cache

/-! ## The order of entries -/

/-- One entry of the list stands before another: pinned chats stand first, then the chat that was
changed later, then the one whose id is the lesser one octet by octet. -/
def ChatListEntry.Before (a b : ChatListEntry) : Prop :=
  (a.chat.pinned = true ∧ b.chat.pinned = false) ∨
    a.chat.pinned = b.chat.pinned ∧
      (b.chat.updatedAt < a.chat.updatedAt ∨
        a.chat.updatedAt = b.chat.updatedAt ∧ Text.encode a.chat.id < Text.encode b.chat.id)

namespace Cache

variable {c : Cache}

theorem entryOf_before (c : Cache) {a b : ChatRow} (ha : a.Flagged) (hb : b.Flagged)
    (hab : listedBefore a b = true) (hne : a.id ≠ b.id) : (c.entryOf a).Before (c.entryOf b) := by
  have hid (hle : a.id ≤ b.id) : Text.encode a.id < Text.encode b.id :=
    Text.encode_lt_encode (String.not_le.mp fun hge => hne (String.le_antisymm hle hge))
  rw [listedBefore_iff, ha.pinned_eq, hb.pinned_eq, flag_lt_flag, flag_eq_flag] at hab
  exact hab.imp_right (And.imp_right (Or.imp_right (And.imp_right hid)))

/-- **Entries stand in a strict order.** -/
theorem Intact.activeChats_pairwise (h : c.Intact) (hflags : ∀ r ∈ c.chats, r.Flagged) :
    c.activeChats.Pairwise ChatListEntry.Before := by
  rw [activeChats_eq, List.pairwise_map]
  refine (listedRows_pairwise h.chats_nodup).imp_of_mem fun ha hb hab => ?_
  exact c.entryOf_before (hflags _ (mem_of_mem_listedRows ha)) (hflags _ (mem_of_mem_listedRows hb))
    hab.1 hab.2

end Cache

/-! ## What an entry says -/

/-- What is the latest of some times: none of them is later; nothing, if there are none. -/
inductive IsLatest (times : List Int) : Option Int → Prop
  | nothing (h : times = []) : IsLatest times none
  | latest {t : Int} (h : t ∈ times) (hle : ∀ u ∈ times, u ≤ t) : IsLatest times (some t)

/-- The latest of some times does not depend on their order. -/
theorem IsLatest.of_perm {times times' : List Int} {t : Option Int} (h : IsLatest times t)
    (hperm : times.Perm times') : IsLatest times' t := by
  cases h with
  | nothing h =>
    subst h
    exact .nothing hperm.nil_eq.symm
  | latest hmem hle =>
    exact .latest (hperm.mem_iff.mp hmem) fun u hu => hle u (hperm.mem_iff.mpr hu)

/-- An entry of the list says of its chat what the other queries of a cache say. -/
structure ChatListEntry.Agrees (e : ChatListEntry) (c : Cache) : Prop where
  chat : c.chat? e.chat.id = some e.chat
  messageCount : e.messageCount = (c.messagesOf e.chat.id).length
  lastMessageTime : IsLatest ((c.messagesOf e.chat.id).map (·.timestamp)) e.lastMessageTime

namespace Cache

variable {c : Cache}

theorem isLatest_latestTime (times : List Int) : IsLatest times (latestTime times) := by
  have hmax : latestTime times = times.max? := by
    cases times with
    | nil => rfl
    | cons t rest => exact List.max?_cons'.symm
  rw [hmax]
  cases h : times.max? with
  | none => exact .nothing (List.max?_eq_none_iff.mp h)
  | some t =>
    obtain ⟨hmem, hle⟩ := List.max?_eq_some_iff.mp h
    exact .latest hmem hle

/-- A chat is the one of its row. -/
theorem chat?_of_mem (h : (c.chats.map (·.id)).Nodup) {r : ChatRow} (hr : r ∈ c.chats) :
    c.chat? r.id = some r.toChat := by
  have hrow : r ∈ c.chats.filter (·.id == r.id) := List.mem_filter.mpr ⟨hr, by simp⟩
  rw [filter_key_eq_toList_find? h, Option.mem_toList] at hrow
  exact congrArg (Option.map ChatRow.toChat) hrow

/-- **The entry of a cached chat agrees with the other queries.** -/
theorem entryOf_agrees (h : (c.chats.map (·.id)).Nodup) {r : ChatRow} (hr : r ∈ c.chats) :
    (c.entryOf r).Agrees c where
  chat := chat?_of_mem h hr
  messageCount := by
    have hperm := c.messageRows_perm r.id
    exact hperm.length_eq.symm.trans (List.length_map _).symm
  lastMessageTime := by
    have hperm := (c.messageRows_perm r.id).symm.map MessageRow.timestamp
    have htimes : (c.messagesOf r.id).map (·.timestamp) = (c.messageRows r.id).map (·.timestamp) :=
      List.map_map
    show IsLatest ((c.messagesOf r.id).map (·.timestamp)) _
    rw [htimes]
    exact (isLatest_latestTime _).of_perm hperm

/-- **A chat is listed once if it is cached and not archived**, and not at all otherwise. -/
theorem Intact.filter_activeChats (h : c.Intact) (chatId : String) :
    (c.activeChats.filter (·.chat.id == chatId)).map (·.chat) =
      ((c.chat? chatId).filter (!·.archived)).toList := by
  have hrows : c.listedRows.filter (·.id == chatId) =
      ((c.chats.find? (·.id == chatId)).filter (·.archived == 0)).toList := by
    have hperm := c.listedRows_perm.filter (·.id == chatId)
    rw [List.filter_comm, filter_key_eq_toList_find? h.chats_nodup, ← Option.toList_filter] at hperm
    -- there is at most one row to be put in order
    generalize (c.chats.find? (·.id == chatId)).filter (·.archived == 0) = row? at hperm
    cases row? with
    | none => exact List.perm_nil.mp hperm
    | some r => exact List.perm_singleton.mp hperm
  have hlisted : (fun r : ChatRow => r.archived == 0) = (!·.archived) ∘ ChatRow.toChat := by
    funext r
    simp [ChatRow.toChat, Bool.beq_eq_decide_eq]
  rw [activeChats_eq, List.filter_map, List.map_map]
  calc (c.listedRows.filter (·.id == chatId)).map ChatRow.toChat
      = (((c.chats.find? (·.id == chatId)).filter (·.archived == 0)).map ChatRow.toChat).toList := by
        rw [hrows, Option.toList_map]
    _ = ((c.chat? chatId).filter (!·.archived)).toList := by
        rw [hlisted, ← Option.filter_map, chat?]

/-- **The list of an intact cache agrees with its other queries**, chat by chat. -/
theorem Intact.activeChats_agrees (h : c.Intact) : ∀ e ∈ c.activeChats, e.Agrees c := by
  intro e he
  obtain ⟨r, hr, rfl⟩ := List.mem_map.mp he
  exact entryOf_agrees h.chats_nodup (mem_of_mem_listedRows hr)

end Cache

namespace Store

/-- **The list of chats after every session.**  A chat is listed once if it is cached and not
archived, and not at all otherwise.  What its entry says of it is what the other queries say.
Entries stand in a strict order: pinned chats first, then by the time of the last change, the later
first, and then by the octets of the id. -/
theorem session_activeChats {σ : Type} (api : ServerApi σ) (server : σ)
    (surroundings : Surroundings) (defaultTitle : String) (steps : List (SessionStep σ)) :
    let c := ((fresh server surroundings defaultTitle).session api steps).cache
    (∀ chatId, (c.activeChats.filter (·.chat.id == chatId)).map (·.chat) =
      ((c.chat? chatId).filter (!·.archived)).toList) ∧
    (∀ e ∈ c.activeChats, e.Agrees c) ∧
    c.activeChats.Pairwise ChatListEntry.Before := by
  have hintact := session_keeps api (fresh server surroundings defaultTitle)
    Cache.Intact.run (fun layout h => h.opened layout) steps Cache.intact_fresh
  have hflags := session_keeps (P := fun c => ∀ r ∈ c.chats, r.Flagged) api
    (fresh server surroundings defaultTitle) Cache.flagged_run
    (fun layout h => by rwa [Cache.opened_chats]) steps fun r hr => (List.not_mem_nil hr).elim
  exact ⟨hintact.filter_activeChats, hintact.activeChats_agrees,
    hintact.activeChats_pairwise hflags⟩

end Store
end OfflineChat
