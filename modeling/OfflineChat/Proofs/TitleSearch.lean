import OfflineChat.Proofs.ChatList
import OfflineChat.Proofs.LetterCase
import OfflineChat.Proofs.MessageQueries
import OfflineChat.Proofs.StableSort

/-! # Searching titles

A search finds the cached chats in whose titles a text stands, but for the case of
Latin letters; the later changed first, and those changed at one time in the order
in which their rows came (`Cache.searchChats_agrees`).

All searches read one list of rows, by the time of the last change, and leave out
what does not fit (`Cache.searchChats_eq`).  So a text that stands in another one
finds what the other finds and in the same order, and the empty text finds all.

When a row came is read off the history of the run, in which a list of the server is
put entry by entry (`History.ofRows`).
-/
namespace OfflineChat

/-! ## The order in which chats came -/

/-- The ids of the chats of a cache, in the order of the table. -/
def Cache.chatIds (c : Cache) : List String := c.chats.map (·.id)

namespace CacheStep

/-- What a step consists of if no part puts more than one row of a chat: the list of the server is
put entry by entry. -/
def rowParts : CacheStep → List (Cache → Cache)
  | .write (.upsertSummaries ss) => ss.map fun s c => c.putSummary s
  | x => x.parts

theorem foldl_rowParts (x : CacheStep) (c : Cache) :
    x.rowParts.foldl (fun c part => part c) c = x.run c := by
  unfold rowParts
  split
  · rw [List.foldl_map]
    rfl
  · exact foldl_parts x c

end CacheStep

namespace History

/-- The history goes on with a step, row by row. -/
def stepByRow (h : History) (x : CacheStep) : History := x.rowParts.foldl next h

/-- The history of a new cache that takes some steps, row by row. -/
def ofRows (steps : List CacheStep) : History := steps.foldl stepByRow start

/-- The moment at which the row of a chat was inserted. -/
def chatInsertedAt (h : History) (chatId : String) : Nat :=
  cameAt chatId ((h.present :: h.past).map Cache.chatIds)

/-- The chats are in the order of the moments at which they were inserted. -/
def ChatsInOrder (h : History) : Prop :=
  h.present.chatIds.Pairwise fun a b => h.chatInsertedAt a < h.chatInsertedAt b

/-- A history row by row ends in the cache that the steps lead to. -/
theorem present_ofRows (steps : List CacheStep) :
    (ofRows steps).present = steps.foldl CacheStep.run .fresh := by
  unfold ofRows
  show (steps.foldl stepByRow start).present = steps.foldl CacheStep.run start.present
  generalize start = h
  induction steps generalizing h with
  | nil => rfl
  | cons x rest ih =>
    rw [List.foldl_cons, ih, stepByRow, present_foldl_next, x.foldl_rowParts, List.foldl_cons]

end History

/-! ## What the parts of a step do to the ids -/

theorem keysAdvance_putSummary (c : Cache) (s : ChatSummary) :
    KeysAdvance c.chatIds (c.putSummary s).chatIds :=
  keysAdvance_upsert ChatRow.keepsKey_withSummary _ c.chats

theorem keysAdvance_putChat (c : Cache) (r : ChatRow) :
    KeysAdvance c.chatIds (c.putChat r).chatIds :=
  keysAdvance_upsert (keepsKey_replace ChatRow.id) r c.chats

theorem chatIds_edit (c : Cache) (e : CacheEdit) : (e.run c).chatIds = c.chatIds := by
  cases e with
  | models chatId text => exact map_key_map (fun r => by split <;> rfl) c.chats
  | pinned chatId value => exact map_key_map (fun r => by split <;> rfl) c.chats
  | _ => rfl

theorem keysAdvance_chatIds_run {c d : Cache} {w : CacheWrite} {es : List CacheEvent}
    (hlist : ∀ ss, w ≠ .upsertSummaries ss)
    (hsnapshot : ∀ chat thread, w ≠ .applySnapshot chat thread) (h : w.run c = .ok (d, es)) :
    KeysAdvance c.chatIds d.chatIds := by
  cases w with
  | upsertSummaries ss => exact absurd rfl (hlist ss)
  | upsertChat chat => cases h; exact keysAdvance_putChat c (.ofChat chat)
  | applySnapshot chat thread => exact absurd rfl (hsnapshot chat thread)
  | upsertMessage m =>
    simp only [CacheWrite.run, Cache.upsertMessage] at h
    split at h
    · cases h; exact .of_eq rfl
    · cases h
  | setMessageStatus chatId messageId status =>
    cases h
    unfold Cache.setMessageStatus
    split <;> exact .of_eq rfl
  | deleteChat chatId => cases h; exact .stay (List.filter_sublist.map _)
  | toggle f chatId =>
    cases h
    unfold Cache.toggle
    split
    · refine .of_eq (map_key_map (fun r => ?_) c.chats)
      split
      · cases f <;> rfl
      · rfl
    · exact .of_eq rfl
  | clearAll => cases h; exact .stay (List.nil_sublist _)

/-- **In each part of a step, chats may go and one may come.** -/
theorem CacheStep.keysAdvance_chatIds (x : CacheStep) : ∀ part ∈ x.rowParts, ∀ c : Cache,
    KeysAdvance c.chatIds (part c).chatIds := by
  intro part hpart c
  unfold rowParts at hpart
  split at hpart
  · rename_i ss
    obtain ⟨s, -, rfl⟩ := List.mem_map.mp hpart
    exact keysAdvance_putSummary c s
  · rename_i hlist
    unfold parts at hpart
    split at hpart
    · rename_i chat thread
      rcases List.mem_cons.mp hpart with rfl | hpart
      · exact keysAdvance_putChat c _
      · obtain ⟨m, -, rfl⟩ := List.mem_map.mp hpart
        exact .of_eq (congrArg (List.map ChatRow.id) (Cache.putServerMessage_chats chat.id c m))
    · rename_i hsnapshot
      obtain rfl := List.mem_singleton.mp hpart
      cases x with
      | write w =>
        dsimp only [run]
        split
        · rename_i d es h
          exact keysAdvance_chatIds_run (fun ss he => hlist ss (he ▸ rfl))
            (fun chat thread he => hsnapshot chat thread (he ▸ rfl)) h
        · exact .of_eq rfl
      | edit e => exact .of_eq (chatIds_edit c e)
      | reopen => exact .of_eq (congrArg (List.map ChatRow.id) (Cache.opened_chats c))

namespace History

theorem ChatsInOrder.stepByRow {h : History} (hh : h.ChatsInOrder) (x : CacheStep) :
    (h.stepByRow x).ChatsInOrder := by
  have hparts := x.keysAdvance_chatIds
  unfold History.stepByRow
  generalize x.rowParts = parts at hparts
  induction parts generalizing h with
  | nil => exact hh
  | cons part rest ih =>
    obtain ⟨hpart, hrest⟩ := List.forall_mem_cons.mp hparts
    exact ih (h := h.next part) (pairwise_cameAt_cons (hpart h.present) hh) hrest

/-- **After every run the chats are in the order of the moments of insertion.** -/
theorem chatsInOrder_ofRows (steps : List CacheStep) : (ofRows steps).ChatsInOrder := by
  have hstart : start.ChatsInOrder := List.Pairwise.nil
  unfold ofRows
  generalize start = h at hstart
  induction steps generalizing h with
  | nil => exact hstart
  | cons x rest ih => exact ih (h.stepByRow x) (hstart.stepByRow x)

end History

/-! ## The rows that searches read -/

namespace Cache

variable {c : Cache}

theorem updatedAt_trans (a b d : ChatRow) (hab : decide (b.updatedAt ≤ a.updatedAt) = true)
    (hbd : decide (d.updatedAt ≤ b.updatedAt) = true) : decide (d.updatedAt ≤ a.updatedAt) = true :=
  decide_eq_true (Int.le_trans (of_decide_eq_true hbd) (of_decide_eq_true hab))

theorem updatedAt_total (a b : ChatRow) :
    (decide (b.updatedAt ≤ a.updatedAt) || decide (a.updatedAt ≤ b.updatedAt)) = true := by
  simpa using Int.le_total b.updatedAt a.updatedAt

/-- The rows of all chats, the later changed first. -/
def searchedRows (c : Cache) : List ChatRow :=
  c.chats.mergeSort fun a b => decide (b.updatedAt ≤ a.updatedAt)

/-- Whether a search for a text finds a row. -/
def fitsSearch (query : String) (r : ChatRow) : Bool :=
  Text.contains (Text.asciiLower r.title) (Text.asciiLower query)

theorem searchedRows_perm (c : Cache) : c.searchedRows.Perm c.chats := List.mergeSort_perm _ _

/-- **Every search reads the same rows and leaves out what does not fit.** -/
theorem searchChats_eq (c : Cache) (query : String) :
    c.searchChats query = (c.searchedRows.filter (fitsSearch query)).map (·.toChat) := by
  rw [searchedRows, filter_mergeSort updatedAt_trans updatedAt_total]
  rfl

theorem fitsSearch_iff {query : String} {r : ChatRow} :
    fitsSearch query r = true ↔ Text.StandsIn query r.title := Text.contains_asciiLower_iff

theorem fitsSearch_empty (r : ChatRow) : fitsSearch "" r = true :=
  fitsSearch_iff.mpr ⟨[], [], r.title.toList, rfl, .nil⟩

/-- A text that stands in another one fits wherever the other does. -/
theorem fitsSearch_of_infix {part query : String} (h : part.toList <:+: query.toList)
    {r : ChatRow} (hr : fitsSearch query r = true) : fitsSearch part r = true := by
  unfold fitsSearch at hr ⊢
  rw [Text.contains_iff] at hr ⊢
  refine List.IsInfix.trans ?_ hr
  rw [Text.asciiLower, Text.asciiLower, String.toList_ofList, String.toList_ofList]
  exact h.map Text.asciiLowerChar

/-! ## What is found -/

theorem chat?_eq_some_iff (h : c.chatIds.Nodup) {chatId : String} {chat : CachedChat} :
    c.chat? chatId = some chat ↔ ∃ r ∈ c.chats, r.id = chatId ∧ r.toChat = chat := by
  constructor
  · intro hchat
    obtain ⟨r, hr, rfl⟩ := Option.map_eq_some_iff.mp hchat
    have hid := List.find?_some (p := fun r : ChatRow => r.id == chatId) hr
    exact ⟨r, List.mem_of_find?_eq_some hr, eq_of_beq hid, rfl⟩
  · rintro ⟨r, hr, rfl, rfl⟩
    exact chat?_of_mem h hr

/-- **A search finds the cached chats in whose titles the text stands.** -/
theorem mem_searchChats_iff (h : c.chatIds.Nodup) {query : String} {chat : CachedChat} :
    chat ∈ c.searchChats query ↔
      c.chat? chat.id = some chat ∧ Text.StandsIn query chat.title := by
  rw [searchChats_eq, chat?_eq_some_iff h]
  constructor
  · intro hchat
    obtain ⟨r, hr, rfl⟩ := List.mem_map.mp hchat
    obtain ⟨hr, hfits⟩ := List.mem_filter.mp hr
    exact ⟨⟨r, c.searchedRows_perm.mem_iff.mp hr, rfl, rfl⟩, fitsSearch_iff.mp hfits⟩
  · rintro ⟨⟨r, hr, -, rfl⟩, hstands⟩
    exact List.mem_map_of_mem
      (List.mem_filter.mpr ⟨c.searchedRows_perm.mem_iff.mpr hr, fitsSearch_iff.mpr hstands⟩)

/-- No chat is found twice. -/
theorem searchChats_nodup (h : c.chatIds.Nodup) (query : String) :
    ((c.searchChats query).map (·.id)).Nodup := by
  rw [searchChats_eq, List.map_map]
  have hrows : (c.searchedRows.map (·.id)).Nodup := (c.searchedRows_perm.map _).nodup_iff.mpr h
  exact hrows.sublist (List.filter_sublist.map _)

/-- What tells the rows of the table apart in its order tells chats changed at one time apart in the
order in which they are found. -/
theorem searchChats_pairwise {before : String → String → Prop} (h : c.chatIds.Pairwise before)
    (query : String) :
    (c.searchChats query).Pairwise fun a b => b.updatedAt < a.updatedAt ∨
      a.updatedAt = b.updatedAt ∧ before a.id b.id := by
  have hrows := pairwise_mergeSort_of_pairwise updatedAt_trans updatedAt_total
    (List.pairwise_map.mp h)
  rw [searchChats_eq, List.pairwise_map]
  refine (List.Pairwise.filter _ hrows).imp fun {a b} hab => ?_
  obtain ⟨hle, htie⟩ := hab
  rw [decide_eq_true_eq] at hle htie
  rcases Int.lt_or_eq_of_le hle with hlt | heq
  · exact .inl hlt
  · exact .inr ⟨heq.symm, htie (Int.le_of_eq heq.symm)⟩

/-- **A text that stands in another one finds what the other finds**, in the same order. -/
theorem searchChats_sublist {part query : String} (h : part.toList <:+: query.toList) :
    (c.searchChats query).Sublist (c.searchChats part) := by
  rw [searchChats_eq, searchChats_eq]
  exact (List.monotone_filter_right _ fun r hr => fitsSearch_of_infix h hr).map _

theorem searchChats_empty (c : Cache) : c.searchChats "" = c.searchedRows.map (·.toChat) := by
  rw [searchChats_eq, List.filter_eq_self.mpr fun r _ => fitsSearch_empty r]

/-- The chats that are not archived are those of the list. -/
theorem searchChats_perm_activeChats (c : Cache) :
    ((c.searchChats "").filter (!·.archived)).Perm (c.activeChats.map (·.chat)) := by
  have hlisted : (fun r : ChatRow => r.archived == 0) = (!·.archived) ∘ ChatRow.toChat := by
    funext r
    simp [ChatRow.toChat, Bool.beq_eq_decide_eq]
  have hchats : c.activeChats.map (·.chat) = c.listedRows.map (·.toChat) := by
    rw [activeChats_eq, List.map_map]
    rfl
  rw [searchChats_empty, hchats, List.filter_map, ← hlisted]
  exact ((c.searchedRows_perm.filter _).trans c.listedRows_perm.symm).map _

/-- **Searches after every run.**  What is found are the cached chats, archived ones too, in whose
titles the text stands but for the case of Latin letters, which is to say that its lower case stands
in theirs; every other character stands for itself alone.  None is found twice; the later changed
come first, and those changed at one time in the order in which their rows were inserted.  A text
that stands in another one finds what the other finds, in the same order; the empty text finds every
row, and of these the ones that are not archived are those of the list of chats. -/
theorem searchChats_agrees (steps : List CacheStep) (query : String) :
    let c := steps.foldl CacheStep.run .fresh
    let h := History.ofRows steps
    h.present = c ∧
    (∀ chat, chat ∈ c.searchChats query ↔
      c.chat? chat.id = some chat ∧ Text.StandsIn query chat.title) ∧
    (∀ title, Text.StandsIn query title ↔
      (Text.asciiLower query).toList <:+: (Text.asciiLower title).toList) ∧
    (∀ a b : Char, b.isAlpha = false → (Text.SameLetter a b ↔ a = b)) ∧
    ((c.searchChats query).map (·.id)).Nodup ∧
    (c.searchChats query).Pairwise (fun a b => b.updatedAt < a.updatedAt ∨
      a.updatedAt = b.updatedAt ∧ h.chatInsertedAt a.id < h.chatInsertedAt b.id) ∧
    (∀ part : String, part.toList <:+: query.toList →
      (c.searchChats query).Sublist (c.searchChats part)) ∧
    (c.searchChats "").length = c.chatCount ∧
    ((c.searchChats "").filter (!·.archived)).Perm (c.activeChats.map (·.chat)) := by
  intro c h
  have hpresent : h.present = c := History.present_ofRows steps
  have horder : c.chatIds.Pairwise fun a b => h.chatInsertedAt a < h.chatInsertedAt b :=
    hpresent ▸ History.chatsInOrder_ofRows steps
  have hnodup : c.chatIds.Nodup := horder.imp fun hab he => by
    rw [he] at hab
    exact Nat.lt_irrefl _ hab
  refine ⟨hpresent, fun chat => mem_searchChats_iff hnodup,
    fun title => Text.contains_asciiLower_iff.symm.trans Text.contains_iff,
    fun a b hb => Text.sameLetter_iff_of_not_isAlpha hb, searchChats_nodup hnodup query,
    searchChats_pairwise horder query, fun part hpart => searchChats_sublist hpart, ?_,
    c.searchChats_perm_activeChats⟩
  rw [searchChats_empty, List.length_map, c.searchedRows_perm.length_eq]
  rfl

/-- Two chats, the later changed one archived. -/
def percentSteps : List CacheStep :=
  [.write (.upsertChat ⟨"a", "100% Ähre", 1, 5, false, false, [], none, none⟩),
   .write (.upsertChat ⟨"b", "100_ähre", 1, 7, true, false, [], none, none⟩)]

/-- The percent sign and a letter with dots stand for themselves alone, and a shorter text finds
what a longer one does. -/
theorem searchChats_agrees_percent :
    let c := percentSteps.foldl CacheStep.run .fresh
    'Ä'.isAlpha = false ∧ (Text.SameLetter 'ä' 'Ä' ↔ 'ä' = 'Ä') ∧
    "0% ".toList <:+: "100% ".toList ∧
    (c.searchChats "100% ").Sublist (c.searchChats "0% ") ∧
    (c.searchChats "").length = 2 ∧
    ((c.searchChats "").filter (!·.archived)).Perm (c.activeChats.map (·.chat)) := by
  obtain ⟨-, -, -, hletters, -, -, hpart, hall, hactive⟩ := searchChats_agrees percentSteps "100% "
  refine ⟨by decide, hletters 'ä' 'Ä' (by decide), by decide, hpart "0% " (by decide), ?_, hactive⟩
  rw [hall]
  rfl

end Cache
end OfflineChat
