import OfflineChat.Proofs.RepeatedRefreshes

/-! # The effect of the server's list

The server's list says five things of a chat, and a row has three more.  When the
list is put into the cache, the last entry of each id counts: the row has the five
columns of that entry and keeps the three others from the row that was there
(`ChatRow.listed`).  Chats that the list does not name are as they were, and so are
all messages and attachments, also those of the chats that it does name; rows that
were there keep their places, and new ones follow in the order in which the list
names them first (`Cache.upsertSummaries_writes_list`).
-/
namespace OfflineChat

/-! ## What is stored for an entry -/

/-- The row of an entry of the server's list: what the list does not say is taken from the row that
was there, and is nothing if there was none. -/
def ChatRow.listed (s : ChatSummary) (old? : Option ChatRow) : ChatRow where
  id := s.id
  title := s.title
  createdAt := s.createdAt
  updatedAt := s.updatedAt
  archived := flag s.archived
  pinned := flag s.pinned
  models := (old?.map (·.models)).getD "[]"
  shareId := old?.bind (·.shareId)
  folderId := old?.bind (·.folderId)

/-- The chat of an entry of the server's list: what the list does not say is taken from the chat
that was there, and is nothing if there was none. -/
def CachedChat.listed (s : ChatSummary) (old? : Option CachedChat) : CachedChat where
  id := s.id
  title := s.title
  createdAt := s.createdAt
  updatedAt := s.updatedAt
  archived := s.archived
  pinned := s.pinned
  models := (old?.map (·.models)).getD []
  shareId := old?.bind (·.shareId)
  folderId := old?.bind (·.folderId)

namespace ChatRow

/-- A row without models is read as one that names none. -/
theorem modelNames_of_none {r : ChatRow} (h : r.models = "[]") : r.modelNames = [] := by
  have hnone : "[]" = (Codec.list .string).encode ([] : List String) := by decide
  rw [modelNames, h, hnone, Codec.decode_encode_strings]

/-- The row of an entry is read as the chat of the entry. -/
theorem toChat_listed (s : ChatSummary) (old? : Option ChatRow) :
    (listed s old?).toChat = .listed s (old?.map (·.toChat)) := by
  have hmodels : (listed s old?).modelNames = ((old?.map (·.toChat)).map (·.models)).getD [] := by
    cases old? with
    | none => exact modelNames_of_none rfl
    | some old => rfl
  have harchived : decide ((listed s old?).archived ≠ 0) = s.archived := flag_ne_zero s.archived
  have hpinned : decide ((listed s old?).pinned ≠ 0) = s.pinned := flag_ne_zero s.pinned
  rw [toChat, harchived, hpinned, hmodels]
  cases old? <;> rfl

/-- What is stored for a row of the list is the row of its entry. -/
theorem summaryOver_ofSummary (s : ChatSummary) {old? : Option ChatRow}
    (hold : ∀ old ∈ old?, old.id = s.id) : summaryOver (ofSummary s) old? = listed s old? := by
  cases old? with
  | none => rfl
  | some old =>
    have hid : old.id = s.id := hold old rfl
    rw [summaryOver, withSummary, hid]
    rfl

end ChatRow

/-! ## The last entry of an id -/

section Last

variable {α κ : Type} [DecidableEq κ] (key : α → κ) {l : List α}

/-- Some entry of a list is the last one under its key. -/
theorem exists_getLast?_of_mem {k : κ} (h : k ∈ l.map key) :
    ∃ a, (l.filter (key · == k)).getLast? = some a := by
  obtain ⟨a, ha, hak⟩ := List.mem_map.mp h
  have hmem : a ∈ l.filter (key · == k) := List.mem_filter.mpr ⟨ha, beq_iff_eq.mpr hak⟩
  exact ⟨_, List.getLast?_eq_some_getLast (List.ne_nil_of_mem hmem)⟩

/-- No entry after the last one under a key is under that key. -/
theorem split_of_getLast? {k : κ} {a : α} (h : (l.filter (key · == k)).getLast? = some a) :
    key a = k ∧ ∃ before after, l = before ++ a :: after ∧ key a ∉ after.map key := by
  obtain ⟨init, hinit⟩ := List.getLast?_eq_some_iff.mp h
  obtain ⟨l₁, l₂, hl, -, hl₂⟩ := List.filter_eq_append_iff.mp hinit
  obtain ⟨m₁, after, hsplit, -, hak, hafter⟩ := List.filter_eq_cons_iff.mp hl₂
  have hkey : key a = k := eq_of_beq hak
  refine ⟨hkey, l₁ ++ m₁, after, by rw [hl, hsplit, List.append_assoc], fun hin => ?_⟩
  obtain ⟨b, hb, hba⟩ := List.mem_map.mp hin
  exact List.filter_eq_nil_iff.mp hafter b hb (beq_iff_eq.mpr (hba.trans hkey))

end Last

/-- A refresh that receives a list writes it, and answers how long it is. -/
theorem Store.refreshChats_of_answer {σ : Type} {api : ServerApi σ} {s : Store σ}
    {ss : List ChatSummary} (h : (s.ask api .fetchChats).1 = .ok ss) :
    (s.refreshChats api).1 = .ok ss.length ∧
      (s.refreshChats api).2.cache = (s.cache.upsertSummaries ss).cache := by
  unfold refreshChats
  split
  · rename_i hask
    rw [hask] at h
    cases h
    exact ⟨rfl, by rw [commit_cache, cache_of_ask hask]⟩
  · rename_i hask
    rw [hask] at h
    cases h

namespace Cache

variable {c : Cache}

/-! ## The whole list -/

/-- **The rows of chats after a list.** -/
theorem holdsPuts_upsertSummaries (hc : (c.chats.map (·.id)).Nodup) (ss : List ChatSummary) :
    HoldsPuts ChatRow.id ChatRow.summaryOver (ss.map .ofSummary) c.chats
      (c.upsertSummaries ss).cache.chats := by
  rw [upsertSummaries_cache]
  exact holdsPuts_upsertAll ChatRow.keepsKey_withSummary (ChatRow.covers_withSummary ss) hc

/-- The one row of a chat that is listed. -/
theorem filter_upsertSummaries (hc : (c.chats.map (·.id)).Nodup) {ss : List ChatSummary}
    {chatId : String} {s : ChatSummary} (hs : (ss.filter (·.id == chatId)).getLast? = some s) :
    (c.upsertSummaries ss).cache.chats.filter (·.id == chatId) =
      [.listed s (c.chats.find? (·.id == chatId))] := by
  obtain ⟨rfl, before, after, rfl, hlast⟩ := split_of_getLast? ChatSummary.id hs
  have hold : ∀ old ∈ c.chats.find? (·.id == s.id), old.id = s.id :=
    fun old h => eq_of_beq (List.find?_some (p := fun r : ChatRow => r.id == s.id) h)
  have hids : (after.map ChatRow.ofSummary).map (·.id) = after.map (·.id) := List.map_map
  have hrow := (holdsPuts_upsertSummaries hc (before ++ s :: after)).last
    (before.map ChatRow.ofSummary) (.ofSummary s) (after.map ChatRow.ofSummary)
    (by rw [List.map_append, List.map_cons]) (by rwa [hids])
  rw [← ChatRow.summaryOver_ofSummary s hold]
  exact hrow

/-- The part of a chat that is not listed. -/
theorem part_upsertSummaries_of_notMem {ss : List ChatSummary} {chatId : String}
    (h : chatId ∉ ss.map (·.id)) : (c.upsertSummaries ss).cache.part chatId = c.part chatId := by
  rw [part_upsertSummaries, filter_key_eq_nil h]
  rfl

/-- **The server's list writes what it says, and nothing else.**  The row of a listed chat has the
five columns of the last entry of its id, and the other three as they were; a new one has none of
them.  Chats that are not listed, all messages and all attachments are as they were.  Rows that were
there keep their places, and new ones follow in the order in which they are first listed.  A refresh
answers how many entries it received, repeated ones counted, and writes just this. -/
theorem upsertSummaries_writes_list (c : Cache) (hc : c.Intact) (ss : List ChatSummary) :
    let d := (c.upsertSummaries ss).cache
    (∀ chatId ∈ ss.map (·.id), ∃ s, (ss.filter (·.id == chatId)).getLast? = some s ∧
      d.chats.filter (·.id == chatId) = [.listed s (c.chats.find? (·.id == chatId))] ∧
      d.chat? chatId = some (.listed s (c.chat? chatId))) ∧
    (∀ chatId, chatId ∉ ss.map (·.id) → AgreeOn chatId d c) ∧
    d.messages = c.messages ∧ d.attachments = c.attachments ∧ d.layout = c.layout ∧
    d.chats.map (·.id) =
      c.chats.map (·.id) ++ ((ss.map (·.id)).removeAll (c.chats.map (·.id))).eraseDups ∧
    ∀ {σ : Type} (api : ServerApi σ) (s : Store σ), s.cache = c →
      (s.ask api .fetchChats).1 = .ok ss →
      (s.refreshChats api).1 = .ok ss.length ∧ (s.refreshChats api).2.cache = d := by
  intro d
  have hd : d = { c with
      chats := upsertAll ChatRow.id ChatRow.withSummary (ss.map .ofSummary) c.chats } :=
    upsertSummaries_cache c ss
  refine ⟨fun chatId hin => ?_, fun chatId hnot => ?_, ?_, ?_, ?_, ?_, ?_⟩
  · obtain ⟨s, hs⟩ := exists_getLast?_of_mem ChatSummary.id hin
    have hrow := filter_upsertSummaries hc.chats_nodup hs
    refine ⟨s, hs, hrow, ?_⟩
    rw [chat?, ← List.head?_filter, hrow, List.head?_cons, Option.map_some, ChatRow.toChat_listed]
    rfl
  · exact agreeOn_of_part (part_upsertSummaries_of_notMem hnot)
  · rw [hd]
  · rw [hd]
  · rw [hd]
  · have horder := (holdsPuts_upsertSummaries hc.chats_nodup ss).order
    have hids : (ss.map ChatRow.ofSummary).map (·.id) = ss.map (·.id) := List.map_map
    rwa [hids] at horder
  · rintro σ api s rfl hanswer
    exact Store.refreshChats_of_answer hanswer

/-- A list that names one cached chat twice, a new one twice, and leaves one out. -/
def echoingList : List ChatSummary :=
  [⟨"n", "New", 5, 4, false, false⟩, ⟨"c", "Tides", 6, 1, false, true⟩,
    ⟨"n", "Newer", 7, 4, true, false⟩, ⟨"c", "High tides", 8, 1, true, false⟩]

theorem upsertSummaries_writes_list_echoing :
    let d := (keptCache.upsertSummaries echoingList).cache
    let s : Store InMemoryServer := ⟨keptCache, .empty, ⟨20, fun _ => "new", 0⟩, "", []⟩
    let api : ServerApi InMemoryServer := ⟨fun
      | .fetchChats, server, surroundings => (.ok echoingList, server, surroundings)
      | r, server, surroundings => InMemoryServer.api.answer r server surroundings⟩
    keptCache.Intact ∧
    ((∃ s, (echoingList.filter (·.id == "c")).getLast? = some s ∧
      d.chats.filter (·.id == "c") = [.listed s (keptCache.chats.find? (·.id == "c"))] ∧
      d.chat? "c" = some (.listed s (keptCache.chat? "c"))) ∧
    AgreeOn "d" d keptCache ∧ d.messages = keptCache.messages ∧
    d.chats.map (·.id) = ["c", "d", "n"]) ∧
    (s.refreshChats api).1 = .ok 4 ∧ (s.refreshChats api).2.cache = d := by
  intro d s api
  have hintact : keptCache.Intact :=
    ⟨by decide, by decide, by decide, by decide, by decide⟩
  obtain ⟨hlisted, hothers, hmessages, -, -, horder, hrefresh⟩ :=
    upsertSummaries_writes_list keptCache hintact echoingList
  exact ⟨hintact, ⟨hlisted "c" (by decide), hothers "d" (by decide), hmessages,
    horder.trans (by decide)⟩, hrefresh api s rfl rfl⟩

end Cache
end OfflineChat
