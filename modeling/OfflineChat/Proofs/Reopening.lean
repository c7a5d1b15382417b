import OfflineChat.Proofs.PreferenceFiles
import OfflineChat.Proofs.Rebuilding
import OfflineChat.Proofs.SameContent

/-! # Opening a cache again

A cache keeps in its file the number of the layout in which its rows are stored.  When
the file is opened and the number is the present one, or a later one, the cache is as
it was; when the number is an earlier one, whatever it is, the chats are as they were,
and there is no message and no attachment.  Either way the present number is in the
file then, so opening it once more changes nothing (`Cache.openAt_of_database`).

What is opened is a cache like any other.  Writes put it into a new one, row by row
(`Cache.Rebuildable.rebuild_eq`), and nobody can tell it from any cache that has the same
content (`Store.Alike.session`).  All of this holds after every session, for every number
(`Store.cache_reopens`).
-/
namespace OfflineChat

namespace Cache

variable {c : Cache} {layout : Int}

/-! ## What is in the cache -/

/-- A cache that was opened is opened again as it is. -/
theorem opened_of_current (h : c.layout = currentLayout) : c.opened = c := by
  rw [opened, if_neg (by rw [h]; exact Int.lt_irrefl _), ← h]

/-- **Nothing is lost** if the number is the present one or a later one. -/
theorem opened_of_le (hc : c.layout = currentLayout) (h : currentLayout ≤ layout) :
    (c.editLayout layout).opened = c := by
  have hnot : ¬ (c.editLayout layout).layout < currentLayout := Int.not_lt.mpr h
  rw [opened, if_neg hnot, ← hc]
  rfl

/-- What a cache shows are the chats of another one, and nothing else. -/
structure ShowsChatsOf (c d : Cache) : Prop where
  rows : d.chats = c.chats
  chat : ∀ chatId, d.chat? chatId = c.chat? chatId
  found : ∀ query, d.searchChats query = c.searchChats query
  /-- The list is as it was, but that no chat has a message. -/
  listed : d.activeChats = c.activeChats.map fun e => ⟨e.chat, 0, none⟩
  messages : ∀ chatId, d.messagesOf chatId = []
  failed : ∀ chatId, d.failedMessagesOf chatId = []
  latest : ∀ chatId, d.latestMessageOf chatId = none
  attachments : ∀ chatId messageId, d.attachmentsOf chatId messageId = []
  counts : d.stats = ⟨c.chatCount, 0, 0, 0⟩

/-- **The chats alone are left** if the number is an earlier one. -/
theorem showsChatsOf_opened (h : layout < currentLayout) :
    ShowsChatsOf c (c.editLayout layout).opened := by
  have hopened : (c.editLayout layout).opened = ⟨c.chats, [], [], currentLayout⟩ := if_pos h
  rw [hopened]
  exact {
    rows := rfl
    chat := fun _ => rfl
    found := fun _ => rfl
    listed := by
      rw [activeChats_eq, activeChats_eq, List.map_map]
      rfl
    messages := fun _ => by simp [messagesOf, messageRows]
    failed := fun _ => by simp [failedMessagesOf, messageRows]
    latest := fun _ => by simp [latestMessageOf, messageRows]
    attachments := fun _ _ => rfl
    counts := rfl }

/-! ## What is in the file -/

open Preferences (Housed)

variable {d d' : Disk} {p : Path}

/-- Open the cache at a path, once the directories above it are there. -/
def openHere (d : Disk) (p : Path) : Except Failure (Disk × Cache) :=
  match d.node? p with
  | none => .ok (d.put p (.database fresh), fresh)
  | some (.database c) => .ok (d.put p (.database c.opened), c.opened)
  | some (.file content) =>
    if content.isEmpty then .ok (d.put p (.database fresh), fresh)
    else .error (.storage "Failed to read schema version: file is not a database")
  | some .directory =>
    .error (.storage ("Failed to open database: unable to open database file: " ++ p.text))

theorem openAt_of_housed (h : Housed d p) : openAt d p = openHere d p := by
  unfold openAt
  cases hparent : p.parent? with
  | none => rfl
  | some parent =>
    dsimp only
    rw [Disk.makeDirectories_of_reaches (h parent hparent)]
    rfl

/-- A cache is opened where the directories above it are, or have been made. -/
theorem openHere_of_openAt (h : openAt d p = .ok (d', c)) :
    ∃ e, Housed e p ∧ openHere e p = .ok (d', c) := by
  unfold openAt at h
  cases hparent : p.parent? with
  | none =>
    rw [hparent] at h
    exact ⟨d, Preferences.housed_of_rootless hparent, h⟩
  | some parent =>
    rw [hparent] at h
    dsimp only at h
    split at h
    · rename_i e hmade
      exact ⟨e, Preferences.housed_of_made hparent hmade, h⟩
    · cases h

/-- What is opened is then in the file, and no directory is in its place. -/
theorem of_openHere (h : openHere d p = .ok (d', c)) :
    d.isDirectory p = false ∧ d' = d.put p (.database c) := by
  unfold openHere at h
  unfold Disk.isDirectory
  split at h
  · rename_i hnode
    cases h
    rw [hnode]
    exact ⟨rfl, rfl⟩
  · rename_i hnode
    cases h
    rw [hnode]
    exact ⟨rfl, rfl⟩
  · rename_i hnode
    split at h
    · cases h
      rw [hnode]
      exact ⟨rfl, rfl⟩
    · cases h
  · cases h

/-- Where a cache was opened there is its file, below directories that are there. -/
theorem of_openAt (h : openAt d p = .ok (d', c)) :
    Housed d' p ∧ d'.node? p = some (.database c) := by
  obtain ⟨e, hhoused, hhere⟩ := openHere_of_openAt h
  obtain ⟨hfree, rfl⟩ := of_openHere hhere
  exact ⟨hhoused.keep ((Disk.sameBut_put e p _).keepsDirectories hfree), Disk.node?_put hfree⟩

/-- **A cache is opened as its file says**, and the file says then what was opened. -/
theorem openAt_of_database (hhoused : Housed d p) (hnode : d.node? p = some (.database c)) :
    openAt d p = .ok (d.put p (.database c.opened), c.opened) := by
  rw [openAt_of_housed hhoused, openHere, hnode]

/-- **Opening once more changes nothing**, neither in the cache nor in the file. -/
theorem openAt_again (hopen : openAt d p = .ok (d', c)) (n : Cache) :
    openAt (d'.put p (.database n)) p = .ok (d'.put p (.database n.opened), n.opened) := by
  obtain ⟨hhoused, hnode⟩ := of_openAt hopen
  have hfree : d'.isDirectory p = false := by rw [Disk.isDirectory, hnode]
  have hkept := (Disk.sameBut_put d' p (.database n)).keepsDirectories hfree
  have hput : (d'.put p (.database n)).put p (.database n.opened) = d'.put p (.database n.opened) :=
    congrArg Disk.mk (Dict.insert_insert ..)
  rw [openAt_of_database (hhoused.keep hkept) (Disk.node?_put hfree), hput]

end Cache

namespace Store

variable {σ : Type}

/-- A store is like one whose cache has the same content. -/
theorem Alike.of_cache (s : Store σ) {b : Cache} (h : s.cache.SameContent b) :
    s.Alike { s with cache := b } where
  cache := h
  server := rfl
  surroundings := rfl
  defaultTitle := rfl
  trace := List.forall₂_same.mpr fun
    | .announced e, _ => .announced e
    | .asked r c, _ => .asked r (.refl c)

/-- **Opening the file of a cache again, after every session and with every layout number stored in
it.**  If the number is the present one or a later one, the cache is as it was, so every query has
the answer that it had; if it is an earlier one, the chats are as they were, and there is no message
and no attachment, so every chat has none.  The present number is then in the file, with the rows
that were opened, and opening it again changes nothing.  Writes put what was opened into a new
cache, and a store goes on with it as with any cache that has the same content: in every later
session it announces and asks the same, and answers every operation the same. -/
theorem cache_reopens (api : ServerApi σ) (server : σ) (surroundings : Surroundings)
    (defaultTitle : String) (steps : List (SessionStep σ)) (layout : Int) {d₀ d : Disk} {p : Path}
    {c₀ : Cache} (hopen : Cache.openAt d₀ p = .ok (d, c₀)) :
    let c := ((fresh server surroundings defaultTitle).session api steps).cache
    let o := (c.editLayout layout).opened
    Cache.openAt (d.put p (.database (c.editLayout layout))) p = .ok (d.put p (.database o), o) ∧
    (Cache.currentLayout ≤ layout → o = c) ∧
    (layout < Cache.currentLayout → Cache.ShowsChatsOf c o) ∧
    o.layout = Cache.currentLayout ∧
    Cache.openAt (d.put p (.database o)) p = .ok (d.put p (.database o), o) ∧
    o.rebuilding.foldl Cache.write .fresh = o ∧
    ∀ (s : Store σ) (b : Cache), o.SameContent b → ∀ later : List (SessionStep σ),
      let t := ({ s with cache := o } : Store σ).session api later
      let t' := ({ s with cache := b } : Store σ).session api later
      t.Alike t' ∧ ∀ call : StoreCall, AnswerAlike (call.run api t) (call.run api t') := by
  intro c o
  have hc : c.Rebuildable := session_rebuildable api server surroundings defaultTitle steps
  have ho : o.Rebuildable := hc.opened layout
  have hagain : o.opened = o := Cache.opened_of_current ho.layout
  refine ⟨Cache.openAt_again hopen _, Cache.opened_of_le hc.layout, Cache.showsChatsOf_opened,
    ho.layout, ?_, ho.rebuild_eq, fun s b hb later => ?_⟩
  · have hsecond := Cache.openAt_again hopen o
    rwa [hagain] at hsecond
  · have halike := (Alike.of_cache { s with cache := o } hb).session api later
    exact ⟨halike, halike.call api⟩

/-- A store that has refreshed the one chat of its server. -/
def refreshedStore : Store InMemoryServer :=
  let server := InMemoryServer.empty.insert
    (InMemoryServer.chatOfThread "c" "Tides" ["When?", "Twice a day."])
  (fresh server ⟨20, fun _ => "new", 0⟩ usualTitle).session InMemoryServer.api
    [.step (.call (.refreshMessages "c"))]

/-- The file of a cache is opened with the number of a later layout, and with a number below all. -/
theorem cache_reopens_refreshed :
    let p : Path := ⟨"data/chats.db"⟩
    let d : Disk := (Disk.mk (Dict.empty.insert "data" .directory)).put p (.database .fresh)
    let c := refreshedStore.cache
    Cache.openAt ⟨.empty⟩ p = .ok (d, .fresh) ∧ c.stats = ⟨1, 2, 0, 0⟩ ∧
    Cache.openAt (d.put p (.database (c.editLayout 3))) p = .ok (d.put p (.database c), c) ∧
    ∃ o, Cache.openAt (d.put p (.database (c.editLayout (-1)))) p =
        .ok (d.put p (.database o), o) ∧
      o.chat? "c" = c.chat? "c" ∧ o.stats = ⟨1, 0, 0, 0⟩ ∧
      Cache.openAt (d.put p (.database o)) p = .ok (d.put p (.database o), o) := by
  intro p d c
  have hopen : Cache.openAt ⟨.empty⟩ ⟨"data/chats.db"⟩ =
      .ok ((Disk.mk (Dict.empty.insert "data" .directory)).put ⟨"data/chats.db"⟩
        (.database .fresh), .fresh) := rfl
  have hcounts : c.stats = ⟨1, 2, 0, 0⟩ := rfl
  obtain ⟨hlater, hkept, -⟩ := cache_reopens InMemoryServer.api _ _ _
    [.step (.call (.refreshMessages "c"))] 3 hopen
  obtain ⟨hbelow, -, hchats, -, hagain, -⟩ := cache_reopens InMemoryServer.api _ _ _
    [.step (.call (.refreshMessages "c"))] (-1) hopen
  have hshown := hchats (by decide)
  rw [hkept (by decide)] at hlater
  exact ⟨hopen, hcounts, hlater, _, hbelow, hshown.chat "c", hshown.counts, hagain⟩

end Store
end OfflineChat
