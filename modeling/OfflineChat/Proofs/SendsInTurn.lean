import OfflineChat.Proofs.ChatMessages
import OfflineChat.Proofs.LinearThreads

/-! # Sends that follow each other

Texts are sent to a chat that has no cached message, one send at a time, while
the clock does not go back.  Whichever of them the server takes, the cache then
has one row for each of them, in their order; and each row hangs under the last
row before it that the server took (`Threaded`).  So the rows that were sent are
one chain, and those that failed hang off it (`Store.sends_in_turn_thread`).

What carries this through a run is that the rows record the sends in their order
(`Records`), at times that do not go back: the newest row that has not failed,
which the next one is put under, is then the last of them.
-/
namespace OfflineChat

/-! ## Rows that hang under each other -/

/-- Rows that came one after the other, each under the last before it that has not failed. -/
inductive Threaded : List MessageRow → Prop
  | nil : Threaded []
  | snoc {rows : List MessageRow} {r : MessageRow} (h : Threaded rows)
      (hr : r.parentId = (rows.filter (!·.isFailed)).getLast?.map (·.id)) : Threaded (rows ++ [r])

namespace Threaded

variable {rows : List MessageRow}

/-- Wherever the rows are cut, the next one hangs under what is before it. -/
theorem parentId_eq (h : Threaded rows) {before after : List MessageRow} {r : MessageRow}
    (hrows : rows = before ++ r :: after) :
    r.parentId = (before.filter (!·.isFailed)).getLast?.map (·.id) := by
  induction h generalizing after with
  | nil => simp at hrows
  | @snoc rows last h hr ih =>
    rcases eq_or_of_snoc_eq hrows with ⟨rfl, rfl, -⟩ | ⟨rest, -, hrows⟩
    · exact hr
    · exact ih hrows

/-- **The rows that have not failed are one chain**, and the first of them hangs under nothing. -/
theorem isChain (h : Threaded rows) :
    (rows.filter (!·.isFailed)).IsChain (fun a b => b.parentId = some a.id) ∧
      ∀ r ∈ (rows.filter (!·.isFailed)).head?, r.parentId = none := by
  induction h with
  | nil => exact ⟨.nil, fun r hr => by cases hr⟩
  | @snoc rows r h hr ih =>
    cases hfailed : r.isFailed with
    | true => simpa [hfailed] using ih
    | false =>
      rw [List.filter_append, List.filter_cons_of_pos (by simp [hfailed]), List.filter_nil]
      generalize rows.filter (!·.isFailed) = chain at hr ih
      refine ⟨List.isChain_append.mpr ⟨ih.1, .singleton r, ?_⟩, ?_⟩
      · intro a ha b hb
        cases hb
        rw [hr, Option.mem_def.mp ha, Option.map_some]
      · cases chain with
        | nil =>
          intro b hb
          cases hb
          exact hr
        | cons a chain => exact ih.2

end Threaded

/-! ## Sends and their rows -/

/-- A send as it was made: the id drawn for it, what was sent and when, and whether the server took
it. -/
structure Attempt where
  messageId : String
  content : String
  time : Int
  delivered : Bool
deriving DecidableEq

namespace Attempt

/-- The status of the message of a send that is over. -/
def status (a : Attempt) : MessageStatus := if a.delivered then .sent else .failed

theorem sent_eq_not_failed (a : Attempt) :
    decide (MessageStatus.ofText a.status.name = .sent) =
      !(a.status.name == MessageStatus.failed.name) := by
  unfold status
  cases a.delivered <;> decide

end Attempt

/-- Rows that record sends: one for each, in their order, under each other, and at times that do
not go back. -/
structure Records (log : List Attempt) (rows : List MessageRow) : Prop where
  columns : rows.map (fun r => (r.id, r.content, r.timestamp, r.status)) =
    log.map fun a => (a.messageId, a.content, a.time, a.status.name)
  sorted : rows.Pairwise (·.timestamp ≤ ·.timestamp)
  threaded : Threaded rows

namespace Records

variable {log : List Attempt} {rows : List MessageRow}

theorem nil : Records [] [] := ⟨rfl, .nil, .nil⟩

/-- Each row is that of a send. -/
theorem exists_of_mem (h : Records log rows) {r : MessageRow} (hr : r ∈ rows) :
    ∃ a ∈ log, a.messageId = r.id ∧ a.time = r.timestamp ∧ a.status.name = r.status := by
  have hin : (r.id, r.content, r.timestamp, r.status) ∈
      log.map fun a => (a.messageId, a.content, a.time, a.status.name) :=
    h.columns ▸ List.mem_map_of_mem hr
  obtain ⟨a, ha, heq⟩ := List.mem_map.mp hin
  simp only [Prod.mk.injEq] at heq
  exact ⟨a, ha, heq.1, heq.2.2.1, heq.2.2.2⟩

/-- A row counts as sent unless it failed: no send is under way. -/
theorem sent_eq_not_isFailed (h : Records log rows) {r : MessageRow} (hr : r ∈ rows) :
    decide (r.toMessage.status = .sent) = !r.isFailed := by
  obtain ⟨a, -, -, -, hstatus⟩ := h.exists_of_mem hr
  have ha := a.sent_eq_not_failed
  rwa [hstatus] at ha

/-- The next send adds its row, if time has not gone back. -/
theorem snoc (h : Records log rows) {a : Attempt} {r : MessageRow}
    (hcolumns : (r.id, r.content, r.timestamp, r.status) =
      (a.messageId, a.content, a.time, a.status.name))
    (htime : ∀ b ∈ log, b.time ≤ a.time)
    (hparent : r.parentId = (rows.filter (!·.isFailed)).getLast?.map (·.id)) :
    Records (log ++ [a]) (rows ++ [r]) where
  columns := by rw [List.map_append, List.map_append, h.columns, List.map_singleton,
    List.map_singleton, hcolumns]
  sorted := by
    refine List.pairwise_append.mpr ⟨h.sorted, List.pairwise_singleton _ _, ?_⟩
    intro x hx y hy
    obtain rfl := List.mem_singleton.mp hy
    obtain ⟨b, hb, -, hbtime, -⟩ := h.exists_of_mem hx
    have hr : y.timestamp = a.time := congrArg (·.2.2.1) hcolumns
    rw [← hbtime, hr]
    exact htime b hb
  threaded := .snoc h.threaded hparent

end Records

namespace Store

variable {σ : Type}

/-- The send of a text to a chat that is made next. -/
def nextAttempt (api : ServerApi σ) (s : Store σ) (chatId content : String) : Attempt where
  messageId := s.surroundings.draw.1
  content := content
  time := s.surroundings.now
  delivered := (api.answer (.sendMessage chatId content) s.server s.surroundings.draw.2).1.isOk

theorem outcome_eq {α : Type} (r : Except Failure α) :
    outcome r = if r.isOk then .sent else .failed := by
  cases r <;> rfl

/-- Sends to a chat that follow each other, with the log of them.  The id of each is new, and the
clock has not gone back since the earlier ones; between them come steps that are not about the
messages of the chat. -/
inductive SendsInTurn (api : ServerApi σ) (chatId : String) (s : Store σ) :
    List Attempt → Store σ → Prop
  | start : SendsInTurn api chatId s [] s
  | send {log : List Attempt} {t : Store σ} (h : SendsInTurn api chatId s log t) (content : String)
      (hnew : ∀ a ∈ log, a.messageId ≠ t.surroundings.draw.1)
      (hclock : ∀ a ∈ log, a.time ≤ t.surroundings.now) :
      SendsInTurn api chatId s (log ++ [t.nextAttempt api chatId content])
        (t.sendMessage api chatId content).2
  | other {log : List Attempt} {t : Store σ} (h : SendsInTurn api chatId s log t)
      {x : StoreStep σ} (hx : x.Spares api t chatId) : SendsInTurn api chatId s log (t.step api x)

variable {api : ServerApi σ} {chatId : String} {s t : Store σ} {log : List Attempt}

/-- **The cached rows of the chat record the sends.** -/
theorem SendsInTurn.records (h : SendsInTurn api chatId s log t)
    (hempty : s.cache.chatRows chatId = []) : Records log (t.cache.chatRows chatId) := by
  induction h with
  | start =>
    rw [hempty]
    exact .nil
  | @send log t _ content hnew hclock ih =>
    have hids : ∀ r ∈ t.cache.chatRows chatId, r.id ≠ t.surroundings.draw.1 := by
      intro r hr
      obtain ⟨a, ha, hid, -⟩ := ih.exists_of_mem hr
      exact hid ▸ hnew a ha
    rw [chatRows_sendMessage api content hids]
    refine ih.snoc ?_ hclock ?_
    · rw [outcome_eq]
      rfl
    · show (t.cache.latestMessageOf chatId).map (·.id) = _
      rw [Cache.latestMessageOf, Cache.messageRows_of_sorted ih.sorted, Option.map_map]
      rfl
  | other _ hx ih =>
    rw [chatRows_step_of_spares api hx]
    exact ih

/-- **Sends that follow each other leave one thread.**  The cached messages of the chat are those
that were sent, in their order, each as sent if the server took it and as failed otherwise; those
it took are a linear chain whose first hangs under nothing, and every message hangs under the last
one before it that the server took. -/
theorem sends_in_turn_thread (h : SendsInTurn api chatId s log t)
    (hempty : s.cache.messagesOf chatId = []) :
    let messages := t.cache.messagesOf chatId
    messages.map (fun m => (m.id, m.content, m.status)) =
      log.map (fun a => (a.messageId, a.content, a.status)) ∧
    isLinearChain ((messages.filter (·.status = .sent)).map (·.toMessage)) = true ∧
    (∀ m ∈ (messages.filter (·.status = .sent)).head?, m.parentId = none) ∧
    ∀ before m after, messages = before ++ m :: after →
      m.parentId = (before.filter (·.status = .sent)).getLast?.map (·.id) := by
  have hstart : s.cache.chatRows chatId = [] := by
    have hperm := s.cache.messageRows_perm chatId
    rw [List.map_eq_nil_iff.mp hempty] at hperm
    exact hperm.nil_eq.symm
  have hrec := h.records hstart
  intro messages
  have hmessages : messages = (t.cache.chatRows chatId).map (·.toMessage) := by
    rw [← Cache.messageRows_of_sorted hrec.sorted]
    rfl
  generalize t.cache.chatRows chatId = rows at hrec hmessages
  -- of the first rows, those that count as sent are those that have not failed
  have hsent : ∀ l ⊆ rows, (l.map (·.toMessage)).filter (·.status = .sent) =
      (l.filter (!·.isFailed)).map (·.toMessage) := by
    intro l hl
    rw [List.filter_map]
    exact congrArg _ (List.filter_congr fun r hr => hrec.sent_eq_not_isFailed (hl hr))
  rw [hmessages, hsent rows (List.Subset.refl rows)]
  obtain ⟨hchain, hfirst⟩ := hrec.threaded.isChain
  refine ⟨?_, ?_, ?_, ?_⟩
  · have hread := congrArg (List.map fun x : String × String × Int × String =>
      (x.1, x.2.1, MessageStatus.ofText x.2.2.2)) hrec.columns
    rw [List.map_map, List.map_map] at hread
    rw [List.map_map]
    refine hread.trans (List.map_congr_left fun a _ => ?_)
    rw [Function.comp_apply, MessageStatus.ofText_name]
  · rw [List.map_map, isLinearChain_iff]
    exact (List.isChain_map _).mpr hchain
  · rw [List.head?_map]
    intro m hm
    obtain ⟨r, hr, rfl⟩ := Option.map_eq_some_iff.mp hm
    exact hfirst r hr
  · intro before m after hsplit
    obtain ⟨l, l', rfl, rfl, hl'⟩ := List.map_eq_append_iff.mp hsplit
    obtain ⟨r, after', rfl, rfl, -⟩ := List.map_eq_cons_iff.mp hl'
    rw [hsent l (List.subset_append_left _ _), List.getLast?_map, Option.map_map]
    exact hrec.threaded.parentId_eq rfl

/-- A store with nothing cached, whose server has one chat. -/
def newcomerStore : Store InMemoryServer :=
  fresh (InMemoryServer.empty.insert (InMemoryServer.chatOfThread "c" "Tides" []))
    ⟨20, fun n => "m" ++ toString n, 0⟩ usualTitle

/-- The server takes sends from now on, or refuses them. -/
def turnServer (refuses : Bool) (s : Store InMemoryServer) : Store InMemoryServer :=
  s.step InMemoryServer.api (.elsewhere { s.server with failSends := refuses } s.surroundings
    s.defaultTitle)

/-- A text is sent while the server takes sends, or while it refuses them. -/
def sendWhile (refuses : Bool) (content : String) (s : Store InMemoryServer) :
    Store InMemoryServer :=
  ((s.turnServer refuses).sendMessage InMemoryServer.api "c" content).2

theorem SendsInTurn.sendWhile {s t : Store InMemoryServer} {log : List Attempt}
    (h : SendsInTurn InMemoryServer.api "c" s log t) (refuses : Bool) (content : String)
    {a : Attempt} (ha : (t.turnServer refuses).nextAttempt InMemoryServer.api "c" content = a)
    (hnew : ∀ b ∈ log, b.messageId ≠ t.surroundings.draw.1)
    (hclock : ∀ b ∈ log, b.time ≤ t.surroundings.now) :
    SendsInTurn InMemoryServer.api "c" s (log ++ [a]) (sendWhile refuses content t) := by
  have hturned : SendsInTurn InMemoryServer.api "c" s log (t.turnServer refuses) :=
    .other h (x := .elsewhere ..) trivial
  rw [← ha]
  exact hturned.send content hnew hclock

theorem sends_in_turn_thread_wavering :
    newcomerStore.cache.messagesOf "c" = [] ∧
    let log : List Attempt :=
      [⟨"m0", "When?", 20, true⟩, ⟨"m3", "Why?", 20, false⟩, ⟨"m4", "Hm?", 20, true⟩]
    let t := sendWhile false "Hm?" (sendWhile true "Why?" (sendWhile false "When?" newcomerStore))
    SendsInTurn InMemoryServer.api "c" newcomerStore log t ∧
    let messages := t.cache.messagesOf "c"
    messages.map (fun m => (m.id, m.content, m.status)) =
      [("m0", "When?", .sent), ("m3", "Why?", .failed), ("m4", "Hm?", .sent)] ∧
    isLinearChain ((messages.filter (·.status = .sent)).map (·.toMessage)) = true ∧
    (∀ m ∈ (messages.filter (·.status = .sent)).head?, m.parentId = none) ∧
    ∀ before m after, messages = before ++ m :: after →
      m.parentId = (before.filter (·.status = .sent)).getLast?.map (·.id) := by
  have hempty : newcomerStore.cache.messagesOf "c" = [] :=
    congrArg (List.map MessageRow.toMessage) List.mergeSort_nil
  have hrun : SendsInTurn InMemoryServer.api "c" newcomerStore
      [⟨"m0", "When?", 20, true⟩, ⟨"m3", "Why?", 20, false⟩, ⟨"m4", "Hm?", 20, true⟩]
      (sendWhile false "Hm?" (sendWhile true "Why?" (sendWhile false "When?" newcomerStore))) := by
    have hfirst := (SendsInTurn.start (s := newcomerStore)).sendWhile false "When?"
      (a := ⟨"m0", "When?", 20, true⟩) (by decide) (by decide) (by decide)
    have hsecond := hfirst.sendWhile true "Why?"
      (a := ⟨"m3", "Why?", 20, false⟩) (by decide) (by decide) (by decide)
    exact hsecond.sendWhile false "Hm?" (by decide) (by decide) (by decide)
  exact ⟨hempty, hrun, sends_in_turn_thread hrun hempty⟩

end Store
end OfflineChat
