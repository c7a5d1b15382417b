import OfflineChat.Cache.Edit
import OfflineChat.Proofs.InsertionOrder
import OfflineChat.Proofs.MessageOrder

/-! # The queries for messages

The messages of a chat are one list, by time and then by the moment at which
each came into the cache, and what else is asked about messages is read off that
list (`Cache.messageQueries_agree`).

The moment is a matter of the whole past of the cache, of which its tables say
nothing but the order of their rows.  So runs are followed by a `History`, which
keeps every state there was, one for each message that was put.  A row came at
the last moment at which it was not there (`History.insertedAt`).  From one
state to the next messages may go, and one may come behind all others
(`KeysAdvance`), so the order of the table is that of the moments
(`History.InOrder`).
-/
namespace OfflineChat

/-! ## Steps -/

/-- An edit below the cache's own writes, as data. -/
inductive CacheEdit where
  | layout (number : Int)
  | models (chatId text : String)
  | pinned (chatId : String) (value : Int)
  | role (id text : String)
  | status (id text : String)
  | localPath (id path : String)

/-- Carry out an edit. -/
def CacheEdit.run (c : Cache) : CacheEdit → Cache
  | .layout number => c.editLayout number
  | .models chatId text => (c.editModels chatId text).1
  | .pinned chatId value => (c.editPinned chatId value).1
  | .role id text => (c.editRole id text).1
  | .status id text => (c.editStatus id text).1
  | .localPath id path => (c.editLocalPath id path).1

/-- Something that happens to a cache: a write, an edit, or the file is closed and opened again. -/
inductive CacheStep where
  | write (w : CacheWrite)
  | edit (e : CacheEdit)
  | reopen

namespace CacheStep

/-- Take a step.  A write that is refused leaves the cache as it was. -/
def run (c : Cache) : CacheStep → Cache
  | .write w => match w.run c with
    | .ok (d, _) => d
    | .error _ => c
  | .edit e => e.run c
  | .reopen => c.opened

/-- What a step consists of: a snapshot is put message by message, and everything else is done at
once. -/
def parts : CacheStep → List (Cache → Cache)
  | .write (.applySnapshot chat thread) =>
    (·.putChat (.ofChat (.ofChat chat))) :: thread.map fun m c => c.putServerMessage chat.id m
  | x => [(x.run ·)]

theorem foldl_parts (x : CacheStep) (c : Cache) :
    x.parts.foldl (fun c part => part c) c = x.run c := by
  unfold parts
  split
  · rw [List.foldl_cons, List.foldl_map]
    rfl
  · rfl

end CacheStep

/-! ## Histories -/

/-- The keys of the messages of a cache, in the order of the table. -/
def Cache.messageKeys (c : Cache) : List (String × String) := c.messages.map (·.key)

/-- What a cache has been through. -/
structure History where
  present : Cache
  /-- The states before the present one, the latest first. -/
  past : List Cache

namespace History

/-- The moment at which what is under a key now was inserted, among some states with the latest
first: the one after the last state in which there was nothing under the key. -/
def insertedAmong (k : String × String) : List Cache → Nat
  | [] => 0
  | c :: past => if k ∈ c.messageKeys then insertedAmong k past else past.length + 1

/-- The moment at which the message under a key was inserted. -/
def insertedAt (h : History) (k : String × String) : Nat := insertedAmong k (h.present :: h.past)

/-- A new cache. -/
def start : History := ⟨.fresh, []⟩

/-- The history goes on with a part of a step. -/
def next (h : History) (part : Cache → Cache) : History := ⟨part h.present, h.present :: h.past⟩

/-- The history goes on with a step. -/
def step (h : History) (x : CacheStep) : History := x.parts.foldl next h

/-- The history of a new cache that takes some steps. -/
def ofSteps (steps : List CacheStep) : History := steps.foldl step start

theorem present_foldl_next (parts : List (Cache → Cache)) (h : History) :
    (parts.foldl next h).present = parts.foldl (fun c part => part c) h.present := by
  induction parts generalizing h with
  | nil => rfl
  | cons part rest ih => exact ih (h.next part)

theorem present_step (h : History) (x : CacheStep) : (h.step x).present = x.run h.present := by
  rw [← x.foldl_parts, step, present_foldl_next]

/-- **A history ends in the cache that the steps lead to.** -/
theorem present_ofSteps (steps : List CacheStep) :
    (ofSteps steps).present = steps.foldl CacheStep.run .fresh := by
  unfold ofSteps
  show (steps.foldl step start).present = steps.foldl CacheStep.run start.present
  generalize start = h
  induction steps generalizing h with
  | nil => rfl
  | cons x rest ih => rw [List.foldl_cons, ih, present_step, List.foldl_cons]

/-! ## The order of the table -/

/-- The messages are in the order of the moments at which they were inserted. -/
def InOrder (h : History) : Prop :=
  h.present.messageKeys.Pairwise fun j k => h.insertedAt j < h.insertedAt k

/-- Messages came when their keys did. -/
theorem insertedAmong_eq_cameAt (k : String × String) (states : List Cache) :
    insertedAmong k states = cameAt k (states.map Cache.messageKeys) := by
  induction states with
  | nil => rfl
  | cons c past ih => by_cases hk : k ∈ c.messageKeys <;> simp [insertedAmong, cameAt, hk, ih]

/-- **The order is kept from one state to the next.** -/
theorem InOrder.next {h : History} {part : Cache → Cache} (hh : h.InOrder)
    (hkeys : KeysAdvance h.present.messageKeys (part h.present).messageKeys) :
    (h.next part).InOrder := by
  simp only [InOrder, insertedAt, insertedAmong_eq_cameAt] at hh ⊢
  exact pairwise_cameAt_cons hkeys hh

end History

/-! ## What the parts of a step do to the keys -/

theorem keysAdvance_putMessage (c : Cache) (r : MessageRow) :
    KeysAdvance c.messageKeys (c.putMessage r).messageKeys :=
  keysAdvance_upsert (keepsKey_replace MessageRow.key) r c.messages

theorem keysAdvance_run {c d : Cache} {w : CacheWrite} {es : List CacheEvent}
    (hw : ∀ chat thread, w ≠ .applySnapshot chat thread) (h : w.run c = .ok (d, es)) :
    KeysAdvance c.messageKeys d.messageKeys := by
  cases w with
  | upsertSummaries ss =>
    cases h
    exact .of_eq (congrArg (List.map MessageRow.key) (Cache.foldl_putSummary_messages ss c))
  | upsertChat chat => cases h; exact .of_eq rfl
  | applySnapshot chat thread => exact absurd rfl (hw chat thread)
  | upsertMessage m =>
    simp only [CacheWrite.run, Cache.upsertMessage] at h
    split at h
    · cases h
      exact keysAdvance_putMessage c (.ofMessage m)
    · cases h
  | setMessageStatus chatId messageId status =>
    cases h
    unfold Cache.setMessageStatus
    split
    · refine .of_eq (map_key_map (fun r => ?_) c.messages)
      split <;> rfl
    · exact .of_eq rfl
  | deleteChat chatId => cases h; exact .stay (List.filter_sublist.map _)
  | toggle f chatId =>
    cases h
    unfold Cache.toggle
    split <;> exact .of_eq rfl
  | clearAll => cases h; exact .stay (List.nil_sublist _)

theorem messageKeys_edit (c : Cache) (e : CacheEdit) :
    (e.run c).messageKeys = c.messageKeys := by
  cases e with
  | role id text => exact map_key_map (fun r => by split <;> rfl) c.messages
  | status id text => exact map_key_map (fun r => by split <;> rfl) c.messages
  | _ => rfl

/-- **In each part of a step, messages may go and one may come.** -/
theorem CacheStep.keysAdvance (x : CacheStep) : ∀ part ∈ x.parts, ∀ c : Cache,
    KeysAdvance c.messageKeys (part c).messageKeys := by
  intro part hpart c
  unfold parts at hpart
  split at hpart
  · rename_i chat thread
    rcases List.mem_cons.mp hpart with rfl | hpart
    · exact .of_eq rfl
    · obtain ⟨m, -, rfl⟩ := List.mem_map.mp hpart
      show KeysAdvance c.messageKeys ((c.putServerMessage chat.id m).messages.map _)
      rw [Cache.putServerMessage_messages]
      exact keysAdvance_putMessage c _
  · rename_i hsnapshot
    obtain rfl := List.mem_singleton.mp hpart
    cases x with
    | write w =>
      dsimp only [run]
      split
      · rename_i d es h
        exact keysAdvance_run (fun chat thread he => hsnapshot chat thread (he ▸ rfl)) h
      · exact .of_eq rfl
    | edit e => exact .of_eq (messageKeys_edit c e)
    | reopen =>
      show KeysAdvance _ c.opened.messageKeys
      unfold Cache.opened
      split
      · exact .stay (List.nil_sublist _)
      · exact .of_eq rfl

namespace History

theorem InOrder.step {h : History} (hh : h.InOrder) (x : CacheStep) : (h.step x).InOrder := by
  have hparts := x.keysAdvance
  unfold History.step
  generalize x.parts = parts at hparts
  induction parts generalizing h with
  | nil => exact hh
  | cons part rest ih =>
    obtain ⟨hpart, hrest⟩ := List.forall_mem_cons.mp hparts
    exact ih (hh.next (hpart h.present)) hrest

/-- **After every run the table is in the order of the moments of insertion.** -/
theorem inOrder_ofSteps (steps : List CacheStep) : (ofSteps steps).InOrder := by
  have hstart : start.InOrder := List.Pairwise.nil
  unfold ofSteps
  generalize start = h at hstart
  induction steps generalizing h with
  | nil => exact hstart
  | cons x rest ih => exact ih (h.step x) (hstart.step x)

end History

/-! ## The list and what is read off it -/

namespace Cache

variable {c : Cache} {chatId : String}

/-- What tells the rows of the table apart in its order tells messages of one time apart in the
order of the list. -/
theorem messagesOf_pairwise {before : String × String → String × String → Prop}
    (h : c.messageKeys.Pairwise before) :
    (c.messagesOf chatId).Pairwise fun a b => a.timestamp < b.timestamp ∨
      a.timestamp = b.timestamp ∧ before (chatId, a.id) (chatId, b.id) := by
  have htable : (c.chatRows chatId).Pairwise fun a b => before a.key b.key :=
    (List.pairwise_map.mp h).sublist List.filter_sublist
  refine List.pairwise_map.mpr (List.pairwise_iff_forall_sublist.mpr fun {a b} hab => ?_)
  have hrow {r : MessageRow} (hr : r ∈ [a, b]) : r.key = (chatId, r.id) := by
    have hin := (c.messageRows_perm chatId).mem_iff.mp (hab.mem hr)
    rw [MessageRow.key, eq_of_beq (List.mem_filter.mp hin).2]
  have hle := List.pairwise_iff_forall_sublist.mp (c.messageRows_pairwise chatId) hab
  refine (Int.lt_or_eq_of_le hle).imp_right fun (htime : a.timestamp = b.timestamp) => ⟨htime, ?_⟩
  -- rows of one time are in the order of the table
  have hsame := hab.filter (·.timestamp == a.timestamp)
  rw [filter_messageRows_time, List.filter_eq_self.mpr (by simp [htime])] at hsame
  have hbefore := List.pairwise_iff_forall_sublist.mp htable (hsame.trans List.filter_sublist)
  rwa [hrow (r := a) (by simp), hrow (r := b) (by simp)] at hbefore

/-- **The failed messages are those of the list.** -/
theorem failedMessagesOf_eq (c : Cache) (chatId : String) :
    c.failedMessagesOf chatId = (c.messagesOf chatId).filter (·.status = .failed) := by
  rw [messagesOf, List.filter_map]
  refine congrArg _ (List.filter_congr fun r _ => ?_)
  rw [Function.comp_apply, Bool.eq_iff_iff, decide_eq_true_iff, r.status_toMessage_eq_failed]

/-- **The latest message is the last of the list that has not failed.** -/
theorem latestMessageOf_eq (c : Cache) (chatId : String) :
    c.latestMessageOf chatId = ((c.messagesOf chatId).filter (·.status ≠ .failed)).getLast? := by
  rw [messagesOf, List.filter_map, List.getLast?_map]
  refine congrArg (fun rows => (List.getLast? rows).map _) (List.filter_congr fun r _ => ?_)
  rw [Function.comp_apply, Bool.eq_iff_iff, decide_eq_true_iff, ne_eq,
    r.status_toMessage_eq_failed, Bool.not_eq_true', Bool.not_eq_true]

/-- **The queries for messages after every run.**  The messages of a chat are the rows of the chat,
by time and those of one time by the moment at which they were inserted, whatever was changed of
them since.  The failed messages are those of this list that have failed, in its order; the latest
message is the last of this list that has not failed, and there is none exactly if all have. -/
theorem messageQueries_agree (steps : List CacheStep) (chatId : String) :
    let c := steps.foldl CacheStep.run .fresh
    let h := History.ofSteps steps
    h.present = c ∧
    (c.messagesOf chatId).Perm ((c.chatRows chatId).map (·.toMessage)) ∧
    (c.messagesOf chatId).Pairwise (fun a b => a.timestamp < b.timestamp ∨
      a.timestamp = b.timestamp ∧ h.insertedAt (chatId, a.id) < h.insertedAt (chatId, b.id)) ∧
    c.failedMessagesOf chatId = (c.messagesOf chatId).filter (·.status = .failed) ∧
    c.latestMessageOf chatId = ((c.messagesOf chatId).filter (·.status ≠ .failed)).getLast? ∧
    (c.latestMessageOf chatId = none ↔ ∀ m ∈ c.messagesOf chatId, m.status = .failed) := by
  intro c h
  have hpresent : h.present = c := History.present_ofSteps steps
  refine ⟨hpresent, (c.messageRows_perm chatId).map _, ?_, c.failedMessagesOf_eq chatId,
    c.latestMessageOf_eq chatId, ?_⟩
  · have horder := History.inOrder_ofSteps steps
    unfold History.InOrder at horder
    rw [hpresent] at horder
    exact messagesOf_pairwise horder
  · rw [latestMessageOf_eq, List.getLast?_eq_none_iff, List.filter_eq_nil_iff]
    simp

end Cache
end OfflineChat
