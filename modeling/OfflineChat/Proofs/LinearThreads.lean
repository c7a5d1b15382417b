import Mathlib
import OfflineChat.Chat
import OfflineChat.Proofs.ParentWalk

/-! # Threads and links

A thread follows links from key to key of a message map, while a chain is linear if
each message names the id of the one before it.  A map need not keep its messages
under their ids, and no reader of histories asks it to.  So a thread is a linear
chain exactly if the links that were followed name the ids of the messages they led
to (`MessageMap.isLinearChain_thread_iff`).  `MessageMap.misfiled_thread` shows a
history that decodes well and whose thread is no chain.
-/
namespace OfflineChat

theorem isLinearChain_iff {l : List Message} :
    isLinearChain l = true ↔ l.IsChain fun m n => n.parentId = some m.id := by
  induction l with
  | nil => simp [isLinearChain]
  | cons m rest ih =>
    cases rest with
    | nil => simp [isLinearChain]
    | cons n rest => rw [isLinearChain, Bool.and_eq_true, ih, List.isChain_cons_cons, beq_iff_eq]

namespace MessageMap

variable {messages : MessageMap} {currentId : Option String}

/-- From the root to the current message, each link leads to the message before. -/
theorem follow_thread (messages : MessageMap) (currentId : Option String) :
    (messages.thread currentId).IsChain fun m n => messages.follow n.parentId = some m := by
  rw [thread, List.isChain_reverse]
  exact (climbs_walk messages currentId).isChain

/-- In a list where each link leads to the message before, the chain is linear if and only if the
links name ids. -/
theorem isLinearChain_iff_of_follow {l : List Message}
    (h : l.IsChain fun m n => messages.follow n.parentId = some m) :
    isLinearChain l = true ↔
      ∀ n ∈ l.tail, ∀ m, messages.follow n.parentId = some m → n.parentId = some m.id := by
  rw [isLinearChain_iff]
  induction l with
  | nil => simp
  | cons m rest ih =>
    cases rest with
    | nil => simp
    | cons n rest =>
      obtain ⟨hlink, hrest⟩ := List.isChain_cons_cons.mp h
      rw [List.isChain_cons_cons, ih hrest, List.tail_cons, List.tail_cons, List.forall_mem_cons]
      refine and_congr_left fun _ => ⟨fun hid m' hm' => ?_, fun hids => hids m hlink⟩
      -- a link leads to one message only
      cases hlink.symm.trans hm'
      exact hid

/-- **A thread is a linear chain exactly if its links name ids.**  Each message of a thread but the
first hangs under the one before it by the key that its link names, and the chain is linear if and
only if these keys are the ids of the messages under them; so it is, if all messages are kept under
their ids. -/
theorem isLinearChain_thread_iff (messages : MessageMap) (currentId : Option String) :
    (messages.thread currentId).IsChain (fun m n => messages.follow n.parentId = some m) ∧
    (isLinearChain (messages.thread currentId) = true ↔
      ∀ n ∈ (messages.thread currentId).tail, ∀ m,
        messages.follow n.parentId = some m → n.parentId = some m.id) ∧
    ((∀ key m, messages.find? key = some m → m.id = key) →
      isLinearChain (messages.thread currentId) = true) := by
  have hfollow := follow_thread messages currentId
  have hiff := isLinearChain_iff_of_follow hfollow
  refine ⟨hfollow, hiff, fun hkeys => hiff.mpr fun n _ m hm => ?_⟩
  obtain ⟨key, hparent, hfind⟩ := Option.bind_eq_some_iff.mp hm
  rw [hparent, hkeys key m hfind]

/-- A history as a server may send it: the message under the key `a` has the id `z`. -/
def misfiledText : String :=
  "\x7b\"currentId\":\"b\",\"messages\":\x7b" ++
    "\"a\":\x7b\"id\":\"z\",\"role\":\"user\",\"timestamp\":1\x7d," ++
    "\"b\":\x7b\"id\":\"b\",\"parentId\":\"a\",\"role\":\"user\",\"timestamp\":2\x7d\x7d\x7d"

/-- It is read without complaint, and its thread is no linear chain: the second message hangs under
`a`, and the first one is `z`. -/
theorem misfiled_thread :
    ∃ history, (ChatHistory.codec 5).decode misfiledText = .ok history ∧
      (history.messages.thread history.currentId).map (fun m => (m.id, m.parentId)) =
        [("z", none), ("b", some "a")] ∧
      isLinearChain (history.messages.thread history.currentId) = false := by
  refine ⟨⟨some "b", .ofList [("a", .plain "z" none .user "" 1),
    ("b", .plain "b" (some "a") .user "" 2)]⟩, ?_, ?_, ?_⟩
  · cbv
  · decide
  · decide

end MessageMap
end OfflineChat
