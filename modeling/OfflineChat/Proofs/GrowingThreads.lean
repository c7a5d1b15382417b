import OfflineChat.Proofs.DictEntries
import OfflineChat.Proofs.LinearThreads
import OfflineChat.Server.InMemory

/-! # Threads grow at their end

A message that is put under the current one, with an id that stands nowhere in the
history, comes behind the whole thread (`ChatHistory.thread_push`): it has not been
met before, and nothing that was on the way to the root leads to it.  This holds of
every history, those with circles and with links that lead nowhere among them.

The server in memory builds its made-up threads in this way, and it answers in this
way: a turn is two messages put one after the other, apart from the child that the
message above them is given, which no walk looks at
(`ChatHistory.thread_appendTurn`).  The main statement is
`InMemoryServer.threads_grow`.
-/
namespace OfflineChat

/-- The message with no child noted. -/
def Message.childless (m : Message) : Message := { m with childrenIds := [] }

namespace MessageMap

variable {messages : MessageMap} {met : List String} {link : Option String} {path : List Message}

/-- Ids that no message on the way has may have been met before. -/
theorem Climbs.past (h : Climbs messages met link path) {more : List String}
    (hmore : ∀ m ∈ path, m.id ∉ more) : Climbs messages (met ++ more) link path := by
  induction h with
  | stop h => exact .stop (h.mono fun id hid => List.mem_append_left _ hid)
  | up h hnew _ ih =>
    refine .up h (fun hmem => ?_) (ih fun m hm => hmore m (List.mem_cons_of_mem _ hm))
    rcases List.mem_append.mp hmem with hmet | hin
    · exact hnew hmet
    · exact hmore _ (List.mem_cons_self ..) hin

/-- The messages on the way are messages of the map. -/
theorem Climbs.exists_key (h : Climbs messages met link path) :
    ∀ m ∈ path, ∃ key, messages.find? key = some m := by
  induction h with
  | stop _ => exact nofun
  | up h _ _ ih => exact List.forall_mem_cons.mpr ⟨⟨_, h⟩, ih⟩

/-- No walk looks at children. -/
theorem walkFrom_childless (messages : MessageMap) (steps : Nat) (met : List String)
    (link : Option String) :
    walkFrom (messages.map Message.childless) steps met link =
      (messages.walkFrom steps met link).map Message.childless := by
  induction steps generalizing met link with
  | zero => rfl
  | succ steps ih =>
    cases link with
    | none => rfl
    | some key =>
      rw [walkFrom, walkFrom, Dict.find?_map]
      cases messages.find? key with
      | none => rfl
      | some m =>
        rw [Option.map_some]
        dsimp only
        rw [ih, apply_ite (List.map Message.childless)]
        rfl

end MessageMap

namespace ChatHistory

open MessageMap

variable {h : ChatHistory} {m : Message} {id : String}

/-- The thread that ends at the current message. -/
def thread (h : ChatHistory) : List Message := h.messages.thread h.currentId

/-- Every id that stands somewhere in the history: as the current one, as a key, or in a message as
its own, as its parent or as a child. -/
def ids (h : ChatHistory) : List String :=
  h.currentId.toList ++ h.messages.entries.flatMap fun (key, m) =>
    key :: m.id :: m.parentId.toList ++ m.childrenIds

/-- The history with a message more, which is the current one. -/
def push (h : ChatHistory) (m : Message) : ChatHistory := ⟨some m.id, h.messages.insert m.id m⟩

/-- The history with no child noted. -/
def childless (h : ChatHistory) : ChatHistory :=
  ⟨h.currentId, h.messages.map Message.childless⟩

theorem mem_ids_of_currentId (hcurrent : h.currentId = some id) : id ∈ h.ids := by
  simp [ids, hcurrent]

theorem mem_ids_of_find? {key : String} (hm : h.messages.find? key = some m)
    (hid : id = key ∨ id = m.id ∨ m.parentId = some id) : id ∈ h.ids := by
  refine List.mem_append_right _ (List.mem_flatMap.mpr ⟨_, Dict.mem_entries_of_find? hm, ?_⟩)
  rcases hid with rfl | rfl | hparent
  · simp
  · simp
  · simp [hparent]

theorem mem_ids_push (hid : id ∈ (h.push m).ids) :
    id ∈ h.ids ∨ id = m.id ∨ m.parentId = some id ∨ id ∈ m.childrenIds := by
  rcases List.mem_append.mp hid with hid | hid
  · exact .inr (.inl (by simpa [push] using hid))
  · obtain ⟨e, he, hid⟩ := List.mem_flatMap.mp hid
    rcases Dict.mem_insertEntry he with rfl | he
    · simp only [List.cons_append, List.mem_cons, List.mem_append, Option.mem_toList] at hid
      tauto
    · exact .inl (List.mem_append_right _ (List.mem_flatMap.mpr ⟨e, he, hid⟩))

/-- **A message that is put under the current one comes behind the whole thread**, if its id
stands nowhere in the history. -/
theorem thread_push (hparent : m.parentId = h.currentId) (hnew : m.id ∉ h.ids) :
    (h.push m).thread = h.thread ++ [m] := by
  have hclimbs := climbs_walk h.messages h.currentId
  have hkey : ∀ m' ∈ h.messages.walk h.currentId, ∃ key, h.messages.find? key = some m' :=
    hclimbs.exists_key
  have hmet : ∀ m' ∈ h.messages.walk h.currentId, m'.id ∉ [m.id] := by
    intro m' hm' heq
    obtain ⟨key, hfind⟩ := hkey m' hm'
    exact hnew (mem_ids_of_find? hfind (.inr (.inl (List.mem_singleton.mp heq).symm)))
  -- the old way to the root is as it was: none of its links names the new message
  have hold : Climbs (h.push m).messages [] h.currentId (h.messages.walk h.currentId) := by
    refine hclimbs.congr fun key hlink => ?_
    have hne : key ≠ m.id := by
      rintro rfl
      rcases hlink with hcurrent | ⟨m', hm', hlink⟩
      · exact hnew (mem_ids_of_currentId hcurrent)
      · obtain ⟨key, hfind⟩ := hkey m' hm'
        exact hnew (mem_ids_of_find? hfind (.inr (.inr hlink)))
    show (h.messages.insert m.id m).find? key = _
    rw [Dict.find?_insert, if_neg hne]
  have hfind : (h.push m).messages.find? m.id = some m := by
    show (h.messages.insert m.id m).find? m.id = some m
    rw [Dict.find?_insert, if_pos rfl]
  have hup : Climbs (h.push m).messages [] (some m.id) (m :: h.messages.walk h.currentId) := by
    refine .up hfind List.not_mem_nil ?_
    rw [hparent]
    exact hold.past hmet
  have hwalk := (climbs_walk (h.push m).messages (some m.id)).unique hup
  show ((h.push m).messages.walk (some m.id)).reverse = _
  rw [hwalk, List.reverse_cons]
  rfl

/-! ## Children -/

theorem thread_childless (h : ChatHistory) :
    h.childless.thread = h.thread.map Message.childless := by
  have hsize : h.childless.messages.size = h.messages.size := List.length_map _
  show (walkFrom (h.messages.map Message.childless) h.childless.messages.size []
    h.currentId).reverse = _
  rw [walkFrom_childless, hsize, ← List.map_reverse]
  rfl

theorem mem_ids_of_childless (hid : id ∈ h.childless.ids) : id ∈ h.ids := by
  rcases List.mem_append.mp hid with hid | hid
  · exact List.mem_append_left _ hid
  · obtain ⟨e, he, hid⟩ := List.mem_flatMap.mp hid
    obtain ⟨⟨key, m⟩, hm, rfl⟩ := List.mem_map.mp he
    refine List.mem_append_right _ (List.mem_flatMap.mpr ⟨_, hm, ?_⟩)
    have hkept : id ∈ key :: m.id :: m.parentId.toList := by
      simpa [Message.childless] using hid
    exact List.mem_append_left m.childrenIds hkept

theorem childless_push (h : ChatHistory) (m : Message) :
    (h.push m).childless = h.childless.push m.childless :=
  congrArg (ChatHistory.mk _) (Dict.map_insert _ _ _ _)

theorem isLinearChain_childless (l : List Message) :
    isLinearChain (l.map Message.childless) = isLinearChain l := by
  rw [Bool.eq_iff_iff, isLinearChain_iff, isLinearChain_iff, List.isChain_map]
  rfl

/-! ## Reading a history -/

/-- The history reads as a list of texts: they are the contents of its thread, which is a linear
chain from a message without a parent to the current one. -/
structure Reads (h : ChatHistory) (texts : List String) : Prop where
  contents : h.thread.map (·.content) = texts
  linear : isLinearChain h.thread = true
  root : ∀ m ∈ h.thread.head?, m.parentId = none
  tip : h.currentId = h.thread.getLast?.map (·.id)

namespace Reads

variable {texts : List String}

/-- Children make no difference to what a history reads as. -/
theorem childless_iff : h.childless.Reads texts ↔ h.Reads texts := by
  have hthread := h.thread_childless
  have hcontents : h.childless.thread.map (·.content) = h.thread.map (·.content) := by
    rw [hthread, List.map_map]
    rfl
  have hlinear : isLinearChain h.childless.thread = isLinearChain h.thread := by
    rw [hthread, isLinearChain_childless]
  have hroot : (∀ m ∈ h.childless.thread.head?, m.parentId = none) ↔
      ∀ m ∈ h.thread.head?, m.parentId = none := by
    rw [hthread, List.head?_map, Option.forall_mem_map]
    rfl
  have htip : h.childless.thread.getLast?.map (·.id) = h.thread.getLast?.map (·.id) := by
    rw [hthread, List.getLast?_map, Option.map_map]
    rfl
  constructor
  · intro hr
    exact ⟨hcontents ▸ hr.contents, hlinear ▸ hr.linear, hroot.mp hr.root, hr.tip.trans htip⟩
  · intro hr
    exact ⟨hcontents.trans hr.contents, hlinear.trans hr.linear, hroot.mpr hr.root,
      hr.tip.trans htip.symm⟩

/-- **A history that reads as texts reads as one more** after a message is put under the current
one. -/
theorem push (hr : h.Reads texts) (hparent : m.parentId = h.currentId) (hnew : m.id ∉ h.ids) :
    (h.push m).Reads (texts ++ [m.content]) := by
  have hthread := thread_push hparent hnew
  refine ⟨?_, ?_, ?_, ?_⟩
  · rw [hthread, List.map_append, hr.contents]
    rfl
  · rw [hthread, isLinearChain_iff]
    refine List.isChain_append.mpr ⟨isLinearChain_iff.mp hr.linear, .singleton m, ?_⟩
    intro last hlast m' hm'
    cases hm'
    rw [hparent, hr.tip, Option.mem_def.mp hlast, Option.map_some]
  · rw [hthread]
    cases hold : h.thread with
    | nil =>
      intro m' hm'
      cases hm'
      rw [hparent, hr.tip, hold]
      rfl
    | cons m' rest =>
      have hroot := hr.root
      rw [hold] at hroot
      exact hroot
  · rw [hthread, List.getLast?_concat]
    rfl

end Reads
end ChatHistory

/-! ## Made-up threads -/

namespace InMemoryServer

open ChatHistory

variable {chatId title : String} {contents : List String}

theorem threadId_inj {i j : Nat} (h : threadId chatId i = threadId chatId j) : i = j :=
  Nat.repr_injective ((String.append_right_inj _).mp h)

/-- The message with a place in a made-up thread. -/
theorem getElem?_threadMessages (chatId : String) (i : Nat) (parent : Option String)
    (contents : List String) :
    ∀ k m, (threadMessages chatId i parent contents)[k]? = some m →
      m.role = threadRole (i + k) ∧ m.timestamp = ((i + k : Nat) : Int) + 1 := by
  induction contents generalizing i parent with
  | nil => exact fun k m hm => nomatch hm
  | cons content rest ih =>
    intro k m hm
    cases k with
    | zero =>
      cases hm
      exact ⟨rfl, rfl⟩
    | succ k =>
      have hrest := ih (i + 1) (some (threadId chatId i)) k m hm
      rwa [show i + 1 + k = i + (k + 1) by omega] at hrest

/-- One more text is one more message, under the last one. -/
theorem threadMessages_concat (chatId : String) (i : Nat) (parent : Option String)
    (contents : List String) (content : String) :
    threadMessages chatId i parent (contents ++ [content]) =
      threadMessages chatId i parent contents ++
        [.plain (threadId chatId (i + contents.length))
          (((threadMessages chatId i parent contents).getLast?.map (·.id)).or parent)
          (threadRole (i + contents.length)) content ((i + contents.length : Nat) + 1)] := by
  induction contents generalizing i parent with
  | nil => rfl
  | cons first rest ih =>
    have hplace : i + (first :: rest).length = i + 1 + rest.length := by
      rw [List.length_cons]
      omega
    rw [List.cons_append, threadMessages, ih, threadMessages, hplace, List.getLast?_cons]
    cases (threadMessages chatId (i + 1) (some (threadId chatId i)) rest).getLast? <;> rfl

/-- The history of a made-up thread. -/
def threadHistory (chatId : String) (contents : List String) : ChatHistory :=
  (chatOfThread chatId "" contents).body.history

/-- **A made-up thread is put together one message after the other.** -/
theorem threadHistory_concat (chatId : String) (contents : List String) (content : String) :
    threadHistory chatId (contents ++ [content]) =
      (threadHistory chatId contents).push
        (.plain (threadId chatId contents.length) (threadHistory chatId contents).currentId
          (threadRole contents.length) content ((contents.length : Nat) + 1)) := by
  have hmessages := threadMessages_concat chatId 0 none contents content
  rw [Nat.zero_add, Option.or_none] at hmessages
  show ChatHistory.mk _ _ = ChatHistory.mk _ _
  rw [hmessages, List.getLast?_concat, List.map_append, Dict.ofList, List.foldl_append]
  rfl

/-- The ids of a made-up thread are those of its places. -/
theorem exists_of_mem_ids {id : String} (hid : id ∈ (threadHistory chatId contents).ids) :
    ∃ i < contents.length, id = threadId chatId i := by
  induction contents using List.reverseRecOn with
  | nil => cases hid
  | append_singleton contents content ih =>
    rw [threadHistory_concat] at hid
    rw [List.length_append, List.length_singleton]
    have hold : id ∈ (threadHistory chatId contents).ids →
        ∃ i < contents.length + 1, id = threadId chatId i := fun hold => by
      obtain ⟨i, hi, rfl⟩ := ih hold
      exact ⟨i, by omega, rfl⟩
    rcases mem_ids_push hid with hid | rfl | hparent | hchild
    · exact hold hid
    · exact ⟨_, by omega, rfl⟩
    · exact hold (mem_ids_of_currentId hparent)
    · cases hchild

theorem threadId_notMem_ids (chatId : String) (contents : List String) :
    threadId chatId contents.length ∉ (threadHistory chatId contents).ids := by
  intro hid
  obtain ⟨i, hi, heq⟩ := exists_of_mem_ids hid
  have hplace := threadId_inj heq
  omega

/-- **A made-up thread reads as its texts.** -/
theorem reads_threadHistory (chatId : String) (contents : List String) :
    (threadHistory chatId contents).Reads contents := by
  induction contents using List.reverseRecOn with
  | nil => exact ⟨rfl, rfl, nofun, rfl⟩
  | append_singleton contents content ih =>
    rw [threadHistory_concat]
    exact ih.push rfl (threadId_notMem_ids chatId contents)

/-- The thread is made of the messages made up for it. -/
theorem thread_threadHistory (chatId : String) (contents : List String) :
    (threadHistory chatId contents).thread = threadMessages chatId 0 none contents := by
  induction contents using List.reverseRecOn with
  | nil => rfl
  | append_singleton contents content ih =>
    have hmessages := threadMessages_concat chatId 0 none contents content
    rw [Nat.zero_add, Option.or_none] at hmessages
    rw [threadHistory_concat, thread_push rfl (threadId_notMem_ids chatId contents), ih, hmessages]
    rfl

/-! ## Turns -/

variable {h : ChatHistory} {userId replyId content : String} {model : Option String} {now : Int}
  {texts : List String}

/-- The user's message of a turn. -/
def question (h : ChatHistory) (userId content : String) (now : Int) : Message :=
  .plain userId h.currentId .user content now

/-- The answer of a turn. -/
def answerTo (userId replyId content : String) (model : Option String) (now : Int) : Message :=
  { Message.plain replyId (some userId) .assistant (echo content) now with model := model }

/-- The history with a child noted at its current message. -/
def noting (h : ChatHistory) (childId : String) : ChatHistory :=
  ⟨h.currentId, match h.currentId with
    | none => h.messages
    | some p => match h.messages.find? p with
      | some m => h.messages.insert p { m with childrenIds := m.childrenIds ++ [childId] }
      | none => h.messages⟩

theorem childless_noting (h : ChatHistory) (childId : String) :
    (noting h childId).childless = h.childless := by
  refine congrArg (ChatHistory.mk h.currentId) ?_
  dsimp only [noting]
  split
  · rfl
  split
  · rename_i p _ _ m hm
    have hfind : (h.messages.map Message.childless).find? p = some m.childless := by
      rw [Dict.find?_map, hm, Option.map_some]
    rw [Dict.map_insert]
    exact Dict.insert_of_find? hfind
  · rfl

/-- **A turn is two messages put one after the other**, once the first is noted as a child. -/
theorem appendTurn_eq (h : ChatHistory) (userId replyId content : String) (model : Option String)
    (now : Int) :
    appendTurn h userId replyId content model now =
      ((noting h userId).push (question h userId content now)).push
        (answerTo userId replyId content model now) :=
  rfl

theorem childless_appendTurn (h : ChatHistory) (userId replyId content : String)
    (model : Option String) (now : Int) :
    (appendTurn h userId replyId content model now).childless =
      (h.childless.push (question h userId content now)).push
        (answerTo userId replyId content model now) := by
  rw [appendTurn_eq, childless_push, childless_push, childless_noting]
  rfl

/-- The two ids of a turn are different, and neither stands anywhere in the history. -/
def AreNew (h : ChatHistory) (userId replyId : String) : Prop :=
  userId ≠ replyId ∧ userId ∉ h.ids ∧ replyId ∉ h.ids

instance : Decidable (AreNew h userId replyId) :=
  inferInstanceAs (Decidable (userId ≠ replyId ∧ userId ∉ h.ids ∧ replyId ∉ h.ids))

namespace AreNew

theorem question_notMem (hnew : AreNew h userId replyId) : userId ∉ h.childless.ids :=
  fun hid => hnew.2.1 (mem_ids_of_childless hid)

theorem answerTo_notMem (hnew : AreNew h userId replyId) (content : String) (now : Int) :
    replyId ∉ (h.childless.push (question h userId content now)).ids := by
  intro hid
  rcases mem_ids_push hid with hid | heq | hparent | hchild
  · exact hnew.2.2 (mem_ids_of_childless hid)
  · exact hnew.1 heq.symm
  · exact hnew.2.2 (mem_ids_of_currentId hparent)
  · cases hchild

end AreNew

/-- **A turn comes behind the whole thread**, whatever the history is like. -/
theorem thread_appendTurn (hnew : AreNew h userId replyId) (content : String)
    (model : Option String) (now : Int) :
    (appendTurn h userId replyId content model now).thread.map Message.childless =
      h.thread.map Message.childless ++
        [question h userId content now, answerTo userId replyId content model now] := by
  rw [← thread_childless, childless_appendTurn,
    thread_push rfl (hnew.answerTo_notMem content now), thread_push rfl hnew.question_notMem,
    thread_childless, List.append_assoc]
  rfl

/-- **What reads as texts reads as two more after a turn.** -/
theorem reads_appendTurn (hr : h.Reads texts) (hnew : AreNew h userId replyId) (content : String)
    (model : Option String) (now : Int) :
    (appendTurn h userId replyId content model now).Reads (texts ++ [content, echo content]) := by
  rw [← Reads.childless_iff, childless_appendTurn]
  have hquestion := (Reads.childless_iff.mpr hr).push (m := question h userId content now) rfl
    hnew.question_notMem
  have hanswer := hquestion.push (m := answerTo userId replyId content model now) rfl
    (hnew.answerTo_notMem content now)
  rwa [List.append_assoc] at hanswer

/-! ## Sends -/

variable {s t : InMemoryServer} {e : Surroundings} {chat : Chat}

/-- What is sent to a chat is taken if the server can be reached and its sends do not fail: the
answer is the echo, and the chat has a turn more. -/
theorem sendMessage_cases (hchat : s.chats.find? chatId = some chat) (e : Surroundings)
    (content : String) :
    let r := api.answer (.sendMessage chatId content) s e
    (s.offline = false ∧ s.failSends = false ∧ r.1 = .ok (echo content) ∧
      r.2.1.chats.find? chatId =
        some (withTurn chat e.draw.1 e.draw.2.draw.1 content e.now)) ∨
    ((s.offline = true ∨ s.failSends = true) ∧ ∃ failure, r.1 = .error failure) := by
  cases hoffline : s.offline with
  | true =>
    refine .inr ⟨.inl rfl, ?_⟩
    simp [api, count, hoffline]
  | false =>
    cases hfail : s.failSends with
    | true =>
      refine .inr ⟨.inr rfl, ?_⟩
      simp [api, respond, count, hoffline, hfail]
    | false =>
      refine .inl ⟨rfl, rfl, ?_⟩
      have hnow : e.draw.2.draw.2.now = e.now := rfl
      simp [api, respond, count, hoffline, hfail, hchat, hnow]

/-- A server goes on while texts are sent to one of its chats and taken, each with ids that are new
in the chat.  What else it does in between leaves the chat as it is. -/
inductive Taking (chatId : String) (s : InMemoryServer) : List String → InMemoryServer → Prop
  | start : Taking chatId s [] s
  | send {texts : List String} {t : InMemoryServer} (h : Taking chatId s texts t) {chat : Chat}
      {e : Surroundings} {content reply : String} (hchat : t.chats.find? chatId = some chat)
      (hnew : AreNew chat.body.history e.draw.1 e.draw.2.draw.1)
      (hok : (api.answer (.sendMessage chatId content) t e).1 = .ok reply) :
      Taking chatId s (texts ++ [content]) (api.answer (.sendMessage chatId content) t e).2.1
  | other {texts : List String} {t t' : InMemoryServer} (h : Taking chatId s texts t)
      (hsame : t'.chats.find? chatId = t.chats.find? chatId) : Taking chatId s texts t'

/-- **What has been taken is read back**, each text with its echo. -/
theorem Taking.reads (h : Taking chatId s texts t) (hchat : s.chats.find? chatId = some chat)
    (hr : chat.body.history.Reads contents) :
    ∃ chat', t.chats.find? chatId = some chat' ∧
      chat'.body.history.Reads (contents ++ texts.flatMap fun x => [x, echo x]) := by
  induction h with
  | start => exact ⟨chat, hchat, by rwa [List.flatMap_nil, List.append_nil]⟩
  | @send texts t _ chat' e content reply hchat' hnew hok ih =>
    obtain ⟨chat'', hchat'', hreads⟩ := ih
    cases hchat'.symm.trans hchat''
    rcases sendMessage_cases hchat' e content with ⟨-, -, -, hafter⟩ | ⟨-, failure, hfailed⟩
    · refine ⟨_, hafter, ?_⟩
      rw [List.flatMap_append, ← List.append_assoc]
      exact reads_appendTurn hreads hnew content _ _
    · exact nomatch hok.symm.trans hfailed
  | other _ hsame ih =>
    rw [hsame]
    exact ih

/-- **The conversations of a server in memory grow at their end.**  A made-up thread has the texts
it is made of, the user and the assistant in turn, at the times 1, 2 and so on, and it is a linear
chain from a root.  What is sent to any chat, whatever its history is like, is taken if the server
can be reached and its sends do not fail.  If the two ids drawn for it stand nowhere in the history,
the thread is then the old one, apart from children, with the text and its echo behind it, the echo
under the text and the text under what was the current message.  So whatever is sent to a chat with
a made-up thread, it reads as the texts of that thread and then each text taken with its echo. -/
theorem threads_grow (chatId title : String) (contents : List String) :
    (let thread := (chatOfThread chatId title contents).thread
     thread.map (·.content) = contents ∧
     (∀ (i : Nat) (m : Message), thread[i]? = some m →
       m.role = (if i % 2 = 0 then .user else .assistant) ∧ m.timestamp = i + 1) ∧
     isLinearChain thread = true ∧ ∀ m ∈ thread.head?, m.parentId = none) ∧
    (∀ (s : InMemoryServer) (e : Surroundings) (id content : String) (chat : Chat),
      s.chats.find? id = some chat →
      let userId := e.draw.1
      let replyId := e.draw.2.draw.1
      let r := api.answer (.sendMessage id content) s e
      ((∃ reply, r.1 = .ok reply) ↔ s.offline = false ∧ s.failSends = false) ∧
      ∀ reply, r.1 = .ok reply → AreNew chat.body.history userId replyId →
        reply = "echo: " ++ content ∧
        ∃ chat', r.2.1.chats.find? id = some chat' ∧
          chat'.thread.map Message.childless = chat.thread.map Message.childless ++
            [.plain userId chat.body.history.currentId .user content e.now,
              { Message.plain replyId (some userId) .assistant ("echo: " ++ content) e.now with
                model := chat.body.models.head? }]) ∧
    ∀ (s t : InMemoryServer) (texts : List String),
      s.chats.find? chatId = some (chatOfThread chatId title contents) →
      Taking chatId s texts t →
      ∃ chat, t.chats.find? chatId = some chat ∧
        chat.thread.map (·.content) = contents ++ texts.flatMap (fun x => [x, "echo: " ++ x]) ∧
        isLinearChain chat.thread = true ∧ ∀ m ∈ chat.thread.head?, m.parentId = none := by
  have hreads := reads_threadHistory chatId contents
  refine ⟨⟨hreads.contents, fun i m hm => ?_, hreads.linear, hreads.root⟩, ?_, ?_⟩
  · have hplace : (threadMessages chatId 0 none contents)[i]? = some m := by
      rw [← thread_threadHistory]
      exact hm
    have hm' := getElem?_threadMessages chatId 0 none contents i m hplace
    rwa [Nat.zero_add, threadRole] at hm'
  · intro s e id content chat hchat
    dsimp only
    rcases sendMessage_cases hchat e content with
      ⟨hoffline, hfail, hok, hafter⟩ | ⟨hrefuses, failure, hfailed⟩
    · refine ⟨iff_of_true ⟨_, hok⟩ ⟨hoffline, hfail⟩, fun reply hreply hnew => ?_⟩
      exact ⟨Except.ok.inj (hreply.symm.trans hok), _, hafter, thread_appendTurn hnew content _ _⟩
    · refine ⟨iff_of_false (fun ⟨_, hok⟩ => nomatch hok.symm.trans hfailed) ?_,
        fun reply hok => nomatch hok.symm.trans hfailed⟩
      rintro ⟨hoffline, hfail⟩
      rw [hoffline, hfail] at hrefuses
      simp at hrefuses
  · intro s t texts hchat htaking
    obtain ⟨chat, hchat', hreads'⟩ := htaking.reads hchat hreads
    exact ⟨chat, hchat', hreads'.contents, hreads'.linear, hreads'.root⟩

/-- A chat whose messages hang under each other in a circle. -/
def circularChat : Chat :=
  let chat := chatOfThread "c" "Tides" []
  let first := Message.plain "a" (some "b") .user "Ebb?" 1
  let second := Message.plain "b" (some "a") .assistant "Flow." 2
  { chat with body := { chat.body with
    history := ⟨some "b", .ofList [("a", first), ("b", second)]⟩ } }

/-- A clock that stands still, and ids by their number. -/
def stillSurroundings (drawn : Nat) : Surroundings := ⟨20, fun n => "m" ++ toString n, drawn⟩

/-- A server with one chat after the texts are sent to it, one after the other. -/
def sendAll (chat : Chat) (texts : List String) : InMemoryServer :=
  (texts.zipIdx.foldl (fun s (content, i) =>
    (api.answer (.sendMessage chat.id content) s (stillSurroundings (2 * i))).2.1)
    (empty.insert chat))

theorem threads_grow_circle :
    (let s := sendAll circularChat []
     let r := api.answer (.sendMessage "c" "When?") s (stillSurroundings 0)
     s.chats.find? "c" = some circularChat ∧ r.1 = .ok "echo: When?" ∧
     AreNew circularChat.body.history "m0" "m1" ∧
     ∃ chat, r.2.1.chats.find? "c" = some chat ∧
       chat.thread.map (fun m => (m.id, m.parentId, m.content)) =
         [("a", some "b", "Ebb?"), ("b", some "a", "Flow."), ("m0", some "b", "When?"),
           ("m1", some "m0", "echo: When?")]) ∧
    (let made := chatOfThread "c" "Tides" ["Ebb?", "Flow."]
     let s := sendAll made []
     let t := sendAll made ["When?", "Where?"]
     s.chats.find? "c" = some made ∧ Taking "c" s ["When?", "Where?"] t ∧
     ∃ chat, t.chats.find? "c" = some chat ∧
       chat.thread.map (·.content) =
         ["Ebb?", "Flow.", "When?", "echo: When?", "Where?", "echo: Where?"]) := by
  obtain ⟨-, hturn, hrun⟩ := threads_grow "c" "Tides" ["Ebb?", "Flow."]
  have htaking : Taking "c" (sendAll (chatOfThread "c" "Tides" ["Ebb?", "Flow."]) [])
      ["When?", "Where?"]
      (sendAll (chatOfThread "c" "Tides" ["Ebb?", "Flow."]) ["When?", "Where?"]) := by
    have hstart : Taking "c" (sendAll (chatOfThread "c" "Tides" ["Ebb?", "Flow."]) []) []
        (sendAll (chatOfThread "c" "Tides" ["Ebb?", "Flow."]) []) := .start
    have hfirst : Taking "c" _ ["When?"] (api.answer (.sendMessage "c" "When?") _
        (stillSurroundings 0)).2.1 := hstart.send rfl (by decide) rfl
    have hsecond : Taking "c" _ ["When?", "Where?"] (api.answer (.sendMessage "c" "Where?") _
        (stillSurroundings 2)).2.1 := hfirst.send rfl (by decide) rfl
    exact hsecond
  refine ⟨⟨rfl, rfl, by decide, ?_⟩, rfl, htaking, ?_⟩
  · obtain ⟨-, hgrown⟩ := hturn (sendAll circularChat []) (stillSurroundings 0) "c" "When?"
      circularChat rfl
    obtain ⟨-, chat, hchat, hthread⟩ := hgrown _ rfl (by decide)
    refine ⟨chat, hchat, ?_⟩
    have hcolumns := congrArg (List.map fun m => (m.id, m.parentId, m.content)) hthread
    rw [List.map_map] at hcolumns
    exact hcolumns.trans (by decide)
  · obtain ⟨chat, hchat, hcontents, -⟩ := hrun _ _ _ rfl htaking
    exact ⟨chat, hchat, hcontents⟩

end InMemoryServer
end OfflineChat
