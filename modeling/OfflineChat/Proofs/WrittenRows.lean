import OfflineChat.Proofs.MessageOrder
import OfflineChat.Proofs.SnapshotEffect

/-! # Rows are read back as they were written

What a write put into the cache, the queries answer (`Cache.writes_read_back`):
a chat with all of its model names, a message with its role and status, and the
attachments of a message in the order of its file references.

The last of these needs the attachments to be told apart.  Those of another
message belong to another owner (`Cache.filter_flatMap_attachmentsFor`), and
references without an id of their own never share one that is made for them
(`CachedAttachment.idOf_ne_of_unnamed`).
-/
namespace OfflineChat

/-! ## Ids made for file references -/

theorem CachedAttachment.idOf_of_unnamed {messageId : String} {i : Nat} {f : FileRef}
    (h : f.id = none) : idOf messageId i f = messageId ++ ":" ++ i.repr := by
  rw [idOf, h]
  rfl

/-- **File references without an id are told apart** by their places. -/
theorem CachedAttachment.idOf_ne_of_unnamed {messageId : String} {i j : Nat} {f g : FileRef}
    (hf : f.id = none) (hg : g.id = none) (hij : i ≠ j) :
    idOf messageId i f ≠ idOf messageId j g := by
  rw [idOf_of_unnamed hf, idOf_of_unnamed hg]
  intro h
  -- behind the same message, only the digits of the places are left to differ
  have hdigits : Nat.toDigits 10 i = Nat.toDigits 10 j := by
    have hrepr := (String.append_right_inj _).mp h
    rwa [Nat.repr_eq_ofList_toDigits, Nat.repr_eq_ofList_toDigits, String.ofList_inj] at hrepr
  have hread := congrArg (Nat.ofDigitChars 10 · 0) hdigits
  simp only [Nat.ofDigitChars_toDigits (b := 10) (by decide) (by decide)] at hread
  exact hij hread

namespace Cache

variable {c : Cache} {chatId : String}

/-! ## Messages -/

/-- **A message that is put is the one message with its id.** -/
theorem filter_messagesOf_putMessage (hc : (c.messages.map (·.key)).Nodup) (m : CachedMessage) :
    ((c.putMessage (.ofMessage m)).messagesOf m.chatId).filter (·.id == m.id) = [m] := by
  have hputs := holdsPuts_upsertAll (keepsKey_replace MessageRow.key)
    (covers_replace _ [MessageRow.ofMessage m]) hc
  have hrow := hputs.last [] (.ofMessage m) [] rfl List.not_mem_nil
  -- the rows of the chat with the id are those under the key
  have hkey : ((c.putMessage (.ofMessage m)).chatRows m.chatId).filter (·.id == m.id) =
      [.ofMessage m] := by
    rw [chatRows, List.filter_filter]
    refine Eq.trans (List.filter_congr fun r _ => ?_) hrow
    rw [Bool.eq_iff_iff]
    simp [MessageRow.key, MessageRow.ofMessage, and_comm]
  have hperm := ((c.putMessage (.ofMessage m)).messageRows_perm m.chatId).filter (·.id == m.id)
  rw [hkey, List.perm_singleton] at hperm
  have hread := congrArg (List.map MessageRow.toMessage) hperm
  rw [List.map_singleton, MessageRow.toMessage_ofMessage] at hread
  rw [messagesOf, List.filter_map]
  exact hread

/-! ## Attachments -/

/-- Attachments of different messages are told apart by their owners. -/
theorem filter_flatMap_attachmentsFor (thread : List Message) (messageId : String) :
    (thread.flatMap (attachmentsFor chatId)).filter (·.owner == (chatId, messageId)) =
      (thread.filter (·.id == messageId)).flatMap (attachmentsFor chatId) := by
  induction thread with
  | nil => rfl
  | cons m rest ih =>
    rw [List.flatMap_cons, List.filter_append, ih]
    by_cases hid : m.id = messageId
    · have hall : (attachmentsFor chatId m).filter (·.owner == (chatId, messageId)) =
          attachmentsFor chatId m :=
        List.filter_eq_self.mpr fun a ha => by
          simp [Intact.owner_of_mem_attachmentsFor ha, hid]
      rw [hall, List.filter_cons_of_pos (by simpa using hid), List.flatMap_cons]
    · have hnone : (attachmentsFor chatId m).filter (·.owner == (chatId, messageId)) = [] :=
        List.filter_eq_nil_iff.mpr fun a ha => by
          simp [Intact.owner_of_mem_attachmentsFor ha, hid]
      rw [hnone, List.filter_cons_of_neg (by simpa using hid), List.nil_append]

theorem map_key_attachmentsFor (chatId : String) (m : Message) :
    (attachmentsFor chatId m).map CachedAttachment.key =
      (m.files.mapIdx (CachedAttachment.idOf m.id)).map fun id => (chatId, m.id, id) := by
  rw [attachmentsFor, List.mapIdx_eq_zipIdx_map, List.mapIdx_eq_zipIdx_map, List.map_map,
    List.map_map]
  rfl

/-- **The attachments of a message come in the order of its file references**, if the message
comes once, its references have different ids and no attachment of it was there. -/
theorem attachmentsOf_applySnapshot {chat : Chat} {thread : List Message} {m : Message}
    (honce : thread.filter (·.id == m.id) = [m])
    (hids : (m.files.mapIdx (CachedAttachment.idOf m.id)).Nodup)
    (hnone : c.attachmentsOf chat.id m.id = []) :
    (c.applySnapshot chat thread).cache.attachmentsOf chat.id m.id =
      attachmentsFor chat.id m := by
  have howner (a b : AttachmentRow) (hab : a.key = b.key) :
      (a.owner == (chat.id, m.id)) = (b.owner == (chat.id, m.id)) :=
    congrArg (fun k : String × String × String => (k.1, k.2.1) == (chat.id, m.id)) hab
  have hkeys : ((attachmentsFor chat.id m).map CachedAttachment.key).Nodup := by
    rw [map_key_attachmentsFor]
    exact hids.map fun _ _ h => congrArg (fun k : String × String × String => k.2.2) h
  rw [attachmentsOf, applySnapshot_attachments,
    filter_upsertAll CachedAttachment.keepsKey_keepingPath howner, filter_flatMap_attachmentsFor,
    honce, List.flatMap_singleton]
  rw [attachmentsOf] at hnone
  rw [hnone]
  exact upsertAll_of_new hkeys

/-! ## Every write of a record -/

/-- **What is written is read back.**  A chat is read as it was put, whatever its model names hold.
A message that is put into a cached chat is the one with its id, and is read as it was put.  The
attachments of a message that comes once in a snapshot are read as they were made of its file
references and in their order, if these have different ids and the message had no attachment;
and those that have no id of their own always differ. -/
theorem writes_read_back (c : Cache) (hc : c.Intact) :
    (∀ chat : CachedChat, (c.upsertChat chat).cache.chat? chat.id = some chat) ∧
    (∀ m : CachedMessage, c.hasChat m.chatId = true → ∃ w, c.upsertMessage m = .ok w ∧
      (w.cache.messagesOf m.chatId).filter (·.id == m.id) = [m]) ∧
    (∀ (chat : Chat) (thread : List Message) (m : Message),
      thread.filter (·.id == m.id) = [m] →
      (m.files.mapIdx (CachedAttachment.idOf m.id)).Nodup →
      c.attachmentsOf chat.id m.id = [] →
      (c.applySnapshot chat thread).cache.attachmentsOf chat.id m.id =
        m.files.mapIdx fun i f => .ofFileRef chat.id m.id i f) ∧
    ∀ (chatId : String) (m : Message) (i j : Nat) (f g : FileRef),
      m.files[i]? = some f → m.files[j]? = some g → f.id = none → g.id = none → i ≠ j →
      (CachedAttachment.ofFileRef chatId m.id i f).id ≠
        (CachedAttachment.ofFileRef chatId m.id j g).id := by
  refine ⟨c.chat?_putChat, fun m hchat => ?_, ?_, ?_⟩
  · exact ⟨_, if_pos hchat, filter_messagesOf_putMessage hc.messages_nodup m⟩
  · exact fun chat thread m => attachmentsOf_applySnapshot
  · exact fun chatId m i j f g _ _ => CachedAttachment.idOf_ne_of_unnamed

/-- A chat with model names that have to be escaped where they are written. -/
def oddChat : CachedChat :=
  { CachedChat.onDevice "c" "Tides" 1 with models := ["a\"b\\c", "\n\u0000", "\u00e9,]"] }

/-- A message with two files that have no id and one that has. -/
def filedMessage : Message :=
  let file (id : Option String) (name : String) : FileRef :=
    ⟨id, some name, some "text/plain", some 2, none, .empty⟩
  { Message.plain "k" (some "m") .assistant "Twice a day." 41 with
    files := [file none "a.txt", file (some "f") "b.txt", file none "a.txt"] }

theorem writes_read_back_filed :
    let chat := InMemoryServer.chatOfThread "c" "Tides today" []
    let tides := Message.plain "m" none .user "Tides?" 40
    let m := CachedMessage.ofMessage "c" (.plain "n" none .system "Now!" (-3)) .failed
    let file (id name : String) : CachedAttachment :=
      ⟨id, "c", "k", name, "text/plain", 2, none, none⟩
    let d := (keptCache.applySnapshot chat [tides, filedMessage, tides]).cache
    keptCache.Intact ∧ keptCache.hasChat "c" = true ∧ keptCache.attachmentsOf "c" "k" = [] ∧
    (keptCache.upsertChat oddChat).cache.chat? "c" = some oddChat ∧
    (∃ w, keptCache.upsertMessage m = .ok w ∧
      (w.cache.messagesOf "c").filter (·.id == "n") = [m]) ∧
    d.attachmentsOf "c" "k" = [file "k:0" "a.txt", file "f" "b.txt", file "k:2" "a.txt"] ∧
    (file "k:0" "a.txt").id ≠ (file "k:2" "a.txt").id := by
  intro chat tides m file d
  have hintact : keptCache.Intact :=
    ⟨by decide, by decide, by decide, by decide, by decide⟩
  have hchat : keptCache.hasChat "c" = true := by decide
  have hnone : keptCache.attachmentsOf "c" "k" = [] := by decide
  obtain ⟨hchats, hmessages, hattachments, hunnamed⟩ := writes_read_back keptCache hintact
  have hfiled : filedMessage.files.mapIdx (fun i f => .ofFileRef "c" "k" i f) =
      [file "k:0" "a.txt", file "f" "b.txt", file "k:2" "a.txt"] := by decide
  exact ⟨hintact, hchat, hnone, hchats oddChat, hmessages m hchat,
    (hattachments chat [tides, filedMessage, tides] filedMessage rfl (by decide) hnone).trans
      hfiled,
    hunnamed "c" filedMessage 0 2 _ _ rfl rfl rfl rfl (by decide)⟩

end Cache
end OfflineChat
