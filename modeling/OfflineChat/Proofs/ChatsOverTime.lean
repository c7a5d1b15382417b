import OfflineChat.Cache.Row
import OfflineChat.Proofs.ParentWalk
import OfflineChat.Proofs.TimedReading

/-! # Chats over time

A message without a time is read as written when it is read, and this is all
that the time of reading has to do with what the text of a chat reads as
(`Chat.reading`).  So the thread of a chat has the same messages at all times,
each of which either is always the same or always is written now
(`Chat.OverTime.thread`).
-/
namespace OfflineChat

open Codec (Entries)

/-! ## Messages -/

/-- A time over time is always the same, or always now. -/
def Dating (t : Int → Int) : Prop := Steady t ∨ ∀ now, t now = now

/-- A message over time is always the same but for the time at which it was written; and this is
always the same, or always now. -/
def Message.OverTime (m : Int → Message) : Prop :=
  (∃ m₀ : Message, ∀ now, m now = { m₀ with timestamp := (m now).timestamp }) ∧
    Dating fun now => (m now).timestamp

/-- A message over time is always the same, or is the same but for being written now. -/
theorem Message.OverTime.steady_or_now {m : Int → Message} (h : OverTime m) :
    Steady m ∨ ∃ m₀ : Message, ∀ now, m now = { m₀ with timestamp := now } := by
  obtain ⟨⟨m₀, hsame⟩, ⟨t, ht⟩ | hnow⟩ := h
  · refine .inl ⟨{ m₀ with timestamp := t }, fun now => (hsame now).trans ?_⟩
    rw [show (m now).timestamp = t from ht now]
  · refine .inr ⟨m₀, fun now => (hsame now).trans ?_⟩
    rw [show (m now).timestamp = now from hnow now]

theorem Message.times_codec : Codec.Times OverTime codec := by
  have hfields : Fields.Times _ fields :=
    .required (Codec.times_const _) <|
    .defaulted (Codec.times_const _) (steady_const _) <|
    .defaulted (Codec.times_const _) (steady_const _) <|
    .required (Codec.times_const _) <|
    .defaulted (Codec.times_const _) (steady_const _) <|
    .omitted (Codec.times_const _) (steady_const _) <|
    -- the one field whose value is taken from the clock if it is left out
    .defaulted ((Codec.times_const _).mono fun _ => .inl) (P := Dating) (.inr fun _ => rfl) <|
    .omitted (Codec.times_const _) (steady_const _) .nil
  refine hfields.record "Message" fun v hv => ?_
  obtain ⟨⟨id, hid⟩, ⟨parentId, hparent⟩, ⟨childrenIds, hchildren⟩, ⟨role, hrole⟩,
    ⟨content, hcontent⟩, ⟨model, hmodel⟩, htime, ⟨files, hfiles⟩, -⟩ := hv
  have hbuild (now : Int) : (⟨(v now).1, (v now).2.1, (v now).2.2.1, (v now).2.2.2.1,
      (v now).2.2.2.2.1, (v now).2.2.2.2.2.1, (v now).2.2.2.2.2.2.1, (v now).2.2.2.2.2.2.2.1⟩ :
      Message) = ⟨id, parentId, childrenIds, role, content, model, (v now).2.2.2.2.2.2.1, files⟩ := by
    simp only [hid, hparent, hchildren, hrole, hcontent, hmodel, hfiles]
  exact ⟨⟨⟨id, parentId, childrenIds, role, content, model, 0, files⟩, hbuild⟩, htime⟩

/-! ## Histories and chats -/

/-- A history over time: its current message is always the same. -/
def ChatHistory.OverTime (h : Int → ChatHistory) : Prop :=
  Steady (fun now => (h now).currentId) ∧ Entries Message.OverTime fun now => (h now).messages

theorem ChatHistory.overTime_empty : OverTime fun _ => empty :=
  ⟨steady_const none, fun _ => .absent fun _ => rfl⟩

theorem ChatHistory.times_codec : Codec.Times OverTime codec := by
  have hfields : Fields.Times _ fields :=
    .defaulted (Codec.times_const _) (steady_const _) <|
    .defaulted (Codec.times_dict Message.times_codec) (fun _ => .absent fun _ => rfl) .nil
  exact hfields.record "ChatHistory" fun v ⟨hcurrent, hmessages, _⟩ => ⟨hcurrent, hmessages⟩

/-- A body over time: the names of its models are always the same. -/
def ChatData.OverTime (d : Int → ChatData) : Prop :=
  Steady (fun now => (d now).models) ∧ ChatHistory.OverTime fun now => (d now).history

theorem ChatData.times_codec : Codec.Times OverTime codec := by
  have hfields : Fields.Times _ fields :=
    .defaulted ChatHistory.times_codec ChatHistory.overTime_empty <|
    .defaulted (Codec.times_const _) (steady_const _) <|
    .defaulted (Codec.times_const _) (steady_const _) <|
    .omitted (Codec.times_const _) (steady_const _) .nil
  exact hfields.record "ChatData" fun v ⟨hhistory, hmodels, _⟩ => ⟨hmodels, hhistory⟩

namespace Chat

/-- A chat over time: what is cached of the chat itself is always the same. -/
def OverTime (c : Int → Chat) : Prop :=
  Steady (fun now => CachedChat.ofChat (c now)) ∧
    ChatHistory.OverTime fun now => (c now).body.history

theorem times_codec : Codec.Times OverTime codec := by
  have hfields : Fields.Times _ fields :=
    .required (Codec.times_const _) <|
    .defaulted (Codec.times_const _) (steady_const _) <|
    .required (Codec.times_const _) <|
    .defaulted (P := ChatData.OverTime) ChatData.times_codec
      ⟨steady_const [], ChatHistory.overTime_empty⟩ <|
    .required (Codec.times_const _) <|
    .required (Codec.times_const _) <|
    .defaulted (Codec.times_const _) (steady_const _) <|
    .defaulted (Codec.times_const _) (steady_const _) <|
    .defaulted (Codec.times_const _) (steady_const _) <|
    .defaulted (Codec.times_const _) (steady_const _) <|
    .defaulted (Codec.times_const _) (steady_const _) .nil
  refine hfields.record "ChatResponse" fun v hv => ?_
  obtain ⟨⟨id, hid⟩, -, ⟨title, htitle⟩, ⟨⟨models, hmodels⟩, hhistory⟩, ⟨updatedAt, hupdated⟩,
    ⟨createdAt, hcreated⟩, ⟨shareId, hshare⟩, ⟨archived, harchived⟩, ⟨pinned, hpinned⟩, -,
    ⟨folderId, hfolder⟩, -⟩ := hv
  refine ⟨⟨⟨id, title, createdAt, updatedAt, archived, pinned, models, shareId, folderId⟩,
    fun now => ?_⟩, hhistory⟩
  show (⟨(v now).1, (v now).2.2.1, (v now).2.2.2.2.2.1, (v now).2.2.2.2.1,
    (v now).2.2.2.2.2.2.2.1, (v now).2.2.2.2.2.2.2.2.1, (v now).2.2.2.1.models,
    (v now).2.2.2.2.2.2.1, (v now).2.2.2.2.2.2.2.2.2.2.1⟩ : CachedChat) = _
  simp only [hid, htitle, hmodels, hupdated, hcreated, hshare, harchived, hpinned, hfolder]

/-- **What the text of a chat reads as, at all times**: it is refused at all times, or it is a chat
over time. -/
theorem reading (text : String) : Readings OverTime fun now => (codec now).decode text :=
  times_codec.decode text

end Chat

/-! ## Threads -/

namespace MessageMap

variable {messages : Int → MessageMap}

/-- A map of messages has the same keys at all times, so it always has one size. -/
theorem size_overTime (h : Entries Message.OverTime messages) :
    Steady fun now => (messages now).size := by
  refine ⟨(messages 0).size, fun now => Dict.size_eq_of_isSome fun key => ?_⟩
  cases h key with
  | absent hnone => rw [hnone, hnone]
  | present m _ hsome => rw [hsome, hsome]; rfl

/-- A walk past messages over time passes the same ones at all times. -/
theorem walkFrom_overTime (h : Entries Message.OverTime messages) (steps : Nat) :
    ∀ (met : List String) (link : Option String), ∃ path : List (Int → Message),
      (∀ m ∈ path, Message.OverTime m) ∧
      ∀ now, (messages now).walkFrom steps met link = path.map (· now) := by
  induction steps with
  | zero => exact fun met link => ⟨[], nofun, fun now => rfl⟩
  | succ steps ih =>
    intro met link
    cases link with
    | none => exact ⟨[], nofun, fun now => rfl⟩
    | some key =>
      cases h key with
      | absent hnone =>
        refine ⟨[], nofun, fun now => ?_⟩
        rw [walkFrom, hnone]
        rfl
      | present m hm hsome =>
        obtain ⟨m₀, hsame⟩ := hm.1
        by_cases hmet : m₀.id ∈ met
        · refine ⟨[], nofun, fun now => ?_⟩
          rw [walkFrom, hsome]
          dsimp only
          rw [hsame now]
          exact if_pos hmet
        · obtain ⟨path, hpath, hwalk⟩ := ih (m₀.id :: met) m₀.parentId
          refine ⟨m :: path, List.forall_mem_cons.mpr ⟨hm, hpath⟩, fun now => ?_⟩
          rw [walkFrom, hsome, List.map_cons, ← hwalk]
          dsimp only
          rw [hsame now]
          exact if_neg hmet

end MessageMap

/-- **The thread of a chat has the same messages at all times.** -/
theorem Chat.OverTime.thread {c : Int → Chat} (h : OverTime c) :
    ∃ thread : List (Int → Message), (∀ m ∈ thread, Message.OverTime m) ∧
      ∀ now, (c now).thread = thread.map (· now) := by
  obtain ⟨-, ⟨currentId, hcurrent⟩, hmessages⟩ := h
  obtain ⟨size, hsize⟩ := MessageMap.size_overTime hmessages
  obtain ⟨path, hpath, hwalk⟩ := MessageMap.walkFrom_overTime hmessages size [] currentId
  refine ⟨path.reverse, fun m hm => hpath m (List.mem_reverse.mp hm), fun now => ?_⟩
  rw [Chat.thread, MessageMap.thread, MessageMap.walk, List.map_reverse, ← hwalk now]
  simp only [hcurrent, hsize]

end OfflineChat
