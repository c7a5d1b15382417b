import Mathlib
import OfflineChat.Cache.Row
import OfflineChat.Completion
import OfflineChat.Proofs.OpenRecords

/-! # The records of the wire and of the cache

Each record that the server sends or the cache hands out is read again from the
text it is written as (`RecordKind.records_survive`).  What a record leaves out
where it is written reads as what it was; a message without a time was read as
written now, and its time is written then.  So it does not matter when the text is
read again.
-/
namespace OfflineChat

/-- A time that sixty-four bits hold, as every clock gives it. -/
def IsTime (now : Int) : Prop := -0x8000000000000000 ≤ now ∧ now ≤ 0x7FFFFFFFFFFFFFFF

/-! ## Fields -/

namespace Field

open Codec (Survives)

variable {α : Type} {n : Nat} {c later : Codec α} {name : String}

theorem survives_nullable (h : c.Survives n later) (hnull : ∀ a, c.write a ≠ .null) :
    (nullable name c).Survives n (nullable name later) :=
  survives_defaulted (Codec.survives_option h hnull) fun _ _ => ⟨.null, rfl⟩

theorem survives_nullableMember (h : c.Survives n later) (hnull : ∀ a, c.write a ≠ .null) :
    (nullableMember name c).Survives n (nullableMember name later) :=
  have hsame : (nullable name c).Survives n (nullable name later) := survives_nullable h hnull
  { name := rfl, kind := hsame.kind, default := hsame.default, omitted := nofun }

theorem survives_omittedNone (h : c.Survives n later) (hnull : ∀ a, c.write a ≠ .null) :
    (omitted name c.option none Option.isNone).Survives n
      (omitted name later.option none Option.isNone) :=
  survives_omitted (Codec.survives_option h hnull) (fun _ _ => ⟨.null, rfl⟩)
    fun _ ha => Option.isNone_iff_eq_none.mp ha

theorem read_nil {room : Nat} (hroom : 2 ≤ room) : ∃ d, c.list.read room d = .ok [] :=
  ⟨.arr [] true, Codec.bind_eq_ok.mpr ⟨room - 1, Codec.enter_eq_ok.mpr ⟨hroom, rfl⟩, rfl⟩⟩

theorem survives_omittedNil (hn : 1 ≤ n) (h : c.Survives n later) :
    (omitted name c.list [] List.isEmpty).Survives (n + 1)
      (omitted name later.list [] List.isEmpty) :=
  survives_omitted (Codec.survives_list h) (fun _ hroom => read_nil (by omega))
    fun _ ha => List.isEmpty_iff.mp ha

theorem survives_defaultedNil (hn : 1 ≤ n) (h : c.Survives n later) :
    (defaulted name c.list []).Survives (n + 1) (defaulted name later.list []) :=
  survives_defaulted (Codec.survives_list h) fun _ hroom => read_nil (by omega)

/-- What is read of an object without members is a default that some text gives. -/
theorem survives_defaultedEmpty {value value' : α} (hn : 2 ≤ n) (h : c.Survives n later)
    (hread : ∀ room,
      c.read room (.obj [] .closed) = (Codec.enter room >>= fun _ => .ok value)) :
    (defaulted name c value).Survives n (defaulted name later value') := by
  refine survives_defaulted h fun room hroom => ⟨.obj [] .closed, ?_⟩
  rw [hread]
  exact Codec.bind_eq_ok.mpr ⟨room - 1, Codec.enter_eq_ok.mpr ⟨by omega, rfl⟩, rfl⟩

theorem survives_defaultedText :
    (defaulted name .string "").Survives n (defaulted name .string "") :=
  survives_defaulted Codec.survives_string fun _ _ => ⟨.str (some ""), rfl⟩

theorem survives_defaultedFalse :
    (defaulted name .bool false).Survives n (defaulted name .bool false) :=
  survives_defaulted Codec.survives_bool fun _ _ => ⟨.bool false, rfl⟩

theorem survives_defaultedInt {i later : Int}
    (hi : -0x8000000000000000 ≤ i ∧ i ≤ 0x7FFFFFFFFFFFFFFF) :
    (defaulted name .int64 i).Survives n (defaulted name .int64 later) :=
  survives_defaulted Codec.survives_int64 fun _ _ =>
    ⟨_, Codec.read_integer (by decide) (by decide) hi⟩

theorem survives_text : (required name .string).Survives n (required name .string) :=
  survives_required Codec.survives_string

theorem survives_time : (required name .int64).Survives n (required name .int64) :=
  survives_required Codec.survives_int64

theorem survives_flag : (required name .bool).Survives n (required name .bool) :=
  survives_required Codec.survives_bool

theorem survives_nullableText : (nullable name .string).Survives n (nullable name .string) :=
  survives_nullable Codec.survives_string nofun

theorem survives_nullableMemberText :
    (nullableMember name .string).Survives n (nullableMember name .string) :=
  survives_nullableMember Codec.survives_string nofun

theorem survives_omittedText :
    (omitted name (.option .string) none Option.isNone).Survives n
      (omitted name (.option .string) none Option.isNone) :=
  survives_omittedNone Codec.survives_string nofun

end Field

open Codec OfflineChat.Field

/-! ## Messages -/

theorem survives_role {n : Nat} : Survives n Role.codec Role.codec :=
  survives_variant Role.ofName?_name

theorem survives_fileRefFields {n : Nat} : FileRef.fields.Survive n FileRef.fields := by
  refine .cons survives_omittedText rfl ?_
  refine .cons survives_omittedText rfl ?_
  refine .cons survives_omittedText rfl ?_
  refine .cons (survives_omittedNone survives_int64 nofun) rfl ?_
  exact .cons survives_omittedText rfl .nil

theorem survives_fileRef {n : Nat} : Survives (n + 1) FileRef.codec FileRef.codec :=
  survives_openRecord survives_fileRefFields fun _ _ => rfl

theorem survives_message {now : Int} (hnow : IsTime now) (later : Int) :
    Survives 3 (Message.codec now) (Message.codec later) := by
  refine survives_record (n := 2) ?_ fun _ => rfl
  refine .cons survives_text rfl ?_
  refine .cons survives_nullableText rfl ?_
  refine .cons (survives_defaultedNil (by decide) survives_string) rfl ?_
  refine .cons (survives_required survives_role) rfl ?_
  refine .cons survives_defaultedText rfl ?_
  refine .cons survives_omittedText rfl ?_
  -- whatever time stood for a missing one is written
  refine .cons (survives_defaultedInt hnow) rfl ?_
  exact .cons (survives_omittedNil (by decide) survives_fileRef) rfl .nil

/-! ## Chats -/

theorem survives_history {now : Int} (hnow : IsTime now) (later : Int) :
    Survives 5 (ChatHistory.codec now) (ChatHistory.codec later) := by
  refine survives_record (n := 4) ?_ fun _ => rfl
  refine .cons survives_nullableText rfl ?_
  have hmessages := survives_dict (survives_message hnow later)
  exact .cons (survives_defaultedEmpty (by decide) hmessages fun _ => rfl) rfl .nil

theorem survives_optionFields {n : Nat} : ChatOptions.fields.Survive n ChatOptions.fields := by
  refine .cons (survives_omittedNone survives_single nofun) rfl ?_
  exact .cons (survives_omittedNone (survives_natural (by decide)) nofun) rfl .nil

theorem survives_options {n : Nat} : Survives (n + 1) ChatOptions.codec ChatOptions.codec :=
  survives_openRecord survives_optionFields fun _ _ => rfl

theorem survives_metaFields {n : Nat} (hn : 1 ≤ n) :
    ChatMeta.fields.Survive (n + 1) ChatMeta.fields :=
  .cons (survives_omittedNil hn survives_string) rfl .nil

theorem survives_meta {n : Nat} (hn : 1 ≤ n) :
    Survives (n + 1 + 1) ChatMeta.codec ChatMeta.codec :=
  survives_openRecord (survives_metaFields hn) fun _ _ => rfl

theorem survives_body {now : Int} (hnow : IsTime now) (later : Int) :
    Survives 6 (ChatData.codec now) (ChatData.codec later) := by
  refine survives_record (n := 5) ?_ fun _ => rfl
  have hhistory := survives_history hnow later
  refine .cons (survives_defaultedEmpty (by decide) hhistory fun _ => rfl) rfl ?_
  refine .cons (survives_defaultedNil (by decide) survives_string) rfl ?_
  refine .cons (survives_defaultedEmpty (by decide) survives_options fun _ => rfl) rfl ?_
  exact .cons survives_omittedText rfl .nil

theorem survives_chat {now : Int} (hnow : IsTime now) (later : Int) :
    Survives 7 (Chat.codec now) (Chat.codec later) := by
  refine survives_record (n := 6) ?_ fun _ => rfl
  refine .cons survives_text rfl ?_
  refine .cons survives_defaultedText rfl ?_
  refine .cons survives_text rfl ?_
  have hbody := survives_body hnow later
  refine .cons (survives_defaultedEmpty (by decide) hbody fun _ => rfl) rfl ?_
  refine .cons survives_time rfl ?_
  refine .cons survives_time rfl ?_
  refine .cons survives_nullableText rfl ?_
  refine .cons survives_defaultedFalse rfl ?_
  refine .cons survives_defaultedFalse rfl ?_
  have hmeta : Survives 6 ChatMeta.codec ChatMeta.codec := survives_meta (by decide)
  refine .cons (survives_defaultedEmpty (by decide) hmeta fun _ => rfl) rfl ?_
  exact .cons survives_nullableText rfl .nil

theorem survives_summary {n : Nat} : Survives (n + 1) ChatSummary.codec ChatSummary.codec := by
  refine survives_record ?_ fun _ => rfl
  refine .cons survives_text rfl ?_
  refine .cons survives_text rfl ?_
  refine .cons survives_time rfl ?_
  refine .cons survives_time rfl ?_
  refine .cons survives_defaultedFalse rfl ?_
  exact .cons survives_defaultedFalse rfl .nil

/-! ## Models, sessions and files -/

theorem survives_modelMeta : Survives 3 ModelMeta.codec ModelMeta.codec := by
  refine survives_record (n := 2) ?_ fun _ => rfl
  refine .cons survives_nullableText rfl ?_
  have hcapabilities : Survives 2 any.dict any.dict := survives_dict survives_any
  exact .cons (survives_defaultedEmpty (by decide) hcapabilities fun _ => rfl) rfl .nil

theorem survives_model : Survives 5 Model.codec Model.codec := by
  have hdetails : Survives 4 ModelDetails.codec ModelDetails.codec := by
    refine survives_record (n := 3) ?_ fun _ => rfl
    exact .cons (survives_nullable survives_modelMeta nofun) rfl .nil
  refine survives_record (n := 4) ?_ fun _ => rfl
  refine .cons survives_text rfl ?_
  refine .cons survives_nullableText rfl ?_
  refine .cons survives_nullableText rfl ?_
  exact .cons (survives_nullable hdetails nofun) rfl .nil

theorem survives_signInFields {n : Nat} : SignIn.fields.Survive n SignIn.fields := by
  refine .cons survives_text rfl ?_
  refine .cons survives_defaultedText rfl ?_
  refine .cons (survives_nullable survives_int64 nofun) rfl ?_
  refine .cons survives_text rfl ?_
  refine .cons survives_text rfl ?_
  refine .cons survives_nullableText rfl ?_
  refine .cons survives_nullableText rfl ?_
  exact .cons survives_nullableText rfl .nil

theorem survives_signIn {n : Nat} : Survives (n + 1) SignIn.codec SignIn.codec :=
  survives_record survives_signInFields fun _ => rfl

theorem survives_serverFile {n : Nat} :
    Survives (n + 1 + 1) ServerFile.codec ServerFile.codec := by
  have hzero : -0x8000000000000000 ≤ (0 : Int) ∧ (0 : Int) ≤ 0x7FFFFFFFFFFFFFFF := by decide
  have hmeta : Survives (n + 1) FileMeta.codec FileMeta.codec := by
    refine survives_record ?_ fun _ => rfl
    refine .cons survives_nullableText rfl ?_
    refine .cons (survives_defaultedInt hzero) rfl ?_
    exact .cons survives_defaultedText rfl .nil
  refine survives_record ?_ fun _ => rfl
  refine .cons survives_text rfl ?_
  refine .cons survives_text rfl ?_
  refine .cons (survives_required hmeta) rfl ?_
  refine .cons survives_defaultedText rfl ?_
  refine .cons (survives_defaultedInt hzero) rfl ?_
  exact .cons (survives_defaultedInt hzero) rfl .nil

/-! ## Rows of the cache -/

theorem survives_cachedChat {n : Nat} :
    Survives (n + 1 + 1) CachedChat.codec CachedChat.codec := by
  refine survives_record ?_ fun _ => rfl
  refine .cons survives_text rfl ?_
  refine .cons survives_text rfl ?_
  refine .cons survives_time rfl ?_
  refine .cons survives_time rfl ?_
  refine .cons survives_flag rfl ?_
  refine .cons survives_flag rfl ?_
  refine .cons (survives_required (survives_list survives_string)) rfl ?_
  refine .cons survives_nullableMemberText rfl ?_
  exact .cons survives_nullableMemberText rfl .nil

theorem survives_cachedMessage {n : Nat} :
    Survives (n + 1) CachedMessage.codec CachedMessage.codec := by
  have hstatus : Survives n MessageStatus.codec MessageStatus.codec :=
    survives_variant fun status => by cases status <;> decide
  refine survives_record ?_ fun _ => rfl
  refine .cons survives_text rfl ?_
  refine .cons survives_text rfl ?_
  refine .cons survives_nullableMemberText rfl ?_
  refine .cons (survives_required survives_role) rfl ?_
  refine .cons survives_text rfl ?_
  refine .cons survives_nullableMemberText rfl ?_
  refine .cons survives_time rfl ?_
  exact .cons (survives_required hstatus) rfl .nil

/-! ## Every record -/

/-- The records that are sent, kept or handed out as texts. -/
inductive RecordKind where
  | message
  | fileRef
  | history
  | options
  | about
  | body
  | chat
  | summary
  | model
  | signIn
  | serverFile
  | cachedChat
  | cachedMessage
deriving DecidableEq, Repr

namespace RecordKind

/-- The values of a kind of record. -/
def Value : RecordKind → Type
  | message => Message
  | fileRef => FileRef
  | history => ChatHistory
  | options => ChatOptions
  | about => ChatMeta
  | body => ChatData
  | chat => Chat
  | summary => ChatSummary
  | model => Model
  | signIn => SignIn
  | serverFile => ServerFile
  | cachedChat => CachedChat
  | cachedMessage => CachedMessage

/-- How the records of a kind are written, and read at the time `now`. -/
def codec (now : Int) : (k : RecordKind) → Codec k.Value
  | message => Message.codec now
  | fileRef => FileRef.codec
  | history => ChatHistory.codec now
  | options => ChatOptions.codec
  | about => ChatMeta.codec
  | body => ChatData.codec now
  | chat => Chat.codec now
  | summary => ChatSummary.codec
  | model => Model.codec
  | signIn => SignIn.codec
  | serverFile => ServerFile.codec
  | cachedChat => CachedChat.codec
  | cachedMessage => CachedMessage.codec

theorem survives {now : Int} (hnow : IsTime now) (later : Int) (k : RecordKind) :
    Survives 7 (k.codec now) (k.codec later) := by
  cases k with
  | message => exact (survives_message hnow later).mono (by decide)
  | fileRef => exact survives_fileRef
  | history => exact (survives_history hnow later).mono (by decide)
  | options => exact survives_options
  | about => exact survives_meta (by decide)
  | body => exact (survives_body hnow later).mono (by decide)
  | chat => exact survives_chat hnow later
  | summary => exact survives_summary
  | model => exact survives_model.mono (by decide)
  | signIn => exact survives_signIn
  | serverFile => exact survives_serverFile
  | cachedChat => exact survives_cachedChat
  | cachedMessage => exact survives_cachedMessage

/-- **Records survive being written.**  Of whatever form the text was that a record was read from,
the text that the record is written as is read as that record, at whatever time; only records that
hold a number with a fraction are left aside.  A file reference, the options of a chat and the data
about one keep every member that has no field with its value, wherever in a text they stand, and no
other; and so the text has them again. -/
theorem records_survive {now : Int} (hnow : IsTime now) (later : Int) :
    (∀ (k : RecordKind) (text : String) (v : k.Value), (k.codec now).decode text = .ok v →
      ((k.codec now).write v).FloatFree →
      (k.codec later).decode ((k.codec now).encode v) = .ok v) ∧
    KeepsRest 3 FileRef.codec FileRef.fields FileRef.extra ∧
    KeepsRest 3 ChatOptions.codec ChatOptions.fields ChatOptions.extra ∧
    KeepsRest 3 ChatMeta.codec ChatMeta.fields ChatMeta.extra := by
  refine ⟨fun k text v hread hfree => ?_, ?_, ?_, ?_⟩
  · exact (k.survives hnow later).decode_encode (by decide) hread hfree
  · have hplain : FileRef.fields.Plain := ⟨plain_option plain_string, plain_option plain_string,
      plain_option plain_string, plain_option plain_integer, plain_option plain_string, trivial⟩
    exact keepsRest_openRecord survives_fileRefFields hplain (fun _ _ => rfl) fun _ _ => rfl
  · have hplain : ChatOptions.fields.Plain :=
      ⟨plain_option plain_single, plain_option plain_natural, trivial⟩
    exact keepsRest_openRecord survives_optionFields hplain (fun _ _ => rfl) fun _ _ => rfl
  · have hplain : ChatMeta.fields.Plain := ⟨plain_list plain_string, trivial⟩
    exact keepsRest_openRecord (survives_metaFields (by decide)) hplain (fun _ _ => rfl)
      fun _ _ => rfl

/-- A message without a time and with a member that messages do not have; its role is written the
long way, and its file has a member that files do not have. -/
def oddText : String :=
  "\x7b\"id\":\"m\",\"role\":\x7b\"user\":null\x7d,\"n\":0.5," ++
    "\"files\":[\x7b\"x\":[1,\"a\"],\"type\":\"t\"\x7d]\x7d"

/-- The message of that text, read at time 5. -/
def oddMessage : Message :=
  { Message.plain "m" none .user "" 5 with
    files := [⟨none, none, some "t", none, none, .ofList [("x", .arr [.int 1, .str "a"])]⟩] }

theorem records_survive_odd :
    let file : FileRef := ⟨none, none, some "t", none, none, .ofList [("x", .bool true)]⟩
    let d : Document := .obj [(some "x", .bool true), (some "type", .str (some "t"))] .closed
    IsTime 5 ∧ (Message.codec 5).decode oddText = .ok oddMessage ∧
    ((Message.codec 5).write oddMessage).FloatFree ∧
    (Message.codec 9).decode ((Message.codec 5).encode oddMessage) = .ok oddMessage ∧
    FileRef.codec.read 3 d = .ok file ∧ (FileRef.codec.write file).FloatFree ∧
    HasRest FileRef.fields file.extra 3 d ∧ file.extra.find? "type" = none ∧
    HasRest FileRef.fields file.extra 3 (.ofJson (FileRef.codec.write file)) := by
  intro file d
  have hnow : IsTime 5 := ⟨by decide, by decide⟩
  have hread : (Message.codec 5).decode oddText = .ok oddMessage := by cbv
  have hfree : ((Message.codec 5).write oddMessage).FloatFree := by
    show Json.FloatFree (.obj [("id", .str "m"), ("parentId", .null), ("childrenIds", .arr []),
      ("role", .str "user"), ("content", .str ""), ("timestamp", .int 5),
      ("files", .arr [.obj [("type", .str "t"), ("x", .arr [.int 1, .str "a"])]])])
    simp
  have hfile : FileRef.codec.read 3 d = .ok file := rfl
  have hfree' : (FileRef.codec.write file).FloatFree := by
    show Json.FloatFree (.obj [("type", .str "t"), ("x", .bool true)])
    simp
  obtain ⟨htexts, hfiles, -, -⟩ := records_survive hnow 9
  exact ⟨hnow, hread, hfree, htexts .message oddText oddMessage hread hfree, hfile, hfree',
    hfiles.kept hfile, hfiles.apart hfile "type" rfl,
    hfiles.returned (Nat.le_refl 3) hfile hfree'⟩

end RecordKind
end OfflineChat
