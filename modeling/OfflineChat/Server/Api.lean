import OfflineChat.Completion
import OfflineChat.Failure
import OfflineChat.Cache.Write

/-! # What the store asks of a server

The requests of the store and the type of the answer to each.  A `ServerApi`
answers them in one step over its own state; it also sees the surroundings that
the store sees, the clock and the supply of fresh ids.

Fresh ids are one hundred and twenty-two random bits in their written form: groups
of eight, four, four, four and twelve hexadecimal digits, in which six fixed bits
say that the rest is random.
-/
namespace OfflineChat

/-! ## Fresh ids -/

namespace Uuid

/-- A number in so many hexadecimal digits. -/
def digits (width n : Nat) : List Char :=
  let ds := Nat.toDigits 16 (n % Nat.pow 16 width)
  List.replicate (width - ds.length) '0' ++ ds

/-- The three numbers that an id of random bits is written as: forty-eight bits, twelve bits below
the number of the version, and sixty-two bits below the mark of the variant. -/
def parts (n : Nat) : Nat × Nat × Nat :=
  (n / Nat.pow 2 74 % Nat.pow 2 48, 0x4000 + n / Nat.pow 2 62 % 0x1000,
    0x8000000000000000 + n % Nat.pow 2 62)

/-- The written id of a number. -/
def text (n : Nat) : String :=
  let (high, middle, low) := parts n
  let high := digits 12 high
  let low := digits 16 low
  String.intercalate "-"
    ([high.take 8, high.drop 8, digits 4 middle, low.take 4, low.drop 4].map String.ofList)

end Uuid

/-- The clock and the supply of fresh ids. -/
structure Surroundings where
  /-- Seconds since the epoch. -/
  now : Int
  /-- The `n`-th id of the supply, counted from zero. -/
  supply : Nat → String
  /-- How many ids have been drawn. -/
  drawn : Nat

namespace Surroundings

/-- Draw a fresh id. -/
def draw (s : Surroundings) : String × Surroundings :=
  (s.supply s.drawn, { s with drawn := s.drawn + 1 })

end Surroundings

/-! ## Requests -/

/-- A request of the store. -/
inductive ChatRequest where
  | fetchChats
  | getChat (chatId : String)
  | createChat (title : String)
  | deleteChat (chatId : String)
  | sendMessage (chatId content : String)
  | searchChats (text : String)
  | toggle (f : ChatFlag) (chatId : String)
  | listModels
deriving DecidableEq, Repr

namespace ChatRequest

/-- The type of the answer to a request. -/
def Answer : ChatRequest → Type
  | fetchChats => List ChatSummary
  | getChat _ => Chat
  | createChat _ => Chat
  | deleteChat _ => Bool
  | sendMessage .. => String
  | searchChats _ => List ChatSummary
  | toggle .. => Chat
  | listModels => List Model

/-- The name of the operation a request is for. -/
def operation : ChatRequest → String
  | fetchChats => "fetch_chats"
  | getChat _ => "get_chat"
  | createChat _ => "create_chat"
  | deleteChat _ => "delete_chat"
  | sendMessage .. => "send_message"
  | searchChats _ => "search_chats"
  | toggle .pinned _ => "toggle_pin_chat"
  | toggle .archived _ => "toggle_archive_chat"
  | listModels => "list_models"

/-- What a request carries. -/
def arguments : ChatRequest → List String
  | fetchChats => []
  | getChat id => [id]
  | createChat title => [title]
  | deleteChat id => [id]
  | sendMessage id content => [id, content]
  | searchChats text => [text]
  | toggle _ id => [id]
  | listModels => []

/-- The chat a request is about, if it names one. -/
def chatId? : ChatRequest → Option String
  | getChat id => some id
  | deleteChat id => some id
  | sendMessage id _ => some id
  | toggle _ id => some id
  | _ => none

/-- How the answer to a request is written and read. -/
def answerCodec (now : Int) : (r : ChatRequest) → Codec r.Answer
  | fetchChats => Codec.list ChatSummary.codec
  | getChat _ => Chat.codec now
  | createChat _ => Chat.codec now
  | deleteChat _ => Codec.bool
  | sendMessage .. => Codec.string
  | searchChats _ => Codec.list ChatSummary.codec
  | toggle .. => Chat.codec now
  | listModels => Codec.list Model.codec

end ChatRequest

/-- A server over states `σ`: it answers a request, or says why it does not. -/
structure ServerApi (σ : Type) where
  answer : (r : ChatRequest) → σ → Surroundings → Except Failure r.Answer × σ × Surroundings

end OfflineChat
