import OfflineChat.Message

/-! # Threads

A chat is a tree of messages with one current leaf.  Its thread is the path to
that leaf: `walk` goes from the leaf to the root along parent links, and
`thread` turns the walk around.  A link that leads nowhere ends the walk, and
so does one that leads back to a message already on it.
-/
namespace OfflineChat

/-- The messages of a chat by key. -/
abbrev MessageMap := Dict Message

namespace MessageMap

/-- The walk up from `cursor`, of at most so many steps, past the ids already met. -/
def walkFrom (messages : MessageMap) : Nat → List String → Option String → List Message
  | 0, _, _ => []
  | _ + 1, _, none => []
  | steps + 1, met, some key =>
    match messages.find? key with
    | none => []
    | some m =>
      if m.id ∈ met then [] else m :: walkFrom messages steps (m.id :: met) m.parentId

/-- The walk from the current message up to the root.  No id comes twice, so the walk is no longer
than the number of messages. -/
def walk (messages : MessageMap) (currentId : Option String) : List Message :=
  walkFrom messages messages.size [] currentId

/-- The thread that ends at the current message, root first. -/
def thread (messages : MessageMap) (currentId : Option String) : List Message :=
  (messages.walk currentId).reverse

end MessageMap

/-- Whether each message hangs under the one before it. -/
def isLinearChain : List Message → Bool
  | [] => true
  | [_] => true
  | m :: n :: rest => n.parentId == some m.id && isLinearChain (n :: rest)

end OfflineChat
