import OfflineChat.Server.Api

/-! # Scripted answers

A server that takes its answers from a list while there are any, and asks
another server after that.
-/
namespace OfflineChat

/-- A scripted answer: the JSON text of a value, or a failure. -/
abbrev ScriptedAnswer := Except Failure String

/-- A list of answers in front of another server. -/
structure Scripted (σ : Type) where
  script : List ScriptedAnswer
  behind : σ

namespace Scripted

variable {σ : Type}

/-- Read a scripted answer as the answer to a request. -/
def read (now : Int) (r : ChatRequest) : ScriptedAnswer → Except Failure r.Answer
  | .error f => .error f
  | .ok text => match (r.answerCodec now).decode text with
    | .ok a => .ok a
    | .error cause => .error (.payload cause.message)

/-- Scripted answers first, then those of the server behind. -/
def api (behind : ServerApi σ) : ServerApi (Scripted σ) where
  answer r s e := match s.script with
    | a :: rest => (read e.now r a, { s with script := rest }, e)
    | [] =>
      let (a, b, e) := behind.answer r s.behind e
      (a, { s with behind := b }, e)

end Scripted
end OfflineChat
