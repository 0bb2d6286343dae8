import PageTitle.Message
import PageTitle.Store.Basic

/-!
# The render service

Answers requests under some options, which may be missing because they could not be loaded.
`reply` does the same for messages in JSON.
-/

namespace PageTitle

/-- Why a message has no reply. What a JSON reader has to say about a malformed message is left out. -/
inductive ServiceError where
  | options (e : OptionsError)
  | malformed
  deriving DecidableEq, Repr

namespace ServiceError

/-- The explanation; that of a malformed message without the colon and the reader's words that would
follow. -/
def message : ServiceError → Text
  | options e => "cannot load options: ".toList ++ e.message
  | malformed => "malformed render service message".toList

end ServiceError

namespace Service

/-- The update of a title, if the options select the page. -/
def format (o : Options) (r : FormatRequest) : Option Update :=
  if o.accepts r.url then some (Update.make o.format ⟨r.location, r.title⟩ r.previous) else none

/-- The answer to a request, of which only the rendering of a title asks for the options. -/
def answer {ε : Type} (options : Except ε Options) : Request → Except ε Response
  | .constants => .ok (.constants .current)
  | .format r => options.map fun o => .update (format o r)

/-- The reply to a message. -/
def reply (options : Except OptionsError Options) (message : Text) : Except ServiceError Text :=
  match Request.read? message with
  | none => .error .malformed
  | some r =>
    match answer options r with
    | .ok response => .ok response.toText
    | .error e => .error (.options e)

end Service
end PageTitle
