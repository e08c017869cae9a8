import AntiForgery.Redis.Reply
import AntiForgery.Store.Call

/-!
# A store on a Redis server

Each call is one command, and the reply to it says how the call went.  The server ends keys by
itself, so a key is there as long as the server says so.
-/

namespace AntiForgery
namespace Redis

/-- What is kept under every key; only that it is there matters. -/
def marker : String := "1"

/-- The words of the command for a call. -/
def command : Store.Call α → List String
  | .record key lifetime => ["SETEX", key, toString lifetime, marker]
  | .lookUp key => ["EXISTS", key]
  | .claim key lifetime => ["SET", key, marker, "NX", "EX", toString lifetime]
  | .remove key => ["DEL", key]

/-- The codes of errors that have names, with their names. -/
def namedErrors : List (String × String) :=
  [("ERR", "ResponseError"), ("EXECABORT", "ExecAbortError"), ("LOADING", "BusyLoadingError"),
    ("NOSCRIPT", "NoScriptError"), ("MOVED", "Moved"), ("ASK", "Ask"), ("TRYAGAIN", "TryAgain"),
    ("CLUSTERDOWN", "ClusterDown"), ("CROSSSLOT", "CrossSlot"), ("MASTERDOWN", "MasterDown"),
    ("READONLY", "ReadOnly"), ("NOTBUSY", "NotBusy"), ("NOSUB", "NoSub"), ("NOPERM", "NoPerm")]

/-- The wording of an error that a server reports. -/
def reportOf (code : String) (detail : Option String) : String :=
  match namedErrors.lookup code, detail with
  | some name, some detail => "An error was signalled by the server - " ++ name ++ ": " ++ detail
  | some name, none => "An error was signalled by the server- " ++ name
  | none, detail => code ++ ": " ++ detail.getD "Unknown extension error encountered"

/-- Whether a reply says that a key is there. -/
def readTruth : Reply → Except Store.Failure Bool
  | .null => .ok false
  | .integer value => .ok (value != 0)
  | .boolean value => .ok value
  | .status line =>
      if line = "OK" ∨ line = "1" then .ok true
      else if line = "0" then .ok false
      else .error .unusableReply
  | .bulk bytes =>
      if bytes = Text.utf8 "1" then .ok true
      else if bytes = Text.utf8 "0" then .ok false
      else .error .unusableReply
  | .error code detail => .error (.server (reportOf code detail))
  | .other => .error .unusableReply

/-- Whether a reply says that a key was set: any text does, and nothing does not. -/
def readSet : Reply → Except Store.Failure Bool
  | .null => .ok false
  | .integer _ => .ok true
  | .status _ => .ok true
  | .bulk bytes => if (Text.ofUtf8? bytes).isSome then .ok true else .error .unusableReply
  | .error code detail => .error (.server (reportOf code detail))
  | .boolean _ => .error .unusableReply
  | .other => .error .unusableReply

/-- Whether a reply reports no error. -/
def readDone : Reply → Except Store.Failure Unit
  | .error code detail => .error (.server (reportOf code detail))
  | _ => .ok ()

/-- What the reply to the command of a call says. -/
def readReply : Store.Call α → Reply → Except Store.Failure α
  | .record _ _, reply => readDone reply
  | .lookUp _, reply => (readTruth reply).map fun found => if found then .present else .absent
  | .claim _ _, reply => readSet reply
  | .remove _, reply => readDone reply

/-- What the bytes of a reply say; bytes that are no reply are of no use. -/
def readBytes (call : Store.Call α) (bytes : List UInt8) : Except Store.Failure α :=
  match Reply.parse? bytes with
  | none => .error .unusableReply
  | some reply => readReply call reply

end Redis
end AntiForgery
