import AntiForgery.Json.Number
import AntiForgery.Net.SocketAddress
import AntiForgery.Store.Failure
import AntiForgery.Text.Percent
import AntiForgery.Text.Pieces

/-!
# Addresses of Redis servers

What is wrong with the address of a server, as far as that shows before any connection is made.
-/

namespace AntiForgery
namespace Redis

/-- What is wrong with the address of a server. -/
inductive AddressFault where
  /-- It is no URL, or one of another kind of server. -/
  | notParsed
  /-- It names no host. -/
  | missingHost
  /-- It asks for an encrypted connection, which is not supported. -/
  | encrypted
  /-- What should be the number of a database is none. -/
  | badDatabase
  /-- The name of the user is no text. -/
  | badUser
  /-- The password is no text. -/
  | badPassword
  /-- It asks for a protocol that there is not. -/
  | badProtocol
  deriving DecidableEq, Repr

namespace AddressFault

/-- The wording of a fault. -/
def message : AddressFault → String
  | .notParsed => "Redis URL did not parse- InvalidClientConfig"
  | .missingHost => "Missing hostname- InvalidClientConfig"
  | .encrypted => "can't connect with TLS, the feature is not enabled- InvalidClientConfig"
  | .badDatabase => "Invalid database number- InvalidClientConfig"
  | .badUser => "Username is not valid UTF-8 string- InvalidClientConfig"
  | .badPassword => "Password is not valid UTF-8 string- InvalidClientConfig"
  | .badProtocol => "Invalid protocol version- InvalidClientConfig"

/-- The failure of a store that cannot be reached because of a fault. -/
def failure (fault : AddressFault) : Store.Failure := .server fault.message

end AddressFault

/-- The parts of an address. -/
structure Address where
  /-- What stands in front of the first colon, in lower case. -/
  scheme : String
  /-- What stands between two slashes and the path; nothing without the slashes. -/
  authority : List Char
  /-- The path. -/
  path : List Char
  /-- What stands between a question mark and a number sign. -/
  query : List Char
  deriving DecidableEq, Repr

namespace Address

/-- Whether a character may stand in a scheme behind its first letter. -/
def isSchemeChar (char : Char) : Bool :=
  char.isAlphanum || char == '+' || char == '-' || char == '.'

/-- Whether a character ends the authority. -/
def endsAuthority (char : Char) : Bool :=
  char == '/' || char == '?' || char == '#'

/-- The parts of a text that has the form of a URL. -/
def split? (text : String) : Option Address :=
  let chars := text.toList
  let scheme := chars.takeWhile isSchemeChar
  match scheme.head?, chars.dropWhile isSchemeChar with
  | some first, ':' :: rest =>
      if !first.isAlpha then none
      else
        let (authority, rest) :=
          match rest with
          | '/' :: '/' :: rest =>
              (rest.takeWhile (!endsAuthority ·), rest.dropWhile (!endsAuthority ·))
          | _ => ([], rest)
        let path := rest.takeWhile fun char => !(char == '?' || char == '#')
        let behind := rest.dropWhile fun char => !(char == '?' || char == '#')
        let query :=
          match behind with
          | '?' :: query => query.takeWhile (· != '#')
          | _ => []
        some ⟨String.ofList (scheme.map Char.toLower), authority, path, query⟩
  | _, _ => none

/-- The schemes of servers that are reached over a network without encryption. -/
def plainSchemes : List String := ["redis", "valkey"]

/-- The schemes of servers that are reached over a network with encryption. -/
def encryptedSchemes : List String := ["rediss", "valkeys"]

/-- The schemes of servers on the same machine. -/
def localSchemes : List String := ["unix", "redis+unix", "valkey+unix"]

/-- The user and the password in front of the last at sign, and what follows it. -/
def userOf (authority : List Char) : List Char × List Char :=
  let behind := (authority.reverse.takeWhile (· != '@')).reverse
  (authority.take (authority.length - behind.length - 1), behind)

/-- The host and the port behind it.  Between brackets colons belong to the host. -/
def hostOf (authority : List Char) : List Char × List Char :=
  if authority.head? == some '[' then
    let inner := authority.takeWhile (· != ']')
    (inner ++ (authority.drop inner.length).take 1, authority.drop (inner.length + 1))
  else (authority.takeWhile (· != ':'), authority.dropWhile (· != ':'))

/-- Whether what follows the host is empty or a colon with a port. -/
def isPort : List Char → Bool
  | [] => true
  | ':' :: digits =>
      digits.all Char.isDigit && Json.Number.valueOf (digits.map Char.toUInt8) < 65536
  | _ => false

/-- The characters that no host may hold. -/
def forbidden : List Char :=
  ['\x00', '\t', '\n', '\r', ' ', '#', '/', '<', '>', '?', '@', '[', '\\', ']', '^', '|']

/-- Whether characters may be a host. -/
def isHost (host : List Char) : Bool :=
  if host.head? == some '[' then
    host.getLast? == some ']' &&
      match Net.SocketAddress.eightGroups (Text.utf8 (String.ofList (host.drop 1).dropLast)) with
      | some (_, []) => true
      | _ => false
  else host.all (!forbidden.contains ·)

/-- A path without the slashes at its ends. -/
def trimSlashes (path : List Char) : List Char :=
  ((path.dropWhile (· == '/')).reverse.dropWhile (· == '/')).reverse

/-- The value of the last member of the query with a name. -/
def member? (name : String) (query : List Char) : Option String :=
  let members := (Text.pieces '&' query).map fun piece =>
    (String.ofList (piece.takeWhile (· != '=')), String.ofList ((piece.dropWhile (· != '=')).drop 1))
  members.reverse.lookup name

/-- Whether characters with percent signs spell a text. -/
def isText (chars : List Char) : Bool :=
  (Text.ofUtf8? (Text.percentDecode (Text.utf8 (String.ofList chars)))).isSome

/-- The words for the protocols that there are. -/
def protocols : List String := ["2", "resp2", "3", "resp3"]

/-- What is wrong with the parts of an address for a network. -/
def checkNetwork (address : Address) : Except AddressFault Unit :=
  let (user, rest) := userOf address.authority
  let (host, port) := hostOf rest
  if !isHost host || !isPort port || (host.isEmpty && !rest.isEmpty) then .error .notParsed
  else if host.isEmpty then .error .missingHost
  else if encryptedSchemes.contains address.scheme then .error .encrypted
  else
    let database := String.ofList (trimSlashes address.path)
    if database ≠ "" ∧ (Integer.parse database).toOption = none then .error .badDatabase
    else if !isText (user.takeWhile (· != ':')) then .error .badUser
    else if !isText ((user.dropWhile (· != ':')).drop 1) then .error .badPassword
    else
      match member? "protocol" address.query with
      | none => .ok ()
      | some protocol => if protocols.contains protocol then .ok () else .error .badProtocol

/-- What is wrong with the address of a server, if that shows without connecting. -/
def check (text : String) : Except AddressFault Unit :=
  match split? text with
  | none => .error .notParsed
  | some address =>
      if (plainSchemes ++ encryptedSchemes).contains address.scheme then checkNetwork address
      else if localSchemes.contains address.scheme then .ok ()
      else .error .notParsed

end Address
end Redis
end AntiForgery
