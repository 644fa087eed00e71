import BootstrapApproval.Fault
import BootstrapApproval.Http.HostName
import BootstrapApproval.Text.Letters

/-! # Request targets

The target of a request is a path, or an address with a scheme, an authority and a path. A query and
a fragment may follow. Only the path says what is asked for; still, an address with a flaw in its
authority is refused. The first flaw counts, in this order: a backslash, brackets, characters that
look like the end of the authority, the port, the host.
-/

namespace BootstrapApproval.Target

inductive Flaw where
  | backslash
  | brackets
  /-- Brackets stand in the authority, but nothing stands behind its last at sign. -/
  | nothingAfterUser
  | futureAddress
  | bracketedHost
  | ambiguous (authority : String)
  | noHost (scheme : String)
  | portNotNumber
  | portOutOfRange
  | host (name : String) (flaw : HostName.Flaw)
  deriving DecidableEq, Repr

/-- The fault that a flaw of the host in an address raises. A label that cannot be encoded is the
cause of a fault that tells of it. -/
def hostFault (name : String) : HostName.Flaw → Raised
  | .vanishing c position =>
      .of (.unexpected .value ("Host " ++ String.ofList (Display.quoted name) ++ " cannot contain "
        ++ String.ofList (Display.quoted (String.singleton c)) ++ " (at position "
        ++ Digits.decimal position ++ ")"))
  | .label flaw =>
      let cause := Fault.unexpected .encoding flaw.text
      .because
        (.unexpected .encoding
          ("encoding with 'idna' codec failed (" ++ cause.name ++ ": " ++ cause.text ++ ")"))
        (.of cause)

def Flaw.raised : Flaw → Raised
  | backslash =>
      .of (.unexpected .value
        "Invalid URL: backslash ('\\') is not allowed in the authority component per RFC 3986.")
  | brackets => .of (.unexpected .value "Invalid IPv6 URL")
  | nothingAfterUser => .of (.unexpected .index "string index out of range")
  | futureAddress => .of (.unexpected .value "IPvFuture address is invalid")
  | bracketedHost => .of (.unexpected .value "The IPv6 content between brackets is not valid")
  | ambiguous authority =>
      .of (.unexpected .value
        ("netloc '" ++ authority ++ "' contains invalid characters under NFKC normalization"))
  | noHost scheme =>
      .of (.unexpected .value
        ("Invalid URL: host is required for absolute urls with the " ++ scheme ++ " scheme"))
  | portNotNumber => .of (.unexpected .value "Invalid URL: port can't be converted to integer")
  | portOutOfRange => .of (.unexpected .value "Port out of range 0-65535")
  | host name flaw => hostFault name flaw

/-- A target without blanks and controls in front, and without line breaks and tabs. -/
def cleaned (cs : List Char) : List Char :=
  (cs.dropWhile fun c => c.toNat ≤ 0x20).filter fun c => !(c == '\t' || c == '\r' || c == '\n')

def isSchemeChar (c : Char) : Bool := c.isAlphanum || c == '+' || c == '-' || c == '.'

/-- The scheme in lower case, which may be missing, and what follows it. -/
def splitScheme (cs : List Char) : String × List Char :=
  match cs.span isSchemeChar with
  | (c :: scheme, ':' :: rest) => (String.ofList ((c :: scheme).map Char.toLower), rest)
  | _ => ("", cs)

def splitAuthority : List Char → List Char × List Char
  | '/' :: '/' :: rest => rest.span fun c => !(c == '/' || c == '?' || c == '#')
  | cs => ([], cs)

def hostedSchemes : List String := ["http", "https", "ws", "wss", "ftp"]

def isFutureAddress (cs : List Char) : Bool :=
  match (cs.drop 1).span fun c => (Json.hexValue? c).isSome with
  | (_ :: _, '.' :: _ :: _) => true
  | _ => false

/-- The text before the last character that satisfies `p`, if there is one, and what follows it. -/
def splitLast (p : Char → Bool) (cs : List Char) : Option (List Char) × List Char :=
  match cs.reverse.span fun c => !p c with
  | (back, _ :: front) => (some front.reverse, back.reverse)
  | (back, []) => (none, back.reverse)

/-- The flaw of the brackets in an authority, if there is one. They must stand around the host, and
only a port may follow them. -/
def bracketFlaw? (authority : List Char) : Option Flaw :=
  let opened := authority.contains '['
  if opened != authority.contains ']' then some .brackets
  else if !opened then none
  else
    let asked := (splitLast (· == '@') authority).2
    let behind := Search.after (· == ']') asked
    let inner := Search.before (· == ']') (Search.after (· == '[') asked)
    if asked.isEmpty then some .nothingAfterUser
    else if asked.head? != some '[' then some .brackets
    else if !behind.isEmpty && behind.head? != some ':' then some .brackets
    else if inner.head? = some 'v' then if isFutureAddress inner then none else some .futureAddress
    else if inner.contains ':' then none
    else some .bracketedHost

/-- The codes of characters whose compatibility form holds a slash, a question mark, a number sign,
a colon or an at sign. -/
def lookalikes : List Nat :=
  [0x2047, 0x2048, 0x2049, 0x2100, 0x2101, 0x2105, 0x2106, 0x2A74, 0xFE13, 0xFE16, 0xFE55, 0xFE56,
   0xFE5F, 0xFE6B, 0xFF03, 0xFF0F, 0xFF1A, 0xFF1F, 0xFF20]

/-- A port: digits of any script with single underscores between them, a sign in front and blanks
around. -/
def port (cs : List Char) : Except Flaw Nat :=
  let (negative, digits) := Digits.sign ((Search.strip Letters.isGap cs).map Numerals.plain)
  match Digits.grouped? digits with
  | none => .error .portNotNumber
  | some n => if (negative && n != 0) || 65535 < n then .error .portOutOfRange else .ok n

/-- Who is asked: a part that is missing or empty counts as not given, except a password. -/
structure Authority where
  user : Option (List Char)
  password : Option (List Char)
  host : Option (List Char)
  port : Option Nat

def given (cs : List Char) : Option (List Char) := if cs.isEmpty then none else some cs

/-- The host in the rest of an authority, and the text of the port. -/
def splitHost (cs : List Char) : List Char × List Char :=
  if cs.contains '[' then
    let bracketed := Search.after (· == '[') cs
    (Search.before (· == ']') bracketed,
      Search.after (· == ':') (Search.after (· == ']') bracketed))
  else (Search.before (· == ':') cs, Search.after (· == ':') cs)

def Authority.ofText (cs : List Char) : Except Flaw Authority := do
  let (info, rest) := splitLast (· == '@') cs
  let user := info.bind fun i => given (Search.before (· == ':') i)
  let password := info.bind fun i =>
    if i.contains ':' then some (Search.after (· == ':') i) else none
  let (host, portText) := splitHost rest
  if portText.isEmpty then pure ⟨user, password, given host, none⟩
  else pure ⟨user, password, given host, some (← Target.port portText)⟩

def Authority.isGiven (a : Authority) : Bool :=
  a.user.isSome || a.password.isSome || a.host.isSome || a.port.isSome

/-- Whether an authority is there at all; one with a flaw is refused. -/
def hasAuthority (scheme : String) (authority : List Char) : Except Flaw Bool :=
  match if authority.contains '\\' then some Flaw.backslash else bracketFlaw? authority with
  | some flaw => .error flaw
  | none =>
      if authority.any fun c => lookalikes.contains c.toNat then
        .error (.ambiguous (String.ofList authority))
      else if authority.isEmpty then .ok false
      else do
        let a ← Authority.ofText authority
        match a.host with
        | none =>
            if hostedSchemes.contains scheme then .error (.noHost scheme) else pure a.isGiven
        | some name =>
            match HostName.flaw? name with
            | some flaw => .error (.host (String.ofList name) flaw)
            | none => pure true

/-- A path with its percent escapes resolved, except those of the slash and of the percent sign. -/
def unescape : List Char → List Char
  | '%' :: a :: b :: rest =>
      match Json.hexValue? a, Json.hexValue? b with
      | some x, some y =>
          let c := Char.ofNat (16 * x + y)
          if c = '/' ∨ c = '%' then '%' :: a :: b :: unescape rest else c :: unescape rest
      | _, _ => '%' :: unescape (a :: b :: rest)
  | c :: rest => c :: unescape rest
  | [] => []

/-- The segments of a path, from the last to the first, without those that stand for the place
itself or for the place above. -/
def settled (segments : List (List Char)) : List (List Char) :=
  segments.foldl
    (fun out s => if s = ['.', '.'] then out.drop 1 else if s = ['.'] then out else s :: out) []

/-- A path without segments that stand for the place itself or for the place above. -/
def normalized (cs : List Char) : List Char :=
  let (front, rest) := match cs with
    | '/' :: rest => (['/'], rest)
    | cs => ([], cs)
  let parts := Search.split (· == '/') rest
  let out := settled parts
  let out := match parts.getLast? with
    | some ['.'] | some ['.', '.'] => [] :: out
    | _ => out
  front ++ List.intercalate ['/'] out.reverse

/-- The path of a target. It takes its shortest form only in an address with an authority. -/
def path (target : String) : Except Flaw String := do
  let (scheme, cs) := splitScheme (cleaned target.toList)
  let (authority, cs) := splitAuthority cs
  let hosted ← hasAuthority scheme authority
  let path := unescape (Search.before (fun c => c == '?' || c == '#') cs)
  pure (String.ofList (if hosted then normalized path else path))

end BootstrapApproval.Target
