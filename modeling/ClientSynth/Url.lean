import ClientSynth.Url.Host

/-! # Addresses

Absolute addresses, as a base address of clients is given.  Reading brings an
address into its normal form: the scheme and a domain in lower case, the default
port left out, dots in the path resolved, and what may not stand in a part
escaped. -/
namespace ClientSynth

/-- An absolute address in normal form. -/
structure Url where
  scheme : String
  /-- User, host and port, without the slashes in front. -/
  authority : Option String
  /-- The path, with its slash in front if there is one. -/
  path : String
  query : Option String
  fragment : Option String
  deriving Repr, DecidableEq

namespace Url

/-- An optional part with its mark in front. -/
def marked (mark : String) (part : Option String) : String :=
  (part.map (fun s => mark ++ s)).getD ""

/-- The text of an address. -/
def text (u : Url) : String :=
  u.scheme ++ ":" ++ marked "//" u.authority ++ u.path ++ marked "?" u.query ++
    marked "#" u.fragment

/-- The schemes with rules of their own, with their default ports. -/
def defaultPorts : List (String × Option Nat) :=
  [("http", some 80), ("https", some 443), ("ws", some 80), ("wss", some 443), ("ftp", some 21),
    ("file", none)]

/-- Whether a scheme has rules of its own. -/
def isSpecial (scheme : String) : Bool := (defaultPorts.lookup scheme).isSome

/-- Control characters and blanks around an address are ignored. -/
def isPadding (c : Char) : Bool := decide (c.toNat ≤ 0x20)

/-- Tabs and line breaks are ignored everywhere. -/
def isIgnored (c : Char) : Bool := c == '\t' || c == '\n' || c == '\r'

/-- The scheme in front of a colon, in lower case, and what follows. -/
def splitScheme (cs : List Char) : Option (String × List Char) :=
  let name := cs.takeWhile (fun c => c.isAlphanum || c == '+' || c == '-' || c == '.')
  match name, cs.drop name.length with
  | first :: _, ':' :: rest =>
    if first.isAlpha then some (String.ofList (name.map Char.toLower), rest) else none
  | _, _ => none

/-- The characters before `mark`, and those behind it if it occurs. -/
def cutAt (mark : Char) (cs : List Char) : List Char × Option (List Char) :=
  let before := cs.takeWhile (· != mark)
  (before, if before.length < cs.length then some (cs.drop (before.length + 1)) else none)

/-- Whether a character ends a segment of a path. -/
def isSlash (special : Bool) (c : Char) : Bool := c == '/' || (special && c == '\\')

/-- A segment with its escaped dots resolved, in lower case. -/
def plainDots : List Char → List Char
  | '%' :: '2' :: 'e' :: rest | '%' :: '2' :: 'E' :: rest => '.' :: plainDots rest
  | c :: rest => c :: plainDots rest
  | [] => []

/-- The segments of a path with dots resolved; `done` holds those so far,
backwards. -/
def resolveDots : List (List Char) → List (List Char) → List (List Char)
  | done, [] => done.reverse
  | done, segment :: rest =>
    let dots := plainDots segment
    if dots == ['.', '.'] then
      resolveDots (if rest.isEmpty then [] :: done.drop 1 else done.drop 1) rest
    else if dots == ['.'] then
      resolveDots (if rest.isEmpty then [] :: done else done) rest
    else resolveDots (segment :: done) rest

/-- The normal form of a path, given without its slash in front. -/
def normalPath (special : Bool) (cs : List Char) : List Char :=
  let segments := resolveDots [] (Text.splitWhere (isSlash special) cs)
  '/' :: List.intercalate ['/'] (segments.map (encode pathSet))

/-- The user part of an authority and the rest behind its last at sign. -/
def splitUser (cs : List Char) : Option (List Char) × List Char :=
  if cs.contains '@' then
    let behind := Text.afterLast (· == '@') cs
    (some (cs.take (cs.length - behind.length - 1)), behind)
  else (none, cs)

/-- User name and password as they are written back. -/
def writeUser : Option (List Char) → List Char
  | none => []
  | some cs =>
    let (name, password) := cutAt ':' cs
    let written := encode userSet name ++
      (match password with
        | none | some [] => []
        | some p => ':' :: encode userSet p)
    if written.isEmpty then [] else written ++ ['@']

/-- The host and the text of the port behind it. -/
def splitPort (cs : List Char) : List Char × Option (List Char) :=
  match cs with
  | '[' :: _ =>
    let host := cs.takeWhile (· != ']')
    let rest := cs.drop (host.length + 1)
    (cs.take (host.length + 1), match rest with
      | ':' :: port => some port
      | [] => none
      | other => some other)
  | _ => cutAt ':' cs

/-- The port as it is written back: nothing for the default one. -/
def writePort (scheme : String) : Option (List Char) → Option (List Char)
  | none | some [] => some []
  | some digits =>
    match Numeral.natural? 10 digits with
    | none => none
    | some port =>
      if 65535 < port then none
      else if (defaultPorts.lookup scheme).getD none = some port then some []
      else some (':' :: (toString port).toList)

/-- An authority as it is written back. -/
def authority? (scheme : String) (cs : List Char) : Option String :=
  let special := isSpecial scheme
  let (user, address) := splitUser cs
  let (host, port) := splitPort address
  if host.isEmpty && (special || user.isSome || port.isSome) then none
  else do
    let host ← if host.isEmpty then some [] else host? special host
    let port ← writePort scheme port
    return String.ofList (writeUser user ++ host ++ port)

/-- Scheme, authority and path of an address without query and fragment. -/
def front? (scheme : String) (cs : List Char) : Option Url :=
  let special := isSpecial scheme
  let isEnd (c : Char) : Bool := isSlash special c
  let make (authority : Option String) (path : List Char) : Url :=
    ⟨scheme, authority, String.ofList path, none, none⟩
  if scheme = "file" then
    let slashes := cs.takeWhile isEnd
    if slashes.length = 2 then
      let rest := cs.drop 2
      let host := rest.takeWhile (fun c => !isEnd c)
      do
        let written ← if host.isEmpty then some [] else host? true host
        let authority := String.ofList written
        return make (some (if authority = "localhost" then "" else authority))
          (normalPath true (rest.drop (host.length + 1)))
    else some (make (some "") (normalPath true (cs.drop (min slashes.length 3))))
  else if special then
    let rest := cs.dropWhile isEnd
    let authority := rest.takeWhile (fun c => !isEnd c)
    (authority? scheme authority).map (fun a =>
      make (some a) (normalPath true (rest.drop (authority.length + 1))))
  else
    match cs with
    | '/' :: '/' :: rest =>
      let authority := rest.takeWhile (fun c => !isEnd c)
      (authority? scheme authority).map (fun a =>
        make (some a) (match rest.drop authority.length with
          | [] => []
          | _ :: path => normalPath false path))
    | '/' :: path => some (make none (normalPath false path))
    | _ => some (make none (encode [] cs))

/-- The address that a text stands for. -/
def parse (s : String) : Option Url := do
  let cs := (Text.trim isPadding s.toList).filter (fun c => !isIgnored c)
  let (scheme, rest) ← splitScheme cs
  let (rest, fragment) := cutAt '#' rest
  let (rest, query) := cutAt '?' rest
  let u ← front? scheme rest
  return { u with
    query := query.map (fun q => String.ofList (encode (querySet (isSpecial scheme)) q))
    fragment := fragment.map (fun f => String.ofList (encode fragmentSet f)) }

end Url
end ClientSynth
