import ApiStubs.Decimal.Literal
import ApiStubs.Text.Hex
import ApiStubs.Text.Split

/- The path of a URL. A scheme before a colon and an authority after two slashes are taken off in front,
   a fragment, a query and the parameters of the last segment behind. A URL is refused when the
   brackets of its authority do not match or hold no address, and when a character of the authority
   stands for one of the marks that divide a URL. -/

set_option autoImplicit false

namespace ApiStubs.Url

open ApiStubs.Decimal ApiStubs.Text

def isSchemeChar (c : Char) : Bool :=
  c.isAlphanum || c == '+' || c == '-' || c == '.'

def startsScheme : List Char → Bool
  | c :: _ => c.isAlpha
  | [] => false

def splitScheme (cs : List Char) : List Char × List Char :=
  let head := cs.takeWhile (· != ':')
  match cs.dropWhile (· != ':') with
  | _ :: rest =>
      if startsScheme head && head.all isSchemeChar then (head.map Char.toLower, rest) else ([], cs)
  | [] => ([], cs)

def endsAuthority (c : Char) : Bool :=
  c == '/' || c == '?' || c == '#'

def splitAuthority : List Char → List Char × List Char
  | '/' :: '/' :: rest => (rest.takeWhile (!endsAuthority ·), rest.dropWhile (!endsAuthority ·))
  | cs => ([], cs)

def before (mark : Char) (cs : List Char) : List Char :=
  cs.takeWhile (· != mark)

def markLookalikes : List Nat :=
  [0x2047, 0x2048, 0x2049, 0x2100, 0x2101, 0x2105, 0x2106, 0x2A74, 0xFE13, 0xFE16, 0xFE55, 0xFE56,
   0xFE5F, 0xFE6B, 0xFF03, 0xFF0F, 0xFF1A, 0xFF1F, 0xFF20]

def isOctet (cs : List Char) : Bool :=
  match cs with
  | [] => false
  | c :: rest =>
      cs.all Char.isDigit && cs.length ≤ 3 && (c != '0' || rest.isEmpty) &&
        cs.foldl (fun acc d => acc * 10 + (d.toNat - 0x30)) 0 ≤ 255

def isDotted (cs : List Char) : Bool :=
  let parts := splitOn '.' cs
  parts.length == 4 && parts.all isOctet

def isGroup (cs : List Char) : Bool :=
  !cs.isEmpty && cs.length ≤ 4 && cs.all fun c => (hexDigit? c).isSome

def groupsOf (cs : List Char) : Option (List (List Char)) :=
  let parts := splitOn ':' cs
  match parts.reverse with
  | last :: rest =>
      if parts.length < 3 then none
      else if last.contains '.' then
        if isDotted last then some (rest.reverse ++ [['0'], ['0']]) else none
      else some parts
  | [] => none

-- Places of empty groups other than the first and the last.
def gaps (groups : List (List Char)) : List Nat :=
  (List.range groups.length).filter fun i =>
    0 < i && i + 1 < groups.length && (groups.getD i ['0']).isEmpty

def areGroups (groups : List (List Char)) : Bool :=
  let startsEmpty := (groups.headD []).isEmpty
  let endsEmpty := (groups.getLastD []).isEmpty
  groups.length ≤ 9 &&
    match gaps groups with
    | [] => groups.length == 8 && groups.all isGroup
    | [gap] =>
        let high := if startsEmpty then gap - 1 else gap
        let rest := groups.length - gap - 1
        let low := if endsEmpty then rest - 1 else rest
        (!startsEmpty || high == 0) && (!endsEmpty || low == 0) && high + low < 8 &&
          (groups.take high).all isGroup && (groups.drop (groups.length - low)).all isGroup
    | _ => false

def isColonAddress (cs : List Char) : Bool :=
  let zone := cs.dropWhile (· != '%')
  (match zone with
    | [] => true
    | _ :: name => !name.isEmpty && !name.contains '%') &&
    match groupsOf (before '%' cs) with
    | some groups => areGroups groups
    | none => false

-- An address of a future version: `v`, its number, a point and anything.
def isFutureAddress (cs : List Char) : Bool :=
  let digits := (cs.drop 1).takeWhile fun c => (hexDigit? c).isSome
  match cs.drop (digits.length + 1) with
  | '.' :: rest => !digits.isEmpty && !rest.isEmpty
  | _ => false

def isBracketedHost (cs : List Char) : Bool :=
  match cs with
  | 'v' :: _ => isFutureAddress cs
  | _ => isColonAddress cs

def bracketsHold (authority : List Char) : Bool :=
  let opens := authority.contains '['
  let closes := authority.contains ']'
  opens == closes &&
    (!opens || isBracketedHost (before ']' ((authority.dropWhile (· != '[')).drop 1)))

def isAuthority (authority : List Char) : Bool :=
  bracketsHold authority && authority.all fun c => !markLookalikes.contains c.toNat

-- Schemes whose last segment may have parameters; the missing scheme is one of them.
def parameterSchemes : List String :=
  ["", "ftp", "hdl", "prospero", "http", "imap", "https", "shttp", "rtsp", "rtsps", "rtspu", "sip",
   "sips", "mms", "sftp", "tel"]

def dropParameters (path : List Char) : List Char :=
  let last := path.reverse.takeWhile (· != '/')
  path.take (path.length - last.length) ++ before ';' last.reverse

def isControlOrBlank (c : Char) : Bool :=
  c.toNat ≤ 0x20

def isLineControl (c : Char) : Bool :=
  c == '\t' || c == '\r' || c == '\n'

-- The path of a URL, or `none` when it is refused.
def path? (url : String) : Option String :=
  let cs := (url.toList.dropWhile isControlOrBlank).filter (!isLineControl ·)
  let (scheme, rest) := splitScheme cs
  let (authority, rest) := splitAuthority rest
  if isAuthority authority then
    let path := before '?' (before '#' rest)
    some (String.ofList
      (if parameterSchemes.contains (String.ofList scheme) then dropParameters path else path))
  else none

end ApiStubs.Url
