import DevicePanel.Url.Host

/-!
# URLs

A URL has a scheme, and then either an opaque text or a host and a path of segments.  The
parts are held as they are written: encoded, and the scheme in small letters.
-/

namespace DevicePanel

/-- The user that a URL names. -/
structure Url.UserInfo where
  name : List Char
  password : List Char
deriving Repr, DecidableEq, Inhabited

namespace Url

/-- What a URL leads to. -/
inductive Target where
  /-- A text that is not split, such as an address of mail. -/
  | opaquePath (text : List Char)
  /-- The segments of a path; each has a slash before it. -/
  | segments (parts : List (List Char))
deriving Repr, DecidableEq, Inhabited

end Url

structure Url where
  scheme : List Char
  user : Url.UserInfo
  host : Option Url.Host
  port : Option Nat
  target : Url.Target
  query : Option (List Char)
  fragment : Option (List Char)
deriving Repr, DecidableEq, Inhabited

namespace Url

/-- Schemes of which a host is always part. -/
inductive SchemeKind where
  | file
  | special
  | other
deriving Repr, DecidableEq

def schemeKind (scheme : List Char) : SchemeKind :=
  if scheme = "file".toList then .file
  else if ["http".toList, "https".toList, "ws".toList, "wss".toList, "ftp".toList].contains scheme
  then .special
  else .other

def defaultPort? (scheme : List Char) : Option Nat :=
  if scheme = "http".toList ∨ scheme = "ws".toList then some 80
  else if scheme = "https".toList ∨ scheme = "wss".toList then some 443
  else if scheme = "ftp".toList then some 21
  else none

/-- The URL can be continued by a path. -/
def canBeBase (url : Url) : Bool :=
  match url.target with
  | .opaquePath _ => false
  | .segments _ => true

/-- The user before a host, with the sign between them. -/
def UserInfo.write (user : UserInfo) : List Char :=
  if user.name.isEmpty && user.password.isEmpty then []
  else user.name ++ (if user.password.isEmpty then [] else ':' :: user.password) ++ ['@']

def Target.write : Target → List Char
  | .opaquePath text => text
  | .segments parts => parts.flatMap fun part => '/' :: part

/-- What stands between the scheme and the path. -/
def writeAuthority (url : Url) : List Char :=
  match url.host with
  | some host =>
      ['/', '/'] ++ url.user.write ++ host.write ++
        (match url.port with
         | some port => ':' :: Nat.toDigits 10 port
         | none => [])
  | none =>
      match url.target with
      | .segments ([] :: _ :: _) => ['/', '.']
      | _ => []

def write (url : Url) : List Char :=
  url.scheme ++ ':' :: (url.writeAuthority ++ url.target.write ++
    (match url.query with
     | some query => '?' :: query
     | none => []) ++
    (match url.fragment with
     | some fragment => '#' :: fragment
     | none => []))

def toText (url : Url) : String := String.ofList url.write

/-- The text of the URL without its user. -/
def withoutUser (url : Url) : Url := { url with user := ⟨[], []⟩ }

/-- The URL leads to a web server. -/
def isWeb (url : Url) : Bool := url.scheme = "http".toList ∨ url.scheme = "https".toList

end Url

end DevicePanel
