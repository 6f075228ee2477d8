import DevicePanel.Url

/-!
# Reading URLs

Blanks and control characters around a text and line breaks within it do not count.  A scheme
comes first; what follows depends on its kind.  A web address has a host even where slashes
before it are missing or doubled, and a backslash in it counts as a slash.
-/

namespace DevicePanel.Url

/-- Tabs and line breaks are passed over wherever they stand. -/
def isPassedOver (c : Char) : Bool := c = '\t' || c = '\n' || c = '\r'

def trimmed (text : List Char) : List Char :=
  let isOuter (c : Char) : Bool := c.toNat ≤ 0x20
  (((text.dropWhile isOuter).reverse.dropWhile isOuter).reverse).filter fun c => !isPassedOver c

/-- Cut a scheme off; it begins with a letter and ends at a colon. -/
def cutScheme? (text : List Char) : Option (List Char × List Char) :=
  let isPart (c : Char) : Bool := c.isAlphanum || c == '+' || c == '-' || c == '.'
  let scheme := text.takeWhile isPart
  match scheme, text.dropWhile isPart with
  | first :: _, ':' :: rest => if first.isAlpha then some (scheme.map Char.toLower, rest) else none
  | _, _ => none

/-- A slash, and in a web address a backslash too. -/
def isSlash (kind : SchemeKind) (c : Char) : Bool := c == '/' || (kind != .other && c == '\\')

/-- The end of what stands before a path. -/
def endsAuthority (kind : SchemeKind) (c : Char) : Bool := isSlash kind c || c == '?' || c == '#'

/-- Cut a text before the first character of a set. -/
def cutBefore (isEnd : Char → Bool) (text : List Char) : List Char × List Char :=
  (text.takeWhile fun c => !isEnd c, text.dropWhile fun c => !isEnd c)

/-- Cut a text at the last `@`. -/
def cutLastAt (text : List Char) : Option (List Char × List Char) :=
  let reversed := text.reverse
  match reversed.dropWhile (· != '@') with
  | [] => none
  | _ :: before => some (before.reverse, (reversed.takeWhile (· != '@')).reverse)

/-- The user before a host. -/
def readUser (text : List Char) : UserInfo :=
  let name := text.takeWhile (· != ':')
  let password := (text.dropWhile (· != ':')).drop 1
  ⟨Percent.encode Percent.inUserInfo name, Percent.encode Percent.inUserInfo password⟩

/-- Cut a host before its port; a colon between brackets belongs to the host. -/
def cutHost (inBrackets : Bool) : List Char → List Char × List Char
  | [] => ([], [])
  | c :: rest =>
      if c = ':' ∧ ¬ inBrackets then ([], c :: rest)
      else
        let inside := if c = '[' then true else if c = ']' then false else inBrackets
        let (host, port) := cutHost inside rest
        (c :: host, port)

/-- Read a port; the one that the scheme stands for is left out. -/
def readPort (scheme : List Char) (text : List Char) : Except Fault (Option Nat) :=
  if !text.all Char.isDigit then .error .badPort
  else if text.isEmpty then .ok none
  else
    let port := text.foldl (fun value c => value * 10 + (c.toNat - '0'.toNat)) 0
    if 65535 < port then .error .badPort
    else if defaultPort? scheme = some port then .ok none
    else .ok (some port)

/-- The letters of a segment that stand for `.` may be encoded. -/
def foldDots : List Char → List Char
  | '%' :: '2' :: 'e' :: rest => '.' :: foldDots rest
  | '%' :: '2' :: 'E' :: rest => '.' :: foldDots rest
  | c :: rest => c :: foldDots rest
  | [] => []

/-- Add a segment to the segments of a path: `.` adds nothing and `..` takes the last one
away; where nothing follows, an empty segment stands in their place. -/
def addSegment (parts : List (List Char)) (segment : List Char) (isLast : Bool) :
    List (List Char) :=
  let dots := foldDots segment
  let ending : List (List Char) := if isLast then [[]] else []
  if dots = ['.', '.'] then parts.dropLast ++ ending
  else if dots = ['.'] then parts ++ ending
  else parts ++ [segment]

/-- The segments of a path from its pieces between slashes. -/
def joinSegments (parts : List (List Char)) : List (List Char) → List (List Char)
  | [] => parts
  | [last] => addSegment parts last true
  | piece :: pieces => joinSegments (addSegment parts piece false) pieces

/-- Leave out the empty segments that a path of a file begins with. -/
def dropLeading (parts : List (List Char)) : List (List Char) :=
  match parts.dropWhile List.isEmpty with
  | [] => [[]]
  | kept => kept

/-- The pieces of a text between slashes. -/
def pieces (kind : SchemeKind) (text : List Char) : List (List Char) :=
  splitAt '/' (text.map fun c => if isSlash kind c then '/' else c)

/-- The segments of a path without its first slash. -/
def readSegments (kind : SchemeKind) (path : List Char) : List (List Char) :=
  let parts := joinSegments []
    ((pieces kind path).map (Percent.encode Percent.inPath))
  if kind = .file then dropLeading parts else parts

def readEnding (kind : SchemeKind) (text : List Char) :
    Option (List Char) × Option (List Char) :=
  let (before, fragment) := cutBefore (· == '#') text
  let inQuery := if kind = .other then Percent.inQuery else Percent.inSpecialQuery
  let query :=
    match before with
    | '?' :: query => some (Percent.encode inQuery query)
    | _ => none
  (query, (fragment.head?.map fun _ => Percent.encode Percent.inFragment (fragment.drop 1)))

/-- Read what stands between two slashes and the path. -/
def readAuthority (scheme : List Char) (kind : SchemeKind) (authority : List Char) :
    Except Fault (UserInfo × Host × Option Nat) := do
  let (user, rest) :=
    match cutLastAt authority with
    | some (user, rest) => (readUser user, rest)
    | none => (⟨[], []⟩, authority)
  let namesUser := (cutLastAt authority).isSome
  let (hostText, portText) := cutHost false rest
  if hostText.isEmpty && (kind != .other || !portText.isEmpty ||
      (namesUser && rest.isEmpty)) then
    throw .emptyHost
  let host ← if kind = .other then Host.readOpaque hostText else Host.readSpecial hostText
  let port ← readPort scheme (portText.drop 1)
  pure (user, host, port)

def readFile (scheme rest : List Char) : Except Fault Url := do
  let kind := SchemeKind.file
  let (hostText, after) :=
    match rest with
    | a :: b :: more =>
        if isSlash kind a && isSlash kind b then cutBefore (endsAuthority kind) more
        else ([], rest)
    | _ => ([], rest)
  let host ← if hostText.isEmpty then pure (Host.domain []) else Host.readSpecial hostText
  let host := if host = .domain "localhost".toList then .domain [] else host
  let (path, ending) := cutBefore (fun c => c == '?' || c == '#') after
  let (query, fragment) := readEnding kind ending
  let parts := readSegments kind (path.dropWhile (isSlash kind))
  pure ⟨scheme, ⟨[], []⟩, some host, none, .segments parts, query, fragment⟩

/-- Read a URL after the slashes before its host. -/
def readHierarchical (scheme : List Char) (kind : SchemeKind) (rest : List Char) :
    Except Fault Url := do
  let (authority, after) := cutBefore (endsAuthority kind) rest
  let (user, host, port) ← readAuthority scheme kind authority
  let (path, ending) := cutBefore (fun c => c == '?' || c == '#') after
  let (query, fragment) := readEnding kind ending
  let parts :=
    if kind = .other && path.isEmpty then [] else readSegments kind (path.drop 1)
  pure ⟨scheme, user, some host, port, .segments parts, query, fragment⟩

/-- Read a URL of another scheme without a host. -/
def readPlain (scheme rest : List Char) : Url :=
  let (path, ending) := cutBefore (fun c => c == '?' || c == '#') rest
  let (query, fragment) := readEnding .other ending
  let target :=
    match path with
    | '/' :: path => Target.segments (readSegments .other path)
    | path => .opaquePath (Percent.encode Percent.isControl path)
  ⟨scheme, ⟨[], []⟩, none, none, target, query, fragment⟩

def read (text : List Char) : Except Fault Url :=
  match cutScheme? (trimmed text) with
  | none => .error .relative
  | some (scheme, rest) =>
      match schemeKind scheme with
      | .file => readFile scheme rest
      | .special => readHierarchical scheme .special (rest.dropWhile (isSlash .special))
      | .other =>
          match rest with
          | '/' :: '/' :: rest => readHierarchical scheme .other rest
          | rest => .ok (readPlain scheme rest)

def ofText (text : String) : Except Fault Url := read text.toList

/-! ## Adding to a path -/

/-- Add one segment; its slashes and percent signs are encoded.  The segments `.` and `..` are
not added, and tabs and line breaks are left out. -/
def push (segment : List Char) (url : Url) : Url :=
  match url.target with
  | .opaquePath _ => url
  | .segments parts =>
      if segment = ['.'] ∨ segment = ['.', '.'] then url
      else
        let kind := schemeKind url.scheme
        let encoded := Percent.encode
          (if kind = .other then Percent.inSegment else Percent.inSpecialSegment)
          (segment.filter fun c => !isPassedOver c)
        let added := addSegment (if parts = [[]] then [] else parts) encoded true
        { url with target := .segments (if kind = .file then dropLeading added else added) }

/-- Take the last segment away if it is empty and not the only one. -/
def popEmpty (url : Url) : Url :=
  match url.target with
  | .opaquePath _ => url
  | .segments parts =>
      if 1 < parts.length ∧ parts.getLast? = some [] then
        { url with target := .segments parts.dropLast }
      else url

end DevicePanel.Url
