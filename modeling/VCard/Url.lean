import VCard.Text.Case
import VCard.Url.Host
/-! Resolving a reference against a base URL (RFC 3986 §5.2, as common URL
libraries do it).

A URL is split into scheme, authority, path, parameters (`;…` after the last
segment, for the schemes that have them), query and fragment. A reference with
a scheme of its own that differs from the base's, or whose scheme does not
resolve relative references, stands as it is. A reference with an authority
keeps its own path; one without a path takes the base's path and parameters,
and its query unless it has one. Otherwise the paths are merged: a path from
the root replaces the base's, a relative one is put after the base's directory,
empty segments in the middle are dropped, and `.` and `..` segments are
resolved, with a `..` above the root ignored.

Resolving fails when the base or the reference has an authority that
`authorityFault` refuses (the base is looked at first). -/
namespace VCard.Url

/-- Schemes whose relative references resolve against a base. -/
def relativeSchemes : List String :=
  ["", "ftp", "http", "gopher", "nntp", "imap", "wais", "file", "https", "shttp", "mms", "prospero",
   "rtsp", "rtsps", "rtspu", "sftp", "svn", "svn+ssh", "ws", "wss"]

/-- Schemes with an authority part. -/
def authoritySchemes : List String :=
  ["", "ftp", "http", "gopher", "nntp", "telnet", "imap", "wais", "file", "mms", "https", "shttp",
   "snews", "prospero", "rtsp", "rtsps", "rtspu", "rsync", "svn", "svn+ssh", "sftp", "nfs", "git",
   "git+ssh", "ws", "wss", "itms-services"]

/-- Schemes whose last path segment may carry parameters. -/
def parameterSchemes : List String :=
  ["", "ftp", "hdl", "prospero", "http", "imap", "https", "shttp", "rtsp", "rtsps", "rtspu", "sip",
   "sips", "mms", "sftp", "tel"]

/-- The parts of a URL. -/
structure Parts where
  scheme : String
  authority : String := ""
  path : String := ""
  params : String := ""
  query : String := ""
  fragment : String := ""
  deriving DecidableEq, Repr

def isSchemeChar (c : Char) : Bool :=
  ('a' ≤ c && c ≤ 'z') || ('A' ≤ c && c ≤ 'Z') || c.isDigit || c == '+' || c == '-' || c == '.'

/-- Control characters and the space, dropped from the front of a URL. -/
def isControlOrSpace (c : Char) : Bool := c.toNat ≤ 32

/-- Cuts a text at the first occurrence of a character. -/
def splitAt (c : Char) (cs : List Char) : Option (List Char × List Char) :=
  (cs.findIdx? (· == c)).map fun i => (cs.take i, cs.drop (i + 1))

/-- Splits a URL into its parts, the scheme defaulting to `scheme`. -/
def split (url : String) (scheme : String) : Parts :=
  let cs := (url.toList.dropWhile isControlOrSpace).filter fun c => c != '\t' && c != '\r' && c != '\n'
  let defaultScheme := String.ofList ((((scheme.toList.dropWhile isControlOrSpace).reverse.dropWhile
    isControlOrSpace).reverse).filter fun c => c != '\t' && c != '\r' && c != '\n')
  let (scheme, rest) := match cs.findIdx? (· == ':') with
    | some i =>
      match cs.head? with
      | some c =>
        if i > 0 && c.toNat < 128 && c.isAlpha && (cs.take i).all isSchemeChar then
          (String.ofList (Text.lowerChars (cs.take i)), cs.drop (i + 1))
        else (defaultScheme, cs)
      | none => (defaultScheme, cs)
    | none => (defaultScheme, cs)
  let (authority, rest) :=
    if rest.take 2 == ['/', '/'] then
      let body := rest.drop 2
      let n := (body.findIdx? fun c => c == '/' || c == '?' || c == '#').getD body.length
      (String.ofList (body.take n), body.drop n)
    else ("", rest)
  let (rest, fragment) := match splitAt '#' rest with
    | some (a, b) => (a, String.ofList b)
    | none => (rest, "")
  let (path, query) := match splitAt '?' rest with
    | some (a, b) => (a, String.ofList b)
    | none => (rest, "")
  let (path, params) :=
    if parameterSchemes.contains scheme && path.contains ';' then
      let lastSlash := match (path.reverse.findIdx? (· == '/')) with
        | some j => some (path.length - 1 - j)
        | none => none
      match lastSlash with
      | some s =>
        match ((path.drop s).findIdx? (· == ';')) with
        | some k => (path.take (s + k), String.ofList (path.drop (s + k + 1)))
        | none => (path, "")
      | none =>
        match splitAt ';' path with
        | some (a, b) => (a, String.ofList b)
        | none => (path, "")
    else (path, "")
  { scheme, authority, path := String.ofList path, params, query, fragment }

/-- Splits a URL, refusing an authority `authorityFault` refuses. -/
def splitChecked (url scheme : String) : Except String Parts :=
  let p := split url scheme
  match authorityFault p.authority with
  | some why => .error why
  | none => .ok p

/-- Puts the parts of a URL together again. The authority, introduced by `//`,
is written when it is not empty, when the scheme has one, and when the path
itself starts with `//` (so that the path does not read as an authority). -/
def unsplit (p : Parts) : String :=
  let path := if p.params.isEmpty then p.path else p.path ++ ";" ++ p.params
  let path :=
    if !p.authority.isEmpty || (!p.scheme.isEmpty && authoritySchemes.contains p.scheme) ||
        path.toList.take 2 == ['/', '/'] then
      "//" ++ p.authority ++ (if !path.isEmpty && path.toList.head? != some '/' then "/" ++ path else path)
    else path
  let withScheme := if p.scheme.isEmpty then path else p.scheme ++ ":" ++ path
  let withQuery := if p.query.isEmpty then withScheme else withScheme ++ "?" ++ p.query
  if p.fragment.isEmpty then withQuery else withQuery ++ "#" ++ p.fragment

/-- Drops the empty segments between the first and the last. -/
def dropInnerEmpty (segs : List String) : List String :=
  match segs with
  | [] => []
  | [s] => [s]
  | first :: rest =>
    let inner := rest.dropLast.filter (!·.isEmpty)
    first :: inner ++ (match rest.getLast? with
      | some l => [l]
      | none => [])

/-- Resolves `.` and `..` segments. -/
def resolveDots (segs : List String) : List String :=
  let out := segs.foldl (fun acc s =>
    if s == ".." then acc.dropLast else if s == "." then acc else acc ++ [s]) []
  match segs.getLast? with
  | some "." | some ".." => out ++ [""]
  | _ => out

/-- Resolves a reference against a base URL. -/
def join (base url : String) : Except String String :=
  if base.isEmpty then .ok url
  else if url.isEmpty then .ok base
  else do
    let b ← splitChecked base ""
    let u ← splitChecked url b.scheme
    if u.scheme != b.scheme || !relativeSchemes.contains u.scheme then return url
    if authoritySchemes.contains u.scheme && !u.authority.isEmpty then return unsplit u
    let authority := if authoritySchemes.contains u.scheme then b.authority else u.authority
    if u.path.isEmpty && u.params.isEmpty then
      return unsplit { u with authority, path := b.path, params := b.params,
                              query := if u.query.isEmpty then b.query else u.query }
    let baseParts := b.path.splitOn "/"
    let baseParts := if baseParts.getLast? != some "" then baseParts.dropLast else baseParts
    let segments :=
      if u.path.toList.head? == some '/' then u.path.splitOn "/"
      else dropInnerEmpty (baseParts ++ u.path.splitOn "/")
    let resolved := String.intercalate "/" (resolveDots segments)
    return unsplit { u with authority, path := if resolved.isEmpty then "/" else resolved }

end VCard.Url
