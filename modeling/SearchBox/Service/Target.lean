import SearchBox.Service.Authority

/- Targets of requests as they are written: a scheme, an authority, a path and parameters. Each of them may be
   empty; what stands behind a number sign is not sent. -/
namespace SearchBox

structure Target where
  scheme : Text
  authority : Text
  path : Text
  query : Text
  deriving DecidableEq, Repr

namespace Target

def isLetter (c : Char) : Bool :=
  let n := c.toNat
  (65 ≤ n && n ≤ 90) || (97 ≤ n && n ≤ 122)

def isSchemeChar (c : Char) : Bool :=
  isLetter c || Authority.isFigure c || c = '+' || c = '-' || c = '.'

def cutScheme (t : Text) : Text × Text :=
  match Text.cutAt? ':' t with
  | some (c :: scheme, rest) =>
    if isLetter c && scheme.all isSchemeChar then ((c :: scheme).map Char.toLower, rest) else ([], t)
  | _ => ([], t)

def cutAuthority : Text → Text × Text
  | '/' :: '/' :: rest =>
    let isInner (c : Char) : Bool := c ≠ '/' && c ≠ '?' && c ≠ '#'
    (rest.takeWhile isInner, rest.dropWhile isInner)
  | t => ([], t)

/-- Tabs and line ends within a target do not count, nor do controls and spaces in front of it. -/
def read (t : Text) : Except TargetFault Target := do
  let t := (t.dropWhile fun c => c.toNat ≤ 32).filter fun c => c ≠ '\t' && c ≠ '\n' && c ≠ '\r'
  let (scheme, t) := cutScheme t
  let (authority, t) := cutAuthority t
  Authority.checkBrackets authority
  let (path, query) := Authority.cut '?' (Authority.cut '#' t).1
  Authority.check authority
  return { scheme, authority, path, query }

/-- Schemes whose targets have two slashes even if they have no authority. -/
def authoritySchemes : List Text :=
  ["ftp", "http", "gopher", "nntp", "telnet", "imap", "wais", "file", "mms", "https", "shttp", "snews",
    "prospero", "rtsp", "rtspu", "rsync", "svn", "svn+ssh", "sftp", "nfs", "git", "git+ssh", "ws",
    "wss"].map String.toList

def pathText (t : Target) : Except TargetFault Text := do
  let authority ← Authority.normal t.authority
  let hasSlashes :=
    authority ≠ [] || (authoritySchemes.contains t.scheme && !"//".toList.isPrefixOf t.path)
  let path :=
    if hasSlashes then
      "//".toList ++ authority ++ if t.path = [] || t.path.head? = some '/' then t.path else '/' :: t.path
    else t.path
  return if t.scheme = [] then path else t.scheme ++ ':' :: path

end Target
end SearchBox
