import SearchBox.Fault
import SearchBox.Settings.Environment

/- Locations of files: a root, which may be missing, and the names on the way. -/
namespace SearchBox

structure Location where
  root : Text
  parts : List Text
  deriving DecidableEq, Repr

namespace Location

/-- Two slashes in front are a root of their own kind; more of them are the same as one. -/
def rootOf : Text → Text
  | '/' :: '/' :: '/' :: _ => ['/']
  | '/' :: '/' :: _ => ['/', '/']
  | '/' :: _ => ['/']
  | _ => []

def ofText (t : Text) : Location :=
  { root := rootOf t, parts := (Text.splitAt '/' t).filter fun part => part ≠ [] ∧ part ≠ ['.'] }

def shown (l : Location) : Text :=
  if l.root = [] ∧ l.parts = [] then ['.'] else l.root ++ Text.join ['/'] l.parts

def append (l inner : Location) : Location :=
  if inner.root = [] then { l with parts := l.parts ++ inner.parts } else inner

/-- Names with each pair of points taking back the name in front of it; a root has nothing above it. -/
def resolvedParts (isRooted : Bool) (before : List Text) : List Text → List Text
  | [] => before.reverse
  | part :: rest =>
    if part ≠ "..".toList then resolvedParts isRooted (part :: before) rest
    else match before with
      | [] => resolvedParts isRooted (if isRooted then [] else [part]) rest
      | last :: others =>
        resolvedParts isRooted (if last = "..".toList then part :: before else others) rest

def resolved (l : Location) : Location := { l with parts := resolvedParts (l.root ≠ []) [] l.parts }

def standardDirectories : List Text :=
  ["", "bin", "boot", "dev", "dev/shm", "etc", "home", "lib", "media", "mnt", "opt", "root", "run", "sbin",
    "srv", "tmp", "usr", "usr/bin", "usr/lib", "usr/local", "usr/sbin", "var", "var/lib", "var/log",
    "var/tmp"].map String.toList

def isStandardDirectory (l : Location) : Bool :=
  l.root ≠ [] && standardDirectories.contains (Text.join ['/'] l.parts)

def dropSlashes (t : Text) : Text := (t.reverse.dropWhile (· = '/')).reverse

def accounts : Assoc Text :=
  [("root", "/root"), ("daemon", "/usr/sbin"), ("bin", "/bin"), ("sys", "/dev"), ("sync", "/bin"),
    ("games", "/usr/games"), ("man", "/var/cache/man"), ("lp", "/var/spool/lpd"), ("mail", "/var/mail"),
    ("news", "/var/spool/news"), ("uucp", "/var/spool/uucp"), ("proxy", "/bin"), ("www-data", "/var/www"),
    ("backup", "/var/backups"), ("list", "/var/list"), ("irc", "/run/ircd"), ("_apt", "/nonexistent"),
    ("nobody", "/nonexistent")].map fun (name, home) => (name.toList, home.toList)

/-- Home directories of users by name, with the one of the current user under no name. -/
def homeOf (env : Environment) (user : Text) : Option Text :=
  if user = [] then
    match env.find? "HOME".toList with
    | some home => some home
    | none => some "/root".toList
  else accounts.find? user

def expandHome (env : Environment) (l : Location) : Except Fault Location :=
  match l.root, l.parts with
  | [], ('~' :: user) :: rest =>
    match homeOf env user with
    | none => .error .noHomeDirectory
    | some home =>
      let home := if dropSlashes home = [] then ['/'] else dropSlashes home
      if home.head? = some '~' then .error .noHomeDirectory
      else .ok ((ofText home).append { root := [], parts := rest })
  | _, _ => .ok l

end Location
end SearchBox
