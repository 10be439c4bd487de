import GuardedPlan.Shell.Glyph
import GuardedPlan.Shell.Program.Line

/-!
# Programs that list files

Names in directories, paths taken apart and put together, and a search through directories by an expression over what is found.
-/

namespace GuardedPlan.Shell

namespace Session

def node? (session : Session) (path : String) : Option FileNode :=
  (session.tree.node (Bytes.toText path)).toOption

/-- A path without dots, from the root on, if all but its last name are there. -/
def resolved? (session : Session) (path : String) : Option String :=
  match session.tree.locate (Bytes.toText path) with
  | .ok location => some (Bytes.ofText ("/" ++ "/".intercalate location))
  | .error _ => none

end Session

namespace Utility

/-- The mark that a name may be given for what stands there. -/
def mark (request : Request) (session : Session) (path : String) : String :=
  if session.isDirectory path then if request.has 'F' || request.has 'p' then "/" else ""
  else if request.has 'F' then
    match session.stat path with
    | .ok (.file _ true) => "*"
    | _ => ""
  else ""

def inside (path name : String) : String :=
  if path.endsWith "/" then path ++ name else path ++ "/" ++ name

def longRow (session : Session) (path name : String) : String :=
  match session.stat path with
  | .ok .directory => "drwxr-xr-x 2 root root 4096 Jan  1 00:00 " ++ name
  | .ok (.file content isExecutable) =>
    (if isExecutable then "-rwxr-xr-x" else "-rw-r--r--") ++ " 1 root root " ++ toString content.size ++
      " Jan  1 00:00 " ++ name
  | .error _ => name

def shownNames (request : Request) (session : Session) (path : String) : List String :=
  let names := session.namesIn path
  let names := if request.has 'a' then [".", ".."] ++ names
    else if request.has 'A' then names
    else names.filter fun name => !name.startsWith "."
  if request.has 'r' then names.reverse else names

/-- The listing of a directory; what is below it comes after it when asked for, as deep as `fuel`. -/
def listing (request : Request) (session : Session) : Nat → Bool → String → List String
  | 0, _, _ => []
  | fuel + 1, titled, path =>
    let names := shownNames request session path
    let row (name : String) : String :=
      let text := name ++ mark request session (inside path name)
      (if request.has 'l' then longRow session (inside path name) text else text) ++ "\n"
    let total := if request.has 'l' then "total " ++ toString (4 * names.length) ++ "\n" else ""
    let block := (if titled then path ++ ":\n" else "") ++ total ++ String.join (names.map row)
    let below := if request.has 'R' then
        (names.filter fun name => name ≠ "." && name ≠ ".." && session.isDirectory (inside path name)).flatMap fun name =>
          listing request session fuel true (inside path name)
      else []
    block :: below

/-- Prints the names in directories, and the files that are named themselves. -/
def ls : Utility :=
  withOptions { plain := "1aAlRdFprtShinogkmCxXUcuGQNsZLHbvfq", valued := "IwT", named := [("all", 'a'),
    ("almost-all", 'A'), ("recursive", 'R'), ("directory", 'd'), ("classify", 'F'), ("reverse", 'r'), ("color", 'G')] } 2
    fun request session =>
      let paths := (if request.operands.isEmpty then ["."] else request.operands).mergeSort fun a b => decide (a ≤ b)
      let paths := if request.has 'r' then paths.reverse else paths
      let fault? (path : String) : Option FileFault :=
        if session.pathExists path then none
        else
          match session.stat path with
          | .error fault => some fault
          | .ok _ => none
      let session := paths.foldl (fun session path =>
        match fault? path with
        | some fault => session.refuse 2 ("cannot access " ++ Session.quoted path ++ ": " ++ fault.reason)
        | none => session) (session.finish 0)
      let there := paths.filter fun path => (fault? path).isNone
      let isListed (path : String) : Bool := session.isDirectory path && !request.has 'd'
      let files := there.filter fun path => !isListed path
      let directories := there.filter isListed
      let row (path : String) : String :=
        let text := path ++ mark request session path
        (if request.has 'l' then longRow session path text else text) ++ "\n"
      let titled := request.operands.length > 1 || request.has 'R'
      let blocks := (if files.isEmpty then [] else [String.join (files.map row)]) ++
        directories.flatMap (listing request session 64 titled)
      session.put ("\n".intercalate blocks)

/-! ### Paths -/

def baseName (path : String) : String :=
  let kept := (path.toList.reverse.dropWhile (· = '/')).reverse
  if kept.isEmpty then if path = "" then "" else "/"
  else String.ofList (kept.reverse.takeWhile (· ≠ '/')).reverse

def directoryName (path : String) : String :=
  let kept := path.toList.reverse.dropWhile (· = '/')
  if kept.isEmpty then if path = "" then "." else "/"
  else
    let above := kept.dropWhile (· ≠ '/')
    if above.isEmpty then "."
    else
      let above := above.dropWhile (· = '/')
      if above.isEmpty then "/" else String.ofList above.reverse

/-- Prints the last name of a path, without an ending if one is given. -/
def basename : Utility :=
  withOptions { plain := "az", valued := "s", named := [("multiple", 'a'), ("suffix", 's')], mixes := false } 1
    fun request session =>
      let shortened (ending name : String) : String :=
        if ending ≠ "" && name ≠ ending && name.endsWith ending then
          String.ofList (name.toList.take (name.length - ending.length))
        else name
      match request.operands, request.has 'a' || request.has 's' with
      | [], _ => lacking "operand" session
      | paths, true =>
        (session.finish 0).put (String.join (paths.map fun path =>
          shortened ((request.value? 's').getD "") (baseName path) ++ "\n"))
      | [path], false => (session.finish 0).put (baseName path ++ "\n")
      | [path, ending], false => (session.finish 0).put (shortened ending (baseName path) ++ "\n")
      | _ :: _ :: extra :: _, false => session.misused 1 ("extra operand " ++ Session.quoted extra)

def dirname : Utility :=
  withOptions { plain := "z" } 1 fun request session =>
    if request.operands.isEmpty then lacking "operand" session
    else (session.finish 0).put (String.join (request.operands.map fun path => directoryName path ++ "\n"))

def realpath : Utility :=
  withOptions { plain := "emsqLP", named := [("canonicalize-existing", 'e'), ("canonicalize-missing", 'm')] } 1
    fun request session =>
      if request.operands.isEmpty then lacking "operand" session
      else
        session.forEach request.operands fun path session =>
          match session.resolved? path, session.stat path with
          | some found, .ok _ => .ok (session.put (found ++ "\n"))
          | some found, .error fault =>
            let parent := (session.tree.locate (Bytes.toText path)).toOption.bind fun location =>
              session.tree.entry? location.dropLast
            if request.has 'e' || parent ≠ some .directory then .error (path ++ ": " ++ fault.reason)
            else .ok (session.put (found ++ "\n"))
          | none, .error fault => .error (path ++ ": " ++ fault.reason)
          | none, .ok _ => .error (path ++ ": " ++ FileFault.notFound.reason)

/-- Prints what a link leads to, of which there is none, or a path from the root on. -/
def readlink : Utility :=
  withOptions { plain := "femnqsv" } 1 fun request session =>
    if request.operands.isEmpty then lacking "operand" session
    else if ['f', 'e', 'm'].any request.has then
      request.operands.foldl (fun session path =>
        match session.resolved? path with
        | some found =>
          if request.has 'e' && !session.pathExists path then session.finish 1
          else session.put (found ++ if request.has 'n' then "" else "\n")
        | none => session.finish 1) (session.finish 0)
    else session.finish 1

/-- Prints the sizes of files or other facts in a format. -/
def stat : Utility :=
  withOptions { plain := "Lt", valued := "cf", named := [("format", 'c'), ("printf", 'f')] } 1 fun request session =>
    session.forEach request.operands fun path session =>
      match session.stat path with
      | .error fault => .error ("cannot statx " ++ Session.quoted path ++ ": " ++ fault.reason)
      | .ok entry =>
        let (size, kind, mode) := match entry with
          | .directory => ("4096", "directory", "755")
          | .file content isExecutable =>
            (toString content.size, if content.size = 0 then "regular empty file" else "regular file",
              if isExecutable then "755" else "644")
        let rec shown : List Char → List Char
          | '%' :: 's' :: rest => size.toList ++ shown rest
          | '%' :: 'n' :: rest => path.toList ++ shown rest
          | '%' :: 'F' :: rest => kind.toList ++ shown rest
          | '%' :: 'a' :: rest => mode.toList ++ shown rest
          | '%' :: '%' :: rest => '%' :: shown rest
          | c :: rest => c :: shown rest
          | [] => []
        .ok (session.put (String.ofList (shown ((request.value? 'c').getD "%n").toList) ++ "\n"))

end Utility

end GuardedPlan.Shell
