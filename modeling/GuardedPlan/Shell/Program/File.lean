import GuardedPlan.Shell.Program.Option

/-!
# Programs that change files

Making, copying, moving and removing files and directories. Each operand is dealt with in turn; one that fails is reported, and the others still count.
-/

namespace GuardedPlan.Shell

namespace Session

/-- What a program reads under an operand, where a dash is standard input. -/
def operand (session : Session) (path : String) : Except FileFault String × Session :=
  if path = "-" then
    let (bytes, session) := session.readAll
    (.ok bytes, session)
  else (session.content path, session)

/-- Does something with every operand in turn, after which the status is one if anything failed. -/
def forEach (session : Session) (operands : List String) (change : String → Session → Except String Session) : Session :=
  operands.foldl (fun session operand =>
    match change operand session with
    | .ok session => session
    | .error message => session.refuse 1 message) (session.finish 0)

/-- Puts a changed tree in place, or fails with a message in front of the fault. -/
def withTree (session : Session) (lead : String) (result : Except FileFault FileTree) : Except String Session :=
  match result with
  | .ok tree => .ok { session with tree := tree }
  | .error fault => .error (lead ++ ": " ++ fault.reason)

def quoted (text : String) : String :=
  "'" ++ text ++ "'"

end Session

namespace Utility

open Session (quoted)

def lacking (what : String) (session : Session) : Session :=
  session.misused 1 ("missing " ++ what)

def makeDirectory (tree : FileTree) (path : String) : Except FileFault FileTree :=
  match FileTree.pathFault? path with
  | some fault => .error fault
  | none =>
    match (Path.segments path).reverse.dropWhile (· = "") with
    | [] => .error .alreadyExists
    | segments => tree.makeDirectory (fun tree => tree.origin path) segments

def mkdir : Utility :=
  withOptions { plain := "pvZ", valued := "m", named := [("parents", 'p'), ("mode", 'm'), ("verbose", 'v')] } 1
    fun request session =>
      if request.operands.isEmpty then lacking "operand" session
      else
        session.forEach request.operands fun path session =>
          let name := Bytes.toText path
          let lead := "cannot create directory " ++ quoted path
          if request.has 'p' then
            match session.tree.makeDirectories name with
            | (.ok (), tree) => if path = "" then .error (lead ++ ": " ++ FileFault.notFound.reason)
              else .ok { session with tree := tree }
            | (.error fault, _) => .error (lead ++ ": " ++ fault.reason)
          else session.withTree lead (makeDirectory session.tree name)

def touch : Utility :=
  withOptions { plain := "acfhm", valued := "drt", named := [("no-create", 'c'), ("date", 'd'), ("reference", 'r')] } 1
    fun request session =>
      if request.operands.isEmpty then lacking "file operand" session
      else
        session.forEach request.operands fun path session =>
          let name := Bytes.toText path
          if session.pathExists path && !(path.endsWith "/" && session.isFile path) then .ok session
          else if request.has 'c' then .ok session
          else session.withTree ((if path.endsWith "/" then "setting times of " else "cannot touch ") ++ quoted path)
            (if path.endsWith "/" then .error .notFound else session.tree.append name .empty)

/-- The last segment of a path that is not empty. -/
def lastSegment (path : String) : String :=
  ((Path.segments path).filter (· ≠ "")).getLast?.getD path

def rm : Utility :=
  withOptions { plain := "rRfidvI", named := [("recursive", 'r'), ("force", 'f'), ("dir", 'd'), ("verbose", 'v')] } 1
    fun request session =>
      if request.operands.isEmpty then if request.has 'f' then session.finish 0 else lacking "operand" session
      else
        session.forEach request.operands fun path session =>
          let name := Bytes.toText path
          let descends := request.has 'r' || request.has 'R'
          let lead := "cannot remove " ++ quoted path
          let dropped (location : Location) (note : String) : Except String Session :=
            let session := { session with tree := session.tree.remove location }
            .ok (if request.has 'v' then session.put (note ++ "\n") else session)
          match session.tree.locate name, session.tree.node name with
          | .ok location, .ok (.file ..) => dropped location ("removed " ++ quoted path)
          | .ok location, .ok (.directory entries) =>
            if !descends && !(request.has 'd' && entries.isEmpty) then
              .error (lead ++ ": " ++ (if request.has 'd' then FileFault.directoryNotEmpty else .isDirectory).reason)
            else if [".", ".."].contains (lastSegment path) then
              .error ("refusing to remove '.' or '..' directory: skipping " ++ quoted path)
            else if location.isEmpty then .error "it is dangerous to operate recursively on '/'"
            else dropped location ("removed directory " ++ quoted path)
          | _, .error .notFound => if request.has 'f' then .ok session else .error (lead ++ ": " ++ FileFault.notFound.reason)
          | _, .error .notDirectory =>
            if request.has 'f' then .ok session else .error (lead ++ ": " ++ FileFault.notDirectory.reason)
          | _, .error fault => .error (lead ++ ": " ++ fault.reason)
          | .error fault, _ => .error (lead ++ ": " ++ fault.reason)

def removeEmpty (path : String) (session : Session) : Except String Session :=
  let name := Bytes.toText path
  let lead := "failed to remove " ++ quoted path
  match session.tree.locate name, session.tree.node name with
  | .ok location, .ok (.directory []) => .ok { session with tree := session.tree.remove location }
  | _, .ok (.directory _) => .error (lead ++ ": " ++ FileFault.directoryNotEmpty.reason)
  | _, .ok (.file ..) => .error (lead ++ ": " ++ FileFault.notDirectory.reason)
  | _, .error fault => .error (lead ++ ": " ++ fault.reason)

/-- Removes directories that hold nothing, and those above them when asked to. -/
def rmdir : Utility :=
  withOptions { plain := "pv", named := [("parents", 'p'), ("verbose", 'v'), ("ignore-fail-on-non-empty", 'q')] } 1
    fun request session =>
      if request.operands.isEmpty then lacking "operand" session
      else
        let paths := request.operands.flatMap fun path =>
          if request.has 'p' then
            let segments := Path.segments path
            ((List.range segments.length).map fun count => "/".intercalate (segments.take (segments.length - count))).filter
              (· ≠ "")
          else [path]
        session.forEach paths fun path session =>
          match removeEmpty path session with
          | .error message => if request.has 'q' then .ok session else .error message
          | done => done

/-- The path under which something put at a target is found: inside, if the target is a directory. -/
def placedAt (session : Session) (source target : String) : String :=
  if session.isDirectory target then
    (if target.endsWith "/" then target else target ++ "/") ++ lastSegment source
  else target

/-- Does something with each source and the last operand, or the one that an option names, as the target. -/
def transfer (request : Request) (session : Session) (change : String → String → Session → Except String Session) :
    Session :=
  match request.value? 't', request.operands.reverse with
  | _, [] => lacking "file operand" session
  | some target, sources => session.forEach sources.reverse fun source => change source (placedAt session source target)
  | none, [only] => session.misused 1 ("missing destination file operand after " ++ quoted only)
  | none, target :: source :: sources =>
    if !sources.isEmpty && !session.isDirectory target then
      session.refuse 1 ("target " ++ quoted target ++ ": " ++
        (if session.pathExists target then FileFault.notDirectory else FileFault.notFound).reason)
    else
      session.forEach (source :: sources).reverse fun source session =>
        change source (if request.has 'T' then target else placedAt session source target) session

/-- The nodes of two directories together, the first one's in front of the other's where both have a file. -/
def merged (tree : FileTree) (source target : Location) : FileTree :=
  match tree.root.find? source with
  | none => tree
  | some node =>
    let start := match tree.root.find? target with
      | some (.directory _) => tree
      | _ => tree.put target .empty
    (node.listing []).foldl (fun tree (place, entry) =>
      let place := target ++ place
      match entry, tree.root.find? place with
      | .file content isExecutable, _ => tree.put place (.file content isExecutable)
      | .directory, some (.directory _) => tree
      | .directory, _ => tree.put place .empty) start

def cp : Utility :=
  withOptions { plain := "rRafipdPLHnuvTx", valued := "tS", named := [("recursive", 'r'), ("archive", 'a'), ("force", 'f'),
    ("no-clobber", 'n'), ("target-directory", 't'), ("no-target-directory", 'T'), ("verbose", 'v'), ("update", 'u')] } 1
    fun request session =>
      let descends := ['r', 'R', 'a'].any request.has
      transfer request session fun source target session =>
        let shown (session : Session) : Session :=
          if request.has 'v' then session.put (quoted source ++ " -> " ++ quoted target ++ "\n") else session
        let new := Bytes.toText target
        match session.tree.locate (Bytes.toText source), session.stat source with
        | _, .error fault =>
          if Session.devices.contains source then
            (session.withTree ("cannot create regular file " ++ quoted target)
              (session.tree.write new .empty)).map shown
          else .error ("cannot stat " ++ quoted source ++ ": " ++ fault.reason)
        | .error fault, _ => .error ("cannot stat " ++ quoted source ++ ": " ++ fault.reason)
        | .ok location, .ok .directory =>
          if !descends then .error ("-r not specified; omitting directory " ++ quoted source)
          else
            match session.tree.locate new with
            | .error fault => .error ("cannot create directory " ++ quoted target ++ ": " ++ fault.reason)
            | .ok destination =>
              if location.isPrefixOf destination then
                .error ("cannot copy a directory, " ++ quoted source ++ ", into itself, " ++ quoted target)
              else if session.isFile target then
                .error ("cannot overwrite non-directory " ++ quoted target ++ " with directory " ++ quoted source)
              else if session.tree.entry? destination.dropLast ≠ some .directory then
                .error ("cannot create directory " ++ quoted target ++ ": " ++ FileFault.notFound.reason)
              else .ok (shown { session with tree := merged session.tree location destination })
        | .ok location, .ok (.file content isExecutable) =>
          if request.has 'n' && session.pathExists target then .ok session
          else if Session.devices.contains target then .ok session
          else
            let lead := (if session.isDirectory target then "cannot overwrite directory " else
              "cannot create regular file ") ++ quoted target
            if session.isDirectory target then .error (lead ++ " with non-directory " ++ quoted source)
            else
              match session.tree.locate new with
              | .error fault => .error (lead ++ ": " ++ fault.reason)
              | .ok destination =>
                if location = destination then .error (quoted source ++ " and " ++ quoted target ++ " are the same file")
                else
                  let isNew := (session.tree.entry? destination).isNone
                  (session.withTree lead (session.tree.write new content)).map fun session =>
                    shown (if isNew && isExecutable then
                      { session with tree := session.tree.put destination (.file content true) } else session)

def mv : Utility :=
  withOptions { plain := "fivnuT", valued := "tS", named := [("force", 'f'), ("no-clobber", 'n'),
    ("target-directory", 't'), ("no-target-directory", 'T'), ("verbose", 'v'), ("update", 'u')] } 1
    fun request session =>
      transfer request session fun source target session =>
        let lead := "cannot move " ++ quoted source ++ " to " ++ quoted target
        let moved (location destination : Location) (node : FileNode) : Except String Session :=
          let tree := (session.tree.remove location).put destination node
          let session := { session with tree := tree }
          .ok (if request.has 'v' then session.put ("renamed " ++ quoted source ++ " -> " ++ quoted target ++ "\n")
            else session)
        match session.tree.locate (Bytes.toText source), session.tree.node (Bytes.toText source),
            session.tree.locate (Bytes.toText target) with
        | _, .error fault, _ => .error ("cannot stat " ++ quoted source ++ ": " ++ fault.reason)
        | .error fault, _, _ => .error ("cannot stat " ++ quoted source ++ ": " ++ fault.reason)
        | _, _, .error fault => .error (lead ++ ": " ++ fault.reason)
        | .ok location, .ok node, .ok destination =>
          let there := session.tree.root.find? destination
          if location = destination then .error (quoted source ++ " and " ++ quoted target ++ " are the same file")
          else if location.isPrefixOf destination then
            .error ("cannot move " ++ quoted source ++ " to a subdirectory of itself, " ++ quoted target)
          else
            match node, there with
            | _, none =>
              if session.tree.entry? destination.dropLast ≠ some .directory then
                .error (lead ++ ": " ++ FileFault.notFound.reason)
              else
                match node, target.endsWith "/" with
                | .file .., true => .error (lead ++ ": " ++ FileFault.notDirectory.reason)
                | node, _ => moved location destination node
            | .directory entries, some (.directory []) => moved location destination (.directory entries)
            | .directory _, some (.directory _) =>
              .error (lead ++ ": " ++ FileFault.directoryNotEmpty.reason)
            | .directory _, some (.file ..) =>
              .error ("cannot overwrite non-directory " ++ quoted target ++ " with directory " ++ quoted source)
            | .file .., some (.directory _) =>
              .error ("cannot overwrite directory " ++ quoted target ++ " with non-directory " ++ quoted source)
            | .file content isExecutable, some (.file ..) =>
              if request.has 'n' then .ok session else moved location destination (.file content isExecutable)

/-- Gives a file a second name; both names hold the same from then on only until one is written. -/
def ln : Utility :=
  withOptions { plain := "sfnvTLPir", valued := "t", named := [("symbolic", 's'), ("force", 'f'),
    ("target-directory", 't'), ("no-target-directory", 'T'), ("verbose", 'v')] } 1
    fun request session =>
      let request := match request.operands with
        | [only] => { request with operands := [only, "."] }
        | _ => request
      transfer request session fun source target session =>
        let kind := if request.has 's' then "symbolic link " else "hard link "
        let lead := "failed to create " ++ kind ++ quoted target
        match session.tree.node (Bytes.toText source), session.tree.locate (Bytes.toText target) with
        | .error fault, _ =>
          if request.has 's' then .ok session
          else .error ("failed to access " ++ quoted source ++ ": " ++ fault.reason)
        | .ok (.directory _), .ok _ =>
          if request.has 's' then .ok session
          else .error (quoted source ++ ": hard link not allowed for directory")
        | .ok node, .ok destination =>
          if (session.tree.entry? destination).isSome && !request.has 'f' then
            .error (lead ++ ": " ++ FileFault.alreadyExists.reason)
          else if session.tree.entry? destination.dropLast ≠ some .directory then
            .error (lead ++ ": " ++ FileFault.notFound.reason)
          else .ok { session with tree := session.tree.put destination node }
        | _, .error fault => .error (lead ++ ": " ++ fault.reason)

/-- Whether a file may be executed after its mode changed; nothing when the mode cannot be read. -/
def executableUnder? (mode : String) (before : Bool) : Option Bool :=
  let chars := mode.toList
  if !chars.isEmpty && chars.all (fun c => '0' ≤ c && c ≤ '7') then
    some ((chars.foldl (fun n c => n * 8 + (c.toNat - '0'.toNat)) 0) &&& 0o111 ≠ 0)
  else
    (mode.splitOn ",").foldl (fun state clause => do
      let isExecutable ← state
      let chars := clause.toList.dropWhile fun c => "ugoa".toList.contains c
      match chars with
      | operator :: letters =>
        if !letters.all fun c => "rwxXstugo".toList.contains c then none
        else
          let named := letters.contains 'x'
          match operator with
          | '+' => some (isExecutable || named)
          | '-' => some (isExecutable && !named)
          | '=' => some named
          | _ => none
      | [] => none) (some before)

/-- Changes the mode of files, of which only the right to execute counts. -/
def chmod : Utility := fun arguments session =>
  let options := arguments.takeWhile fun argument => ["-R", "-v", "-f", "-c", "--recursive"].contains argument
  match arguments.drop options.length with
  | [] => lacking "operand" session
  | [mode] => session.misused 1 ("missing operand after " ++ quoted mode)
  | mode :: paths =>
    if (executableUnder? mode false).isNone then session.misused 1 ("invalid mode: " ++ quoted mode)
    else
      session.forEach paths fun path session =>
        match session.tree.locate (Bytes.toText path), session.tree.node (Bytes.toText path) with
        | .ok location, .ok (.file content before) =>
          .ok { session with
            tree := session.tree.put location (.file content ((executableUnder? mode before).getD before)) }
        | _, .error fault => .error ("cannot access " ++ quoted path ++ ": " ++ fault.reason)
        | _, _ => .ok session

def truncate : Utility :=
  withOptions { plain := "co", valued := "sr", named := [("size", 's'), ("no-create", 'c')] } 1 fun request session =>
    match request.value? 's' with
    | none => session.misused 1 "you must specify either '--size' or '--reference'"
    | some size =>
      session.forEach request.operands fun path session =>
        let before := Session.fileAt session.tree ((session.tree.locate (Bytes.toText path)).toOption.getD [])
        let wanted? : Option Nat := match size.toList with
          | '+' :: digits => (Signal.decimal? (String.ofList digits)).map (before.size + ·)
          | '-' :: digits => (Signal.decimal? (String.ofList digits)).map (before.size - ·)
          | _ => Signal.decimal? size
        match wanted? with
        | none => .error ("Invalid number: " ++ quoted size)
        | some wanted =>
          let content := before.extract 0 wanted ++ ⟨Array.replicate (wanted - before.size) 0⟩
          session.withTree ("cannot open " ++ quoted path ++ " for writing")
            (session.tree.write (Bytes.toText path) content)

end Utility

end GuardedPlan.Shell
