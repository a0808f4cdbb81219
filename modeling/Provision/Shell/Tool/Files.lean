import Provision.Shell.Desk
import Provision.Text.Decimal

set_option autoImplicit false

namespace Provision.Shell.Tool

def goal (d : Desk) (source target : String) : Path :=
  match d.disk.inspect d.cwd target with
  | .ok .dir => Path.join target ⟨((Path.ofString source).fileName?).getD []⟩
  | _ => target

def lying? (d : Desk) (p : Path) : Option (Place × Node) :=
  match d.disk.holder d.cwd p with
  | .ok (dir, .name n _) => (d.disk.get? (n :: dir)).map fun node => (n :: dir, node)
  | .ok (dir, .dots) =>
    match d.disk.find d.cwd p with
    | .ok r => some r
    | .error _ => some (dir, .dir)
  | .error _ => none

def copied (d : Desk) : Node → Nat × ByteArray
  | .file _ mode data => (d.modeFor (mode &&& 0o777), data)
  | _ => (0o755, ByteArray.empty)

def copyBelow (d : Desk) (source target : Place) : Disk :=
  (d.disk.below source).foldl (fun disk (names, node) =>
    let place := names.reverse ++ target
    match node with
    | .file _ _ _ => disk.addFile place (copied d node).1 (copied d node).2
    | n => disk.put place n) (d.disk.put target .dir)

def copyOne (deep keepLinks : Bool) (source : String) (goal : Path) (d : Desk) : Except String Desk :=
  let uncreated (e : Fault) : String :=
    let e := if goal.text.endsWith "/" && (d.disk.inspect d.cwd goal).toOption ≠ some .dir then .os .notDir else e
    "cp: cannot create regular file " ++ quoted goal.text ++ ": " ++ wording e
  match keepLinks, lying? d source with
  | true, some (_, .link target) =>
    match d.disk.addLink d.cwd goal target with
    | .ok disk => .ok { d with disk := disk }
    | .error e => .error ("cp: cannot create symbolic link " ++ quoted goal.text ++ ": " ++ wording e)
  | _, _ =>
    match d.disk.find d.cwd source with
    | .error e => .error ("cp: cannot stat " ++ quoted source ++ ": " ++ wording e)
    | .ok (place, .dir) =>
      if !deep then .error ("cp: -r not specified; omitting directory " ++ quoted source)
      else match d.disk.holder d.cwd goal with
        | .ok (dir, .name n _) =>
          if Disk.isUnder place (n :: dir) then
            .error ("cp: cannot copy a directory, " ++ quoted source ++ ", into itself, " ++ quoted goal.text)
          else .ok { d with disk := copyBelow d place (n :: dir) }
        | .ok _ => .ok d
        | .error e => .error ("cp: cannot create directory " ++ quoted goal.text ++ ": " ++ wording e)
    | .ok (place, node) =>
      let (mode, data) := copied d node
      match d.disk.find d.cwd goal with
      | .ok (there, _) =>
        if there = place || d.disk.twins there place then
          .error ("cp: " ++ quoted source ++ " and " ++ quoted goal.text ++ " are the same file")
        else match keep d goal data with
          | .ok d => .ok d
          | .error e => .error (uncreated e)
      | .error _ =>
        match keep d goal data with
        | .ok d => .ok { d with disk := (d.disk.setMode d.cwd goal mode).toOption.getD d.disk }
        | .error e => .error (uncreated e)

def isThere (d : Desk) (p : Path) : Bool := (lying? d p).isSome

def moveOne (source : String) (goal : Path) (d : Desk) : Except String Desk :=
  let places := (lying? d source).bind fun (p, _) => (lying? d goal).map fun (q, _) => (p, q)
  let hasBoth := places.any fun (p, q) => d.disk.twins p q
  if places.any fun (p, q) => p = q then .error ("mv: " ++ quoted source ++ " and " ++ quoted goal.text ++ " are the same file")
  else match (if hasBoth then d.disk.unlink d.cwd source else d.disk.rename d.cwd source goal) with
  | .ok disk => .ok { d with disk := disk }
  | .error e =>
    if !isThere d source then .error ("mv: cannot stat " ++ quoted source ++ ": " ++ wording e)
    else if e = .os .invalid then
      .error ("mv: cannot move " ++ quoted source ++ " to a subdirectory of itself, " ++ quoted goal.text)
    else .error ("mv: cannot move " ++ quoted source ++ " to " ++ quoted goal.text ++ ": " ++ wording e)

def toTarget (name : String) (o : Options) (f : Given → String → String → Desk → Except String Desk) : Tool :=
  withOptions name { o with valued := "t" ++ o.valued } fun g d =>
    let operands := g.operands ++ g.values ["t"]
    match operands with
    | [] => misused name "missing file operand" d
    | [source] => misused name ("missing destination file operand after " ++ quoted source) d
    | _ =>
      let target := operands.getLastD ""
      if operands.length > 2 && (d.disk.inspect d.cwd target).toOption ≠ some .dir then
        let why := match d.disk.inspect d.cwd target with
          | .error e => wording e
          | .ok _ => Errno.notDir.wording
        (1, d.complain (name ++ ": target " ++ quoted target ++ ": " ++ why))
      else forEach (fun s => f g s target) operands.dropLast d

/-- The paths of an entry and of all that is below it, each with the path of its copy. -/
def pairsBelow (d : Desk) (source : String) (goal : Path) : List (String × String) :=
  let inside : List String := match d.disk.find d.cwd source with
    | .ok (place, .dir) => (d.disk.below place).map fun e => String.ofList (Path.joined e.1)
    | _ => []
  (source, goal.text) :: inside.map fun n => (source ++ "/" ++ n, goal.text ++ "/" ++ n)

def cp : Tool := toTarget "cp" { flags := "rRafpnivudLPHT", words := ["recursive", "force", "archive", "verbose"] } fun g source target d => do
  let deep := g.has ["r", "R", "a", "recursive", "archive"]
  let there := if g.has ["T"] then Path.ofString target else goal d source target
  if g.has ["n"] && isThere d there then return d
  let d' ← copyOne deep (deep || g.has ["d", "P"]) source there d
  return if g.has ["v", "verbose"] then
      (pairsBelow d source there).foldl (fun d (a, b) => d.say (quoted a ++ " -> " ++ quoted b ++ "\n")) d'
    else d'

def mv : Tool := toTarget "mv" { flags := "fnivuT", words := ["force", "no-clobber", "verbose"] } fun g source target d => do
  let there := if g.has ["T"] then Path.ofString target else goal d source target
  if g.has ["n", "no-clobber"] && isThere d there then return d
  let d ← moveOne source there d
  return if g.has ["v", "verbose"] then d.say ("renamed " ++ quoted source ++ " -> " ++ quoted there.text ++ "\n") else d

def octal? (s : String) : Option Nat :=
  if s.isEmpty || s.any (fun c => c < '0' || c > '7') || s.length > 5 then none
  else some (s.foldl (fun n c => n * 8 + (c.toNat - 48)) 0)

def share (who : List Char) (bits : Nat) : Nat :=
  (if who.contains 'u' then bits * 64 else 0) ||| (if who.contains 'g' then bits * 8 else 0)
    ||| (if who.contains 'o' then bits else 0)

/-- The bits that letters of a permission stand for; a capital `X` counts if the file can be started anyway. -/
def permission (isDir : Bool) (mode : Nat) (who : List Char) (cs : List Char) : Nat :=
  cs.foldl (fun n c => n ||| (match c with
    | 'r' => share who 4
    | 'w' => share who 2
    | 'x' => share who 1
    | 'X' => if isDir || mode &&& 0o111 ≠ 0 then share who 1 else 0
    | 's' => (if who.contains 'u' then 0o4000 else 0) ||| (if who.contains 'g' then 0o2000 else 0)
    | 't' => 0o1000
    | 'u' => share who (mode / 64 % 8)
    | 'g' => share who (mode / 8 % 8)
    | 'o' => share who (mode % 8)
    | _ => 0)) 0

def changeOnce (mask : Nat) (isDir : Bool) (mode : Nat) : Nat → List Char → List Char → Option Nat
  | 0, _, _ => none
  | _, _, [] => some mode
  | fuel + 1, who, op :: rest =>
    let letters := rest.takeWhile fun c => !(['+', '-', '='].contains c)
    let after := rest.drop letters.length
    let everyone := who.isEmpty || who.contains 'a'
    let whom := if everyone then ['u', 'g', 'o'] else who
    let bits := permission isDir mode whom letters
    let bits := if who.isEmpty then bits &&& (0o7777 - mask % 0o1000) else bits
    if !letters.all fun c => "rwxXstugo".toList.contains c then none
    else
      let mode' := match op with
        | '+' => some (mode ||| bits)
        | '-' => some (mode - (mode &&& bits))
        | '=' => some ((mode - (mode &&& share whom 7)) ||| bits)
        | _ => none
      mode'.bind fun mode => changeOnce mask isDir mode fuel who after

def changedMode (mask : Nat) (isDir : Bool) (change : String) (mode : Nat) : Option Nat :=
  match octal? change with
  | some m => some (m % 0o10000)
  | none =>
    if change.isEmpty then none
    else (change.splitOn ",").foldlM (fun mode clause =>
      let cs := clause.toList
      let who := cs.takeWhile fun c => "ugoa".toList.contains c
      let rest := cs.drop who.length
      if rest.isEmpty then none else changeOnce mask isDir mode (rest.length + 1) who rest) mode

def install : Tool := withOptions "install" { flags := "dDcvCps", valued := "mogt" } fun g d =>
  let mode := ((g.value? ["m"]).bind fun m => changedMode 0 false m 0).getD 0o755
  if g.has ["d"] then
    forEach (fun p d =>
      let missing := ((Path.ofString p).ancestors.reverse).filter fun q => !q.chars.isEmpty && !isThere d q
      let d : Desk := { d with disk := d.disk.makeDirs d.cwd p }
      .ok (if g.has ["v"] then missing.foldl (fun d q => d.say ("install: creating directory " ++ quoted q.text ++ "\n")) d else d)) g.operands d
  else match g.operands ++ g.values ["t"] with
  | [] => misused "install" "missing file operand" d
  | [source] => misused "install" ("missing destination file operand after " ++ quoted source) d
  | operands =>
    let target := operands.getLastD ""
    forEach (fun s d => do
      let goal := goal d s target
      let disk := if g.has ["D"] then (goal.parent?.map fun p => d.disk.makeDirs d.cwd p).getD d.disk else d.disk
      let disk := match disk.find d.cwd s with
        | .ok (_, .file _ _ _) => (disk.unlink d.cwd goal).toOption.getD disk
        | _ => disk
      let isReplaced := isThere d goal
      let d ← ((copyOne false false s goal { d with disk := disk }).mapError fun e => "install" ++ String.ofList (e.toList.drop 2))
      let d : Desk := { d with disk := (d.disk.setMode d.cwd goal mode).toOption.getD d.disk }
      let d := if g.has ["v"] && isReplaced then d.say ("removed " ++ quoted goal.text ++ "\n") else d
      return if g.has ["v"] then d.say (quoted s ++ " -> " ++ quoted goal.text ++ "\n") else d) operands.dropLast d

def agreed (d : Desk) : Bool × Desk :=
  let line := d.input.toList.takeWhile (· ≠ newline)
  (line.head? = some 121 || line.head? = some 89, { d with input := d.input.extract (line.length + 1) d.input.size })

def removeBelow (isTold : Bool) (f : String) (d : Desk) : Desk :=
  let inside : List (List Name × Node) := match d.disk.find d.cwd f with
    | .ok (place, _) => (d.disk.below place).reverse
    | .error _ => []
  let told (d : Desk) (node : Node) (name : String) : Desk :=
    if isTold then d.say ("removed " ++ (if node.isDir then "directory " else "") ++ quoted name ++ "\n") else d
  let d' := inside.foldl (fun d e => told d e.2 (f ++ "/" ++ String.ofList (Path.joined e.1))) { d with disk := d.disk.removeAll d.cwd f }
  told d' .dir f

def rm : Tool := withOptions "rm" { flags := "rRfiIdv", words := ["recursive", "force", "verbose"] } fun g d =>
  let force := g.has ["f", "force"]
  let deep := g.has ["r", "R", "recursive"]
  let isTold := g.has ["v", "verbose"]
  let one (f : String) (d : Desk) : Except String Desk :=
    match d.disk.unlink d.cwd f with
    | .ok disk =>
      let d : Desk := { d with disk := disk }
      .ok (if isTold then d.say ("removed " ++ quoted f ++ "\n") else d)
    | .error e =>
      if force && (e.isMissing || e = .os .notDir) then .ok d
      else if deep && e = .os .isDir then .ok (removeBelow isTold f d)
      else if g.has ["d"] && e = .os .isDir then
        match lying? d f with
        | some (place, _) =>
          if d.disk.hasChildren place then .error ("rm: cannot remove " ++ quoted f ++ ": " ++ Errno.notEmpty.wording)
          else .ok { d with disk := d.disk.erase place }
        | none => .ok d
      else .error ("rm: cannot remove " ++ quoted f ++ ": " ++ wording e)
  if g.operands.isEmpty then (if force then (0, d) else misused "rm" "missing operand" d)
  else forEach (fun f d =>
    if deep && f = "/" then
      .error "rm: it is dangerous to operate recursively on '/'\nrm: use --no-preserve-root to override this failsafe"
    else if deep && !f.isEmpty && (((Path.ofString f).fileName?).isNone || f = "." || f.endsWith "/.") then
      .error ("rm: refusing to remove '.' or '..' directory: skipping " ++ quoted f)
    else match g.has ["i"], lying? d f with
      | true, some (_, node) =>
        let kind := match node with
          | .dir => "directory "
          | .link _ => "symbolic link "
          | .file _ _ data => if data.isEmpty then "regular empty file " else "regular file "
          | _ => "character special file "
        let (yes, d) := agreed (d.write true ("rm: remove " ++ kind ++ quoted f ++ "? ").toUTF8)
        if yes then one f d else .ok d
      | _, _ => one f d) g.operands d

def unlink : Tool := withOptions "unlink" {} fun g d =>
  match g.operands with
  | [f] =>
    match d.disk.unlink d.cwd f with
    | .ok disk => (0, { d with disk := disk })
    | .error e => (1, d.complain ("unlink: cannot unlink " ++ quoted f ++ ": " ++ wording e))
  | [] => misused "unlink" "missing operand" d
  | _ :: extra :: _ => misused "unlink" ("extra operand " ++ quoted extra) d

/-- Makes the directories of a path one after the other, and tells of the first that cannot be made. -/
def makeEach (isTold : Bool) (d : Desk) (p : Path) : Except (Path × Fault) Desk :=
  p.ancestors.reverse.foldlM (fun d q =>
    if q.chars.isEmpty then .ok d
    else match d.disk.makeDir d.cwd q with
      | .ok disk =>
        let d : Desk := { d with disk := disk }
        .ok (if isTold then d.say ("mkdir: created directory " ++ quoted q.text ++ "\n") else d)
      | .error e =>
        match d.disk.inspect d.cwd q with
        | .ok .dir => .ok d
        | .ok _ => .error (q, .os (if q = p then .exists_ else .notDir))
        | .error _ => .error (q, e)) d

def mkdir : Tool := withOptions "mkdir" { flags := "pv", valued := "m", words := ["parents", "verbose"], valuedWords := ["mode"] } fun g d =>
  if g.operands.isEmpty then misused "mkdir" "missing operand" d
  else forEach (fun f d =>
    if g.has ["p", "parents"] then
      (makeEach (g.has ["v", "verbose"]) d f).mapError fun (p, e) => "mkdir: cannot create directory " ++ quoted p.text ++ ": " ++ wording e
    else match d.disk.makeDir d.cwd f with
      | .ok disk =>
        let d : Desk := { d with disk := disk }
        .ok (if g.has ["v", "verbose"] then d.say ("mkdir: created directory " ++ quoted f ++ "\n") else d)
      | .error e => .error ("mkdir: cannot create directory " ++ quoted f ++ ": " ++ wording e)) g.operands d

def rmdir : Tool := withOptions "rmdir" { flags := "pv", words := ["parents", "verbose", "ignore-fail-on-non-empty"] } fun g d =>
  let one (f : Path) (d : Desk) : Except String Desk :=
    let refused (why : String) : Except String Desk := .error ("rmdir: failed to remove " ++ quoted f.text ++ ": " ++ why)
    let d := if g.has ["v", "verbose"] then d.say ("rmdir: removing directory, " ++ quoted f.text ++ "\n") else d
    match d.disk.holder d.cwd f with
    | .ok (dir, .name n _) =>
      let place := n :: dir
      match d.disk.get? place with
      | some .dir =>
        if d.disk.hasChildren place then
          (if g.has ["ignore-fail-on-non-empty"] then .ok d else refused Errno.notEmpty.wording)
        else .ok { d with disk := d.disk.erase place }
      | some _ => refused Errno.notDir.wording
      | none => refused Errno.missing.wording
    | .ok _ => refused Errno.invalid.wording
    | .error e => refused (wording e)
  if g.operands.isEmpty then misused "rmdir" "missing operand" d
  else forEach (fun f d =>
    if g.has ["p", "parents"] then ((Path.ofString f).ancestors.filter fun p => !p.chars.isEmpty && p.text ≠ "/").foldlM (fun d p => one p d) d
    else one f d) g.operands d

def touch : Tool := withOptions "touch" { flags := "acmh", valued := "dtr", words := ["no-create"], valuedWords := ["date", "reference"] } fun g d =>
  if g.operands.isEmpty then misused "touch" "missing file operand" d
  else forEach (fun f d =>
    match d.disk.inspect d.cwd f with
    | .ok _ => .ok d
    | .error _ =>
      if g.has ["c", "no-create"] then .ok d
      else match d.disk.openAs false (d.modeFor 0o666) d.cwd f with
        | .ok (_, disk) => .ok { d with disk := disk }
        | .error e => .error ("touch: cannot touch " ++ quoted f ++ ": " ++ wording e)) g.operands d

def modeOf : Node → Nat
  | .file _ mode _ => mode
  | .link _ => 0o777
  | .device _ => 0o666
  | _ => 0o755

def letters9 (mode : Nat) : String :=
  let triple (n special : Nat) (letter : Char) : List Char :=
    [if n &&& 4 ≠ 0 then 'r' else '-', if n &&& 2 ≠ 0 then 'w' else '-',
     if special ≠ 0 then (if n &&& 1 ≠ 0 then letter else letter.toUpper) else if n &&& 1 ≠ 0 then 'x' else '-']
  String.ofList (triple (mode / 64 % 8) (mode &&& 0o4000) 's' ++ triple (mode / 8 % 8) (mode &&& 0o2000) 's'
    ++ triple (mode % 8) (mode &&& 0o1000) 't')

def chmod : Tool := fun args d =>
  -- a change may look like an option
  let options := args.takeWhile fun a => a.startsWith "-" && (a.toList.all (fun c => "-Rvcf".toList.contains c) || a.startsWith "--ref")
  let asked := match options.find? (·.startsWith "--reference=") with
    | some o => match d.disk.find d.cwd (String.ofList (o.toList.drop 12)) with
      | .ok (_, node) => String.ofList (Nat.toDigits 8 (modeOf node)) :: args.drop options.length
      | .error _ => args.drop options.length
    | none => args.drop options.length
  match asked with
  | [] => misused "chmod" "missing operand" d
  | [change] => misused "chmod" ("missing operand after " ++ quoted change) d
  | change :: files =>
    if (changedMode d.mask false change 0).isNone then misused "chmod" ("invalid mode: " ++ quoted change) d
    else
      let letters := options.filter fun o => !o.startsWith "--"
      let deep := letters.any fun o => o.contains 'R'
      let told (name : String) (old new : Nat) (d : Desk) : Desk :=
        let shown (m : Nat) : String := String.ofList (Decimal.padded 4 (Decimal.value (Nat.toDigits 8 m))) ++ " (" ++ letters9 m ++ ")"
        if old ≠ new && letters.any (fun o => o.contains 'v' || o.contains 'c') then
          d.say ("mode of " ++ quoted name ++ " changed from " ++ shown old ++ " to " ++ shown new ++ "\n")
        else if letters.any (fun o => o.contains 'v') then d.say ("mode of " ++ quoted name ++ " retained as " ++ shown new ++ "\n")
        else d
      let at_ (name : String) (place : Place) (d : Desk) : Desk :=
        match d.disk.get? place with
        | some (.file s mode _) =>
          let new := (changedMode d.mask false change mode).getD mode
          told name mode new { d with disk := d.disk.chmod s new }
        | _ => d
      forEach (fun f d =>
        match d.disk.find d.cwd f with
        | .ok (place, .dir) =>
          if deep then
            .ok ((d.disk.below place).foldl (fun d e => at_ (f ++ "/" ++ String.ofList (Path.joined e.1)) (e.1.reverse ++ place) d) d)
          else .ok d
        | .ok (place, _) => .ok (at_ f place d)
        | .error e => .error ("chmod: cannot access " ++ quoted f ++ ": " ++ wording e)) files d

def hardLink (disk : Disk) (cwd : Place) (source : String) (goal : Path) : Except Fault Disk := do
  let (_, node) ← disk.find cwd source
  match ← disk.holder cwd goal with
  | (_, .dots) => .error (.os .exists_)
  | (dir, .name n _) => if (disk.get? (n :: dir)).isSome then .error (.os .exists_) else .ok (disk.put (n :: dir) node)

def ln : Tool := withOptions "ln" { flags := "sfnvTr", words := ["symbolic", "force", "no-dereference"] } fun g d =>
  let symbolic := g.has ["s", "symbolic"]
  let kind := if symbolic then "symbolic" else "hard"
  let one (target name : String) (d : Desk) : Except String Desk :=
    let isLink := match lying? d name with
      | some (_, .link _) => g.has ["n", "T", "no-dereference"]
      | _ => false
    let goal := if isLink then Path.ofString name else goal d target name
    if !symbolic && (d.disk.find d.cwd target).toOption.isNone then
      .error ("ln: failed to access " ++ quoted target ++ ": " ++ Errno.missing.wording)
    else if !symbolic && (d.disk.inspect d.cwd target).toOption = some .dir then
      .error ("ln: " ++ target ++ ": hard link not allowed for directory")
    else
      let disk := if g.has ["f", "force"] then (d.disk.unlink d.cwd goal).toOption.getD d.disk else d.disk
      match (if symbolic then disk.addLink d.cwd goal target else hardLink disk d.cwd target goal) with
      | .ok disk =>
        let d : Desk := { d with disk := disk }
        .ok (if g.has ["v"] then d.say (quoted goal.text ++ (if symbolic then " -> " else " => ") ++ quoted target ++ "\n") else d)
      | .error e => .error ("ln: failed to create " ++ kind ++ " link " ++ quoted goal.text ++ ": " ++ wording e)
  match g.operands with
  | [] => misused "ln" "missing file operand" d
  | [target] => forEach (fun t => one t ".") [target] d
  | operands => forEach (fun t => one t (operands.getLastD "")) operands.dropLast d

def link : Tool := withOptions "link" {} fun g d =>
  match g.operands with
  | [a, b] =>
    match hardLink d.disk d.cwd a b with
    | .ok disk => (0, { d with disk := disk })
    | .error e => (1, d.complain ("link: cannot create link " ++ quoted b ++ " to " ++ quoted a ++ ": " ++ wording e))
  | [a] => misused "link" ("missing operand after " ++ quoted a) d
  | [] => misused "link" "missing operand" d
  | _ :: _ :: extra :: _ => misused "link" ("extra operand " ++ quoted extra) d

def modeText (node : Node) : String :=
  (match node with
  | .dir => "d"
  | .link _ => "l"
  | .device _ => "c"
  | _ => "-") ++ letters9 (modeOf node)

def sizeOf (node : Node) : Nat :=
  match node with
  | .dir => 4096
  | .file _ _ data => data.size
  | .link target => target.text.utf8ByteSize
  | _ => 0

/-- The entries of a directory in the order of their names, with or without those that start with a dot. -/
def listed (d : Desk) (all : Bool) (place : Place) : List (Name × Node) :=
  (d.disk.below place).filterMap fun (names, node) => match names with
    | [n] => if all || n.head? ≠ some '.' then some (n, node) else none
    | _ => none

def ls : Tool := withOptions "ls" { flags := "1aAldFpRrtShkLnoigGmQUvZsBc", words := ["all", "almost-all", "directory", "recursive"] } (fun g d =>
  let all := g.has ["a", "A", "all", "almost-all"]
  let suffix (node : Node) (n : String) : String :=
    match node with
    | .dir => if g.has ["F", "p"] then n ++ "/" else n
    | .link _ => if g.has ["F"] then n ++ "@" else n
    | .file _ mode _ => if g.has ["F"] && mode &&& 0o111 ≠ 0 then n ++ "*" else n
    | _ => n
  let line (node : Node) (n : String) : String :=
    let front := if g.has ["l"] then modeText node ++ " 1 root root " ++ toString (sizeOf node) ++ " Jan  1 00:00 " else ""
    let arrow := match node with
      | .link target => if g.has ["l"] then " -> " ++ target.text else ""
      | _ => ""
    let serial := match node with
      | .file s _ _ => s
      | _ => 0
    (if g.has ["i"] then toString (serial + 2) ++ " " else "") ++ front ++ suffix node (if g.has ["Q"] then "\"" ++ n ++ "\"" else n) ++ arrow
  let dots : List (Name × Node) := if g.has ["a", "all"] then [(['.'], .dir), (['.', '.'], .dir)] else []
  let show_ (place : Place) : String :=
    let names := dots ++ listed d all place
    let names := if g.has ["S"] then names.mergeSort fun a b => decide (sizeOf a.2 ≥ sizeOf b.2) else names
    let names := if g.has ["r"] then names.reverse else names
    let lines := names.map fun (n, node) => line node (String.ofList n)
    (if g.has ["l"] then "total 0\n" else "") ++ (if g.has ["m"] then ", ".intercalate lines ++ "\n" else String.join (lines.map (· ++ "\n")))
  let operands := if g.operands.isEmpty then ["."] else g.operands.mergeSort fun a b => decide (a ≤ b)
  let node? (f : String) : Option (Place × Node) :=
    match d.disk.find d.cwd f with
    | .ok r => some (match lying? d f with
      | some (p, .link target) => if g.has ["l", "d"] then (p, .link target) else r
      | _ => r)
    | .error _ => (lying? d f).filter fun e => match e.2 with | .link _ => true | _ => false
  let isListed (f : String) : Bool := !g.has ["d", "directory"] && (node? f).any fun r => r.2.isDir
  let (code, d) := forEach (fun f d => match node? f with
    | some _ => .ok d
    | none => match d.disk.find d.cwd f with
      | .error e => .error ("ls: cannot access " ++ quoted f ++ ": " ++ wording e)
      | .ok _ => .ok d) operands d 2
  let plain := operands.filter fun f => (node? f).isSome && !isListed f
  let d := plain.foldl (fun d f => d.say (line ((node? f).elim .dir (·.2)) f ++ "\n")) d
  let dirs := operands.filter isListed
  let parts : List String := if g.has ["R", "recursive"] then
      dirs.flatMap fun f => match node? f with
        | some (place, _) =>
          let inner := (d.disk.below place).filter fun e => e.2.isDir
          (f ++ ":\n" ++ show_ place) :: inner.map fun e =>
            f ++ "/" ++ String.ofList (Path.joined e.1) ++ ":\n" ++ show_ (e.1.reverse ++ place)
        | none => []
    else dirs.map fun f =>
      (if operands.length > 1 then f ++ ":\n" else "") ++ ((node? f).elim "" fun r => show_ r.1)
  (code, d.say ((if plain.isEmpty || parts.isEmpty then "" else "\n") ++ "\n".intercalate parts))) 2

def canonical (d : Desk) (p : Path) : Option Place :=
  match d.disk.resolve d.cwd p with
  | .ok place => some place
  | .error _ =>
    match d.disk.holder d.cwd p with
    | .ok (dir, .name n _) =>
      match d.disk.get? (n :: dir) with
      | some (.link target) => (p.parent?).bind fun dir => match d.disk.holder d.cwd (dir / target) with
        | .ok (dir, .name n _) => some (n :: dir)
        | _ => none
      | _ => some (n :: dir)
    | _ => none

def placeText (place : Place) : String := "/" ++ String.ofList (Path.joined place.reverse)

def plainPlace (d : Desk) (p : Path) : Place :=
  (Path.segments p.chars).foldl (fun (back : Place) n =>
    if n = [] || n = ['.'] then back else if n = ['.', '.'] then back.tail else n :: back)
    (if p.chars.head? = some '/' then [] else d.cwd)

def readlink : Tool := withOptions "readlink"
    { flags := "femnqsvz"
      words := ["canonicalize", "canonicalize-existing", "canonicalize-missing", "no-newline"] } fun g d =>
  if g.operands.isEmpty then misused "readlink" "missing operand" d
  else
    let ending := if g.has ["n", "no-newline"] then "" else "\n"
    g.operands.foldl (fun (code, d) (f : String) =>
      if g.has ["m", "canonicalize-missing"] then (code, d.say (placeText (plainPlace d f) ++ ending))
      else if g.has ["f", "canonicalize"] then
        match canonical d f with
        | some place => (code, d.say (placeText place ++ ending))
        | none => (1, d)
      else if g.has ["e", "canonicalize-existing"] then
        match d.disk.resolve d.cwd f with
        | .ok place => (code, d.say (placeText place ++ ending))
        | .error _ => (1, d)
      else match lying? d f with
        | some (_, .link target) => (code, d.say (target.text ++ ending))
        | _ => (1, d)) (0, d)

def relative (from_ target : Place) : String :=
  let common := ((from_.reverse.zip target.reverse).takeWhile fun (a, b) => a = b).length
  let up := List.replicate (from_.length - common) ['.', '.']
  let names := up ++ target.reverse.drop common
  if names.isEmpty then "." else String.ofList (Path.joined names)

def realpath : Tool := withOptions "realpath"
    { flags := "emqszLP", words := ["canonicalize-existing", "canonicalize-missing", "no-symlinks"]
      valuedWords := ["relative-to", "relative-base"] } fun g d =>
  if g.operands.isEmpty then misused "realpath" "missing operand" d
  else forEach (fun f d =>
    let found := if g.has ["e", "canonicalize-existing"] then (d.disk.resolve d.cwd f).toOption
      else if g.has ["m", "canonicalize-missing", "s", "no-symlinks"] then some (plainPlace d f)
      else canonical d f
    match found with
    | some place =>
      match (g.value? ["relative-to"]).map fun (base : String) => (canonical d base).getD (plainPlace d base) with
      | some base => .ok (d.say (relative base place ++ "\n"))
      | none => .ok (d.say (placeText place ++ "\n"))
    | none => if g.has ["q"] then .error "" else .error ("realpath: " ++ f ++ ": " ++ Errno.missing.wording)) g.operands d

def truncate : Tool := withOptions "truncate"
    { flags := "co", valued := "sr", words := ["no-create"]
      valuedWords := ["size", "reference"] } fun g d =>
  let model : Option String := (g.value? ["r", "reference"]).bind fun f =>
    (d.disk.find d.cwd f).toOption.map fun e => toString (sizeOf e.2)
  match (g.value? ["s", "size"]).or model with
  | none => misused "truncate" "you must specify either '--size' or '--reference'" d
  | some text =>
    let digits := text.toList.dropWhile fun c => !c.isDigit
    let n := Decimal.value (digits.takeWhile Char.isDigit)
    let unit := match digits.dropWhile Char.isDigit with
      | 'K' :: _ => 1024
      | 'M' :: _ => 1048576
      | _ => 1
    let size (now : Nat) : Nat :=
      match text.toList with
      | '+' :: _ => now + n * unit
      | '-' :: _ => now - n * unit
      | _ => n * unit
    if digits.isEmpty then (1, d.complain ("truncate: Invalid number: " ++ quoted text))
    else if g.operands.isEmpty then misused "truncate" "missing file operand" d
    else forEach (fun f d =>
      if g.has ["c", "no-create"] && !isThere d f then .ok d
      else match d.disk.openAs false (d.modeFor 0o666) d.cwd f with
      | .error e => .error ("truncate: cannot open " ++ quoted f ++ " for writing: " ++ wording e)
      | .ok (.device _, disk) => .ok { d with disk := disk }
      | .ok (.file serial, disk) => .ok { d with disk := disk.revise serial fun data =>
          ⟨(data.toList.take (size data.size) ++ List.replicate (size data.size - data.size) 0).toArray⟩ }) g.operands d

def stat : Tool := withOptions "stat" { flags := "Ltf", valued := "c", words := ["dereference"], valuedWords := ["format", "printf"] } fun g d =>
  let format := (g.value? ["c", "format", "printf"]).getD "  File: %n\n  Size: %s"
  let format := if g.has ["printf"] then (format.replace "\\n" "\n").replace "\\t" "\t" else format
  let octal (n : Nat) : String := String.ofList (Nat.toDigits 8 n)
  if g.operands.isEmpty then misused "stat" "missing operand" d
  else forEach (fun f d =>
    let node? := if g.has ["L", "dereference"] then (d.disk.find d.cwd f).toOption else lying? d f
    match node? with
    | none => .error ("stat: cannot statx " ++ quoted f ++ ": " ++ (match d.disk.find d.cwd f with
        | .error e => wording e
        | .ok _ => Errno.missing.wording))
    | some (_, node) =>
      let mode := modeOf node
      let kind := match node with
        | .dir => "directory"
        | .file _ _ data => if data.isEmpty then "regular empty file" else "regular file"
        | .link _ => "symbolic link"
        | .device _ => "character special file"
        | .tool _ => "regular file"
      let value (c : Char) : String :=
        match c with
        | 'a' => octal mode
        | 'A' => modeText node
        | 's' => toString (sizeOf node)
        | 'n' => f
        | 'N' => (match node with
          | .link target => quoted f ++ " -> " ++ quoted target.text
          | _ => quoted f)
        | 'F' => kind
        | 'U' | 'G' => "root"
        | 'u' | 'g' => "0"
        | 'h' => "1"
        | 'f' => String.ofList (Nat.toDigits 16 (mode + (match node with
          | .dir => 0o40000
          | .link _ => 0o120000
          | .device _ => 0o20000
          | _ => 0o100000)))
        | '%' => "%"
        | c => "?" ++ String.singleton c
      let text := (format.toList.foldl (fun (acc : String × Bool) c =>
        if acc.2 then (acc.1 ++ value c, false)
        else if c = '%' then (acc.1, true)
        else (acc.1.push c, false)) ("", false)).1
      .ok (d.say (text ++ (if g.has ["printf"] then "" else "\n")))) g.operands d

def mktemp : Tool := withOptions "mktemp" { flags := "dqut", valued := "p", words := ["directory", "dry-run", "quiet"], valuedWords := ["tmpdir", "suffix"] } fun g d =>
  let template := g.operands.headD "tmp.XXXXXXXXXX"
  let dir := (g.value? ["p", "tmpdir"]).getD (if g.operands.isEmpty || g.has ["t"] then (d.env.lookup "TMPDIR").getD "/tmp" else "")
  let marks := (template.toList.reverse.takeWhile (· = 'X')).length
  let failed (what : String) (e : Fault) : Nat × Desk :=
    (1, if g.has ["q", "quiet"] then d else d.complain ("mktemp: failed to create " ++ what ++ " via template " ++ quoted template ++ ": " ++ wording e))
  let suffix := ((g.value? ["suffix"]).getD "").toList
  if marks < 3 then (1, if g.has ["q", "quiet"] then d else d.complain ("mktemp: too few X's in template " ++ quoted template))
  else
    let front := template.toList.take (template.length - marks)
    let number (n : Nat) : List Char := List.replicate (marks - (toString n).length) 'a' ++ (toString n).toList
    let path (n : Nat) : Path := (Path.ofString dir).join ⟨front ++ number n ++ suffix⟩
    let path := path (((List.range (d.disk.entries.length + 1)).find? fun n => !isThere d (path n)).getD 0)
    if g.has ["u", "dry-run"] then (0, d.say (path.text ++ "\n"))
    else if g.has ["d", "directory"] then
      match d.disk.makeDir d.cwd path with
      | .ok disk => (0, Desk.say { d with disk := disk } (path.text ++ "\n"))
      | .error e => failed "directory" e
    else match d.disk.openAs true 0o600 d.cwd path with
      | .ok (_, disk) => (0, Desk.say { d with disk := disk } (path.text ++ "\n"))
      | .error e => failed "file" e

end Provision.Shell.Tool
