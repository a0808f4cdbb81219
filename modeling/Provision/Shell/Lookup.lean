import Provision.Shell.Desk

set_option autoImplicit false

namespace Provision.Shell

/-- The interpreter that the first line of a script asks for, and the argument for it. -/
def interpreter? (data : ByteArray) : Option (String × List String) :=
  match data.toList with
  | 35 :: 33 :: rest =>
    let isGap (b : UInt8) : Bool := b = 32 || b = 9
    let line := ((rest.takeWhile (· ≠ 10)).dropWhile isGap).reverse.dropWhile isGap |>.reverse
    let word := line.takeWhile fun b => !isGap b
    let more := (line.drop word.length).dropWhile isGap
    let text (bs : List UInt8) : String := Utf8.lossy ⟨bs.toArray⟩
    if word.isEmpty then none
    else some (text word, if more.isEmpty then [] else [text more])
  | _ => none

def candidates (searchPath program : String) : List Path :=
  if program.contains '/' then [Path.ofString program]
  else if program.isEmpty then []
  else (searchPath.splitOn ":").map fun dir => (Path.ofString dir).join program

def isStartable (d : Desk) (p : Path) : Bool :=
  match d.disk.find d.cwd p with
  | .ok (_, .file _ mode _) => mode &&& 0o111 != 0
  | .ok (_, .tool _) => true
  | _ => false

def located (d : Desk) (searchPath program : String) : Option Path :=
  (candidates searchPath program).find? (isStartable d)

end Provision.Shell
