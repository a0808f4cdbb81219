import Provision.Kernel

set_option autoImplicit false

namespace Provision.Root

def defaultMarkers : List String := [".git"]

def holdsAny (dir : Path) : List String → Plan kernel Bool
  | [] => return false
  | m :: ms => do
    if ← Kernel.exists_ (dir / Path.ofString m) then return true
    holdsAny dir ms

def firstOf (markers : List String) : List Path → Plan kernel (Option Path)
  | [] => return none
  | dir :: dirs => do
    if ← holdsAny dir markers then return some dir
    firstOf markers dirs

def find (start : Path) (markers : List String) : Plan kernel (Option Path) :=
  firstOf markers start.ancestors

end Provision.Root
