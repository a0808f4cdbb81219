import Provision.Http
import Provision.Path
import Provision.Fault

set_option autoImplicit false

namespace Provision

inductive Error where
  | unsupported (arch os : String)
  | malformed (tag asset : String)
  | refused (tag : String) (status : Nat)
  | http (f : Http.Failure)
  | stalled (url : String) (seconds : Nat)
  | patch (path : Path) (output : String)
  | io (context : String) (fault : Fault)
  /-- The editor refused a package; with the messages from the outermost to the root cause. -/
  | extension (chain : List String)
  | state (text : String)
  deriving DecidableEq, Repr

namespace Error

/-- Messages from the outermost to the root cause on one line. -/
def joined (chain : List String) : String := ": ".intercalate chain

def message : Error → String
  | .unsupported arch os =>
    "unfortunately we don't ship binaries for your platform yet (" ++ arch ++ " " ++ os
      ++ "); you need to manually clone the rust-analyzer repository and build it from source"
  | .malformed tag asset => "bad release " ++ tag ++ ": no asset named " ++ asset
  | .refused tag status => "got response " ++ toString status ++ " when trying to fetch release " ++ tag
  | .http f => "http error: " ++ f.message
  | .stalled url seconds =>
    "download stalled: no data received for " ++ toString seconds ++ " seconds while downloading " ++ url
  | .patch path output => "failed to patch " ++ path.text ++ ": " ++ output
  | .io context fault => context ++ ": " ++ fault.message
  | .extension chain => "failed to install extension: " ++ joined chain
  | .state text => "installation state error: " ++ text

/-- The message and the messages of what lies behind it. -/
def chain (e : Error) : List String :=
  e.message :: match e with
    | .http f => f.message :: f.causes
    | .io _ fault => [fault.message]
    | _ => []

end Error

end Provision
