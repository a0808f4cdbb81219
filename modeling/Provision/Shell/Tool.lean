import Provision.Shell.Tool.Bytes
import Provision.Shell.Tool.Date
import Provision.Shell.Tool.Edit
import Provision.Shell.Tool.Expr
import Provision.Shell.Tool.Find
import Provision.Shell.Tool.Host
import Provision.Shell.Tool.Print
import Provision.Shell.Tool.Test

set_option autoImplicit false

namespace Provision.Shell.Tool

def all : List (String × Tool) :=
  [("cat", cat), ("cp", cp), ("mv", mv), ("rm", rm), ("mkdir", mkdir), ("rmdir", rmdir), ("touch", touch),
   ("chmod", chmod), ("ln", ln), ("ls", ls), ("readlink", readlink), ("realpath", realpath), ("install", install),
   ("truncate", truncate), ("link", link), ("unlink", unlink), ("stat", stat), ("mktemp", mktemp), ("chown", succeed), ("chgrp", succeed),
   ("head", head), ("tail", tail), ("wc", wc), ("tac", tac), ("rev", rev), ("nl", nl), ("paste", paste), ("fold", fold), ("tee", tee),
   ("seq", seq), ("basename", basename), ("dirname", dirname), ("yes", yes), ("sort", sort), ("uniq", uniq), ("comm", comm),
   ("cut", cut), ("tr", tr), ("grep", grep), ("egrep", egrep), ("fgrep", fgrep), ("sed", sed), ("expr", expr),
   ("md5sum", md5sum), ("sha1sum", sha1sum), ("sha224sum", sha224sum), ("sha256sum", sha256sum), ("sha384sum", sha384sum),
   ("sha512sum", sha512sum), ("cksum", cksum), ("base64", base64), ("od", od), ("cmp", cmp), ("diff", diff), ("dd", dd),
   ("echo", echo .rich), ("printf", printf .rich), ("test", test .rich), ("[", bracket .rich), ("true", succeed), ("false", fail),
   ("sleep", sleep), ("sync", succeed), ("uname", uname), ("id", id), ("whoami", constant "whoami" "root"),
   ("hostname", constant "hostname" "localhost"), ("nproc", constant "nproc" "1"), ("arch", constant "arch" "x86_64"),
   ("logname", constant "logname" "root"), ("groups", constant "groups" "root"), ("tty", fun _ d => (1, d.say "not a tty\n")),
   ("printenv", printenv), ("which", which), ("date", date), ("getconf", getconf), ("kill", fail), ("ps", succeed)]

def starters : List (String × (Runner → Tool)) := [("find", find), ("xargs", xargs)]

def ofName (name : String) : Tool := fun args d =>
  match all.lookup name with
  | some t =>
    if args = ["--version"] && !(["false", "test", "[", "true"].contains name) then (0, d.say (name ++ " (GNU coreutils)\n")) else t args d
  | none => (0, d)

end Provision.Shell.Tool
