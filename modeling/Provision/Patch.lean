import Provision.Kernel
import Provision.Error
import Provision.Text.Utf8
import Provision.Text.Blank

/-!
Patching: a downloaded binary is moved aside and a build tool writes a changed one in its place. If
the tool fails, the binary is moved back.
-/

set_option autoImplicit false

namespace Provision.Patch

def expression : String :=
  "\n\x7bsrc, pkgs ? import <nixpkgs> \x7b\x7d\x7d:\n"
    ++ "    pkgs.stdenv.mkDerivation \x7b\n"
    ++ "        name = \"rust-analyzer\";\n"
    ++ "        inherit src;\n"
    ++ "        phases = [ \"installPhase\" \"fixupPhase\" ];\n"
    ++ "        installPhase = \"cp $src $out\";\n"
    ++ "        fixupPhase = ''\n"
    ++ "        chmod 755 $out\n"
    ++ "        patchelf --set-interpreter \"$(cat $NIX_CC/nix-support/dynamic-linker)\" $out\n"
    ++ "        '';\n"
    ++ "    \x7d\n"

def defaultTool : Path := "nix-build"

def aside (dest : Path) : Path := dest.suffixed "-orig"

/-- What a program printed, as text without blanks around it. -/
def trimmed (data : ByteArray) : String := Blank.trimText (Utf8.lossy data)

/-- Runs the tool on `source`; its errors are part of the failure. -/
def runTool (tool source dest : Path) : Kernel.Work Error Unit := ExceptT.mk do
  match ← Kernel.launch tool ["-E", "-", "--arg", "src", source.text, "-o", dest.text] expression.toUTF8 with
  | .error e => return .error (.patch dest ("failed to spawn " ++ tool.text ++ ": " ++ e.message))
  | .ok f => if f.exit.isSuccess then return .ok () else return .error (.patch dest (trimmed f.err))

def patch (tool dest : Path) : Kernel.Work Error Unit := ExceptT.mk do
  match ← Kernel.rename dest (aside dest) with
  | .error e => return .error (.io ("failed to move " ++ dest.text ++ " aside") e)
  | .ok () =>
    Kernel.log .info .patch ("Patching executable " ++ dest.text)
    match ← (runTool tool (aside dest) dest).plan with
    | .error failure =>
      match ← Kernel.rename (aside dest) dest with
      | .ok () => return .error failure
      | .error e =>
        Kernel.log .warn .patch
          ("Failed to restore " ++ dest.text ++ " from " ++ (aside dest).text ++ ": " ++ e.message)
        return .error failure
    | .ok () =>
      match ← Kernel.unlink (aside dest) with
      | .ok () => return .ok ()
      | .error e => return .error (.io ("failed to remove " ++ (aside dest).text) e)

end Provision.Patch
