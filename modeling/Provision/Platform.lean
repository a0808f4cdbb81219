import Provision.Error

set_option autoImplicit false

namespace Provision

inductive Platform where
  | linux
  | macOs
  | windows
  deriving DecidableEq, Repr

namespace Platform

def of? (arch os : String) : Option Platform :=
  if os = "linux" && arch = "x86_64" then some .linux
  else if os = "macos" && arch = "x86_64" then some .macOs
  else if os = "windows" && (arch = "x86_64" || arch = "x86") then some .windows
  else none

def detect (arch os : String) : Except Error Platform :=
  match of? arch os with
  | some p => .ok p
  | none => .error (.unsupported arch os)

def binary : Platform → String
  | .linux => "rust-analyzer-linux"
  | .macOs => "rust-analyzer-mac"
  | .windows => "rust-analyzer-windows.exe"

theorem binary_injective (p q : Platform) (h : p.binary = q.binary) : p = q := by
  cases p <;> cases q <;> simp_all [binary]

end Platform

end Provision
