set_option autoImplicit false

namespace Provision

namespace Log

inductive Level where
  | error
  | warn
  | info
  | debug
  | trace
  deriving DecidableEq, Repr

namespace Level

def rank : Level → Nat
  | .error => 1
  | .warn => 2
  | .info => 3
  | .debug => 4
  | .trace => 5

def text : Level → String
  | .error => "ERROR"
  | .warn => "WARN"
  | .info => "INFO"
  | .debug => "DEBUG"
  | .trace => "TRACE"

end Level

inductive Source where
  | program
  | settings
  | store
  | fetch
  | download
  | patch
  | host
  | server
  | nightly
  | session
  deriving DecidableEq, Repr

def Source.target : Source → String
  | .program => "ra_bootstrap"
  | .settings => "ra_bootstrap::config"
  | .store => "ra_bootstrap::state"
  | .fetch => "ra_bootstrap::download::github"
  | .download => "ra_bootstrap::download::core"
  | .patch => "ra_bootstrap::patch"
  | .host => "ra_bootstrap::host"
  | .server => "ra_bootstrap::bootstrap::server"
  | .nightly => "ra_bootstrap::bootstrap::nightly"
  | .session => "ra_bootstrap::session"

structure Entry where
  level : Level
  source : Source
  text : String
  deriving DecidableEq, Repr

def Entry.line (e : Entry) : String := e.level.text ++ " " ++ e.text

/-- Warnings and errors, which are shown whatever was asked for. -/
def Entry.isGrave (e : Entry) : Bool := e.level.rank ≤ Level.warn.rank

end Log

end Provision
