import Provision.Json.Reader

set_option autoImplicit false

namespace Provision

structure Asset where
  name : String
  url : String
  size : UInt64
  deriving DecidableEq, Repr

structure Release where
  id : UInt64
  name : Option String
  publishedAt : Option String
  assets : List Asset
  deriving DecidableEq, Repr

namespace Asset

def ofJson? (j : Json) : Option Asset := do
  match ← j.members? ["name", "browser_download_url", "size"] with
  | [some name, some url, size] =>
    let size ← match size with
      | none => some 0
      | some j => j.word?
    return ⟨← name.text?, ← url.text?, size⟩
  | _ => none

end Asset

namespace Release

def asset? (r : Release) (name : String) : Option Asset := r.assets.find? fun a => a.name = name

def ofJson? (j : Json) : Option Release := do
  match ← j.members? ["id", "name", "published_at", "assets"] with
  | [some id, name, publishedAt, some (.array assets)] =>
    let optional (m : Option Json) : Option (Option String) :=
      match m with
      | none => some none
      | some j => j.optional? Json.text?
    return ⟨← id.word?, ← optional name, ← optional publishedAt, ← assets.mapM Asset.ofJson?⟩
  | _ => none

def read? (cs : List Char) : Option Release := do ofJson? (← Json.read? cs)

def readBytes? (data : ByteArray) : Option Release := do ofJson? (← Json.readBytes? data)

end Release

end Provision
