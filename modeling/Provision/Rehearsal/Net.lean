import Provision.Http

set_option autoImplicit false

namespace Provision.Rehearsal

structure Reply where
  status : Nat
  body : ByteArray
  location : Option String
  /-- The size of the chunks that the body is sent in. -/
  chunked : Option Nat
  /-- Bytes that are announced and not sent. -/
  missing : Nat
  stall : Bool
  silent : Bool
  drop : Bool

namespace Reply

def pieces (size : Nat) (data : ByteArray) : Nat → List ByteArray
  | 0 => []
  | fuel + 1 =>
    if data.size = 0 then []
    else if data.size ≤ size || size = 0 then [data]
    else data.extract 0 size :: pieces size (data.extract size data.size) fuel

def content (r : Reply) : Http.Body :=
  if r.status = 204 || r.status = 304 || r.status = 101 then ⟨[], .complete⟩
  else
    ⟨pieces (r.chunked.getD 0) r.body (r.body.size + 1),
      if r.stall then .silence else if r.missing > 0 then .cut else .complete⟩

def answer (r : Reply) : Http.Answer :=
  if r.drop then .closed
  else if r.silent then .silence
  else if 100 ≤ r.status && r.status < 200 && r.status ≠ 101 then (if r.stall then .silence else .closed)
  else .head r.status r.location r.content

end Reply

end Provision.Rehearsal
