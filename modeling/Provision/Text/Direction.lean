import Provision.Text.Table

set_option autoImplicit false

namespace Provision.Text.Direction

/-- Classes of characters that are not letters written from the left: letters from the right (`R`, and `A`
for Arabic ones), digits (`E`, and `N` for Arabic ones), signs with digits (`S`, `C` and `T`), marks (`M`),
characters that do not show (`B`) and others (`O`). -/
def classes : Table := .read [
  "21.1:O 1.2:T 1.4:O 1:S 1:C 1:S 1.1:C 1.9:E 1:C 1.5:O 1b.5:O 1b.26:O 1.3:T 1.8:O 2.1:T 5.21:O 20:O 1c2.1:O",
  "8.d:O 3.1b:O 2.10:O 1.6f:M 6:O 81:O 8d.6:M 101.4:O 1:T 2.2c:M 1:R 1:M 1:R 1.1:M 1:R 1.1:M 1:R 1:M 9.24:R",
  "12.1:O 1:A 1.1:T 1:A 1:C 1:A 1.1:O 1.a:M 1.2f:A 1.14:M 1.9:N 1:T 1.1:N 1.2:A 1:M 1.64:A 1.6:M 2:O 1.5:M",
  "1.1:A 1.1:M 1:O 1.3:M 1.1:A 1.9:E 1.16:A 1:M 1.1d:A 1.1a:M 3.58:A 1.a:M 1:A f.2a:R 1.8:M 1.1:R 1.3:O 1:R 3:M",
  "1.17:R 1.3:M 1:R 1.8:M 1:R 1.2:M 1:R 1.4:M 3.28:R 1.2:M 3:R 2.37:A 1.7:M 1.29:A 1.38:M 38:M 2:M 5.7:M 5:M",
  "4.6:M b.1:M 1e:M 3b:M 5.3:M 9:M 15.1:M f.1:T 8:T 3.4:M 3a:M 5.10:M 1f.1:M 4:M c.1:M 3a:M 5.7:M 5:M 15.1:M",
  "e:T 9.7:M 3b:M 3:M 2.3:M 9.9:M c.1:M 1f:M 3e:M d:M 26.5:O 1:T 1:O 6:M 4:M 38:M 2.2:M 6.10:M c.1:M 15.6:O 3:M",
  "3b:M 10.1:M 15.1:M 1d.1:M 3a.1:M 5.3:M 9:M 15.1:M 1e:M 49:M 8.4:M 5b:M 3.6:M 5:T 8.7:M 63:M 3.8:M c.6:M",
  "4a.1:M 1c:M 2:M 2:M 1.3:O 34.d:M 2.4:M 2.1:M 6.2f:M a:M 67.3:M 2.5:M 2.1:M 3.1:M 1a.1:M 5.2:M 11.3:M e:M",
  "3.1:M 7:M 10:M 2c0.2:M 31.9:O 67:O 29b.1:O 76.2:M 1e.1:M 1f.1:M 1f.1:M 44.6:M 9:M 3.a:M 8:T 2:M 13.1a:O",
  "7b.1:M 23:M 77.2:M 5.1:M a:M 7.2:M 5.5:O 99.21:O 18.1:M 3:M 3b:M 2.8:M 2:M 3.7:M 7.c:M 31.53:M 31:M 2.4:M",
  "2:M 6:M 29.8:M d.1:M 21.3:M 3.1:M 2.2:M 39:M 2.1:M 4:M 2.2:M 3b.7:M 3.1:M 99.2:M 2.c:M 2.6:M 5:M 7:M 4.1:M",
  "c7.3f:M 20d.1:B 3.17:O 9.2:T 3.e:O 1:C 1.19:O 42.21:T f.20:M 14.25:O 5:T c.13:O 3d.87:O 1:S 1:T 1.121:O",
  "46.19:O 2.90:O 1a.26b:O 2.152:O 101.295:O 2.68:O e6.5:O 5.2:M 8.6:O 80:M 61.1f:M 1.204:O 4.18:O a.3:M 3:O",
  "7:O 6.2:O 5a.1:M 6:O 5b:O c5.23:O 1bdd.3f:O 5691.36:O 147.2:O 60.3:M 1:O 1.9:M 1.1:O 1f.1:M 51.1:M f.21:O",
  "67:O 7a:M 4:M 5:M 1a.1:M 2.3:O 1:M c.1:T 3b.3:O 4d.1:M 1b.11:M e:M 27.7:M 1a.a:M 2f.2:M 31:M 3.3:M 3.1:M",
  "28:M 44.5:M 3.1:M 3.1:M d:M 9:M 30:M 34:M 2.2:M 3.1:M 6.1:M 2:M 2b.1:M 9:M 74.1:O 7a:M 3:M 5:M 4f31:M",
  "94.20:A 16c.11:O 41.3e:A 1.30:O 21.f:M 16.1:O 2d:A 28e:O 3f.4c:O 4.10:O 5d:M e3:M 1.1a:E 7b.4:M 486.11b:R",
  "4:O 1.e0:R 1.e:M 1.25:R 3.7:M 1.a4:R 1.1:M 5.4a:R 4.6:O 1.1bf:R 1.23:A 1.3:M 9.9:N 7.4f:R d1.1e:N 2.29:R",
  "2.1:M 1.4:R 11.3a:A 1.2:M 1.27:R 9.15:A 1.a:M 1.8:A 17.11:R 1.3:M 1.70:R b:M 37.e:M c.13:O b:M 3.1:M b.2:M",
  "32.3:M 3.1:M 8:M 3e.2:M 25.4:M 2.7:M 3f:M d.1:M 35.8:M b.3:M 3:M 60.2:M 3:M 2.1:M 7:M 3:M 9e:M 4.7:M 16.1:M",
  "3a.1:M 4:M 26.e:M 44.18:M 2:M f.1:M 56.7:M 3.2:M 2:M 18:M 55.5:M 2:M 5.1:M 2.1:M ef.3:M 7.1:M 2.1:M 1c.1:M",
  "56.7:M 3:M 2.1:M 20.c:O 3f:M 2:M 3.5:M 2:M 66.2:M 3.3:M 2.4:M 104.8:M 2.1:M 101.1:M 2:M 5:M 91.7:M 5:M",
  "21.5:M 3.1:M 29.5:M 3.3:M 9:M a.5:M 3.2:M 2f.c:M 2.1:M c7.7:M c9.d:M 55.15:M 3.6:M 2.1:M 2.1:M 7b.14:M 2:M",
  "49.1:M 4:M 2:M 15c.1:M c.1:M 35.4:M 6:M 2:M 18:M 7b.7:O 1.3:T 1.10:O 144f:M 7.e:M 2cc9.11:M 9c1.4:M 3c.6:M",
  "419:M 40.3:M 50:O 2:M 4cb9.1:M 1262.46:M 221.2:M 12.7:M 3.6:M 1f.3:M 3c.58:O 1.2:M 1:O bb.56:O 6aa.36:M",
  "5.31:M 9:M f:M 17.14:M 551.8f:M a1.6:M 178:M 3e.3:M 10:T 1ed.3:M ff.1:M f4:M 3:M 8.1:M 6:M 10b.cf:R 1.6:M",
  "4c.21:R 1.6:M 1.14:R 312.cc:A 1b3.23f:O 3e.2:O 3e:O b3.477:O 5.9a:O 5.136:O 4f.153:O d.28:O 8.2d:O 2.6:O",
  "9.d:O 5.8:O 8.da:O"]

def classOf (c : Char) : Char := (classes.find? c.toNat).elim 'L' fun e => e.value.headD 'L'

def isMixed (cs : List Char) : Bool := cs.any fun c => "RAN".toList.contains (classOf c)

def lastClass? (classes : List Char) : Option Char := classes.reverse.find? (· ≠ 'M')

def isUniform (cs : List Char) : Bool :=
  let found := cs.map classOf
  let only (allowed : String) : Bool := found.all fun k => allowed.toList.contains k
  let endsIn (allowed : String) : Bool := (lastClass? found).any fun k => allowed.toList.contains k
  match found with
  | [] => true
  | 'L' :: _ => only "LESCTOBM" && endsIn "LE"
  | first :: _ =>
    (first = 'R' || first = 'A') && only "RANESCTOBM" && endsIn "RAEN" && !(found.contains 'E' && found.contains 'N')

end Provision.Text.Direction
