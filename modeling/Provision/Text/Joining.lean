import Provision.Text.Composition

set_option autoImplicit false

namespace Provision.Text.Joining

/-- How letters join: with the next one (`L`), with the one before (`R`), with both (`D`), or not at all,
letting their neighbours join (`T`). -/
def kinds : Table := .read [
  "300.6f:T 114.6:T 108.2c:T 2:T 2.1:T 2.1:T 2:T 49.a:T 6:D 2.3:R 1:D 1:R 1:D 1:R 1.4:D 1.3:R 1.c:D 2.6:D 1:R",
  "1.1:D 1.14:T f.1:D 1:T 1.2:R 6.e:D 1.11:R 1.25:D 1:R 1.1:D 1.8:R 1:D 1:R 1:D 1:R 1.1:D 1.1:R 2:R 1.6:T 3.5:T",
  "3.1:T 2.3:T 1.1:R b.2:D 3:D 11:R 1:T 1.2:D 1.4:R 1.3:D 1:R 1.8:D 1:R 1:D 1:R 1:D 1:R 1.1:D 1:R 1.1a:T 3:R",
  "1.a:D 1.2:R 1.e:D 1.1:R 1.3:D 1:R 1:D 1.1:R 1.2:D 1.1:R 1.5:D 27.a:T 1a.20:D 1.8:T a:T 19.3:T 2.8:T 2.2:T",
  "2.4:T 13:R 1.4:D 1.1:R 1:D 1:R 1.9:D 1:R 1:D 1.2:R 1.2:T 5:D 2.3:D 2:R 1:D 1.19:R 4:D 3.4:D 1:R a.7:T 1.9:D",
  "1.2:R 2:R 1.1:D 1.1:R 1.5:D 1:R 1.e:D 2.38:T 38:T 2:T 5.7:T 5:T 4.6:T b.1:T 1e:T 3b:T 5.3:T 9:T 15.1:T",
  "1b.4:T 3a:T 5.10:T 1f.1:T 4:T c.1:T 3a:T 5.7:T 5:T 15.1:T 17.7:T 3b:T 3:T 2.3:T 9.9:T c.1:T 1f:T 3e:T d:T",
  "33:T 4:T 38:T 2.2:T 6.10:T c.1:T 1e:T 3b:T 3:T 7:T 6.1:T 15.1:T 1d.1:T 3a.1:T 5.3:T 9:T 15.1:T 1e:T 49:T",
  "8.4:T 5b:T 3.6:T d.7:T 63:T 3.8:T c.6:T 4a.1:T 1c:T 2:T 2:T 38.d:T 2.4:T 2.1:T 6.2f:T a:T 67.3:T 2.5:T 2.1:T",
  "3.1:T 1a.1:T 5.2:T 11.3:T e:T 3.1:T 7:T 10:T 2c0.2:T 3b3.2:T 1e.1:T 1f.1:T 1f.1:T 44.6:T 9:T 3.a:T a:T 2a:D",
  "19.58:D d.1:T 1.21:D 1:T 1:D 76.2:T 5.1:T a:T 7.2:T dc.1:T 3:T 3b:T 2.8:T 2:T 3.7:T 7.c:T 31.1e:T 32.3:T",
  "31:T 2.4:T 2:T 6:T 29.8:T d.1:T 21.3:T 3.1:T 2.2:T 39:T 2.1:T 4:T 2.2:T 3b.7:T 3.1:T 99.2:T 2.c:T 2.6:T 5:T",
  "7:T 4.1:T c7.3f:T 2d1.20:T bff.2:T 8e:T 61.1f:T 22b.3:T 6c.1:T 75d5.3:T 2.9:T 21.1:T 51.1:T 111:T 4:T 5:T",
  "1a.1:T 6:T 14.31:D 1:L 52.1:T 1b.11:T e:T 27.7:T 1a.a:T 2f.2:T 31:T 3.3:T 3.1:T 28:T 44.5:T 3.1:T 3.1:T d:T",
  "9:T 30:T 34:T 2.2:T 3.1:T 6.1:T 2:T 2b.1:T 9:T ef:T 3:T 5:T 4f31:T 302.f:T 3ce:T e3:T 96.4:T 687.e:T 29.7:T",
  "81.4:D 1:R 2:R 2.1:R 3:L 1.4:R 1.3:D 1:L 1.4:D 1:R 1.2:D 1:R 3:R 1.1:T 5.3:D 1:R 91:D 1:R 1:D 1.2:R 1.2:D",
  "1:R 1.1:D 1:R 1:D 1.1:R 1:D 1:R 18.3:R 1.1:D 152:L 1.20:D 1:R 1:D 1.3:T 184.1:T 51.2:T 31.2:D 1:R 1.10:D",
  "2.a:T 1.2:D 1:R 1c.3:D 1.1:R 1.b:D 1.3:T 2b:D 2.1:D 1.2:R 2:D 1.1:R 1.1:D 1:R 1.1:D 2:D 1.1:R 1:D 5:R 1:D",
  "1:L 36:T 37.e:T 2a:T 3.1:T b.2:T 32.3:T 3.1:T 8:T 3e.2:T 25.4:T 2.7:T 3f:T d.1:T 35.8:T b.3:T 3:T 60.2:T 3:T",
  "2.1:T 7:T 3:T 9e:T 4.7:T 16.1:T 3a.1:T 4:T 26.e:T c4.7:T 3.2:T 2:T 18:T 55.5:T 2:T 5.1:T 2.1:T ef.3:T 7.1:T",
  "2.1:T 1c.1:T 56.7:T 3:T 2.1:T 6b:T 2:T 3.5:T 2:T 66.2:T 3.3:T 2.4:T 104.8:T 2.1:T 101.1:T 2:T 5:T 91.7:T 5:T",
  "21.9:T 29.5:T 3.3:T 9:T a.5:T 3.2:T 2f.c:T 2.1:T 197.d:T 2:T 53.15:T 3.6:T 2.1:T 2.1:T 7b.14:T 2:T 49.1:T",
  "4:T 2:T 15c.1:T c.1:T 35.4:T 6:T 2:T 14fe:T 7.e:T 369b.4:T 3c.6:T 419:T 40.3:T 52:T 4cb9.1:T 1262.46:T",
  "221.2:T 12.7:T 3.6:T 1f.3:T 95.2:T 7bc.36:T 5.31:T 9:T f:T 17.14:T 551.8f:T a1.6:T 178:T 3e.3:T 1fd.3:T",
  "3e1.6:T 4c.21:D 1.7:T"]

def kindOf (c : Char) : Char := (kinds.find? c.toNat).elim 'U' fun e => e.value.headD 'U'

def voiceless : Nat := 9

def separator : Char := Char.ofNat 0x200C
def joiner : Char := Char.ofNat 0x200D

/-- The first letter that is joined or not, past those that let their neighbours join. -/
def nearest? (cs : List Char) : Option Char := ((cs.map kindOf).dropWhile (· = 'T')).head?

def isJoinedFrom (back : List Char) : List Char → Bool
  | [] => true
  | c :: rest =>
    let silent := back.head?.any fun b => Composition.classOf b = voiceless
    let apart := (nearest? back).any (fun k => k = 'L' || k = 'D') && (nearest? rest).any fun k => k = 'R' || k = 'D'
    (if c = joiner then silent else if c = separator then silent || apart else true) && isJoinedFrom (c :: back) rest

def isJoined (cs : List Char) : Bool := isJoinedFrom [] cs

def marks : Table := .read [
  "300.6f 114.6 108.2c 2 2.1 2.1 2 49.a 31.14 11 66.6 3.5 3.1 2.3 24 1f.1a 5c.a 3b.8 a 19.3 2.8 2.2 2.4 2c.2",
  "3c.8 2b.39 37.2 2.11 2.6 b.1 1e.2 39 2.f a b.1 1b.5 39.15 1f.1 4 c.2 39 2.f 15.1 17.9 39 2.19 b.1 1f 3c.f a",
  "29.4 38 2.18 c.1 1e.2 39 2.18 c.1 10.10 38.1 2.f a b.1 1e.2 47.15 13.1 3e 3.6 d.7 63 3.8 c.6 4a.1 1c 2 2 5.1",
  "32.13 2.1 6.2f a 65.13 18.3 5.2 2.2 3.6 4.3 e.b 2 b.3 2c0.2 3b3.3 1d.2 1e.1 1f.1 43.1d a a8.1 23 77.1b dc.4",
  "3a.2a 31.54 30.10 27.8 d.2 1f.c 39.d 31.13 99.2 2.14 5 7 3.2 c7.3f 2d1.20 bff.2 8e 61.1f 22b.5 6a.1 75d5.3",
  "2.9 21.1 51.1 111 4 5 18.4 5 54.1 33.11 1b.11 e 27.7 1a.c 2d.3 30.d 25 44.d d 9.1 2e.2 33 2.2 3.1 6.1 2 2a.4",
  "6.1 ed.7 2.1 4f31 302.f 3ce e3 96.4 687.e 29.7 a6.1 23e.3 42.4 13e.1 4e.5 47.a 32.3 7b.2 36.e 2a 3.1 b.3",
  "2e.a 8 3e.2 25.d 11.1 2d d.2 31.d 9.3 2.1 5d.b 7 3 9e.b 16.3 38.1 2.f a b.12 44.18 2 f.1 53.11 18 52.13",
  "ec.11 1c.1 53.10 6b.c 66.e 101.e f6.e 2 2.1 8e.f 4 1d.9 29.6 2.3 9 a.a 2f.f c7.7 c8.10 53.24 7b.14 2 43.d",
  "15c.3 a.1 2 31.e 18 14e6 7.e 2cc9.11 9c1.4 3c.6 419 2.41 52.d 4cac.1 1262.46 21f.4 4.15 3.6 1f.3 95.2 7bc.36",
  "5.31 9 f 17.14 551.8f a1.6 178 3e.3 1fd.3 ff.1 f4 3 8.1 6 1db.6 6e.6"]

def isMark (c : Char) : Bool := marks.contains c.toNat

end Provision.Text.Joining
