import Provision.Text.Letter
import Std.Data.HashSet

/-!
Regular expressions, and where they fit in a text. All ways to fit are followed side by side, so that the
longest can be chosen.
-/

set_option autoImplicit false

namespace Provision.Text

inductive Regex where
  | empty
  | one (p : Char → Bool)
  | seq (a b : Regex)
  | alt (a b : Regex)
  | many (r : Regex) (least : Nat) (most : Option Nat)
  /-- What fits is kept under a number. -/
  | group (n : Nat) (r : Regex)
  /-- The text that was kept under a number, once more. -/
  | again (n : Nat)
  /-- A place, by the characters before it and behind it. -/
  | place (p : Option Char → Option Char → Bool)

namespace Regex

def textStart : Regex := .place fun before _ => before.isNone
def textEnd : Regex := .place fun _ after => after.isNone
def lineStart : Regex := .place fun before _ => before.all (· = '\n')
def lineEnd : Regex := .place fun _ after => after.all (· = '\n')

def wordStart (isWord : Char → Bool) : Regex := .place fun before after => !before.any isWord && after.any isWord
def wordEnd (isWord : Char → Bool) : Regex := .place fun before after => before.any isWord && !after.any isWord
def wordEdge (isWord : Char → Bool) (wanted : Bool) : Regex :=
  .place fun before after => (before.any isWord != after.any isWord) = wanted

/-- A place in a text that was reached, and the spans that were kept on the way. -/
structure Hit where
  pos : Nat
  spans : List (Nat × Nat × Nat)
  deriving DecidableEq, Hashable, Repr

def distinct (hs : List Hit) : List Hit :=
  (hs.foldl (fun (acc : List Hit × Std.HashSet Hit) h =>
    if acc.2.contains h then acc else (h :: acc.1, acc.2.insert h)) ([], ∅)).1.reverse

/-- Takes a step again and again; the hits of later rounds come first. Of the rounds beyond the first `least`,
those that lead nowhere new are dropped. -/
def rounds (step : Hit → List Hit) : Nat → Nat → Option Nat → List Hit → List Hit
  | 0, least, _, hs => if least = 0 then hs else []
  | fuel + 1, least, most, hs =>
    if hs.isEmpty then []
    else
      let more :=
        if most = some 0 then []
        else
          let next := hs.flatMap fun h => if least = 0 then (step h).filter (·.pos > h.pos) else step h
          rounds step fuel (least - 1) (most.map (· - 1)) (distinct next)
      more ++ (if least = 0 then hs else [])

def ends (t : Array Char) : Regex → Hit → List Hit
  | .empty, h => [h]
  | .one p, h =>
    match t[h.pos]? with
    | some c => if p c then [{ h with pos := h.pos + 1 }] else []
    | none => []
  | .seq a b, h => distinct ((ends t a h).flatMap fun k => ends t b k)
  | .alt a b, h => ends t a h ++ ends t b h
  | .many r least most, h => rounds (fun k => ends t r k) (t.size + least + 1) least most [h]
  | .group n r, h => (ends t r h).map fun k => { k with spans := (n, h.pos, k.pos) :: k.spans.filter (·.1 ≠ n) }
  | .again n, h =>
    match h.spans.lookup n with
    | some (a, b) =>
      let kept := (t.extract a b).toList
      if (t.extract h.pos (h.pos + kept.length)).toList = kept then [{ h with pos := h.pos + kept.length }] else []
    | none => []
  | .place p, h => if p (if h.pos = 0 then none else t[h.pos - 1]?) t[h.pos]? then [h] else []

def longest? (hs : List Hit) : Option Hit :=
  hs.foldl (fun best h => match best with
    | none => some h
    | some b => if h.pos > b.pos then some h else some b) none

/-- The first place from `start` on where an expression fits, and the longest way in which it does. -/
def findFrom (r : Regex) (t : Array Char) : Nat → Nat → Option (Nat × Hit)
  | 0, _ => none
  | fuel + 1, start =>
    match longest? (ends t r ⟨start, []⟩) with
    | some h => some (start, h)
    | none => if start ≥ t.size then none else findFrom r t fuel (start + 1)

def find? (r : Regex) (t : Array Char) (start : Nat) : Option (Nat × Hit) := findFrom r t (t.size + 1) start

def occursIn (r : Regex) (cs : List Char) : Bool := (r.find? cs.toArray 0).isSome

def char (c : Char) : Regex := .one (· = c)

def text (cs : List Char) : Regex := cs.foldr (fun c r => .seq (.char c) r) .empty

end Regex

end Provision.Text
