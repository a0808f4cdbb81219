import Provision.Fetch
import Mathlib.Data.List.DropRight
import Mathlib.Data.List.Infix

set_option autoImplicit false

namespace Provision

namespace Url

/-- Blanks and control characters, which do not count at the ends of an address. -/
def isEdge (c : Char) : Bool := c.toNat ≤ 32

def straight (cs : List Char) : List Char := cs.filter fun c => c ≠ '\t' && c ≠ '\n' && c ≠ '\r'

def before (cs : List Char) : List Char := (cs.takeWhile (· ≠ '#')).takeWhile (· ≠ '?')

theorem straight_sublist {cs : List Char} : (straight cs).Sublist cs := List.filter_sublist

theorem before_sublist {cs : List Char} : (before cs).Sublist cs :=
  (List.takeWhile_sublist _).trans (List.takeWhile_sublist _)

theorem straight_append (cs cs' : List Char) : straight (cs ++ cs') = straight cs ++ straight cs' := List.filter_append ..

theorem straight_eq_self {cs : List Char} : straight cs = cs ↔ ∀ c ∈ cs, c ≠ '\t' ∧ c ≠ '\n' ∧ c ≠ '\r' := by
  simp [straight, List.filter_eq_self, and_assoc]

theorem before_eq_self {cs : List Char} : before cs = cs ↔ ∀ c ∈ cs, c ≠ '#' ∧ c ≠ '?' := by
  constructor
  · intro h c hc
    have hfirst : cs.takeWhile (· ≠ '#') = cs := by
      refine (List.takeWhile_sublist _).antisymm ?_
      conv => lhs; rw [← h]
      exact List.takeWhile_sublist _
    rw [before, hfirst] at h
    exact ⟨by simpa using List.takeWhile_eq_self_iff.mp hfirst c hc, by simpa using List.takeWhile_eq_self_iff.mp h c hc⟩
  · intro h
    have hfirst : cs.takeWhile (· ≠ '#') = cs := List.takeWhile_eq_self_iff.mpr fun c hc => by simpa using (h c hc).1
    rw [before, hfirst]
    exact List.takeWhile_eq_self_iff.mpr fun c hc => by simpa using (h c hc).2

theorem before_append {cs : List Char} (h : ∀ c ∈ cs, c ≠ '#' ∧ c ≠ '?') (cs' : List Char) :
    before (cs ++ cs') = cs ++ before cs' := by
  rw [before, List.takeWhile_append_of_pos fun c hc => by simpa using (h c hc).1,
    List.takeWhile_append_of_pos fun c hc => by simpa using (h c hc).2]
  rfl

theorem cleaned_eq (cs : List Char) : cleaned cs = straight ((cs.dropWhile isEdge).rdropWhile isEdge) := rfl

theorem rdropWhile_edge {c : Char} (hc : isEdge c = false) (cs cs' : List Char) :
    (cs ++ c :: cs').rdropWhile isEdge = cs ++ c :: cs'.rdropWhile isEdge := by
  simp only [List.rdropWhile, List.reverse_append, List.reverse_cons, List.append_assoc, List.dropWhile_append]
  split
  next h =>
    rw [List.isEmpty_iff.mp h]
    simp [hc]
  next => simp

end Url

namespace Fetch

open Url

def secure : List Char := "https".toList
def host : List Char := "api.github.com".toList

def site : Url := ⟨secure, [], [], some host, none, [], none, none⟩

def repos : List Char := "repos".toList
def releases : List Char := "releases".toList
def tags : List Char := "tags".toList

/-- What stands behind the host of an address: `/repos/REPO/releases/tags/TAG`. -/
def route (repo tag : List Char) : List Char :=
  '/' :: (repos ++ '/' :: (repo ++ '/' :: (releases ++ '/' :: (tags ++ '/' :: tag))))

def placed (text : List Char) : Url := (site.withPath [] (parts text).1).withTail (parts text).2.1 (parts text).2.2

theorem address_toList (repo tag : String) : (address repo tag).toList = api.toList ++ route repo.toList tag.toList := by
  have hfirst : "/repos/".toList = '/' :: (repos ++ ['/']) := by decide
  have hsecond : "/releases/tags/".toList = '/' :: (releases ++ '/' :: (tags ++ ['/'])) := by decide
  simp only [address, String.toList_append]
  rw [hfirst, hsecond]
  simp only [route, List.append_assoc, List.cons_append, List.nil_append]

theorem cleaned_address (repo tag : String) : cleaned (address repo tag).toList =
    api.toList ++ route (straight repo.toList) (straight (tag.toList.rdropWhile isEdge)) := by
  have hplain : straight api.toList = api.toList ∧ straight repos = repos ∧ straight releases = releases ∧
      straight tags = tags := by decide +kernel
  have hslash : ∀ cs, straight ('/' :: cs) = '/' :: straight cs := fun _ => rfl
  have hfirst : ∀ cs, (api.toList ++ cs).dropWhile isEdge = api.toList ++ cs := by
    have hapi : api.toList = 'h' :: "ttps://api.github.com".toList := by decide
    rw [hapi]
    exact fun _ => rfl
  have hend : ∀ front, (front ++ route repo.toList tag.toList).rdropWhile isEdge =
      front ++ route repo.toList (tag.toList.rdropWhile isEdge) := by
    intro front
    have hroute : ∀ tag, front ++ route repo.toList tag =
        (front ++ '/' :: (repos ++ '/' :: (repo.toList ++ '/' :: (releases ++ '/' :: tags)))) ++ '/' :: tag := by
      intro tag
      simp only [route, List.append_assoc, List.cons_append]
    rw [hroute, hroute, rdropWhile_edge (by decide)]
  rw [cleaned_eq, address_toList, hfirst, hend]
  simp only [route, straight_append, hslash, hplain]

theorem read_host : Host.read host = .ok host := by decide +kernel

theorem authority_site (cs : List Char) : authority secure (host ++ '/' :: cs) = .ok (placed ('/' :: cs)) := by
  have hspecial : isSpecial secure = true := by decide
  have hcredentials : credentials true (host ++ '/' :: cs) = (none, host ++ '/' :: cs) := rfl
  have hwritten : hostOf true false (host ++ '/' :: cs) = host := rfl
  have hrest : (host ++ '/' :: cs).drop host.length = '/' :: cs := List.drop_left ..
  have hport : port? secure ('/' :: cs) = .ok (none, '/' :: cs) := rfl
  unfold authority
  simp only [hspecial, hcredentials, hwritten, hrest, read_host, if_true]
  simp only [hport, Bool.not_true, Bool.and_false, Bool.false_eq_true, if_false]
  rfl

theorem read_address (repo tag : String) : Url.read (address repo tag) =
    .ok (placed (route (straight repo.toList) (straight (tag.toList.rdropWhile isEdge)))) := by
  have hscheme : ∀ cs, scheme? (api.toList ++ cs) = some (secure, '/' :: '/' :: (host ++ cs)) := by
    have hapi : api.toList = 'h' :: 't' :: 't' :: 'p' :: 's' :: ':' :: '/' :: '/' :: host := by decide
    rw [hapi]
    exact fun _ => rfl
  have habsolute : ∀ cs, absolute secure ('/' :: '/' :: (host ++ cs)) = authority secure (host ++ cs) := fun _ => rfl
  simp only [Url.read, cleaned_address, hscheme, habsolute]
  exact authority_site _

end Fetch

end Provision
