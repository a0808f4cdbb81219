import Provision.Proofs.Fetch.Trouble
import Provision.Proofs.Fetch.Naming

/-!
Which address the attempts of a fetch ask for. It is the same for all of them; two tags of which nothing is taken for
more than a name are asked for at two addresses.
-/

set_option autoImplicit false

namespace Provision.Fetch

open Url
open Utf8 (bytes)

section Written

variable {cs : List Char}

theorem path_slash (cs : List Char) : ∃ rest, (placed ('/' :: cs)).path = '/' :: rest := by
  rw [path_placed]
  obtain ⟨front, s, h⟩ : ∃ front s, segmentsOf true (before cs) = front ++ [s] :=
    ⟨_, _, (List.dropLast_append_getLast segmentsOf_ne_nil).symm⟩
  have hkept : ∃ t kept, walk false [] (segmentsOf true (before cs)) = t :: kept := by
    rw [h, walk_append, stepLast]
    split
    · exact ⟨_, _, rfl⟩
    · split <;> exact ⟨_, _, rfl⟩
  obtain ⟨t, kept, hkept⟩ := hkept
  rw [hkept, pathText]
  cases hback : (t :: kept).reverse with
  | nil => simp at hback
  | cons u rest => exact ⟨_, rfl⟩

theorem write_site (path : List Char) (query fragment : Option (List Char)) :
    Url.write ⟨secure, [], [], some host, none, path, query, fragment⟩ =
      secure ++ ':' :: '/' :: '/' :: (host ++ (path ++ (optional '?' query ++ optional '#' fragment))) := by
  simp [Url.write]

theorem write_placed : (placed cs).write = secure ++ ':' :: '/' :: '/' :: (host ++ ((placed cs).path ++
    (optional '?' (placed cs).query ++ optional '#' (placed cs).fragment))) := write_site ..

theorem isCarried_placed : Wire.isCarried (placed ('/' :: cs)) = decide ((placed ('/' :: cs)).write.length ≤ Wire.longest) := by
  obtain ⟨rest, hpath⟩ := path_slash cs
  have hscheme : (placed ('/' :: cs)).scheme = secure := rfl
  have hdrop : ∀ cs, (secure ++ cs).drop secure.length = cs := fun cs => List.drop_left
  have hfront : ∀ cs, Wire.untilPath (host ++ '/' :: cs) = host := fun _ => rfl
  have hlength : secure.length ≤ Wire.longestScheme := by decide
  have hhost : host.isEmpty = false ∧ Wire.isAuthority host = true := by decide +kernel
  simp only [Wire.isCarried, hscheme]
  rw [write_placed, hpath]
  simp only [hdrop, List.cons_append, hfront, hlength, hhost, decide_true, Bool.not_false, Bool.and_self, Bool.and_true]

theorem credentials_placed : Http.credentials (placed cs) = (placed cs, none) := by
  have hempty : Http.plain? [] = some [] := by decide +kernel
  have huser : (placed cs).user = [] := rfl
  have hpassword : (placed cs).password = [] := rfl
  unfold Http.credentials
  rw [huser, hpassword, hempty]
  rfl

theorem isHttp_placed : Wire.isHttp (placed cs) = true := rfl

theorem carried_placed : Wire.carried (placed ('/' :: cs)) = { placed ('/' :: cs) with fragment := none } := by
  obtain ⟨rest, hpath⟩ := path_slash cs
  simp only [Wire.carried, hpath, List.isEmpty_cons, Bool.and_false, Bool.false_eq_true, if_false]

theorem write_carried : (Wire.carried (placed ('/' :: cs))).write =
    secure ++ ':' :: '/' :: '/' :: (host ++ ((placed ('/' :: cs)).path ++ optional '?' (placed ('/' :: cs)).query)) := by
  rw [carried_placed]
  exact (write_site ..).trans (by simp [Url.optional])

end Written

section Apart

variable {repo tag : List Char}

theorem parts_of_plain {cs : List Char} (h : '#' ∉ cs) : (parts cs).1 = cs.takeWhile (· ≠ '?') ∧
    (parts cs).2.1 = (cs.dropWhile (· ≠ '?')).tail? := by
  have hne : ∀ c ∈ cs, decide (c ≠ '#') = true := fun c hc => decide_eq_true fun heq => h (heq ▸ hc)
  have hbefore : cs.takeWhile (· ≠ '#') = cs := List.takeWhile_eq_self_iff.mpr hne
  simp only [parts, hbefore, true_and]
  cases cs.dropWhile (· ≠ '?') <;> rfl

theorem write_route : (Wire.carried (placed (route repo tag))).write =
    secure ++ ':' :: '/' :: '/' :: (host ++ ((placed (route repo tag)).path ++
      Url.optional '?' ((parts (route repo tag)).2.1.map (escape specialQuerySet)))) := write_carried

theorem mark_not_mem_route {c : Char} (hc : c = '#' ∨ c = '?') (hrepo : c ∉ repo) (htag : c ∉ tag) : c ∉ route repo tag := by
  have hconstant : c ≠ '/' ∧ c ∉ repos ∧ c ∉ releases ∧ c ∉ tags := by
    obtain rfl | rfl := hc <;> exact ⟨by decide, by decide, by decide, by decide⟩
  simp [route, hconstant, hrepo, htag]

theorem forall_ne_question {cs : List Char} (h : '?' ∉ cs) : ∀ c ∈ cs, decide (c ≠ '?') = true :=
  fun _ hc => decide_eq_true fun heq => h (heq ▸ hc)

def queried (path query : List Char) : List Char :=
  secure ++ ':' :: '/' :: '/' :: (host ++ ((site.withPath [] ('/' :: (repos ++ '/' :: path))).path ++
    '?' :: escape specialQuerySet (query ++ '/' :: (releases ++ '/' :: (tags ++ ['/'])))))

/-- What stands before a tag that is the last segment of the path. -/
def seated (repo : List Char) : List Char :=
  secure ++ ':' :: '/' :: '/' :: (host ++ ((((front true repo).foldl (stepInto false) []).reverse.flatMap
    fun s => '/' :: s) ++ ['/']))

theorem write_queried {path query : List Char} (hpath : '?' ∉ path) (hrepo : '#' ∉ path ++ '?' :: query) (htag : '#' ∉ tag) :
    (Wire.carried (placed (route (path ++ '?' :: query) tag))).write = queried path query ++ escape specialQuerySet tag := by
  have hroute : route (path ++ '?' :: query) tag = ('/' :: (repos ++ '/' :: path)) ++
      '?' :: ((query ++ '/' :: (releases ++ '/' :: (tags ++ ['/']))) ++ tag) := by
    simp only [route, List.cons_append, List.append_assoc, List.nil_append]
  have hnone : '?' ∉ '/' :: (repos ++ '/' :: path) := by
    have hrepos : '?' ∉ repos := by decide
    simpa [hrepos] using hpath
  obtain ⟨hfirst, hsecond⟩ := parts_of_plain (mark_not_mem_route (.inl rfl) hrepo htag)
  rw [hroute, List.takeWhile_append_of_pos (forall_ne_question hnone)] at hfirst
  rw [hroute, List.dropWhile_append_of_pos (forall_ne_question hnone)] at hsecond
  have hkept : (placed (route (path ++ '?' :: query) tag)).path = (site.withPath [] ('/' :: (repos ++ '/' :: path))).path := by
    show (site.withPath [] (parts (route (path ++ '?' :: query) tag)).1).path = _
    rw [hroute, hfirst]
    simp
  have htail : (parts (route (path ++ '?' :: query) tag)).2.1 =
      some ((query ++ '/' :: (releases ++ '/' :: (tags ++ ['/']))) ++ tag) := by
    rw [hroute, hsecond]
    simp
  rw [write_route, hkept, htail, Option.map_some, escape_append]
  simp only [Url.optional, queried, List.append_assoc, List.cons_append]

theorem write_seated (hrepo : ∀ c ∈ repo, c ≠ '#' ∧ c ≠ '?') (htag : Faithful tag) :
    (Wire.carried (placed (route repo tag))).write = seated repo ++ escape pathSet tag := by
  have hhash : '#' ∉ route repo tag :=
    mark_not_mem_route (.inl rfl) (fun hc => (hrepo _ hc).1 rfl) fun hc => htag.undivided _ hc (by simp)
  have hquestion : '?' ∉ route repo tag :=
    mark_not_mem_route (.inr rfl) (fun hc => (hrepo _ hc).2 rfl) fun hc => htag.undivided _ hc (by simp)
  have hsecond := (parts_of_plain hhash).2
  rw [List.dropWhile_eq_nil_iff.mpr (forall_ne_question hquestion)] at hsecond
  rw [write_route, path_route hrepo, htag.before_eq, htag.segments_eq, walk_append, stepLast_proper htag.proper, hsecond]
  simp [Url.optional, pathText, seated]

theorem write_asked (h : '#' ∉ repo) : ∃ front set, Url.Apart set ∧ ∀ tag, Faithful tag →
    (Wire.carried (placed (asked repo tag))).write = front ++ escape set tag := by
  have hhash : '#' ∉ straight repo := fun hmem => h (straight_sublist.subset hmem)
  have hasked : ∀ {tag}, Faithful tag → asked repo tag = route (straight repo) tag := fun htag => by
    rw [asked, htag.trimmed_eq]
  by_cases hquery : '?' ∈ straight repo
  · obtain ⟨path, query, hrepo, hpath⟩ := List.eq_append_cons_of_mem hquery
    refine ⟨queried path query, specialQuerySet, apart_query, fun tag htag => ?_⟩
    rw [hasked htag, hrepo]
    exact write_queried hpath (hrepo ▸ hhash) fun hc => htag.undivided _ hc (by simp)
  · refine ⟨seated (straight repo), pathSet, apart_path, fun tag htag => ?_⟩
    rw [hasked htag]
    exact write_seated (fun c hc => ⟨fun heq => hhash (heq ▸ hc), fun heq => hquery (heq ▸ hc)⟩) htag

theorem asked_apart (h : '#' ∉ repo) {tag' : List Char} (htag : Faithful tag) (htag' : Faithful tag')
    (hwrite : (Wire.carried (placed (asked repo tag))).write = (Wire.carried (placed (asked repo tag'))).write) :
    tag = tag' := by
  obtain ⟨front, set, hset, hall⟩ := write_asked h
  rw [hall tag htag, hall tag' htag'] at hwrite
  have hbytes := congrArg unescape (List.append_cancel_left hwrite)
  rw [unescape_escape hset, unescape_escape hset, unescape_eq_bytes.mpr htag.literal,
    unescape_eq_bytes.mpr htag'.literal] at hbytes
  exact Utf8.bytes_injective hbytes

end Apart

theorem get_of_read {timed : Bool} {h : Http.Headers} {url : String} {u : Url} (hread : Url.read url = .ok u)
    (hcredentials : Http.credentials u = (u, none)) (hhttp : Wire.isHttp u = true) :
    Http.get timed h url = if h.authorization.all Http.isHeaderText then
        if Wire.isCarried u then Http.follow timed u.text h Http.redirectLimit h (Wire.carried u)
        else .done (.error (Http.notCarried u))
      else .done (.error (.unbuilt none "failed to parse header value")) := by
  obtain ⟨accept, userAgent, authorization⟩ := h
  have hor : authorization.or none = authorization := by cases authorization <;> rfl
  simp only [Http.get, hread, hcredentials, hhttp, hor]
  cases authorization.all Http.isHeaderText <;> cases Wire.isCarried u <;> rfl

variable {σ : Type} (serve : (c : kernel.Call) → σ → kernel.Reply c × σ)

/-- An attempt begins with a request to the address, unless the token cannot stand in a header or the address is too
long. -/
theorem trace_once {repo tag : String} {token : Option String} {p : Plan kernel (Except Error Release)} {u : Url}
    (hp : once repo tag token = p) (hu : u = placed (asked repo.toList tag.toList)) (s : σ) :
    if (headers token).authorization.all Http.isHeaderText ∧ u.write.length ≤ Wire.longest then
      ∃ a rest, p.trace serve s = ⟨.exchange (Http.requestFor (headers token) (Wire.carried u)), a⟩ :: rest
    else p.trace serve s = [] := by
  have hread : Url.read (address repo tag) = .ok u := hu ▸ read_address repo tag
  have hcarried : Wire.isCarried u = decide (u.write.length ≤ Wire.longest) := hu ▸ isCarried_placed
  rw [once_eq] at hp
  generalize address repo tag = url at hp hread
  rw [get_of_read hread (hu ▸ credentials_placed) (hu ▸ isHttp_placed)] at hp
  subst hp
  by_cases htoken : (headers token).authorization.all Http.isHeaderText = true
  · by_cases hlength : u.write.length ≤ Wire.longest
    · rw [if_pos ⟨htoken, hlength⟩, if_pos htoken, hcarried, decide_eq_true hlength, if_pos rfl, Http.follow_eq]
      exact ⟨_, _, rfl⟩
    · rw [if_neg fun h => hlength h.2, if_pos htoken, hcarried, decide_eq_false hlength]
      rfl
  · rw [if_neg fun h => htoken h.1, if_neg htoken]
    rfl

/-- All attempts of a fetch ask for one address, or none of them asks for anything. Its path names the repository and
the tag just if nothing in the two is taken for more than a name; and as long as the repository opens no fragment, two
such tags are asked for at two addresses. -/
theorem tag_asked_for (repo tag : String) (token : Option String) (x : σ) :
    let try_ := once repo tag token
    let job := release repo tag token
    ∃ u, Url.read (address repo tag) = .ok u ∧
      (Wire.carried u).write = api.toList ++ (u.path ++ Url.optional '?' u.query) ∧
      (∃ n world fault, Went serve try_ tag 1 3 n world fault ∧ world 0 = x ∧
        job.trace serve x = forerun serve try_ tag 1 world fault (n - 1) ++ try_.trace serve (world (n - 1)) ∧
        ∀ i < n, if (headers token).authorization.all Http.isHeaderText ∧ u.write.length ≤ Wire.longest then
            ∃ a rest, try_.trace serve (world i) = ⟨.exchange (Http.requestFor (headers token) (Wire.carried u)), a⟩ :: rest
          else try_.trace serve (world i) = []) ∧
      (Names u.path repo.toList tag.toList ↔ Plain repo.toList ∧ Faithful tag.toList) ∧
      ('#' ∉ repo.toList → Faithful tag.toList → ∀ tag' u', Url.read (address repo tag') = .ok u' → Faithful tag'.toList →
        tag ≠ tag' → (Wire.carried u).text ≠ (Wire.carried u').text) := by
  have hjob : release repo tag token = attempts (once repo tag token) tag 2 1 := rfl
  rw [hjob]
  -- an attempt at hand would be tried at every step
  generalize htry : once repo tag token = try_
  have hapi : api.toList = secure ++ ':' :: '/' :: '/' :: host := by decide
  refine ⟨_, read_address repo tag, ?_, ?_, names_iff, ?_⟩
  · rw [hapi]
    refine write_carried.trans ?_
    simp only [List.append_assoc, List.cons_append]
    rfl
  · obtain ⟨n, world, fault, hwent, hfirst, -, htrace⟩ := attempts_go serve try_ tag 2 1 x
    exact ⟨n, world, fault, hwent, hfirst, htrace, fun i _ => trace_once serve htry rfl (world i)⟩
  · intro hrepo htag tag' u' hread htag' hne htext
    cases hread.symm.trans (read_address repo tag')
    exact hne (String.toList_inj.mp (asked_apart hrepo htag htag' (String.ofList_injective htext)))

theorem plain_releaseRepo : Plain releaseRepo.toList := by
  have hall : releaseRepo.toList.all fun c => !escapedIn pathSet c && c != '\\' := by decide
  exact ⟨by simpa using hall, by decide⟩

theorem faithful_nightly : Faithful "nightly".toList where
  nonempty := by decide
  undivided := by simp
  ending := by decide
  literal := by decide
  proper := by decide

theorem faithful_dated : Faithful "2024-07-15".toList where
  nonempty := by decide
  undivided := by simp
  ending := by decide
  literal := by decide
  proper := by decide

/-- Two tags that are names and no more: the path names the first, and the other is asked for at another address. -/
theorem tag_asked_for_nightly : ∃ u u', Url.read (address releaseRepo "nightly") = .ok u ∧
    Url.read (address releaseRepo "2024-07-15") = .ok u' ∧ Names u.path releaseRepo.toList "nightly".toList ∧
    (Wire.carried u).text ≠ (Wire.carried u').text := by
  obtain ⟨u, hread, -, -, hnames, hapart⟩ := tag_asked_for Machine.serve releaseRepo "nightly" none (online [])
  refine ⟨u, _, hread, read_address releaseRepo "2024-07-15", hnames.mpr ⟨plain_releaseRepo, faithful_nightly⟩, ?_⟩
  exact hapart (by decide) faithful_nightly "2024-07-15" _ (read_address _ _) faithful_dated (by decide)

/-- Two tags that are asked for at one address: what stands behind a number sign is not sent. -/
theorem tags_collide :
    let asks (tag : String) := ((online [.head 200 none page]).run (release releaseRepo tag none)).2.requests.map (·.url)
    "v1" ≠ "v1#x" ∧ asks "v1" = asks "v1#x" ∧
      asks "v1#x" = ["https://api.github.com/repos/rust-analyzer/rust-analyzer/releases/tags/v1"] := by
  decide +kernel

end Provision.Fetch
